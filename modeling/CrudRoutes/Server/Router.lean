import CrudRoutes.Server.Basic
import CrudRoutes.Http.Url
import CrudRoutes.Http.Exchange
import CrudRoutes.Route.Handle
import CrudRoutes.Json.Bind
import CrudRoutes.Json.Read

/-!
The HTTP router of a server.

Endpoints are mounted on path patterns whose segments are literal or the parameter `{id}`,
which matches one non-empty segment. Among the mounted patterns that match a path and serve
the request's method, the one with a literal at the first place where two differ wins. When
patterns match but none serves the method, or the method is not one HTTP defines, the answer
is `405 Method not allowed`; when none matches, `404 Cannot find route`.

Always mounted are `GET /healthz` and `GET /ws`, the realtime handshake; `GET /metrics` when
counters are enabled; `POST /auth/login` and `GET /auth/whoami` when authentication is. The
generated routes and `whoami` first resolve the caller from a bearer token: no token, or no
authentication, is an anonymous caller, and a rejected token answers `401`.
-/

namespace CrudRoutes

/-- A segment of a path pattern. -/
inductive Segment where
  | literal (s : String)
  | param
  deriving BEq, Inhabited

def pathSegments (path : String) : List String :=
  ((path.drop 1).toString).splitOn "/"

def Segment.pattern (path : String) : List Segment :=
  (pathSegments path).map fun s =>
    if s.startsWith "\x7b" && s.endsWith "\x7d" then .param else .literal s

def Segment.bind : List Segment → List String → Option String
  | [], [] => some ""
  | .literal l :: ps, s :: ss => if l == s then Segment.bind ps ss else none
  | .param :: ps, s :: ss =>
    if s.isEmpty then none
    else (Segment.bind ps ss).map fun rest => if rest.isEmpty then s else rest
  | _, _ => none

def Segment.prefers : List Segment → List Segment → Bool
  | .literal _ :: ps, .literal _ :: qs => Segment.prefers ps qs
  | .param :: ps, .param :: qs => Segment.prefers ps qs
  | .literal _ :: _, .param :: _ => true
  | _, _ => false

/-- What a mounted pattern serves. -/
inductive Endpoint where
  | health
  | metrics
  | login
  | realtime
  | whoami
  | route (r : Route)
  deriving Inhabited

/-- An endpoint mounted on a method and a path pattern. -/
structure Mount where
  method : String
  pattern : List Segment
  endpoint : Endpoint
  deriving Inhabited

def knownMethods : List String :=
  ["CONNECT", "DELETE", "GET", "HEAD", "OPTIONS", "PATCH", "POST", "PUT", "TRACE"]

/-- The result of routing a request. -/
inductive Routing where
  | found (m : Mount) (id : String)
  | methodNotAllowed
  | notFound

def Routing.find (mounts : List Mount) (method path : String) : Routing :=
  if !knownMethods.contains method then .methodNotAllowed else
  let segments := pathSegments path
  let matching := mounts.filterMap fun m => (Segment.bind m.pattern segments).map (m, ·)
  let serving := matching.filter (·.1.method == method)
  match serving with
  | [] => if matching.isEmpty then .notFound else .methodNotAllowed
  | first :: rest =>
    let best := rest.foldl (fun b c => if Segment.prefers c.1.pattern b.1.pattern then c else b) first
    .found best.1 best.2

namespace Server

def mounts (s : Server) : List Mount :=
  let mountAt := fun (method path : String) (e : Endpoint) =>
    ({ method, pattern := Segment.pattern path, endpoint := e } : Mount)
  [mountAt "GET" "/healthz" .health] ++
  (if s.metrics.isSome then [mountAt "GET" "/metrics" .metrics] else []) ++
  (if s.auth.isSome then [mountAt "POST" "/auth/login" .login] else []) ++
  [mountAt "GET" "/ws" .realtime] ++
  (if s.auth.isSome then [mountAt "GET" "/auth/whoami" .whoami] else []) ++
  s.served.map fun r => mountAt r.method r.path (.route r)

def handshakeToken (authorization queryToken : String) : String :=
  if (Text.lowerAll authorization).startsWith "bearer " then Http.bearerToken authorization
  else Text.trimBlanks queryToken

def handshake (authorization queryToken : String) :
    ServerM (Except Http.Response (Option Principal)) := do
  let token := handshakeToken authorization queryToken
  if token.isEmpty || (← get).auth.isNone then return .ok none
  match ← authenticate token with
  | .ok p => pure (.ok (some p))
  | .error _ => pure (.error (.failure 401 "Unauthorized"))

def caller (req : Http.Request) : ServerM (Except Fault (Option Principal)) := do
  let token := Http.bearerToken req.authorization
  if token.isEmpty || (← get).auth.isNone then return .ok none
  return (← authenticate token).map some

def loginFields (body : String) : Option (String × String) := do
  let bytes := body.toUTF8.toList.take Http.maxBodyBytes
  let (v, _) ← (Json.readPrefix (Text.decodeLossy bytes).toList).toOption
  let fs ← Bind.fields? v
  let email ← Bind.text fs "email"
  let password ← Bind.text fs "password"
  pure (email, password)

/-- Serves `POST /auth/login`. -/
def serveLogin (a : AuthService) (req : Http.Request) : ServerM Http.Response := do
  match loginFields req.body with
  | none => pure (.ofFault Fault.invalidBody)
  | some (email, password) =>
    match ← store (a.login email password) with
    | .error f => pure (.ofFault f)
    | .ok (token, p) =>
      pure (.ofJson 200 (.obj [("id", .str p.id), ("email", .str p.email),
        ("roles", p.rolesValue), ("token", .str token)]))

/-- Decodes and runs a generated route over HTTP, counting the call. -/
def serveRoute (r : Route) (p : Option Principal) (req : Http.Request) (id : String) :
    ServerM Http.Response := do
  let result ←
    if req.body.utf8ByteSize > Http.maxBodyBytes then pure (.error Fault.invalidBody)
    else match r.decodeHttp id (Url.parseQuery req.query) req.body with
      | .error f => pure (.error f)
      | .ok decoded => store (r.handle p decoded)
  observe transportHttp r.names.service (faultOf result)
  match result with
  | .ok v => pure (.ofJson r.kind.successStatus v)
  | .error f => pure (.ofFault f)

/-- Serves one HTTP request. -/
def serveHttp (req : Http.Request) : ServerM Http.Response := do
  let s ← get
  match Routing.find s.mounts req.method (Url.routePath req.path) with
  | .methodNotAllowed => pure (.failure 405 "Method not allowed")
  | .notFound => pure (.failure 404 "Cannot find route")
  | .found m id =>
    match m.endpoint with
    | .health => pure (.ofJson 200 (.obj [("status", .str "ok")]))
    | .metrics =>
      pure { status := 200, body := .text ((s.metrics.map Metrics.exposition).getD "") }
    | .login =>
      match s.auth with
      | some a => serveLogin a req
      | none => pure (.failure 404 "Cannot find route")
    | .realtime =>
      let token := Url.queryValue (Url.parseQuery req.query) "token"
      match ← handshake req.authorization token with
      | .error refusal => pure refusal
      | .ok _ => pure { status := 400, body := .text "Bad Request\n" }
    | .whoami =>
      match ← caller req with
      | .error f => pure (.ofFault f)
      | .ok none => pure (.ofFault Fault.unauthorized)
      | .ok (some p) => pure (.ofJson 200 p.toValue)
    | .route r =>
      match ← caller req with
      | .error f => pure (.ofFault f)
      | .ok p => serveRoute r p req id

end Server

end CrudRoutes
