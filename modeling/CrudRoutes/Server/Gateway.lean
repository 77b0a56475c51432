import CrudRoutes.Server.Basic
import CrudRoutes.Route.Handle
import CrudRoutes.Json.Bind

/-!
The realtime gateway: JSON-RPC 2.0 calls of the generated routes, by event name.

A call names a method and may carry parameters and an id, which its answer repeats. Besides the
route events there are four methods: `authenticate` binds the principal of a token to the
session, `auth.login` checks an e-mail address and password and binds their principal,
`auth.whoami` shows the caller, and `events.list` lists the served events in order.

The caller of a call is the session's principal, unless authentication is enabled and the
parameters carry a non-empty `token`; that token then identifies the caller of this call only.

Errors carry codes: `-32700` for text that is not a call, `-32600` for a call without version
`2.0` or a method, `-32601` for an unknown method, `-32602` for bad parameters of the
authentication methods, `40100` and `40300` for a missing identity and a refusal, `40000` for
other client faults (with their kind), and `50000` for internal faults.
-/

namespace CrudRoutes

/-- A gateway: the routes served by event, and the transport its calls are counted under. -/
structure Gateway where
  events : List (String × Route) := []
  transport : String := transportRealtime
  deriving Inhabited

namespace Gateway

def ofRoutes (routes : List Route) : Gateway :=
  { events := routes.foldl (fun acc r =>
      if r.event.isEmpty then acc
      else if acc.any (·.1 == r.event) then
        acc.map fun (e, x) => if e == r.event then (e, r) else (e, x)
      else acc ++ [(r.event, r)]) [] }

def eventNames (g : Gateway) : List String :=
  (g.events.map (·.1)).mergeSort (· ≤ ·)

def route? (g : Gateway) (event : String) : Option Route :=
  (g.events.find? (·.1 == event)).map (·.2)

end Gateway

/-- A decoded call. -/
structure Call where
  version : String := ""
  method : String := ""
  params : Option Value := none
  id : Value := .null
  deriving Inhabited

def Call.ofValue? (v : Value) : Option Call := do
  let fs ← Bind.fields? v
  let version ← Bind.text fs "jsonrpc"
  let method ← Bind.text fs "method"
  let id := ((Bind.member? fs "id").getD .null).asMap
  pure { version, method, params := Bind.member? fs "params", id }

/-- An error of a call. -/
structure CallError where
  code : Int
  message : String
  kind : String := ""
  deriving Inhabited

/-- The answer to a call: a result or an error, and the call's id. -/
structure Answer where
  outcome : Except CallError Value
  id : Value := .null
  deriving Inhabited

namespace Answer

def toValue (a : Answer) : Value :=
  let body := match a.outcome with
    | .ok v => [("result", v)]
    | .error e => [("error", .obj ([("code", .int e.code), ("message", .str e.message)] ++
        if e.kind.isEmpty then [] else [("kind", .str e.kind)]))]
  .obj ([("jsonrpc", .str "2.0")] ++ body ++ [("id", a.id)])

def parseError : Answer := { outcome := .error ⟨-32700, "parse error", ""⟩ }

def faultError (f : Fault) : CallError :=
  match f.client? with
  | some (.unauthorized, m) => ⟨40100, m, ClientKind.unauthorized.code⟩
  | some (.forbidden, m) => ⟨40300, m, ClientKind.forbidden.code⟩
  | some (k, m) => ⟨40000, m, k.code⟩
  | none => ⟨50000, "internal error", ""⟩

end Answer

def Call.textParams (c : Call) (names : List String) : Option (List String) := do
  let v ← c.params
  let fs ← Bind.fields? v
  names.mapM (Bind.text fs)

namespace Server

/-- The caller of one call: a `token` parameter's principal when authentication is enabled,
else the session's. -/
def callCaller (session : Option Principal) (c : Call) : ServerM (Except Fault (Option Principal)) := do
  if (← get).auth.isNone then return .ok session
  match c.textParams ["token"] with
  | some [token] =>
    if token.isEmpty then return .ok session
    return (← authenticate token).map some
  | _ => return .ok session

/-- Answers a call on a gateway for a session, giving the session's principal afterwards. -/
def dispatch (g : Gateway) (session : Option Principal) (c : Call) :
    ServerM (Answer × Option Principal) := do
  let reply := fun (outcome : Except CallError Value) => ({ outcome, id := c.id } : Answer)
  let fail := fun (f : Fault) => reply (.error (Answer.faultError f))
  if c.version != "2.0" || (Text.trimBlanks c.method).isEmpty then
    return (reply (.error ⟨-32600, "invalid request", ""⟩), session)
  match c.method with
  | "authenticate" =>
    match c.textParams ["token"] with
    | some [token] =>
      match ← authenticate token with
      | .ok p => return (reply (.ok p.toValue), some p)
      | .error f => return (fail f, session)
    | _ => return (reply (.error ⟨-32602, "invalid params", ""⟩), session)
  | "auth.login" =>
    match (← get).auth with
    | none => return (reply (.error ⟨-32601, "method not found", ""⟩), session)
    | some a =>
      match c.textParams ["email", "password"] with
      | some [email, password] =>
        match ← store (a.login email password) with
        | .ok (token, p) =>
          return (reply (.ok (.obj [("id", .str p.id), ("email", .str p.email),
            ("roles", p.rolesValue), ("token", .str token)])), some p)
        | .error f => return (fail f, session)
      | _ => return (reply (.error ⟨-32602, "invalid params", ""⟩), session)
  | "auth.whoami" =>
    match ← callCaller session c with
    | .error f => return (fail f, session)
    | .ok none => return (fail Fault.unauthorized, session)
    | .ok (some p) => return (reply (.ok p.toValue), session)
  | "events.list" => return (reply (.ok (Value.strs g.eventNames)), session)
  | event =>
    match g.route? event with
    | none => return (reply (.error ⟨-32601, "method not found", ""⟩), session)
    | some r =>
      match ← callCaller session c with
      | .error f => return (fail f, session)
      | .ok p =>
        let result ← match r.decodePayload c.params with
          | .error f => pure (.error f)
          | .ok req => store (r.handle p req)
        observe g.transport r.names.service (faultOf result)
        match result with
        | .ok v => return (reply (.ok v), session)
        | .error f => return (fail f, session)

end Server

end CrudRoutes
