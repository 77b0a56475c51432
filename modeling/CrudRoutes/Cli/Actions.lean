import CrudRoutes.Cli.Client
import CrudRoutes.Cli.Batch
import CrudRoutes.Cli.Commands
import CrudRoutes.Cli.Path
import CrudRoutes.Text.Table
import CrudRoutes.Server.Start

/-!
What each command does once its flags are read.

* `routes` assembles the manifest into an empty store and lists the registered routes, sorted
  by service, as a table or as JSON.
* `server` checks the log settings, reads the manifest, opens the store, starts the server
  (assembly, authentication and the bootstrap administrator), binds the JSON-RPC socket, listens
  on the HTTP address and serves until interrupted.
* `auth login` signs in over the transport its flags choose and saves the settings with the
  token; `auth whoami` shows the signed-in user; `auth logout` saves the settings without the
  token.
* `events` lists the realtime events; `call` sends one event, or a batch read from a YAML file,
  on one connection, signing in first when a token is saved; `request` sends one HTTP request.

The client settings come from the settings file (`$DYNAMICAPI_CONFIG`, else
`$HOME/.dynamicapi/config.json`; a missing file is empty), then from the non-empty variables
`DYNAMICAPI_TRANSPORT`, `DYNAMICAPI_SERVER`, `DYNAMICAPI_SOCKET` and `DYNAMICAPI_TOKEN`.
-/

namespace CrudRoutes.Cli

variable {m : Type → Type} [Monad m]

/-- What an action is run with: the machine, the environment and the command's reading. -/
structure Invocation (m : Type → Type) where
  machine : Machine m
  env : String → Option String
  reading : Reading

namespace Invocation

variable (i : Invocation m)

def text (name : String) : String := i.reading.text name

def envSet? (name : String) : Option String :=
  match i.env name with
  | some v => if v.isEmpty then none else some v
  | none => none

def checkLogger : CliM m Unit := do
  let level := i.text "log-level"
  let levels := ["panic", "fatal", "error", "warn", "warning", "info", "debug", "trace"]
  if !levels.contains (Text.lowerAll level) then
    fail ("not a valid logrus Level: " ++ Text.quoted level)
  let format := i.text "log-format"
  let formats := ["json", "", "text"]
  if !formats.contains (Text.lowerAll format) then
    fail ("unknown log format " ++ Text.quoted format)

def loadManifest (path : String) : CliM m Manifest := do
  match ← i.machine.readFile path with
  | .error f => fail ("read manifest: " ++ f.message)
  | .ok text => orFail (Manifest.parse text)

def configPath : CliM m String := do
  match i.envSet? "DYNAMICAPI_CONFIG" with
  | some p => pure p
  | none =>
    match i.envSet? "HOME" with
    | some home => pure (Path.join [home, ".dynamicapi", "config.json"])
    | none => fail "$HOME is not defined"

def loadConfig : CliM m Config := do
  let path ← i.configPath
  let stored ← match ← i.machine.readFile path with
    | .error (.missing _) => pure {}
    | .error (.failed e) => fail e
    | .ok text =>
      match Json.parseWritten text with
      | .error e => fail ("parse " ++ path ++ ": " ++ e.message)
      | .ok v => match Config.ofJson v with
        | .ok c => pure c
        | .error e => fail ("parse " ++ path ++ ": " ++ e)
  let overlay := fun (name : String) (current : String) => (i.envSet? name).getD current
  let c : Config :=
    { transport := overlay "DYNAMICAPI_TRANSPORT" stored.transport
      server := overlay "DYNAMICAPI_SERVER" stored.server
      socket := overlay "DYNAMICAPI_SOCKET" stored.socket
      token := overlay "DYNAMICAPI_TOKEN" stored.token }
  let c := c.withDefaults
  orFail c.validate
  pure c

def saveConfig (c : Config) : CliM m Unit := do
  let path ← i.configPath
  orFail (← i.machine.makeDirs (Path.dir path))
  orFail (← i.machine.writeFile path c.text)

end Invocation

def printJson (v : Value) : CliM m Unit :=
  say (Json.pretty 0 v ++ "\n")

def printTable (headers : List String) (rows : List (List String)) : CliM m Unit :=
  if rows.isEmpty then say "no results\n"
  else say (Text.alignColumns 2 (String.join ((headers :: rows).map fun r => "\t".intercalate r ++ "\n")))

def Route.listing (r : Route) : Value :=
  .obj ([("entity", .str r.entity.name), ("type", .str r.kind.name), ("method", .str r.method),
    ("path", .str r.path)] ++ (if r.event.isEmpty then [] else [("event", .str r.event)]) ++
    [("guarded", .bool r.guarded), ("names", r.names.toValue)])

def bindText (fs : Fields) (record name : String) : Except String String :=
  match Bind.text fs name with
  | some s => .ok s
  | none =>
    let kind := (Bind.members fs name).foldl (fun acc v =>
      match v with
      | .str _ | .null => acc
      | other => if acc.isEmpty then Config.kindName other else acc) ""
    .error ("json: cannot unmarshal " ++ kind ++ " into Go struct field " ++ record ++ "." ++ name ++
      " of type string")

def principalOf (v : Value) : Except String Principal := do
  let some fs := Bind.fields? v
    | throw ("json: cannot unmarshal " ++ Config.kindName v ++ " into Go value of type domain.Principal")
  let id ← bindText fs "Principal" "id"
  let email ← bindText fs "Principal" "email"
  match Bind.texts fs "roles" with
  | some roles => pure { id, email, roles }
  | none => throw "json: cannot unmarshal into Go struct field Principal.roles of type []string"

def loginOf (v : Value) : Except String (String × String) := do
  let some fs := Bind.fields? v
    | throw ("json: cannot unmarshal " ++ Config.kindName v ++ " into Go value of type struct \x7b " ++
        "Token string \"json:\\\"token\\\"\"; Email string \"json:\\\"email\\\"\" \x7d")
  pure (← bindText fs "" "token", ← bindText fs "" "email")

def eventNamesOf (v : Value) : Except String (Option (List String)) :=
  match v with
  | .null => .ok none
  | .arr xs =>
    match Bind.textItems xs with
    | some names => .ok (some names)
    | none => .error "json: cannot unmarshal into Go value of type string"
  | other => .error ("json: cannot unmarshal " ++ Config.kindName other ++ " into Go value of type []string")

def BatchEntry.paramsText (e : BatchEntry) : Except String String :=
  .ok ((e.params.map Json.render).getD "null")

def rawJson (text : String) : Except String String :=
  match Json.compact text with
  | .ok t => .ok t
  | .error e => .error ("json: error calling MarshalJSON for type json.RawMessage: " ++ e.message)

def addQueryValue (values : List (String × List String)) (k v : String) : List (String × List String) :=
  if values.any (·.1 == k) then values.map fun (n, vs) => if n == k then (n, vs ++ [v]) else (n, vs)
  else values ++ [(k, [v])]

namespace Invocation

variable (i : Invocation m)

/-- Runs `routes`. -/
def routes : CliM m Unit := do
  i.checkLogger
  let manifest ← i.loadManifest (i.text "manifest")
  let deploy : Deployment := { storage := { host := { now := ← i.machine.now }, backend := .memory {} } }
  let (result, deploy) := ((manifest.assemble (Catalog.ofManifest manifest)).run) deploy
  match result with
  | .error f => fail f.message
  | .ok _ =>
    let rows := deploy.registry.sorted
    if i.reading.switch "json" then printJson (.arr (rows.map Route.listing))
    else printTable ["SERVICE", "METHOD", "PATH", "EVENT", "GUARDED"] (rows.map fun r =>
      [r.names.service, r.method, r.path, if r.event.isEmpty then "-" else r.event,
        if r.guarded then "true" else "false"])

def openStore (kind dbPath : String) : CliM m Backend :=
  if kind == "memory" then pure (.memory {})
  else if kind == "sqlite" || kind.isEmpty then do
    orFail (← i.machine.openDatabase ((dbPath.splitOn "?").headD dbPath))
    pure (.sqlite {})
  else fail ("unknown store " ++ Text.quoted kind)

/-- Runs `server`. -/
def server : CliM m Unit := do
  i.checkLogger
  let manifest ← i.loadManifest (i.text "manifest")
  let backend ← i.openStore (i.text "store") (i.text "db-path")
  let now ← i.machine.now
  let options : ServerOptions :=
    { manifest, storage := { host := { now }, backend }, secret := i.text "jwt-secret"
      ttlNanos := i.reading.duration "token-ttl", adminEmail := i.text "bootstrap-admin-email"
      adminPassword := i.text "bootstrap-admin-password" }
  let started ← match Server.start options with
    | .ok s => pure s
    | .error f => fail f.message
  let socket := i.text "rpc-socket"
  if (Text.trimBlanks socket).isEmpty then fail "rpc socket path is required"
  orFail (← i.machine.makeDirs (Path.dir socket))
  i.machine.remove socket
  orFail (← i.machine.bindUnix socket)
  match ← i.machine.listenTcp (i.text "addr") with
  | .error e =>
    i.machine.closeUnix socket
    fail e
  | .ok () =>
    i.machine.serve started
    i.machine.closeUnix socket

def login : CliM m Unit := do
  let c : Config :=
    Config.withDefaults { transport := i.text "transport", server := i.text "server", socket := i.text "socket" }
  orFail c.validate
  let credentials := objectText [("email", Json.quote (i.text "email")),
    ("password", Json.quote (i.text "password"))]
  let result ← if c.transport == socketTransport then
      callOnce i.machine c.socket "auth.login" (some credentials)
    else request i.machine c.server "" "POST" "/auth/login" [] (some credentials)
  let (token, email) ← orFail (loginOf result)
  i.saveConfig { c with token }
  say ("logged in as " ++ email ++ "\n")

def whoami : CliM m Unit := do
  let c ← i.loadConfig
  let result ← if c.transport == httpTransport then
      request i.machine c.server c.token "GET" "/auth/whoami" [] none
    else
      let params := objectText (if c.token.isEmpty then [] else [("token", Json.quote c.token)])
      callOnce i.machine c.socket "auth.whoami" (some params)
  let p ← orFail (principalOf result)
  if i.reading.switch "json" then printJson p.toValue
  else say (Text.alignColumns 2 ("id\t" ++ p.id ++ "\nemail\t" ++ p.email ++ "\nroles\t" ++
    ",".intercalate (p.roles.getD []) ++ "\n"))

def logout : CliM m Unit := do
  let c ← i.loadConfig
  i.saveConfig { c with token := "" }
  say "logged out\n"

/-- Runs `events`. -/
def events : CliM m Unit := do
  let c ← i.loadConfig
  let result ← callOnce i.machine c.socket "events.list" none
  let names ← orFail (eventNamesOf result)
  if i.reading.switch "json" then printJson ((names.map Value.strs).getD .null)
  else printTable ["EVENT"] ((names.getD []).map fun e => [e])

def loadBatch (path : String) : CliM m (List BatchEntry) := do
  match ← i.machine.readFile path with
  | .error f => fail f.message
  | .ok text =>
    let entries ← match readBatch text with
      | .ok es => pure es
      | .error e => fail ("parse batch " ++ path ++ ": " ++ e)
    match (entries.zipIdx.find? fun (e, _) => e.event.isEmpty) with
    | some (_, n) => fail ("batch entry " ++ toString n ++ " has no event")
    | none => pure entries

def singleCall : CliM m (String × Except String String) := do
  let event := i.reading.args.headD ""
  if event.isEmpty then fail "event name or --batch is required"
  let members : List (String × Except String String) :=
    (if (i.text "id").isEmpty then [] else [("id", .ok (Json.quote (i.text "id")))]) ++
    (if (i.reading.texts "ids").isEmpty then [] else
      [("ids", .ok (Json.render (Value.strs (i.reading.texts "ids"))))]) ++
    (if (i.text "body").isEmpty then [] else [("body", rawJson (i.text "body"))]) ++
    (if (i.text "query").isEmpty then [] else [("query", rawJson (i.text "query"))])
  let params := (members.mapM fun (member : String × Except String String) =>
    member.2.map fun t => (member.1, t)).map objectText
  pure (event, params)

def callEvents : CliM m Unit := do
  let c ← i.loadConfig
  let batch := i.text "batch"
  let calls ← if batch.isEmpty then pure [← i.singleCall]
    else (·.map fun e => (e.event, e.paramsText)) <$> i.loadBatch batch
  withConnection i.machine c.socket do
    let first ← if c.token.isEmpty then pure 1 else do
      let _ ← call i.machine 1 "authenticate" (some (objectText [("token", Json.quote c.token)]))
      pure 2
    let _ ← calls.foldlM (fun (n : Nat) (event, params) => do
      let params ← orFail params
      let result ← call i.machine n event (some params)
      if calls.length == 1 then printJson result
      else printJson (.obj [("event", .str event), ("result", result)])
      pure (n + 1)) first

def sendRequest : CliM m Unit := do
  let args := i.reading.args
  let (method, path) ← match args with
    | a :: b :: _ => pure (a, b)
    | _ => fail "method and path are required"
  let c ← i.loadConfig
  let query ← (i.reading.texts "query").foldlM (fun acc kv =>
    match kv.splitOn "=" with
    | k :: v :: more =>
      if k.isEmpty then fail ("query " ++ Text.quoted kv ++ " must be field=value")
      else pure (addQueryValue acc k ("=".intercalate (v :: more)))
    | _ => fail ("query " ++ Text.quoted kv ++ " must be field=value")) []
  let ids := i.reading.texts "ids"
  let query := if ids.isEmpty then query
    else (query.filter (·.1 != "ids")) ++ [("ids", [",".intercalate ids])]
  let body := i.text "body"
  let result ← request i.machine c.server c.token (method.map Text.toUpper) path query
    (if body.isEmpty then none else some body)
  printJson result

def action? (name : String) : Option (CliM m Unit) :=
  match name with
  | "server" => some i.server
  | "routes" => some i.routes
  | "login" => some i.login
  | "whoami" => some i.whoami
  | "logout" => some i.logout
  | "events" => some i.events
  | "call" => some i.callEvents
  | "request" => some i.sendRequest
  | _ => none

end Invocation

end CrudRoutes.Cli
