import CrudRoutes.Cli.Flags

/-!
The commands of the `dynamicapi` command line and their flags.

`server` serves a manifest's routes; `routes` lists them without serving; `auth` signs in and
out and shows the signed-in user; `events` lists the realtime events of a running server;
`call` sends realtime events to it; `request` sends one HTTP request to it.
-/

namespace CrudRoutes.Cli

def programName : String := "dynamicapi"

def defaultManifestPath : String := "dynamicapi.yaml"

def logFlags : List Flag :=
  [{ name := "log-level", value := "info", usage := "debug, info, warn or error",
     env := "DYNAMICAPI_LOG_LEVEL" },
   { name := "log-format", value := "text", usage := "text or json", env := "DYNAMICAPI_LOG_FORMAT" }]

def manifestFlag : Flag :=
  { name := "manifest", value := defaultManifestPath, usage := "entity manifest (YAML)",
    env := "DYNAMICAPI_MANIFEST" }

def jsonFlag : Flag :=
  { name := "json", kind := .switch, usage := "output raw JSON" }

def serverCommand : Command :=
  { name := "server", usage := "Serve the generated routes over HTTP, websocket and the unix socket"
    flags := [
      { name := "addr", value := ":8080", usage := "HTTP listen address", env := "DYNAMICAPI_ADDR" },
      { name := "rpc-socket", value := "/tmp/dynamicapi.sock", usage := "JSON-RPC unix socket path",
        env := "DYNAMICAPI_RPC_SOCKET" },
      { name := "db-path", value := "dynamicapi.db", usage := "SQLite database path",
        env := "DYNAMICAPI_DB_PATH" },
      { name := "store", value := "sqlite", usage := "document store: sqlite or memory",
        env := "DYNAMICAPI_STORE" },
      manifestFlag,
      { name := "jwt-secret", usage := "HS256 signing secret; empty disables authentication",
        env := "DYNAMICAPI_JWT_SECRET" },
      { name := "token-ttl", kind := .duration, value := "12h", usage := "issued token lifetime",
        env := "DYNAMICAPI_TOKEN_TTL" },
      { name := "bootstrap-admin-email", usage := "admin user created when missing",
        env := "DYNAMICAPI_ADMIN_EMAIL" },
      { name := "bootstrap-admin-password", usage := "password of the bootstrap admin",
        env := "DYNAMICAPI_ADMIN_PASSWORD" }] ++ logFlags }

def routesCommand : Command :=
  { name := "routes", usage := "Assemble the manifest in memory and list the generated routes"
    flags := [manifestFlag, jsonFlag] ++ logFlags }

def authCommand : Command :=
  { name := "auth", usage := "Authentication commands"
    commands := [
      { name := "login", usage := "Login and store CLI token"
        flags := [
          { name := "transport", value := "uds", usage := "uds or http" },
          { name := "server", value := "http://127.0.0.1:8080" },
          { name := "socket", value := "/tmp/dynamicapi.sock" },
          { name := "email", required := true },
          { name := "password", required := true }] },
      { name := "whoami", usage := "Show the principal of the stored token", flags := [jsonFlag] },
      { name := "logout", usage := "Clear local CLI auth token" }] }

def eventsCommand : Command :=
  { name := "events", usage := "List realtime events served on the unix socket", flags := [jsonFlag] }

def callCommand : Command :=
  { name := "call", usage := "Send realtime events over the unix socket", argsUsage := "<event>"
    flags := [
      { name := "id", usage := "document id" },
      { name := "ids", kind := .texts, usage := "document ids" },
      { name := "body", usage := "JSON body" },
      { name := "query", usage := "JSON filter object" },
      { name := "batch", usage := "YAML file with a list of \x7bevent, params\x7d to send in order" }] }

def requestCommand : Command :=
  { name := "request", usage := "Send one HTTP request to a generated route",
    argsUsage := "<method> <path>"
    flags := [
      { name := "body", usage := "JSON body" },
      { name := "query", kind := .texts, usage := "filter as field=value, repeatable" },
      { name := "ids", kind := .texts, usage := "document ids for batch routes" }] }

def rootCommand : Command :=
  { name := programName, usage := "CRUD route server generated from entity manifests, and its CLI"
    commands := [serverCommand, routesCommand, authCommand, eventsCommand, callCommand,
      requestCommand] }

def Command.envNames : Command → List String
  | ⟨_, _, _, flags, commands, _⟩ =>
    (flags.filterMap fun f => if f.env.isEmpty then none else some f.env) ++ envNamesOf commands
where
  envNamesOf : List Command → List String
    | [] => []
    | c :: rest => c.envNames ++ envNamesOf rest

end CrudRoutes.Cli
