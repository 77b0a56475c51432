import CrudRoutes.Json.Write
import CrudRoutes.Json.Bind
import CrudRoutes.Text.Quote

/-!
The settings of the command line's client: how it reaches the server (over its unix socket or
over HTTP), the server's address, the socket's path, and the token of the signed-in user.

They are kept as a JSON object in a file. Reading the file binds members to settings by name
without regard to case, the last one winning and `null` leaving a setting alone; a member of
another type than text is refused with the decoder's message. Written back, the object is
indented by two spaces and leaves out an empty token. Missing settings take the defaults: the
socket transport, `http://127.0.0.1:8080` and `/tmp/dynamicapi.sock`.
-/

namespace CrudRoutes.Cli

def socketTransport : String := "uds"

def httpTransport : String := "http"

def defaultSocket : String := "/tmp/dynamicapi.sock"

def defaultServer : String := "http://127.0.0.1:8080"

/-- The client's settings. -/
structure Config where
  transport : String := ""
  server : String := ""
  socket : String := ""
  token : String := ""
  deriving Inhabited, BEq

namespace Config

def withDefaults (c : Config) : Config :=
  { c with
    transport := if c.transport.isEmpty then socketTransport else c.transport
    server := if c.server.isEmpty then defaultServer else c.server
    socket := if c.socket.isEmpty then defaultSocket else c.socket }

def validate (c : Config) : Except String Unit :=
  if c.transport == socketTransport || c.transport == httpTransport then .ok ()
  else .error ("unknown transport " ++ Text.quoted c.transport ++ " (want " ++ socketTransport ++
    " or " ++ httpTransport ++ ")")

def memberNames : List String := ["transport", "server", "socket", "token"]

def set (c : Config) (name value : String) : Config :=
  match name with
  | "transport" => { c with transport := value }
  | "server" => { c with server := value }
  | "socket" => { c with socket := value }
  | "token" => { c with token := value }
  | _ => c

def kindName : Value → String
  | .null => "null"
  | .bool _ => "bool"
  | .num _ | .int _ => "number"
  | .str _ | .time _ => "string"
  | .arr _ | .anyOf _ => "array"
  | .obj _ | .doc _ => "object"

def ofJson (v : Value) : Except String Config :=
  match v with
  | .null => .ok {}
  | .obj fs =>
    let step := fun (acc : Config × Option String) (member : String × Value) =>
      let (c, err) := acc
      match memberNames.find? (fun n => Text.foldName n == Text.foldName member.1) with
      | none => acc
      | some name =>
        match member.2 with
        | .str s => (c.set name s, err)
        | .null => acc
        | other =>
          (c, err.orElse fun _ => some ("json: cannot unmarshal " ++ kindName other ++
            " into Go struct field cliConfig." ++ name ++ " of type string"))
    match fs.foldl step ({}, none) with
    | (_, some e) => .error e
    | (c, none) => .ok c
  | other => .error ("json: cannot unmarshal " ++ kindName other ++
      " into Go value of type main.cliConfig")

def toJson (c : Config) : Value :=
  .obj ([("transport", .str c.transport), ("server", .str c.server), ("socket", .str c.socket)] ++
    if c.token.isEmpty then [] else [("token", .str c.token)])

def text (c : Config) : String :=
  Json.pretty 0 c.toJson

end Config

end CrudRoutes.Cli
