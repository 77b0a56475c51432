import CrudRoutes.Cli.Machine
import CrudRoutes.Cli.Config
import CrudRoutes.Json.Read
import CrudRoutes.Json.Compact
import CrudRoutes.Http.Address
import CrudRoutes.Http.Exchange
import CrudRoutes.Text.Case

/-!
The command line's two ways of reaching a server.

Over the unix socket it speaks JSON-RPC 2.0, one request and one answer per line, numbering the
calls of a connection from 1. An answer with an error fails the command with
`rpc error (code kind): message` (without the kind when it has none); an answer for another id
fails too.

Over HTTP it sends a request to the server's address with the route's path appended and the
query built from names and values. The address must be `http` or `https`; the method must be a
token (the empty method is `GET`). A request that cannot be sent fails with
`Method "address": why`, the method capitalized as a word. A response of status 400 or more
fails with `status kind: message`, taken from the error body the server writes or, when the
body is not one, from the status and the body's text.
-/

namespace CrudRoutes.Cli

variable {m : Type → Type} [Monad m]

/-- An error answered by a JSON-RPC server. -/
structure RpcError where
  code : Int
  message : String
  kind : String := ""

def RpcError.text (e : RpcError) : String :=
  "rpc error (" ++ toString e.code ++ (if e.kind.isEmpty then "" else " " ++ e.kind) ++ "): " ++
    e.message

def requestLine (method : String) (params : Option String) (id : Nat) : String :=
  Json.lbrace ++ "\"jsonrpc\":\"2.0\",\"method\":" ++ Json.quote method ++
    (match params with
     | some p => ",\"params\":" ++ p
     | none => "") ++
    ",\"id\":" ++ toString id ++ Json.rbrace

def objectText (members : List (String × String)) : String :=
  let sorted := members.mergeSort fun a b => decide (a.1 ≤ b.1)
  Json.lbrace ++ ",".intercalate (sorted.map fun (k, v) => Json.quote k ++ ":" ++ v) ++ Json.rbrace

def intMember? (fs : Fields) (name : String) : Option Int :=
  match Bind.member? fs name with
  | some (.int n) => some n
  | some (.num x) => if x == x.floor then some x.toInt64.toInt else none
  | _ => none

def readAnswer (method : String) (id : Nat) (line : String) : Except String Value :=
  match Json.parse line with
  | .error e => .error e.message
  | .ok v =>
    let fs := (Bind.fields? v).getD []
    match Bind.member? fs "error" with
    | some (.obj err) =>
      let field := fun (n : String) => (Bind.text err n).getD ""
      let e : RpcError :=
        { code := (intMember? err "code").getD 0, message := field "message", kind := field "kind" }
      .error e.text
    | _ =>
      if intMember? fs "id" != some (id : Int) then
        .error ("rpc response id mismatch for " ++ method)
      else .ok ((Bind.member? fs "result").getD .null)

def connect (mc : Machine m) (socket : String) : CliM m Unit := do
  match ← mc.dial socket with
  | .ok () => pure ()
  | .error e => fail ("dial " ++ socket ++ ": " ++ e)

def withConnection {α : Type} (mc : Machine m) (socket : String) (body : CliM m α) :
    CliM m α := do
  connect mc socket
  try
    let a ← body
    mc.hangUp
    pure a
  catch h =>
    mc.hangUp
    throw h

def call (mc : Machine m) (id : Nat) (method : String) (params : Option String) :
    CliM m Value := do
  match ← mc.exchange (requestLine method params id) with
  | .error e => fail e
  | .ok line => orFail (readAnswer method id line)

def callOnce (mc : Machine m) (socket method : String) (params : Option String) : CliM m Value :=
  withConnection mc socket (call mc 1 method params)

def isTokenChar (c : Char) : Bool :=
  c.toNat < 128 && (c.isAlphanum || "!#$%&'*+-.^_`|~".contains c)

def methodWord (method : String) : String :=
  if method.isEmpty then "Get"
  else if method.toList.all (·.toNat < 128) then
    match method.toList with
    | c :: rest => String.ofList (c :: rest.map Char.toLower)
    | [] => method
  else method

def shownAddress (a : Http.Address) : String :=
  match a.user with
  | some u =>
    match u.password with
    | some _ => a.text.replace (u.text ++ "@") (Http.escape u.name .userPassword ++ ":***@")
    | none => a.text
  | none => a.text

def validHeaderValue (v : String) : Bool :=
  v.toList.all fun c => !(c.toNat < 32 && c != '\t' || c.toNat == 127)

def apiErrorText (status : Nat) (body : String) : String :=
  let fallback := toString status ++ " " ++ Http.statusText status ++ ": " ++ Text.trimBlanks body
  match Json.parse body with
  | .ok (.obj fs) =>
    let code : Option Int := match Bind.member? fs "statusCode" with
      | none | some .null => some 0
      | some (.int n) => some n
      | some (.num x) => if x == x.floor then some x.toInt64.toInt else none
      | _ => none
    match code, Bind.text fs "message", Bind.text fs "error" with
    | some c, some msg, some kind =>
      if msg.isEmpty then fallback else toString c ++ " " ++ kind ++ ": " ++ msg
    | _, _, _ => fallback
  | _ => fallback

def request (mc : Machine m) (server token method path : String)
    (query : List (String × List String)) (body : Option String) : CliM m Value := do
  let trimmed := String.ofList (server.toList.reverse.dropWhile (· == '/')).reverse
  let base ← match Http.Address.parse trimmed with
    | .ok a => pure a
    | .error e => fail ("server url: " ++ e)
  if base.scheme != "http" && base.scheme != "https" then
    fail ("server url " ++ Text.quoted server ++ " must be http or https")
  let suffix := String.ofList (path.toList.dropWhile (· == '/'))
  let target := { base with path := base.path ++ "/" ++ suffix, rawQuery := Http.encodeQuery query }
  let method := if method.isEmpty then "GET" else method
  if !method.toList.all isTokenChar then
    fail ("net/http: invalid method " ++ Text.quoted method)
  let sent ← orFail (Http.Address.parse target.text)
  let wrap := fun (why : String) => methodWord method ++ " " ++ Text.quoted (shownAddress sent) ++ ": " ++ why
  let authorization := if token.isEmpty then [] else [("Authorization", "Bearer " ++ token)]
  if !authorization.all (validHeaderValue ·.2) then
    fail (wrap "net/http: invalid header field value for \"Authorization\"")
  if sent.host.isEmpty then fail (wrap "http: no Host in request URL")
  let headers := [("Accept", "application/json")] ++
    (if body.isSome then [("Content-Type", "application/json")] else []) ++ authorization
  let reply ← match ← mc.fetch { method, url := sent.text, endpoint := sent.dialTarget, headers, body } with
    | .ok r => pure r
    | .error e => fail (wrap e)
  if reply.status ≥ 400 then fail (apiErrorText reply.status reply.body)
  if (Text.trimBlanks reply.body).isEmpty then return .null
  match Json.parse reply.body with
  | .ok v => pure v
  | .error e => fail e.message

end CrudRoutes.Cli
