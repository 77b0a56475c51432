import CrudRoutes.Cli.Machine
import CrudRoutes.Cli.Path
import CrudRoutes.Server.Connection
import CrudRoutes.Server.Start

/-!
A machine simulated in memory: a tree of files, directories and unix sockets, an environment,
a working directory, and a running server behind some of the sockets. There is no network: no
TCP address can be reached.

File operations follow the rules of POSIX systems, reporting errors as `op path: reason` with
the path as given:

* opening fails with `no such file or directory` when the path or a directory on it is missing,
  `not a directory` when a file stands where a directory should, and a socket cannot be opened
  as a file (`no such device or address`); reading a directory fails with `is a directory`;
* creating a directory tree creates each missing directory from the top down and fails at the
  first element that exists but is not a directory;
* a unix socket path holds at most 107 bytes; binding needs the path free and its directory
  present; connecting needs a socket that is being served.

A connection to a socket served by the running server is a session of its gateway, bound to the
gateway's routes when it opens. The server command's own sockets are closed before anything
could connect to them.
-/

namespace CrudRoutes.Cli

/-- An entry of the file tree. -/
inductive Entry where
  | file (content : String)
  | directory
  | socket
  deriving Inhabited, BEq

/-- A machine simulated in memory. -/
structure Simulated where
  files : List (String × Entry) := []
  cwd : String := "/"
  env : List (String × String) := []
  server : Server
  served : List String := []
  connection : Option Connection := none
  deriving Inhabited

abbrev SimM := StateM Simulated

/-- What a path leads to. -/
inductive Found where
  | entry (e : Entry)
  | missing
  | notDirectory
  deriving BEq

def socketPathLimit : Nat := 107

namespace Simulated

def ancestors (abs : String) : List String :=
  let els := Path.elements abs
  (List.range els.length).map fun i => "/" ++ "/".intercalate (els.take (i + 1))

def withDirectory (s : Simulated) (dir : String) : Simulated :=
  let missing := (ancestors (Path.clean dir)).filter fun d => !(s.files.any (·.1 == d))
  { s with files := s.files ++ missing.map fun d => (d, Entry.directory) }

def entry? (s : Simulated) (abs : String) : Option Entry :=
  if abs == "/" then some .directory else s.files.lookup abs

def find (s : Simulated) (abs : String) : Found :=
  let dirs := (ancestors abs).dropLast
  let blocked := dirs.findSome? fun d =>
    match s.entry? d with
    | some .directory => none
    | some _ => some Found.notDirectory
    | none => some Found.missing
  match blocked with
  | some f => f
  | none =>
    match s.entry? abs with
    | some e => .entry e
    | none => .missing

def resolve (s : Simulated) (p : String) : String :=
  Path.resolve s.cwd p

def put (s : Simulated) (abs : String) (e : Entry) : Simulated :=
  { s with files := (s.files.filter (·.1 != abs)) ++ [(abs, e)] }

def drop (s : Simulated) (abs : String) : Simulated :=
  { s with files := s.files.filter (·.1 != abs), served := s.served.filter (· != abs) }

def isEmptyDirectory (s : Simulated) (abs : String) : Bool :=
  !(s.files.any fun (p, _) => Path.dir p == abs && p != abs)

end Simulated

def Found.reason : Found → String
  | .missing => "no such file or directory"
  | .notDirectory => "not a directory"
  | .entry .directory => "is a directory"
  | .entry _ => "no such device or address"

def simReadFile (p : String) : SimM (Except ReadFault String) := do
  let s ← get
  match s.find (s.resolve p) with
  | .entry (.file content) => pure (.ok content)
  | .entry .directory => pure (.error (.failed ("read " ++ p ++ ": is a directory")))
  | .missing => pure (.error (.missing ("open " ++ p ++ ": no such file or directory")))
  | other => pure (.error (.failed ("open " ++ p ++ ": " ++ other.reason)))

def parentText (p : String) : String :=
  let trimmed := (p.toList.reverse.dropWhile (· == '/'))
  let rest := trimmed.dropWhile (· != '/')
  String.ofList (rest.drop 1).reverse

def simMakeDirs : Nat → String → SimM (Except String Unit)
  | 0, _ => pure (.ok ())
  | fuel + 1, p => do
    let s ← get
    let abs := s.resolve p
    match s.find abs with
    | .entry .directory => pure (.ok ())
    | .entry _ => pure (.error ("mkdir " ++ p ++ ": not a directory"))
    | _ =>
      let parent := parentText p
      let ok ← if parent.length > 0 && parent != "/" then simMakeDirs fuel parent else pure (.ok ())
      match ok with
      | .error e => pure (.error e)
      | .ok () =>
        let s ← get
        match s.find abs with
        | .missing => do set (s.put abs .directory); pure (.ok ())
        | .entry .directory => pure (.ok ())
        | other => pure (.error ("mkdir " ++ p ++ ": " ++ other.reason))

def simWriteFile (p content : String) : SimM (Except String Unit) := do
  let s ← get
  let abs := s.resolve p
  match s.find abs with
  | .entry (.file _) => do set (s.put abs (.file content)); pure (.ok ())
  | .missing =>
    match s.find (Path.dir abs) with
    | .entry .directory => do set (s.put abs (.file content)); pure (.ok ())
    | _ => pure (.error ("open " ++ p ++ ": no such file or directory"))
  | other => pure (.error ("open " ++ p ++ ": " ++ other.reason))

def simRemove (p : String) : SimM Unit := do
  let s ← get
  let abs := s.resolve p
  match s.find abs with
  | .entry .directory => if abs != "/" && s.isEmptyDirectory abs then set (s.drop abs)
  | .entry _ => set (s.drop abs)
  | _ => pure ()

def simDial (p : String) : SimM (Except String Unit) := do
  let s ← get
  let fail := fun (why : String) => pure (.error ("dial unix " ++ p ++ ": connect: " ++ why))
  if p.utf8ByteSize > socketPathLimit then return ← fail "invalid argument"
  let abs := s.resolve p
  match s.find abs with
  | .entry .socket =>
    if s.served.contains abs then
      let gateway := Gateway.ofRoutes s.server.served
      set { s with connection := some (Connection.opened .socket gateway none) }
      pure (.ok ())
    else fail "connection refused"
  | .entry _ => fail "connection refused"
  | other => fail other.reason

def simExchange (line : String) : SimM (Except String String) := do
  let s ← get
  match s.connection with
  | none => pure (.error "use of closed network connection")
  | some c =>
    let (c, server) := (c.send line).run s.server
    let (got, c) := c.receive 1
    set { s with server, connection := some c }
    match got with
    | some (v :: _) => pure (.ok (Json.render v))
    | _ => pure (.error "EOF")

def ipv4? (host : String) : Option (List Nat) :=
  let parts := host.splitOn "."
  if parts.length != 4 then none else
  parts.mapM fun part =>
    if part.isEmpty || part.length > 3 || !part.all Char.isDigit then none
    else if part.length > 1 && part.startsWith "0" then none
    else
      let n := part.toNat!
      if n ≤ 255 then some n else none

def isAddressLiteral (host : String) : Bool :=
  (ipv4? host).isSome || host.contains ':'

def simFetch (req : Outgoing) : SimM (Except String Incoming) :=
  let endpoint := req.endpoint
  let (host, port) := match endpoint.splitOn ":" |>.getLast? with
    | some port =>
      let host := (endpoint.dropEnd (port.length + 1)).toString
      let host := if host.startsWith "[" && host.endsWith "]" then ((host.drop 1).dropEnd 1).toString else host
      (host, port)
    | none => (endpoint, "")
  if host == "localhost" then
    pure (.error ("dial tcp 127.0.0.1:" ++ port ++ ": connect: network is unreachable"))
  else if isAddressLiteral host then
    pure (.error ("dial tcp " ++ endpoint ++ ": connect: network is unreachable"))
  else pure (.error ("dial tcp: lookup " ++ host ++ ": no such host"))

def simOpenDatabase (name : String) : SimM (Except String Unit) := do
  if name == ":memory:" then return .ok ()
  let s ← get
  let abs := s.resolve name
  let cannot := Except.error "unable to open database file: out of memory (14)"
  match s.find abs with
  | .entry (.file _) => pure (.ok ())
  | .missing =>
    match s.find (Path.dir abs) with
    | .entry .directory => do set (s.put abs (.file "")); pure (.ok ())
    | _ => pure cannot
  | _ => pure cannot

def simBindUnix (p : String) : SimM (Except String Unit) := do
  let s ← get
  let fail := fun (why : String) => pure (.error ("listen unix " ++ p ++ ": bind: " ++ why))
  if p.utf8ByteSize > socketPathLimit then return ← fail "invalid argument"
  let abs := s.resolve p
  match s.find abs with
  | .entry _ => fail "address already in use"
  | .notDirectory => fail "not a directory"
  | .missing =>
    match s.find (Path.dir abs) with
    | .entry .directory => do set (s.put abs .socket); pure (.ok ())
    | .entry _ => fail "not a directory"
    | other => fail other.reason

def simCloseUnix (p : String) : SimM Unit := do
  let s ← get
  let abs := s.resolve p
  if s.entry? abs == some .socket then set (s.drop abs)

def servicePorts : List (String × Nat) :=
  [("ftp", 21), ("ftps", 990), ("gopher", 70), ("http", 80), ("https", 443), ("imap2", 143),
    ("imap3", 220), ("imaps", 993), ("pop3", 110), ("pop3s", 995), ("smtp", 25),
    ("submissions", 465), ("ssh", 22), ("telnet", 23)]

def splitHostPort (hp : String) : Except String (String × String) := do
  let bad := fun (why : String) => "address " ++ hp ++ ": " ++ why
  let cs := hp.toList
  let some i := (List.range cs.length).reverse.find? (fun j => cs.getD j ' ' == ':')
    | throw (bad "missing port in address")
  let (host, j, k) ← if hp.startsWith "[" then
      match (List.range cs.length).find? (fun j => cs.getD j ' ' == ']') with
      | none => throw (bad "missing ']' in address")
      | some e =>
        if e + 1 == cs.length then throw (bad "missing port in address")
        else if e + 1 != i then
          if cs.getD (e + 1) ' ' == ':' then throw (bad "too many colons in address")
          else throw (bad "missing port in address")
        else pure (String.ofList ((cs.drop 1).take (e - 1)), 1, e + 1)
    else
      let host := String.ofList (cs.take i)
      if host.contains ':' then throw (bad "too many colons in address") else pure (host, 0, 0)
  if (cs.drop j).contains '[' then throw (bad "unexpected '[' in address")
  if (cs.drop k).contains ']' then throw (bad "unexpected ']' in address")
  pure (host, String.ofList (cs.drop (i + 1)))

def parsePort (service : String) : Except String Nat :=
  if service.isEmpty then .ok 0 else
  let (neg, digits) := match service.toList with
    | '+' :: r => (false, r)
    | '-' :: r => (true, r)
    | r => (false, r)
  if digits.all Char.isDigit then
    let n := (String.ofList digits).toNat!
    if neg && n > 0 || n > 65535 then .error ("address " ++ service ++ ": invalid port")
    else .ok n
  else
    match servicePorts.lookup (Text.lowerAll service) with
    | some p => .ok p
    | none => .error ("lookup tcp/" ++ service ++ ": unknown port")

def simListenTcp (addr : String) : SimM (Except String Unit) :=
  let addr := if addr.isEmpty then ":http" else addr
  match splitHostPort addr >>= fun (host, port) => (parsePort port).map (host, ·) with
  | .error e => pure (.error ("listen tcp: " ++ e))
  | .ok (host, port) =>
    let isLocal := host.isEmpty || host == "localhost" || host == "::" || host == "::1" ||
      host == "0.0.0.0" || (ipv4? host).any (·.head? == some 127)
    if isLocal then pure (.ok ())
    else if isAddressLiteral host then
      pure (.error ("listen tcp " ++ host ++ ":" ++ toString port ++ ": bind: cannot assign requested address"))
    else pure (.error ("listen tcp: lookup " ++ host ++ ": no such host"))

def simulated : Machine SimM where
  getEnv n := do return (← get).env.lookup n
  readFile := simReadFile
  makeDirs p := simMakeDirs (p.length + 1) p
  writeFile := simWriteFile
  remove := simRemove
  dial := simDial
  exchange := simExchange
  hangUp := modify fun s => { s with connection := none }
  fetch := simFetch
  openDatabase := simOpenDatabase
  bindUnix := simBindUnix
  closeUnix := simCloseUnix
  listenTcp := simListenTcp
  now := do return (← get).server.now
  serve _ := pure ()

end CrudRoutes.Cli
