import CrudRoutes.Text.Utf8
import CrudRoutes.Text.Quote
import CrudRoutes.Http.Url

/-!
Web addresses: `scheme:[//[user@]host][/path][?query][#fragment]`.

Reading splits an address into its parts. The scheme is letters, digits, `+`, `-` and `.`, led
by a letter, and is kept in lower case; a scheme followed by something other than a slash keeps
that rest whole. The host may be a bracketed IPv6 literal with a zone and an optional numeric
port. Percent-escapes are decoded in the path, the fragment, the user part and the host (where
only bytes above ASCII, and `%25` in a zone, may be escaped). Every refusal is reported as
`parse "address": why`.

Writing an address escapes each part by its own rules and keeps a part as it was read when
that text still decodes to the part. A query string is built from names and values, sorted by
name, with every byte but letters, digits and `-_.~` escaped and blanks written `+`.
-/

namespace CrudRoutes.Http

/-- The parts of an address in which escaping follows different rules. -/
inductive Component where
  | path
  | host
  | zone
  | userPassword
  | queryComponent
  | fragment
  deriving BEq

def Component.escapes (mode : Component) (c : UInt8) : Bool :=
  let ch := Char.ofNat c.toNat
  if ch.isAlphanum && c < 128 then false
  else if (mode == .host || mode == .zone) && "!$&'()*+,;=:[]<>\"".contains ch && c < 128 then false
  else if "-_.~".contains ch && c < 128 then false
  else if "$&+,/:;=?@".contains ch && c < 128 then
    match mode with
    | .path => c == 63
    | .userPassword => c == 64 || c == 47 || c == 63 || c == 58
    | .queryComponent => true
    | .fragment => false
    | _ => true
  else if mode == .fragment && "!()*".contains ch && c < 128 then false
  else true

def escape (s : String) (mode : Component) : String :=
  String.join (s.toUTF8.toList.map fun b =>
    if b == 32 && mode == .queryComponent then "+"
    else if mode.escapes b then
      String.ofList ['%', Url.hexUpper (b.toNat / 16), Url.hexUpper (b.toNat % 16)]
    else String.singleton (Char.ofNat b.toNat))

def queryEscape (s : String) : String :=
  escape s .queryComponent

def encodeQuery (values : List (String × List String)) : String :=
  let sorted := values.mergeSort fun a b => decide (a.1 ≤ b.1)
  "&".intercalate (sorted.flatMap fun (k, vs) => vs.map fun v => queryEscape k ++ "=" ++ queryEscape v)

def byteText (bs : List UInt8) : String :=
  Text.decodeLossy bs

def unescape (s : String) (mode : Component) : Except String String :=
  let bs := s.toUTF8.toList
  let rec check : List UInt8 → Except String Unit
    | [] => .ok ()
    | 37 :: rest =>
      match rest with
      | a :: b :: more =>
        match Url.hexDigit? a, Url.hexDigit? b with
        | some x, some y =>
          let v := 16 * x + y
          let isPercent := x == 2 && y == 5
          if mode == .host && x < 8 && !isPercent then
            .error ("invalid URL escape " ++ Text.quoted (byteText [37, a, b]))
          else if mode == .zone && !isPercent && v != 32 && Component.escapes .host (UInt8.ofNat v) then
            .error ("invalid URL escape " ++ Text.quoted (byteText [37, a, b]))
          else check more
        | _, _ => .error ("invalid URL escape " ++ Text.quoted (byteText ((37 :: rest).take 3)))
      | _ => .error ("invalid URL escape " ++ Text.quoted (byteText ((37 :: rest).take 3)))
    | c :: rest =>
      if (mode == .host || mode == .zone) && c < 128 && mode.escapes c then
        .error ("invalid character " ++ Text.quoted (byteText [c]) ++ " in host name")
      else check rest
  match check bs with
  | .error e => .error e
  | .ok () =>
    let plusIsBlank := mode == .queryComponent
    match Url.unescapeBytes plusIsBlank bs with
    | some out => .ok (Text.decodeLossy out)
    | none => .ok s

def validEncoded (s : String) (mode : Component) : Bool :=
  s.toUTF8.toList.all fun b =>
    "!$&'()*+,;=:@[]%".contains (Char.ofNat b.toNat) && b < 128 || !mode.escapes b

/-- The user part of an address. -/
structure UserInfo where
  name : String
  password : Option String := none
  deriving Inhabited

def UserInfo.text (u : UserInfo) : String :=
  escape u.name .userPassword ++
    match u.password with
    | some p => ":" ++ escape p .userPassword
    | none => ""

/-- A web address in parts. -/
structure Address where
  scheme : String := ""
  rootless : String := ""
  user : Option UserInfo := none
  host : String := ""
  path : String := ""
  rawPath : String := ""
  forceQuery : Bool := false
  rawQuery : String := ""
  fragment : String := ""
  rawFragment : String := ""
  omitHost : Bool := false
  deriving Inhabited

def splitScheme (s : String) : Except String (String × String) :=
  let rec go : List Char → List Char → Except String (String × String)
    | [], _ => .ok ("", s)
    | c :: rest, seen =>
      if c.isAlpha then go rest (c :: seen)
      else if c.isDigit || c == '+' || c == '-' || c == '.' then
        if seen.isEmpty then .ok ("", s) else go rest (c :: seen)
      else if c == ':' then
        if seen.isEmpty then .error "missing protocol scheme"
        else .ok (String.ofList seen.reverse, String.ofList rest)
      else .ok ("", s)
  go s.toList []

def validOptionalPort (p : String) : Bool :=
  match p.toList with
  | [] => true
  | ':' :: ds => ds.all Char.isDigit
  | _ => false

def lastIndex (s : String) (c : Char) : Option Nat :=
  let cs := s.toList
  (List.range cs.length).reverse.find? fun i => cs.getD i ' ' == c

def parseHost (host : String) : Except String String := do
  let cs := host.toList
  if host.startsWith "[" then
    let some i := lastIndex host ']' | throw "missing ']' in host"
    let colonPort := String.ofList (cs.drop (i + 1))
    if !validOptionalPort colonPort then
      throw ("invalid port " ++ Text.quoted colonPort ++ " after host")
    let inside := String.ofList (cs.take i)
    match (inside.splitOn "%25") with
    | first :: rest@(_ :: _) =>
      let h1 ← unescape first .host
      let h2 ← unescape ("%25" ++ "%25".intercalate rest) .zone
      let h3 ← unescape (String.ofList (cs.drop i)) .host
      return h1 ++ h2 ++ h3
    | _ => pure ()
  else
    match lastIndex host ':' with
    | some i =>
      let colonPort := String.ofList (cs.drop i)
      if !validOptionalPort colonPort then
        throw ("invalid port " ++ Text.quoted colonPort ++ " after host")
    | none => pure ()
  unescape host .host

def validUserinfo (s : String) : Bool :=
  s.toList.all fun c => c.isAlphanum && c.toNat < 128 || "-._:~!$&'()*+,;=%@".contains c

def parseAuthority (authority : String) : Except String (Option UserInfo × String) := do
  match lastIndex authority '@' with
  | none => return (none, ← parseHost authority)
  | some i =>
    let cs := authority.toList
    let host ← parseHost (String.ofList (cs.drop (i + 1)))
    let info := String.ofList (cs.take i)
    if !validUserinfo info then throw "net/url: invalid userinfo"
    match info.splitOn ":" with
    | [name] => return (some { name := ← unescape name .userPassword }, host)
    | name :: rest =>
      let password ← unescape (":".intercalate rest) .userPassword
      return (some { name := ← unescape name .userPassword, password }, host)
    | [] => return (none, host)

namespace Address

def withPath (a : Address) (p : String) : Except String Address := do
  let path ← unescape p .path
  pure { a with path, rawPath := if escape path .path == p then "" else p }

def escapedPath (a : Address) : String :=
  let asRead := !a.rawPath.isEmpty && validEncoded a.rawPath .path &&
    (match unescape a.rawPath .path with
     | .ok p => p == a.path
     | .error _ => false)
  if asRead then a.rawPath
  else if a.path == "*" then "*"
  else escape a.path .path

def escapedFragment (a : Address) : String :=
  let asRead := !a.rawFragment.isEmpty && validEncoded a.rawFragment .fragment &&
    (match unescape a.rawFragment .fragment with
     | .ok f => f == a.fragment
     | .error _ => false)
  if asRead then a.rawFragment else escape a.fragment .fragment

def parseBody (raw : String) : Except String Address := do
  if raw.toUTF8.toList.any fun b => b < 32 || b == 127 then
    throw "net/url: invalid control character in URL"
  if raw == "*" then return { path := "*" }
  let (scheme, rest) ← splitScheme raw
  let a : Address := { scheme := String.map Char.toLower scheme }
  let (a, rest) :=
    if rest.endsWith "?" && (rest.splitOn "?").length == 2 then
      ({ a with forceQuery := true }, (rest.dropEnd 1).toString)
    else match rest.splitOn "?" with
      | before :: after@(_ :: _) => ({ a with rawQuery := "?".intercalate after }, before)
      | _ => (a, rest)
  if !rest.startsWith "/" then
    if !a.scheme.isEmpty then return { a with rootless := rest }
    let segment := (rest.splitOn "/").headD ""
    if segment.contains ':' then throw "first path segment in URL cannot contain colon"
  let (a, rest) ← if rest.startsWith "//" then do
      let body := (rest.drop 2).toString
      let (authority, after) := match body.splitOn "/" with
        | first :: more@(_ :: _) => (first, "/" ++ "/".intercalate more)
        | _ => (body, "")
      let (user, host) ← parseAuthority authority
      pure ({ a with user, host }, after)
    else if !a.scheme.isEmpty && rest.startsWith "/" then pure ({ a with omitHost := true }, rest)
    else pure (a, rest)
  a.withPath rest

def parse (raw : String) : Except String Address :=
  let (body, frag) := match raw.splitOn "#" with
    | first :: more@(_ :: _) => (first, some ("#".intercalate more))
    | _ => (raw, none)
  match parseBody body with
  | .error e => .error ("parse " ++ Text.quoted body ++ ": " ++ e)
  | .ok a =>
    match frag with
    | none => .ok a
    | some f =>
      if f.isEmpty then .ok a else
      match unescape f .fragment with
      | .error e => .error ("parse " ++ Text.quoted raw ++ ": " ++ e)
      | .ok fragment =>
        .ok { a with fragment, rawFragment := if escape fragment .fragment == f then "" else f }

def text (a : Address) : String :=
  let head := if a.scheme.isEmpty then "" else a.scheme ++ ":"
  let middle :=
    if !a.rootless.isEmpty then a.rootless
    else
      let authority :=
        if a.scheme.isEmpty && a.host.isEmpty && a.user.isNone then ""
        else if a.omitHost && a.host.isEmpty && a.user.isNone then ""
        else
          (if !a.host.isEmpty || !a.path.isEmpty || a.user.isSome then "//" else "") ++
          (match a.user with
           | some u => u.text ++ "@"
           | none => "") ++
          escape a.host .host
      let path := a.escapedPath
      let slash := if !path.isEmpty && !path.startsWith "/" && !a.host.isEmpty then "/" else ""
      let dotted :=
        if (head ++ authority ++ slash).isEmpty && ((path.splitOn "/").headD "").contains ':' then "./"
        else ""
      authority ++ slash ++ dotted ++ path
  let query := if a.forceQuery || !a.rawQuery.isEmpty then "?" ++ a.rawQuery else ""
  let frag := if a.fragment.isEmpty then "" else "#" ++ a.escapedFragment
  head ++ middle ++ query ++ frag

def hostAndPort (a : Address) : String × String :=
  let (host, port) := match lastIndex a.host ':' with
    | some i =>
      let cs := a.host.toList
      if validOptionalPort (String.ofList (cs.drop i)) then
        (String.ofList (cs.take i), String.ofList (cs.drop (i + 1)))
      else (a.host, "")
    | none => (a.host, "")
  if host.startsWith "[" && host.endsWith "]" then ((host.drop 1).dropEnd 1 |>.toString, port)
  else (host, port)

def dialTarget (a : Address) : String :=
  let (host, port) := a.hostAndPort
  let port := if !port.isEmpty then port
    else if a.scheme == "http" then "80"
    else if a.scheme == "https" then "443"
    else ""
  if host.contains ':' then "[" ++ host ++ "]:" ++ port else host ++ ":" ++ port

end Address

end CrudRoutes.Http
