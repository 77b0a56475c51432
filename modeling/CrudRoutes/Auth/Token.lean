import CrudRoutes.Auth.Principal
import CrudRoutes.Crypto.Hmac
import CrudRoutes.Crypto.Base64
import CrudRoutes.Json.Read
import CrudRoutes.Json.Write
import CrudRoutes.Text.Utf8
import CrudRoutes.Text.Blank
import CrudRoutes.Text.Case
import CrudRoutes.Json.Bind

/-!
Signed tokens (JSON Web Tokens with HMAC signatures).

The authentication service issues and checks tokens through a JSON Web Token library (`Jwt`):
it signs the claims it issues under its secret, and parses a token under its secret, at the
clock, for its issuer. `Jwt.hs256` is the library of the program.

A token is three URL-safe base64 segments joined by dots: a header naming the algorithm, the
claims, and the signature of the first two segments. Tokens are signed with HMAC-SHA256 and
carry the e-mail address and roles, the issuer, the subject, the expiry and issue times in whole
seconds, and an identifier, each text claim only when it is not empty.

A token is accepted when its header and claims are JSON objects of the right shapes, its
algorithm is one of the HMAC ones (SHA-256, SHA-384 or SHA-512, all keyed with the same
secret), its signature matches, it has not expired (now is strictly before the expiry), it is
not used before its not-before time, and its issuer is the expected one. Claim names are matched
without regard to case.
-/

namespace CrudRoutes

/-- The settings of token issuing and checking. -/
structure TokenConfig where
  secret : String
  issuer : String
  ttlNanos : Int
  deriving Inhabited

/-- The claims a token is issued with. -/
structure TokenClaims where
  email : String
  roles : List String
  issuer : String
  subject : String
  expiresAt : Time
  issuedAt : Time
  id : String

namespace Token

def segment (s : String) : String :=
  Crypto.encode64 Crypto.urlAlphabet s.toUTF8

def seconds (t : Time) : Int :=
  t.unix

/-- Signs claims with HMAC-SHA256 under a key. -/
def sign (key : ByteArray) (c : TokenClaims) : String :=
  let claims : Value := .obj (
    (if c.email.isEmpty then [] else [("email", .str c.email)]) ++
    (if c.roles.isEmpty then [] else [("roles", Value.strs c.roles)]) ++
    (if c.issuer.isEmpty then [] else [("iss", .str c.issuer)]) ++
    (if c.subject.isEmpty then [] else [("sub", .str c.subject)]) ++
    [("exp", .int (seconds c.expiresAt)), ("iat", .int (seconds c.issuedAt))] ++
    (if c.id.isEmpty then [] else [("jti", .str c.id)]))
  let header := "\x7b\"alg\":\"HS256\",\"typ\":\"JWT\"\x7d"
  let signing := segment header ++ "." ++ segment (Json.render claims)
  let signature := Crypto.hmac256 key signing.toUTF8
  signing ++ "." ++ Crypto.encode64 Crypto.urlAlphabet signature

/-- The claims a token carries. -/
structure Claims where
  email : String := ""
  roles : Option (List String) := none
  issuer : String := ""
  subject : String := ""
  expires : Option Int := none
  notBefore : Option Int := none
  deriving Inhabited

def textClaim (fs : Fields) (name : String) : Option String :=
  Bind.text fs name

def int64Min : Int := -(Nat.pow 2 63 : Int)

def int64Max : Int := (Nat.pow 2 63 : Int) - 1

/-- The whole number at or below a double, as a 64-bit count: read off the double's bits,
saturated at both ends of the 64-bit range, `0` for NaN. -/
def floorSeconds (x : Float) : Int :=
  match Decimal.Bits.ofFloat x with
  | .nan => 0
  | .infinite neg => if neg then int64Min else int64Max
  | .finite b =>
    let (pn, pd) := Decimal.pow2 b.exp
    let scaled := b.mant * pn
    -- below zero the floor is the ceiling of the magnitude, negated
    let whole : Int := if b.neg then -(((scaled + pd - 1) / pd : Nat) : Int) else ((scaled / pd : Nat) : Int)
    max int64Min (min int64Max whole)

def timeValue (v : Value) : Option (Option Int) :=
  let ofFloat := fun (x : Float) => some (some (floorSeconds x))
  match v with
  | .null => some none
  | .num x => ofFloat x
  | .int n => some (some n)
  | .str s =>
    match Json.parse s with
    | .ok (.num x) => if s.trimAscii.toString == s then ofFloat x else none
    | _ => none
  | _ => none

def timeClaim (fs : Fields) (name : String) : Option (Option Int) :=
  (Bind.members fs name).foldlM (fun _ v => timeValue v) none

def audienceOk (v : Value) : Bool :=
  match v with
  | .null | .str _ => true
  | .arr xs => xs.all fun x => (x.str?).isSome
  | _ => false

/-- Reads the claims of a token; `none` when a claim has the wrong shape. -/
def readClaims (v : Value) : Option Claims := do
  let fs ← Bind.fields? v
  let email ← textClaim fs "email"
  let roles ← Bind.texts fs "roles"
  let issuer ← textClaim fs "iss"
  let subject ← textClaim fs "sub"
  let _ ← textClaim fs "jti"
  if !(Bind.members fs "aud").all audienceOk then none
  let expires ← timeClaim fs "exp"
  let notBefore ← timeClaim fs "nbf"
  let _ ← timeClaim fs "iat"
  pure { email, roles, issuer, subject, expires, notBefore }

def hmacOf? : String → Option (ByteArray → ByteArray → ByteArray)
  | "HS256" => some Crypto.hmac256
  | "HS384" => some Crypto.hmac384
  | "HS512" => some Crypto.hmac512
  | _ => none

def segmentText? (s : String) : Option String :=
  (Crypto.decode64 Crypto.urlAlphabet s).map fun b => Text.decodeLossy b.toList

/-- Parses a token under a key, at a time, for an expected issuer: its claims, or `none` when it
is not accepted. -/
def parse (key : ByteArray) (token : String) (now : Time) (issuer : String) : Option Claims := do
  let parts := (token.toList.splitOn '.').map String.ofList
  match parts with
  | [h, c, sig] =>
    let headerText ← segmentText? h
    let header ← (Json.parse headerText).toOption
    let alg ← match header with
      | .obj fs => (Fields.get? fs "alg").bind Value.str?
      | _ => none
    let claimsText ← segmentText? c
    let claimsValue ← match Json.readPrefix claimsText.toList with
      | .ok (v, _) => some v
      | .error _ => none
    let claims ← readClaims claimsValue
    let mac ← hmacOf? alg
    let signature ← Crypto.decode64 Crypto.urlAlphabet sig
    let expected := mac key (h ++ "." ++ c).toUTF8
    if expected.toList != signature.toList then none
    let nowNanos := now.unixNanos
    match claims.expires with
    | some e => if !(nowNanos < e * 1000000000) then none
    | none => pure ()
    match claims.notBefore with
    | some n => if nowNanos < n * 1000000000 then none
    | none => pure ()
    if claims.issuer != issuer then none
    pure claims
  | _ => none

end Token

/-- A JSON Web Token library as the authentication service uses it: it signs claims with HS256
under a key, and parses a token under a key, at a time, for an expected issuer, into its claims,
or refuses it. -/
structure Jwt where
  sign : ByteArray → TokenClaims → String
  parse : ByteArray → String → Time → String → Option Token.Claims

/-- The HMAC tokens of this module. -/
def Jwt.hs256 : Jwt := ⟨Token.sign, Token.parse⟩

instance : Inhabited Jwt := ⟨Jwt.hs256⟩

end CrudRoutes
