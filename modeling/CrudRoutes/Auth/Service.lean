import CrudRoutes.Auth.Token
import CrudRoutes.Persist
import CrudRoutes.Crypto.Bcrypt
import CrudRoutes.Text.Case

/-!
The authentication service: it logs users in against the users entity, issues tokens, resolves
principals from tokens, and creates the first administrator.

E-mail addresses are compared in lower case without surrounding blanks. Login checks the
password against the stored hash; every failure, an unknown address included, is the same
`Unauthorized`. A principal's roles come from the user's `roles`: the non-empty strings of an
array, or a single non-empty string. Passwords are hashed by a scheme and tokens signed and
parsed by a library, bcrypt and HMAC tokens unless given others.
-/

namespace CrudRoutes

/-- The settings of the authentication service. -/
structure AuthService where
  token : TokenConfig
  users : Entity
  passwords : PasswordHashing := Crypto.bcrypt
  jwt : Jwt := Jwt.hs256
  deriving Inhabited

namespace AuthService

def fieldEmail : String := "email"

def fieldPassword : String := "password"

def fieldRoles : String := "roles"

/-- An e-mail address as compared: lower case, without surrounding blanks. -/
def normalEmail (email : String) : String :=
  Text.trimBlanks (Text.lowerAll email)

def rolesOf (u : Fields) : Option (List String) :=
  match Fields.get? u fieldRoles with
  | some (.arr xs) => some (xs.filterMap fun x => match x with
      | .str s => if s.isEmpty then none else some s
      | _ => none)
  | some (.str s) => if s.isEmpty then none else some [s]
  | _ => none

def passwordHash (u : Fields) : String :=
  match Fields.get? u fieldPassword with
  | some (.str h) => h
  | _ => ""

/-- The claims of a token for a principal issued at a time, with an identifier. -/
def claimsFor (a : AuthService) (p : Principal) (now : Time) (jti : String) : TokenClaims :=
  { email := p.email, roles := p.roles.getD [], issuer := a.token.issuer, subject := p.id,
    expiresAt := now.addNanos a.token.ttlNanos, issuedAt := now, id := jti }

/-- Issues a token for a principal now, drawing its identifier. -/
def issue (a : AuthService) (p : Principal) : StoreM String := do
  let now ← Storage.now
  let jti ← Storage.draw
  pure (a.jwt.sign a.token.secret.toUTF8 (a.claimsFor p now jti))

/-- The principal of a token at a time: the token, without surrounding blanks, parsed under the
secret for the issuer, when it names a subject. -/
def verify (a : AuthService) (token : String) (now : Time) : Option Principal := do
  let token := Text.trimBlanks token
  if token.isEmpty then none
  let c ← a.jwt.parse a.token.secret.toUTF8 token now a.token.issuer
  if c.subject.isEmpty then none
  pure { id := c.subject, email := c.email, roles := c.roles }

/-- Checks an e-mail address and a password; gives a token and the principal. -/
def login (a : AuthService) (email password : String) : StoreM (String × Principal) := do
  let email := normalEmail email
  if email.isEmpty || password.isEmpty then throw Fault.unauthorized
  let u ← try Persist.findOne a.users ⟨[(fieldEmail, .str email)]⟩
    catch err =>
      match err.client? with
      | some (.notFound, _) => throw Fault.unauthorized
      | _ => throw err
  if !a.passwords.compare (passwordHash u) password then throw Fault.unauthorized
  let p : Principal := { id := docId u, email, roles := rolesOf u }
  let token ← a.issue p
  pure (token, p)

/-- The principal of a token at the current time. -/
def authenticate (a : AuthService) (token : String) : StoreM Principal := do
  let now ← Storage.now
  match a.verify token now with
  | some p => pure p
  | none => throw Fault.unauthorized

/-- Creates an administrator with an e-mail address and a password unless a user with that
address exists; does nothing without both. -/
def bootstrapAdmin (a : AuthService) (email password : String) : StoreM Unit := do
  let email := normalEmail email
  if email.isEmpty || password.isEmpty then return
  let found ← try
      let _ ← Persist.findOne a.users ⟨[(fieldEmail, .str email)]⟩
      pure true
    catch err =>
      match err.client? with
      | some (.notFound, _) => pure false
      | _ => throw err
  if found then return
  let hash ← match a.passwords.generate password with
    | .ok h => pure h
    | .error e => throw (.plain e)
  let _ ← Persist.create a.users (Fields.ofPairs
    [(fieldEmail, .str email), (fieldPassword, .str hash), (fieldRoles, Value.strs ["admin"])])

end AuthService

end CrudRoutes
