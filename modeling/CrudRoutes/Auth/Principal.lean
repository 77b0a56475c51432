import CrudRoutes.Value.Basic

/-!
The caller of a request or connection: an identity, an e-mail address and roles. Roles may be
absent rather than empty; the two are written differently (`null` against `[]`) where a
principal is shown in full.
-/

namespace CrudRoutes

/-- The authenticated caller of a request or connection. -/
structure Principal where
  id : String
  email : String := ""
  roles : Option (List String) := none
  deriving Repr, Inhabited, BEq

namespace Principal

def adminRole : String := "admin"

def hasRole (p : Option Principal) (role : String) : Bool :=
  match p with
  | some p => (p.roles.getD []).contains role
  | none => false

def rolesValue (p : Principal) : Value :=
  match p.roles with
  | some rs => Value.strs rs
  | none => .null

def toValue (p : Principal) : Value :=
  .obj ([("id", .str p.id)] ++
    (if p.email.isEmpty then [] else [("email", .str p.email)]) ++
    (match p.roles with
     | some (r :: rs) => [("roles", Value.strs (r :: rs))]
     | _ => []))

end Principal

end CrudRoutes
