import CrudRoutes.Entity.Basic
import CrudRoutes.Route.Kind

/-!
Shapes: the named field lists that bodies, parameters, queries and presenters of a route follow.

A shape is projected from an entity in one of three modes. The create mode keeps the declared
fields as they are, the optional mode makes every field optional, and the presenter mode adds the
store-managed `id`, `createdAt` and `updatedAt` in front. All modes drop the soft-delete pair and
the excluded fields, read an unset kind as `any`, and clear the unique flag. An exclusion list may
name declared fields and the store-managed ones, but not `id` and not the empty name.

A shape may carry a mapper from the catalog, which turns incoming documents into stored ones and
stored ones into what is sent back.

Documents are checked by validators built from shapes and kept by the shape's signature, the
text `name:kind:required;` of each field in turn. Validators are built once, for the bodies,
parameters and queries of routes as the routes are assembled, and a shape whose signature is
already known is checked by the validator built first, even when its own fields differ (a field
name holding `:` and `;` can mimic several fields).
-/

namespace CrudRoutes

/-- The mappers of the catalog. -/
inductive Mapper where
  | hashPassword
  | hidePassword
  deriving Repr, BEq, DecidableEq, Inhabited

def Mapper.name : Mapper → String
  | .hashPassword => "hash-password"
  | .hidePassword => "hide-password"

def Mapper.ofName? (s : String) : Option Mapper :=
  [Mapper.hashPassword, .hidePassword].find? (·.name == s)

/-- A named list of fields, with an optional mapper. A shared shape keeps its own name. -/
structure Shape where
  name : String := ""
  fields : List Field := []
  mapper : Option Mapper := none
  shared : Bool := false
  deriving Repr, Inhabited

/-- How a shape is projected from an entity. -/
inductive ShapeMode where
  | create
  | optional
  | presenter
  deriving Repr, BEq, DecidableEq

def ShapeMode.ofCode (n : Int) : ShapeMode :=
  if n == 1 then .optional else if n == 2 then .presenter else .create

def ShapeMode.code : ShapeMode → Nat
  | .create => 0
  | .optional => 1
  | .presenter => 2

def ShapeMode.ofRoute (k : RouteKind) : ShapeMode :=
  if k.creates then .create else .optional

def baseExclusions : List String :=
  [fieldId, fieldCreatedAt, fieldUpdatedAt, fieldDeletedAt, fieldIsDeleted, fieldInternalId,
    fieldInternalVersion]

/-- Why an exclusion list is refused. -/
inductive ExclusionError where
  | emptyName
  | excludesId
  | unknownField (name : String)
  deriving Repr, BEq

def ExclusionError.message : ExclusionError → String
  | .emptyName => "exclusion list contains an empty field name"
  | .excludesId => "exclusion list may not contain \"id\""
  | .unknownField n => "exclusion list names unknown field " ++ Text.quoted n

def checkExclusions (e : Entity) : List String → Except ExclusionError Unit
  | [] => pure ()
  | n :: rest =>
    if n.isEmpty then throw .emptyName
    else if n == fieldId then throw .excludesId
    else if baseExclusions.contains n || (e.field? n).isSome then checkExclusions e rest
    else throw (.unknownField n)

def managedPresenterFields : List Field :=
  [{ name := fieldId, kind := "string", required := true },
   { name := fieldCreatedAt, kind := "time", required := true },
   { name := fieldUpdatedAt, kind := "time", required := true }]

def project (e : Entity) (mode : ShapeMode) (exclude : List String) :
    Except ExclusionError Shape := do
  checkExclusions e exclude
  let own := (e.declaredFields.filter fun f => !exclude.contains f.name).map fun f =>
    { f with
      kind := if f.kind.isEmpty then "any" else f.kind
      unique := false
      required := if mode == .optional then false else f.required }
  let fields := if mode == .presenter then managedPresenterFields ++ own else own
  pure { fields }

def paramShape : Shape :=
  { fields := [{ name := fieldId, kind := "string", required := true }] }

def idsShape : Shape :=
  { fields := [{ name := "ids", kind := "array", required := true }] }

def Shape.field? (s : Shape) (name : String) : Option Field :=
  s.fields.find? (·.name == name)

def Shape.signature (s : Shape) : String :=
  String.join (s.fields.map fun f =>
    f.name ++ ":" ++ f.kind ++ ":" ++ (if f.required then "true" else "false") ++ ";")

/-- Built validators by signature: the fields of the first shape built with each. -/
structure Validators where
  entries : List (String × List Field) := []
  deriving Repr, Inhabited

namespace Validators

def remember (v : Validators) (s : Shape) : Validators :=
  if s.fields.isEmpty || v.entries.any (·.1 == s.signature) then v
  else { entries := v.entries ++ [(s.signature, s.fields)] }

def rulesFor (v : Validators) (s : Shape) : List Field :=
  ((v.entries.find? (·.1 == s.signature)).map (·.2)).getD s.fields

end Validators

end CrudRoutes
