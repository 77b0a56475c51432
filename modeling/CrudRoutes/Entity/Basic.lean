import CrudRoutes.Text.Blank
import CrudRoutes.Text.Case
import CrudRoutes.Text.Quote

/-!
Entity descriptors: a name, the collection that stores the entity, declared fields, soft delete
and unique indexes.

The store manages `id`, `createdAt`, `updatedAt`, `_id` and `__v`; soft-deletable entities also
carry `isDeleted` and `deletedAt`, which a descriptor may declare only as a pair and only when
the entity is soft-deletable. Unique keys are the single unique fields followed by the declared
indexes, each extended by `deletedAt` under soft delete, so that a deleted document frees its key.
-/

namespace CrudRoutes

/-- The kinds of value a field may be declared with. -/
inductive Kind where
  | string
  | number
  | bool
  | time
  | object
  | array
  | any
  deriving Repr, BEq, DecidableEq, Inhabited

namespace Kind

def name : Kind → String
  | .string => "string"
  | .number => "number"
  | .bool => "bool"
  | .time => "time"
  | .object => "object"
  | .array => "array"
  | .any => "any"

def all : List Kind :=
  [.string, .number, .bool, .time, .object, .array, .any]

def ofName? (s : String) : Option Kind :=
  all.find? (·.name == s)

end Kind

def fieldId : String := "id"
def fieldCreatedAt : String := "createdAt"
def fieldUpdatedAt : String := "updatedAt"
def fieldIsDeleted : String := "isDeleted"
def fieldDeletedAt : String := "deletedAt"
def fieldInternalId : String := "_id"
def fieldInternalVersion : String := "__v"

/-- A declared field. The kind is kept as written; `Kind.ofName?` reads it. -/
structure Field where
  name : String
  kind : String := ""
  required : Bool := false
  unique : Bool := false
  deriving Repr, BEq, Inhabited

/-- An entity descriptor. -/
structure Entity where
  name : String
  collection : String := ""
  fields : List Field := []
  softDeletable : Bool := false
  uniqueIndexes : List (List String) := []
  deriving Repr, Inhabited

/-- Why a descriptor is refused. -/
inductive EntityError where
  | nameRequired
  | fieldNameRequired (entity : String)
  | declaredTwice (entity field : String)
  | unknownKind (entity field kind : String)
  | managedField (entity field : String)
  | softDeleteHalf (entity : String)
  | softDeleteFieldsOnly (entity : String)
  | emptyIndex (entity : String)
  | unknownIndexField (entity field : String)
  deriving Repr, BEq

def EntityError.message : EntityError → String
  | .nameRequired => "entity name is required"
  | .fieldNameRequired e => "entity " ++ e ++ ": field name is required"
  | .declaredTwice e f => "entity " ++ e ++ ": field " ++ Text.quoted f ++ " declared twice"
  | .unknownKind e f k =>
    "entity " ++ e ++ ": field " ++ Text.quoted f ++ " has unknown kind " ++ Text.quoted k
  | .managedField e f => "entity " ++ e ++ ": field " ++ Text.quoted f ++ " is managed by the store"
  | .softDeleteHalf e => "entity " ++ e ++ ": isDeleted and deletedAt must be declared together"
  | .softDeleteFieldsOnly e =>
    "entity " ++ e ++ ": declares soft-delete fields but is not soft-deletable"
  | .emptyIndex e => "entity " ++ e ++ ": empty unique index"
  | .unknownIndexField e f =>
    "entity " ++ e ++ ": unique index references unknown field " ++ Text.quoted f

namespace Entity

def collectionName (e : Entity) : String :=
  if e.collection.isEmpty then Text.lowerAll e.name ++ "s" else e.collection

def field? (e : Entity) (name : String) : Option Field :=
  e.fields.find? (·.name == name)

def declaredFields (e : Entity) : List Field :=
  e.fields.filter fun f => f.name != fieldIsDeleted && f.name != fieldDeletedAt

def uniqueKeys (e : Entity) : List (List String) :=
  let keys := ((e.declaredFields.filter (·.unique)).map fun f => [f.name]) ++ e.uniqueIndexes
  if e.softDeletable then keys.map (· ++ [fieldDeletedAt]) else keys

def managedNames : List String :=
  [fieldId, fieldCreatedAt, fieldUpdatedAt, fieldInternalId, fieldInternalVersion]

def checkFields (e : Entity) : List Field → List String → Bool → Bool →
    Except EntityError (List String × Bool × Bool)
  | [], seen, hasFlag, hasStamp => pure (seen, hasFlag, hasStamp)
  | f :: rest, seen, hasFlag, hasStamp => do
    if Text.trimBlanks f.name == "" then throw (.fieldNameRequired e.name)
    if seen.contains f.name then throw (.declaredTwice e.name f.name)
    if f.kind != "" && (Kind.ofName? f.kind).isNone then
      throw (.unknownKind e.name f.name f.kind)
    if managedNames.contains f.name then throw (.managedField e.name f.name)
    checkFields e rest (seen ++ [f.name]) (hasFlag || f.name == fieldIsDeleted)
      (hasStamp || f.name == fieldDeletedAt)

def validate (e : Entity) : Except EntityError Unit := do
  if Text.trimBlanks e.name == "" then throw .nameRequired
  let (seen, hasFlag, hasStamp) ← checkFields e e.fields [] false false
  if hasFlag != hasStamp then throw (.softDeleteHalf e.name)
  if hasFlag && !e.softDeletable then throw (.softDeleteFieldsOnly e.name)
  for idx in e.uniqueIndexes do
    if idx.isEmpty then throw (.emptyIndex e.name)
    for n in idx do
      if !seen.contains n then throw (.unknownIndexField e.name n)

end Entity

end CrudRoutes
