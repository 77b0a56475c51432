import CrudRoutes.Value.Equal

/-!
Filters select documents by their top-level fields. A filter is a conjunction of conditions; a
condition asks a field to equal a value in the loose sense of `Value.looseEq`, or, when the
wanted value is a list of alternatives, to equal one of them. A missing field reads as null, so
`{"f": null}` matches documents without `f`.
-/

namespace CrudRoutes

/-- A conjunction of conditions on top-level fields. -/
structure Filter where
  conditions : List (String × Value) := []
  deriving Inhabited, Repr

namespace Filter

def fieldOf (doc : Fields) (k : String) : Value :=
  (Fields.get? doc k).getD .null

/-- Whether a field value satisfies a wanted value. -/
def accepts (want got : Value) : Bool :=
  match want with
  | .anyOf alts => alts.any fun alt => Value.looseEq got alt
  | _ => Value.looseEq got want

/-- Whether a document satisfies every condition. -/
def selects (f : Filter) (doc : Fields) : Bool :=
  f.conditions.all fun (k, want) => accepts want (fieldOf doc k)

def byId (id : String) : Filter :=
  ⟨[("id", .str id)]⟩

def byIds (ids : List String) : Filter :=
  ⟨[("id", .anyOf (ids.map .str))]⟩

def add (f : Filter) (k : String) (v : Value) : Filter :=
  ⟨Fields.set f.conditions k v⟩

def isEmpty (f : Filter) : Bool :=
  f.conditions.isEmpty

end Filter

end CrudRoutes
