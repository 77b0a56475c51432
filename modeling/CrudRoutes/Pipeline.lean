import CrudRoutes.Filter

/-!
Aggregation pipelines. Each stage applies its parts in a fixed order: keep the documents its
filter selects, sort them stably by its sort keys, skip and limit, keep only the projected
fields that a document has, and finally replace everything by a count.

A batch may be absent rather than empty: sorting an empty batch, or skipping past its end,
leaves no batch at all, which is written as `null`.
-/

namespace CrudRoutes

/-- A sort key: a field and its direction. -/
structure SortKey where
  field : String
  desc : Bool := false
  deriving Repr, Inhabited

/-- One stage of a pipeline; an empty part does nothing. -/
structure Stage where
  filter : Filter := {}
  sort : List SortKey := []
  skip : Int := 0
  limit : Int := 0
  project : List String := []
  count : String := ""
  deriving Repr, Inhabited

abbrev Pipeline := List Stage

namespace Stage

def before (keys : List SortKey) (a b : Fields) : Bool :=
  match keys with
  | [] => false
  | k :: rest =>
    match Value.order (Filter.fieldOf a k.field) (Filter.fieldOf b k.field) with
    | .eq => before rest a b
    | .lt => !k.desc
    | .gt => k.desc

def projectDoc (names : List String) (doc : Fields) : Fields :=
  names.foldl (fun acc n =>
    match Fields.get? doc n with
    | some v => Fields.set acc n v
    | none => acc) []

def apply (st : Stage) (batch : Option (List Fields)) : Option (List Fields) :=
  let b1 := if st.filter.isEmpty then batch
    else some ((batch.getD []).filter st.filter.selects)
  let b2 := if st.sort.isEmpty then b1
    else
      let xs := b1.getD []
      if xs.isEmpty then none
      else some (xs.mergeSort fun a c => !before st.sort c a)
  let b3 := if st.skip > 0 then
      let xs := b2.getD []
      if st.skip ≥ xs.length then none else some (xs.drop st.skip.toNat)
    else b2
  let b4 := if st.limit > 0 && st.limit < (b3.getD []).length then
      some ((b3.getD []).take st.limit.toNat)
    else b3
  let b5 := if st.project.isEmpty then b4 else some ((b4.getD []).map (projectDoc st.project))
  if st.count.isEmpty then b5 else some [[(st.count, .int (b5.getD []).length)]]

end Stage

/-- Applies the stages in order. -/
def Pipeline.run (p : Pipeline) (batch : Option (List Fields)) : Option (List Fields) :=
  p.foldl (fun b st => st.apply b) batch

end CrudRoutes
