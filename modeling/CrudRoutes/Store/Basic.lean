import CrudRoutes.Fault
import CrudRoutes.Pipeline
import CrudRoutes.Decimal.Text

/-!
What every document store shares: the description of a collection, the results of writes, the
host a store runs on, and the identity of documents.

The host is the clock and the count of identifiers drawn so far. Identifiers are version-4
UUIDs drawn in sequence, the `n`-th being `00000000-0000-4000-8000-` followed by `n` in twelve
hexadecimal digits, so that every run of a program is reproducible.
-/

namespace CrudRoutes

/-- What a store needs to know before serving a collection. -/
structure CollectionSpec where
  name : String
  uniqueKeys : List (List String) := []
  deriving Repr, Inhabited

/-- The counts of an update. -/
structure UpdateResult where
  matched : Nat := 0
  modified : Nat := 0
  deriving Repr, Inhabited

/-- The count of a deletion. -/
structure DeleteResult where
  deleted : Nat := 0
  deriving Repr, Inhabited

/-- The clock and the identifiers drawn so far. -/
structure Host where
  now : Time
  drawn : Nat := 0
  deriving Inhabited

def uuidOf (n : Nat) : String :=
  "00000000-0000-4000-8000-" ++ Text.hexWidth n 12

def Host.draw (h : Host) : String × Host :=
  (uuidOf (h.drawn + 1), { h with drawn := h.drawn + 1 })

def docId (doc : Fields) : String :=
  match Fields.get? doc fieldId with
  | some (.str s) => s
  | some .null => ""
  | none => ""
  | some v => Value.text v

def withoutFields (doc : Fields) (names : List String) : Fields :=
  doc.filter fun (k, _) => !names.contains k

mutual

def Value.stored : Value → Value
  | .int n => .num (Value.intToFloat n)
  | .time t => .str t.stamp
  | .anyOf xs => .arr (Value.storedItems xs)
  | .arr xs => .arr (Value.storedItems xs)
  | .obj fs => .obj (Value.storedFields fs)
  | .doc fs => .obj (Value.storedFields fs)
  | .null => .null
  | .bool b => .bool b
  | .num x => .num x
  | .str s => .str s

def Value.storedItems : List Value → List Value
  | [] => []
  | v :: rest => Value.stored v :: Value.storedItems rest

def Value.storedFields : List (String × Value) → List (String × Value)
  | [] => []
  | (k, v) :: rest => (k, Value.stored v) :: Value.storedFields rest

end

def storedDoc (doc : Fields) : Fields :=
  Value.storedFields doc

def mergeChange (now : Time) (current set : Fields) : Fields :=
  let next := set.foldl (fun acc (k, v) =>
    if k == fieldId || k == fieldCreatedAt then acc else Fields.set acc k v) current
  Fields.set next fieldUpdatedAt (.time now)

end CrudRoutes
