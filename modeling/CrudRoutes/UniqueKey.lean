import CrudRoutes.Filter
import CrudRoutes.Value.Text
import CrudRoutes.Json.Write
import CrudRoutes.Entity.Basic

/-!
Unique keys. A key pattern is a list of field names; the key of a document under a pattern is
the JSON text of its normalised values in pattern order. A document is indexed under a pattern
only when one of the pattern's fields other than `deletedAt` is not null, so documents that leave
a key empty never collide, and when JSON can write the values.

A duplicate key is reported with the collection, the pattern and the offending values; its
message for people names the fields other than `deletedAt`.
-/

namespace CrudRoutes

def keyName (pattern : List String) : String :=
  "+".intercalate pattern

/-- The indexed key of a document under a pattern: the key text and the raw values by field;
`none` when every field other than `deletedAt` is null, or when JSON cannot write the values. -/
def uniqueKey (doc : Fields) (pattern : List String) : Option (String × Fields) :=
  let raw := pattern.map fun n => (n, Filter.fieldOf doc n)
  let values := raw.map fun (_, v) => Value.normalize v
  let indexed := raw.any fun (n, v) => n != fieldDeletedAt && !(Value.normalize v).isNull
  if indexed && (Json.unwritableItems? values).isNone then
    some (Json.render (.arr values), Fields.ofPairs raw)
  else none

/-- A write that would give two documents of a collection the same key. -/
structure DuplicateKey where
  collection : String
  keyPattern : List String
  keyValue : Fields
  deriving Inhabited

namespace DuplicateKey

def text (e : DuplicateKey) : String :=
  "E11000 duplicate key error collection: " ++ e.collection ++ " key: " ++ Value.text (.obj e.keyValue)

def message (e : DuplicateKey) : String :=
  let parts := (e.keyPattern.filter (· != fieldDeletedAt)).map fun f =>
    f ++ " '" ++ Value.text ((Fields.get? e.keyValue f).getD .null) ++ "'"
  match parts with
  | [] => "Duplicate key"
  | [p] => p ++ " is already used"
  | ps => "The combination of " ++ ", ".intercalate ps ++ " already exists"

end DuplicateKey

end CrudRoutes
