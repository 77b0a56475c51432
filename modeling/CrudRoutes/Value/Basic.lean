import CrudRoutes.Time.Basic

/-!
Values held in documents. Besides the JSON values (null, booleans, doubles, strings, arrays and
objects) a value may be a machine integer, an instant, a list of alternatives, which a filter
reads as "any of these", or a document held inside another. Objects are lists of fields; those
that stand for maps keep their fields sorted by name with each name once, which `Fields.set`
preserves. A held document is written and shown as an object but is a kind of its own when
values are compared below the top.
-/

namespace CrudRoutes

/-- A dynamic value of a document. -/
inductive Value where
  | null
  | bool (b : Bool)
  | num (x : Float)
  | int (n : Int)
  | str (s : String)
  | time (t : Time)
  | arr (items : List Value)
  | anyOf (items : List Value)
  | obj (fields : List (String × Value))
  | doc (fields : List (String × Value))
  deriving Inhabited, Repr

abbrev Fields := List (String × Value)

namespace Fields

def get? : Fields → String → Option Value
  | [], _ => none
  | (k', v) :: rest, k => if k' == k then some v else get? rest k

def has (fs : Fields) (k : String) : Bool :=
  (get? fs k).isSome

/-- Sets a field, keeping names sorted and unique: an existing field is replaced in place, a
new one goes before the first greater name. -/
def set : Fields → String → Value → Fields
  | [], k, v => [(k, v)]
  | (k', v') :: rest, k, v =>
    if k == k' then (k, v) :: rest
    else if k < k' then (k, v) :: (k', v') :: rest
    else (k', v') :: set rest k v

def erase : Fields → String → Fields
  | [], _ => []
  | (k', v') :: rest, k => if k' == k then erase rest k else (k', v') :: erase rest k

def ofPairs (ps : List (String × Value)) : Fields :=
  ps.foldl (fun acc (k, v) => set acc k v) []

def names (fs : Fields) : List String :=
  fs.map Prod.fst

end Fields

namespace Value

def isNull : Value → Bool
  | .null => true
  | _ => false

def str? : Value → Option String
  | .str s => some s
  | _ => none

def obj? : Value → Option Fields
  | .obj fs => some fs
  | _ => none

def arr? : Value → Option (List Value)
  | .arr xs => some xs
  | _ => none

def field (v : Value) (k : String) : Value :=
  match v with
  | .obj fs => (Fields.get? fs k).getD .null
  | _ => .null

def map (ps : List (String × Value)) : Value :=
  .obj (Fields.ofPairs ps)

def strs (xs : List String) : Value :=
  .arr (xs.map .str)

mutual

def asMap : Value → Value
  | .arr xs => .arr (asMapItems xs)
  | .anyOf xs => .anyOf (asMapItems xs)
  | .obj fs => .obj (Fields.ofPairs (asMapFields fs))
  | .doc fs => .doc (Fields.ofPairs (asMapFields fs))
  | v => v

def asMapItems : List Value → List Value
  | [] => []
  | v :: rest => asMap v :: asMapItems rest

def asMapFields : List (String × Value) → List (String × Value)
  | [] => []
  | (k, v) :: rest => (k, asMap v) :: asMapFields rest

end

end Value

end CrudRoutes
