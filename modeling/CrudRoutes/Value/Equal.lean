import CrudRoutes.Value.Basic
import CrudRoutes.Decimal.Shortest
import CrudRoutes.Time.Text

/-!
Equality and order of document values.

Values are compared loosely at the top and strictly inside: a top-level integer counts as the
double it rounds to and a top-level instant as its UTC timestamp text, so that a value read back
from stored JSON still equals the value written, and a top-level held document counts as an
object. Below the top, values are equal only when they have the same kind and equal parts:
`[1]` and `[1.0]` are equal, an array is never equal to a list of alternatives, an integer inside
an array never equals a double, and a held document inside an array never equals an object.

The order used for sorting ranks null, then booleans, then numbers, then strings; everything
else ties with everything else of its rank.
-/

namespace CrudRoutes.Value

def intToFloat (n : Int) : Float :=
  (Decimal.nearest (n < 0) n.natAbs 0).getD (if n < 0 then -1.0 / 0.0 else 1.0 / 0.0)

/-- The form in which a top-level value is compared: integers become doubles, instants
become their UTC timestamp text and a held document becomes an object. -/
def normalize : Value → Value
  | .int n => .num (intToFloat n)
  | .time t => .str t.toUTC.stamp
  | .doc fs => .obj fs
  | v => v

mutual

def same : Value → Value → Bool
  | .null, .null => true
  | .bool a, .bool b => a == b
  | .num a, .num b => a == b
  | .int a, .int b => a == b
  | .str a, .str b => a == b
  | .time a, .time b => a == b
  | .arr xs, .arr ys => sameItems xs ys
  | .anyOf xs, .anyOf ys => sameItems xs ys
  | .obj fs, .obj gs => fs.length == gs.length && sameFields fs gs
  | .doc fs, .doc gs => fs.length == gs.length && sameFields fs gs
  | _, _ => false

def sameItems : List Value → List Value → Bool
  | [], [] => true
  | x :: xs, y :: ys => same x y && sameItems xs ys
  | _, _ => false

def sameFields : List (String × Value) → List (String × Value) → Bool
  | [], _ => true
  | (k, v) :: rest, gs =>
    (match Fields.get? gs k with
      | some w => same v w
      | none => false) && sameFields rest gs

end

/-- Loose equality of two field values: compared after normalising the top level; null equals
only null. -/
def looseEq (a b : Value) : Bool :=
  let a := normalize a
  let b := normalize b
  if a.isNull || b.isNull then a.isNull && b.isNull else same a b

def rank : Value → Nat
  | .null => 0
  | .bool _ => 1
  | .num _ => 2
  | .str _ => 3
  | _ => 4

/-- The sort order of field values: by rank, then by value within booleans, numbers and
strings; incomparable doubles tie. -/
def order (a b : Value) : Ordering :=
  let a := normalize a
  let b := normalize b
  if rank a != rank b then compare (rank a) (rank b)
  else
    match a, b with
    | .bool x, .bool y => if x == y then .eq else if !x then .lt else .gt
    | .num x, .num y => if x < y then .lt else if y < x then .gt else .eq
    | .str x, .str y => compare x y
    | _, _ => .eq

end CrudRoutes.Value
