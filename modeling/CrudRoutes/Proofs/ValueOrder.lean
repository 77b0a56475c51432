import Mathlib
import CrudRoutes.Value.Equal

/-!
The sort order of field values as a lawful comparison.

A double that is not NaN has a place on the line of doubles: negative infinity, the negative
numbers, the two zeros together, the positive numbers, positive infinity. The IEEE comparison of
two such doubles is the comparison of their places (`UnpackedFloat.compare_eq_cmp`), so `<` is a
strict weak order on them and `==` is reflexive.

A value stands in the sort order by its rank, then by the boolean, the place of the double or
the string it holds (`Value.standing`). On values that are not NaN, `Value.order` is the
comparison of standings (`Value.order_eq_compare`), which is a total preorder on all values; an
instant stands where the text of its UTC timestamp stands.
-/

namespace CrudRoutes

open Float.Model Float.Model.UnpackedFloat

/-- The place of a double on the line of doubles: its side of zero, then its exponent and its
mantissa, both reversed on the negative side. -/
structure Place where
  side : Int
  exponent : Int
  mantissa : Int
  deriving DecidableEq, Repr

namespace Place

def ofUnpacked : UnpackedFloat → Place
  | .infinity .negative => ⟨0, 0, 0⟩
  | .finite .negative m e _ => ⟨1, -e, -m⟩
  | .zero _ => ⟨2, 0, 0⟩
  | .notANumber => ⟨2, 0, 0⟩
  | .finite .positive m e _ => ⟨3, e, m⟩
  | .infinity .positive => ⟨4, 0, 0⟩

def ofFloat (x : Float) : Place :=
  ofUnpacked x.toModel.unpack

def cmp : Place → Place → Ordering :=
  compareLex (compareOn (·.side)) (compareLex (compareOn (·.exponent)) (compareOn (·.mantissa)))

instance : Ord Place := ⟨cmp⟩

instance : Std.TransOrd Place := inferInstanceAs (Std.TransCmp (compareLex _ _))

theorem compare_eq_cmp (p q : Place) : compare p q = p.cmp q := rfl

end Place

theorem Int.compare_neg (a b : Int) : compare (-a) (-b) = compare b a := by
  rcases lt_trichotomy a b with h | rfl | h
  · rw [compare_gt_iff_gt.2 (neg_lt_neg h), compare_gt_iff_gt.2 h]
  · rw [compare_eq_iff_eq.2 rfl, compare_eq_iff_eq.2 rfl]
  · rw [compare_lt_iff_lt.2 (neg_lt_neg h), compare_lt_iff_lt.2 h]

theorem Int.compare_natCast (a b : Nat) : compare (a : Int) (b : Int) = compare a b := by
  rcases lt_trichotomy a b with h | rfl | h
  · rw [compare_lt_iff_lt.2 h, compare_lt_iff_lt.2 (Int.ofNat_lt.2 h)]
  · rw [compare_eq_iff_eq.2 rfl, compare_eq_iff_eq.2 rfl]
  · rw [compare_gt_iff_gt.2 h, compare_gt_iff_gt.2 (Int.ofNat_lt.2 h)]

/-- On doubles that are not NaN, the IEEE comparison is the comparison of places. -/
theorem UnpackedFloat.compare_eq_cmp {u v : UnpackedFloat} (hu : u.isNaN = false)
    (hv : v.isNaN = false) : u.compare v = some (compare (Place.ofUnpacked u) (Place.ofUnpacked v)) := by
  cases u with
  | notANumber => simp [UnpackedFloat.isNaN] at hu
  | infinity s =>
    cases v with
    | notANumber => simp [UnpackedFloat.isNaN] at hv
    | infinity t => cases s <;> cases t <;> rfl
    | zero t => cases s <;> cases t <;> rfl
    | finite t m e hm => cases s <;> cases t <;> rfl
  | zero s =>
    cases v with
    | notANumber => simp [UnpackedFloat.isNaN] at hv
    | infinity t => cases s <;> cases t <;> rfl
    | zero t => cases s <;> cases t <;> rfl
    | finite t m e hm => cases s <;> cases t <;> rfl
  | finite s m e hm =>
    cases v with
    | notANumber => simp [UnpackedFloat.isNaN] at hv
    | infinity t => cases s <;> cases t <;> rfl
    | zero t => cases s <;> cases t <;> rfl
    | finite t n f hn =>
      cases s <;> cases t
      · -- the negative numbers run backwards: both comparisons are swapped
        have hswap (a b : Int) : (compare a b).swap = compare b a :=
          Std.OrientedCmp.eq_swap.symm
        have hswapNat (a b : Nat) : (compare a b).swap = compare b a :=
          Std.OrientedCmp.eq_swap.symm
        simp only [UnpackedFloat.compare, Ordering.swap_then, hswap, hswapNat, Place.ofUnpacked,
          Place.compare_eq_cmp, Place.cmp, compareLex, compareOn, Int.compare_neg, Int.compare_natCast,
          compare_eq_iff_eq.2 rfl, Ordering.eq_then]
      · rfl
      · rfl
      · simp [UnpackedFloat.compare, Place.ofUnpacked, Place.compare_eq_cmp, Place.cmp, compareLex,
          compareOn, Int.compare_natCast]

namespace Float

variable {x y : Float}

theorem lt_iff_cmp (hx : x.isNaN = false) (hy : y.isNaN = false) :
    x < y ↔ compare (Place.ofFloat x) (Place.ofFloat y) = .lt := by
  have h := UnpackedFloat.compare_eq_cmp hx hy
  simp only [LT.lt, Float.lt, Float.Model.lt, UnpackedFloat.lt, h, decide_eq_true_eq,
    beq_iff_eq, Option.some.injEq]
  rfl

theorem beq_self (hx : x.isNaN = false) : (x == x) = true := by
  have h := UnpackedFloat.compare_eq_cmp hx hx
  have hrefl : compare (Place.ofFloat x) (Place.ofFloat x) = .eq := Std.ReflCmp.compare_self
  show x.toModel.unpack.beq x.toModel.unpack = true
  rw [UnpackedFloat.beq, h]
  exact congrArg (fun o => some o == some Ordering.eq) hrefl

theorem ite_lt_eq_cmp (hx : x.isNaN = false) (hy : y.isNaN = false) :
    (if x < y then Ordering.lt else if y < x then .gt else .eq) =
      compare (Place.ofFloat x) (Place.ofFloat y) := by
  have hyx : compare (Place.ofFloat y) (Place.ofFloat x) =
      (compare (Place.ofFloat x) (Place.ofFloat y)).swap := Std.OrientedCmp.eq_swap
  simp only [lt_iff_cmp hx hy, lt_iff_cmp hy hx, hyx]
  cases compare (Place.ofFloat x) (Place.ofFloat y) <;> rfl

end Float

namespace Value

/-- A value that has a place in the sort order: after normalising, it is not a NaN. -/
def Comparable (v : Value) : Prop :=
  ∀ x, v.normalize = .num x → x.isNaN = false

/-- Where a value stands in the sort order: its rank, then the boolean, the place of the double
or the string it holds. -/
structure Standing where
  rank : Nat
  truth : Bool := false
  place : Place := ⟨2, 0, 0⟩
  text : String := ""

def Standing.cmp : Standing → Standing → Ordering :=
  compareLex (compareOn (·.rank)) <| compareLex (compareOn (·.truth)) <|
    compareLex (compareOn (·.place)) (compareOn (·.text))

instance : Ord Standing := ⟨Standing.cmp⟩

instance : Std.TransOrd Standing := inferInstanceAs (Std.TransCmp (compareLex _ _))

theorem Standing.compare_eq_cmp (p q : Standing) : compare p q = p.cmp q := rfl

theorem Standing.compare_of_rank_ne {p q : Standing} (h : p.rank ≠ q.rank) :
    compare p q = compare p.rank q.rank := by
  have hne : compare p.rank q.rank ≠ .eq := fun he => h (compare_eq_iff_eq.1 he)
  simp only [compare_eq_cmp, Standing.cmp, compareLex, compareOn]
  cases hc : compare p.rank q.rank
  · rfl
  · exact absurd hc hne
  · rfl

/-- The standing of a value, read off its normalised form: integers stand as the double they
round to and instants as the text of their UTC timestamp. -/
def standing (v : Value) : Standing :=
  match v.normalize with
  | .bool b => { rank := 1, truth := b }
  | .num x => { rank := 2, place := .ofFloat x }
  | .str s => { rank := 3, text := s }
  | w => { rank := rank w }

theorem standing_time (t : Time) : (Value.time t).standing = (Value.str t.toUTC.stamp).standing :=
  rfl

theorem standing_rank (v : Value) : v.standing.rank = rank v.normalize := by
  unfold standing
  split <;> simp_all [rank]

theorem order_eq_compare {a b : Value} (ha : a.Comparable) (hb : b.Comparable) :
    order a b = compare a.standing b.standing := by
  unfold Comparable at ha hb
  by_cases hr : rank a.normalize = rank b.normalize
  · -- one rank: the kinds agree, and the value inside decides
    simp only [order, hr, bne_self_eq_false, Bool.false_eq_true, if_false, standing]
    generalize a.normalize = x at ha hr ⊢
    generalize b.normalize = y at hb hr ⊢
    cases x <;> cases y <;> simp [rank] at hr ⊢
    case bool.bool p q => cases p <;> cases q <;> rfl
    case num.num x y =>
      rw [Float.ite_lt_eq_cmp (ha x rfl) (hb y rfl)]
      simp [Standing.compare_eq_cmp, Standing.cmp, compareLex, compareOn, Std.ReflCmp.compare_self]
    case str.str s t =>
      simp [Standing.compare_eq_cmp, Standing.cmp, compareLex, compareOn, Std.ReflCmp.compare_self]
  · rw [Standing.compare_of_rank_ne (by rwa [standing_rank, standing_rank])]
    simp [order, hr, standing_rank]

end Value

end CrudRoutes
