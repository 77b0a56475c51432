/-!
Character tables written as text. An entry is a hexadecimal code point `lo` or a range `lo-hi`,
optionally followed by `:target`, which sends `lo + k` to `target + k`; entries are separated by
blanks and sorted. A table is read once into an array of spans and searched by bisection.
-/

namespace CrudRoutes.Text

/-- A closed range of code points together with the image of its first point. -/
structure Span where
  lo : Nat
  hi : Nat
  target : Nat
  deriving Repr, Inhabited

namespace Span

def hexDigit? (c : Char) : Option Nat :=
  if '0' ≤ c ∧ c ≤ '9' then some (c.toNat - '0'.toNat)
  else if 'a' ≤ c ∧ c ≤ 'f' then some (c.toNat - 'a'.toNat + 10)
  else if 'A' ≤ c ∧ c ≤ 'F' then some (c.toNat - 'A'.toNat + 10)
  else none

def hex? (s : String) : Option Nat :=
  if s.isEmpty then none
  else s.toList.foldlM (fun acc c => (hexDigit? c).map (acc * 16 + ·)) 0

def range? (s : String) : Option (Nat × Nat) :=
  match s.splitOn "-" with
  | [a] => (hex? a).map fun n => (n, n)
  | [a, b] => do pure (← hex? a, ← hex? b)
  | _ => none

def ofEntry? (s : String) : Option Span :=
  match s.splitOn ":" with
  | [r] => (range? r).map fun (lo, hi) => ⟨lo, hi, lo⟩
  | [r, t] => do
    let (lo, hi) ← range? r
    pure ⟨lo, hi, ← hex? t⟩
  | _ => none

def table (text : String) : Array Span :=
  ((text.splitOn " ").filterMap ofEntry?).toArray

def find? (t : Array Span) (c : Nat) : Option Span :=
  go 0 t.size
where
  go (lo hi : Nat) : Option Span :=
    if lo < hi then
      let mid := (lo + hi) / 2
      match t[mid]? with
      | none => none
      | some s =>
        if c < s.lo then go lo mid
        else if s.hi < c then go (mid + 1) hi
        else some s
    else none
  termination_by hi - lo

def mem (t : Array Span) (c : Char) : Bool :=
  (find? t c.toNat).isSome

def apply (t : Array Span) (c : Char) : Char :=
  match find? t c.toNat with
  | some s => Char.ofNat (s.target + (c.toNat - s.lo))
  | none => c

end Span

end CrudRoutes.Text
