/-!
Decimal forms of binary64 numbers, in exact integer arithmetic.

A finite double `m · 2^q` stands for the interval of reals that round to it, ends included when
`m` is even. Its shortest form is the decimal with the fewest significant digits inside that
interval and, of two such, the one nearer to the double. Reading goes the other way: a decimal
`m · 10^e` becomes the nearest double, a tie going to the even mantissa.
-/

namespace CrudRoutes.Decimal

/-- A finite double as sign, integer mantissa and binary exponent. `tight` marks a power of two
above the least normal exponent, whose lower neighbour is half as far away as its upper one. -/
structure Binary where
  neg : Bool
  mant : Nat
  exp : Int
  tight : Bool
  deriving Repr

/-- What the bits of a double encode. -/
inductive Bits where
  | finite (b : Binary)
  | infinite (neg : Bool)
  | nan
  deriving Repr

def Bits.ofFloat (x : Float) : Bits :=
  let bits := x.toBits.toNat
  let neg := bits / Nat.pow 2 63 == 1
  let e : Nat := (bits / Nat.pow 2 52) % 2048
  let f : Nat := bits % Nat.pow 2 52
  if e == 2047 then (if f == 0 then .infinite neg else .nan)
  else if e == 0 then .finite ⟨neg, f, -1074, false⟩
  else .finite ⟨neg, f + Nat.pow 2 52, (e : Int) - 1075, f == 0 && e > 1⟩

/-- Significant digits `d₁ … dₙ`, none of them a trailing zero, and the place of the decimal
point: the number is `0.d₁…dₙ · 10^point`. Zero has no digits. -/
structure Digits where
  digits : List Nat
  point : Int
  deriving Repr, BEq, Inhabited

def pow2 (p : Int) : Nat × Nat :=
  if p ≥ 0 then (Nat.pow 2 p.toNat, 1) else (1, Nat.pow 2 (-p).toNat)

def pow10 (k : Int) : Nat × Nat :=
  if k ≥ 0 then (Nat.pow 10 k.toNat, 1) else (1, Nat.pow 10 (-k).toNat)

def cmpScaled (a : Nat) (p : Int) (b : Nat) (k : Int) : Ordering :=
  let (pn, pd) := pow2 p
  let (kn, kd) := pow10 k
  compare (a * pn * kd) (b * kn * pd)

def digitCount (n : Nat) : Nat :=
  (Nat.toDigits 10 n).length

def decimalExponent (m : Nat) (q : Int) : Int :=
  let b : Int := (Nat.log2 m : Int) + q
  let est := Int.fdiv (b * 30103) 100000
  let up (e : Int) : Int :=
    if cmpScaled m q 1 (e + 1) != .lt then e + 1 else e
  let down (e : Int) : Int :=
    if cmpScaled m q 1 e == .lt then e - 1 else e
  up (up (down (down est)))

def Digits.ofScaled (d : Nat) (j : Int) : Digits :=
  let ds := (Nat.toDigits 10 d).map (fun c => c.toNat - '0'.toNat)
  let kept := (ds.reverse.dropWhile (· == 0)).reverse
  ⟨kept, (ds.length : Int) + j⟩

def shortestOf (b : Binary) : Digits :=
  let m := b.mant
  let q := b.exp
  let lower := if b.tight then 4 * m - 1 else 4 * m - 2
  let upper := 4 * m + 2
  let inside (d : Nat) (j : Int) : Bool :=
    let lo := cmpScaled lower (q - 2) d j
    let hi := cmpScaled upper (q - 2) d j
    if m % 2 == 0 then lo != .gt && hi != .lt else lo == .lt && hi == .gt
  let e := decimalExponent m q
  let rec search (n : Nat) (fuel : Nat) : Digits :=
    match fuel with
    | 0 => Digits.ofScaled m 0
    | fuel + 1 =>
      let j : Int := e + 1 - n
      let (pn, pd) := pow2 q
      let (kn, kd) := pow10 j
      let d0 := (m * pn * kd) / (pd * kn)
      let in0 := inside d0 j
      let in1 := inside (d0 + 1) j
      if in0 && in1 then
        -- nearer of the two: compare 2v with (2 d0 + 1) · 10^j
        match cmpScaled (2 * m) q (2 * d0 + 1) j with
        | .lt => Digits.ofScaled d0 j
        | .gt => Digits.ofScaled (d0 + 1) j
        | .eq => if d0 % 2 == 0 then Digits.ofScaled d0 j else Digits.ofScaled (d0 + 1) j
      else if in0 then Digits.ofScaled d0 j
      else if in1 then Digits.ofScaled (d0 + 1) j
      else search (n + 1) fuel
  if m == 0 then ⟨[], 0⟩ else search 1 17

def nearestRatio (neg : Bool) (num den : Nat) : Option Float :=
  let sign : Nat := if neg then Nat.pow 2 63 else 0
  if num == 0 then some (Float.ofBits (UInt64.ofNat sign)) else
  -- binary exponent so that the quotient has 53 bits, clamped at the subnormal range
  let q0 : Int := (Nat.log2 num : Int) - (Nat.log2 den : Int) - 52
  let scaledQuot (q : Int) : Nat × Nat :=
    let (pn, pd) := pow2 q
    (num * pd, den * pn)
  let fits (q : Int) : Bool :=
    let (a, b) := scaledQuot q
    a / b < Nat.pow 2 53
  let q1 := if fits q0 then (if fits (q0 - 1) then q0 - 1 else q0) else q0 + 1
  let q := if q1 < -1074 then -1074 else q1
  let (a, b) := scaledQuot q
  let t := a / b
  let r := a % b
  let mant := if 2 * r > b || (2 * r == b && t % 2 == 1) then t + 1 else t
  let (mant, q) := if mant == Nat.pow 2 53 then (Nat.pow 2 52, q + 1) else (mant, q)
  if mant < Nat.pow 2 52 then
    some (Float.ofBits (UInt64.ofNat (sign + mant)))
  else if q + 1075 ≥ 2047 then none
  else some (Float.ofBits (UInt64.ofNat (sign + (q + 1075).toNat * Nat.pow 2 52 + (mant - Nat.pow 2 52))))

def nearest (neg : Bool) (m : Nat) (e : Int) : Option Float :=
  let sign : Nat := if neg then Nat.pow 2 63 else 0
  if m == 0 then some (Float.ofBits (UInt64.ofNat sign)) else
  -- far outside the range of doubles the answer is known without computing the power
  let magnitude : Int := (digitCount m : Int) + e
  if magnitude > 310 then none else
  if magnitude < -330 then some (Float.ofBits (UInt64.ofNat sign)) else
  let (en, ed) := pow10 e
  nearestRatio neg (m * en) ed

def nearestBinary (neg : Bool) (m : Nat) (e : Int) : Option Float :=
  let sign : Nat := if neg then Nat.pow 2 63 else 0
  if m == 0 then some (Float.ofBits (UInt64.ofNat sign)) else
  let magnitude : Int := (Nat.log2 m : Int) + e
  if magnitude > 1100 then none else
  if magnitude < -1200 then some (Float.ofBits (UInt64.ofNat sign)) else
  let (pn, pd) := pow2 e
  nearestRatio neg (m * pn) pd

end CrudRoutes.Decimal
