import CrudRoutes.Decimal.Shortest

/-!
Reading numbers and booleans from text, as query strings carry them.

A number is a decimal (`-12.5e3`, `.5`, `7.`) or a hexadecimal one with a binary exponent
(`0x1.8p3`), rounded to the nearest double; underscores may separate digits. `inf`, `infinity`
(with a sign) and `nan` are read in any case. A number beyond the largest double is refused.
A boolean is `1`, `t`, `T`, `true`, `True` or `TRUE`, or the same for false.
-/

namespace CrudRoutes.Text

def equalsFolded (a b : String) : Bool :=
  a.toList.map Char.toLower == b.toList.map Char.toLower

def specialFloat? (s : String) : Option Float :=
  let (neg, body, signed) := match s.toList with
    | '-' :: r => (true, String.ofList r, true)
    | '+' :: r => (false, String.ofList r, true)
    | r => (false, String.ofList r, false)
  if equalsFolded body "inf" || equalsFolded body "infinity" then
    some (if neg then -1.0 / 0.0 else 1.0 / 0.0)
  else if !signed && equalsFolded body "nan" then some (0.0 / 0.0)
  else none

def underscoresOk (s : String) : Bool :=
  let cs := match s.toList with
    | '-' :: r => r
    | '+' :: r => r
    | r => r
  let (hex, start, rest) := match cs with
    | '0' :: b :: r =>
      let l := b.toLower
      if l == 'b' || l == 'o' || l == 'x' then (l == 'x', '0', r) else (false, '^', cs)
    | _ => (false, '^', cs)
  let final := rest.foldl (fun (saw : Option Char) c =>
    match saw with
    | none => none
    | some w =>
      if c.isDigit || (hex && 'a' ≤ c.toLower && c.toLower ≤ 'f') then some '0'
      else if c == '_' then (if w == '0' then some '_' else none)
      else if w == '_' then none
      else some '!') (some start)
  match final with
  | some w => w != '_'
  | none => false

def digitIn (base : Nat) (c : Char) : Option Nat :=
  let l := c.toLower
  let d := if c.isDigit then c.toNat - '0'.toNat
    else if 'a' ≤ l && l ≤ 'z' then l.toNat - 'a'.toNat + 10 else 99
  if d < base then some d else none

def readMantissa (base : Nat) (cs : List Char) : Option (Nat × Nat × List Char) :=
  let intDigits := cs.takeWhile fun c => (digitIn base c).isSome
  let rest := cs.drop intDigits.length
  let (fracDigits, rest) := match rest with
    | '.' :: r =>
      let f := r.takeWhile fun c => (digitIn base c).isSome
      (f, r.drop f.length)
    | r => ([], r)
  if intDigits.isEmpty && fracDigits.isEmpty then none else
  let value := (intDigits ++ fracDigits).foldl (fun acc c => acc * base + (digitIn base c).getD 0) 0
  some (value, fracDigits.length, rest)

def readExponent (cs : List Char) : Option Int :=
  let (neg, ds) := match cs with
    | '-' :: r => (true, r)
    | '+' :: r => (false, r)
    | r => (false, r)
  if ds.isEmpty || !ds.all Char.isDigit then none else
  let n : Int := ds.foldl (fun acc c => acc * 10 + (c.toNat - '0'.toNat)) 0
  some (if neg then -n else n)

def hexDigits? : List Char → Option (List Char)
  | '0' :: x :: c :: r => if x == 'x' || x == 'X' then some (c :: r) else none
  | _ => none

def parseFloat? (s : String) : Option Float :=
  match specialFloat? s with
  | some x => some x
  | none =>
    if s.contains '_' && !underscoresOk s then none else
    let cs := s.toList.filter (· != '_')
    let (neg, body) := match cs with
      | '-' :: r => (true, r)
      | '+' :: r => (false, r)
      | r => (false, r)
    match hexDigits? body with
    | some r => do
      let (m, frac, rest) ← readMantissa 16 r
      match rest with
      | p :: e =>
        if p == 'p' || p == 'P' then do
          let e ← readExponent e
          Decimal.nearestBinary neg m (e - 4 * frac)
        else none
      | [] => none
    | none => decimalOf neg body
where
  decimalOf (neg : Bool) (body : List Char) : Option Float := do
    let (m, frac, rest) ← readMantissa 10 body
    let e ← match rest with
      | [] => some 0
      | c :: r => if c == 'e' || c == 'E' then readExponent r else none
    Decimal.nearest neg m (e - frac)

def parseBool? (s : String) : Option Bool :=
  if ["1", "t", "T", "true", "True", "TRUE"].contains s then some true
  else if ["0", "f", "F", "false", "False", "FALSE"].contains s then some false
  else none

end CrudRoutes.Text
