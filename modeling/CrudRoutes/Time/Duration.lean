/-!
Durations as text: a sign, then one or more decimal numbers each followed by a unit (`ns`,
`us`, `µs`, `μs`, `ms`, `s`, `m`, `h`), such as `1h30m` or `-1.5s`; `0` alone is zero. A
duration is a whole number of nanoseconds and must fit in 63 bits.

Durations are written as hours, minutes and seconds (`12h0m0s`, `1m30.5s`), or below a second
in the largest unit that keeps the number at least one (`1.5ms`).
-/

namespace CrudRoutes.Duration

def unitNanos : String → Option Nat
  | "ns" => some 1
  | "us" => some 1000
  | "µs" => some 1000
  | "μs" => some 1000
  | "ms" => some 1000000
  | "s" => some 1000000000
  | "m" => some 60000000000
  | "h" => some 3600000000000
  | _ => none

def limit : Nat := Nat.pow 2 63

def quote (s : String) : String :=
  let hex := fun (n : Nat) => String.singleton (Char.ofNat (if n < 10 then 48 + n else 87 + n))
  let body := s.toList.map fun c =>
    if c.toNat ≥ 128 || c.toNat < 32 then
      String.join ((String.singleton c).toUTF8.toList.map fun b =>
        "\\x" ++ hex (b.toNat / 16) ++ hex (b.toNat % 16))
    else if c == '"' || c == '\\' then "\\" ++ String.singleton c
    else String.singleton c
  "\"" ++ String.join body ++ "\""

def leadingInt (cs : List Char) : Option (Nat × List Char) :=
  let ds := cs.takeWhile Char.isDigit
  let v := ds.foldl (fun acc d => acc * 10 + (d.toNat - 48)) 0
  if v ≥ limit then none else some (v, cs.drop ds.length)

def leadingFraction (cs : List Char) : Nat × Float × List Char :=
  let ds := cs.takeWhile Char.isDigit
  let (v, scale, overflow) := ds.foldl (fun (v, scale, overflow) d =>
    if overflow then (v, scale, true)
    else if v > (limit - 1) / 10 then (v, scale, true)
    else
      let v' := v * 10 + (d.toNat - 48)
      if v' ≥ limit then (v, scale, true) else (v', scale * 10, false)) (0, (1 : Float), false)
  let _ := overflow
  (v, scale, cs.drop ds.length)

def readTerms (orig : String) : Nat → List Char → Nat → Except String Nat
  | 0, _, total => .ok total
  | _, [], total => .ok total
  | fuel + 1, s, total => do
    let invalid := "time: invalid duration " ++ quote orig
    match s with
    | c :: _ => if !(c == '.' || c.isDigit) then throw invalid else pure ()
    | [] => pure ()
    let some (v, s1) := leadingInt s | throw invalid
    let pre := s1.length != s.length
    let (f, scale, s2, post) := match s1 with
      | '.' :: rest =>
        let (f, scale, after) := leadingFraction rest
        (f, scale, after, after.length != rest.length)
      | _ => (0, 1, s1, false)
    if !pre && !post then throw invalid
    let unitChars := s2.takeWhile fun c => !(c == '.' || c.isDigit)
    if unitChars.isEmpty then throw ("time: missing unit in duration " ++ quote orig)
    let u := String.ofList unitChars
    let some unit := unitNanos u | throw ("time: unknown unit " ++ quote u ++ " in duration " ++ quote orig)
    if v > limit / unit then throw invalid
    let mut w := v * unit
    if f > 0 then
      w := w + (f.toFloat * (unit.toFloat / scale)).toUInt64.toNat
      if w > limit then throw invalid
    let total := total + w
    if total > limit then throw invalid
    readTerms orig fuel (s2.drop unitChars.length) total

def parse (s : String) : Except String Int := do
  let (neg, rest) := match s.toList with
    | '-' :: r => (true, r)
    | '+' :: r => (false, r)
    | r => (false, r)
  if rest == ['0'] then return 0
  if rest.isEmpty then throw ("time: invalid duration " ++ quote s)
  let d ← readTerms s (rest.length + 1) rest 0
  if neg then return -(d : Int)
  if d > limit - 1 then throw ("time: invalid duration " ++ quote s)
  return d

def fraction (n digits : Nat) : String :=
  let text := ((toString (n + Nat.pow 10 digits)).drop 1).toString
  let trimmed := (text.toList.reverse.dropWhile (· == '0')).reverse
  if trimmed.isEmpty then "" else "." ++ String.ofList trimmed

def format (d : Int) : String :=
  let sign := if d < 0 then "-" else ""
  let u := d.natAbs
  if u == 0 then "0s"
  else if u < 1000 then sign ++ toString u ++ "ns"
  else if u < 1000000 then sign ++ toString (u / 1000) ++ fraction (u % 1000) 3 ++ "µs"
  else if u < 1000000000 then sign ++ toString (u / 1000000) ++ fraction (u % 1000000) 6 ++ "ms"
  else
    let secs := u / 1000000000
    let frac := fraction (u % 1000000000) 9
    let h := secs / 3600
    let m := (secs % 3600) / 60
    let s := secs % 60
    sign ++ (if h > 0 then toString h ++ "h" else "") ++
      (if h > 0 || m > 0 then toString m ++ "m" else "") ++ toString s ++ frac ++ "s"

end CrudRoutes.Duration
