/-!
Instants on the proleptic Gregorian calendar. An instant is a count of seconds and nanoseconds
since 1970-01-01T00:00:00Z together with the offset of the zone it is shown in; an offset of zero
is UTC. Civil dates are converted by the era arithmetic of 400-year cycles.
-/

namespace CrudRoutes

/-- An instant, shown in the zone `offset` seconds east of UTC. -/
structure Time where
  unix : Int
  nanos : Nat
  offset : Int := 0
  deriving Repr, BEq, DecidableEq, Inhabited

namespace Time

/-- A calendar date and a wall-clock time. -/
structure Civil where
  year : Int
  month : Nat
  day : Nat
  hour : Nat
  minute : Nat
  second : Nat
  deriving Repr, BEq

def isLeap (y : Int) : Bool :=
  y % 4 == 0 && (y % 100 != 0 || y % 400 == 0)

def daysIn (month : Nat) (y : Int) : Nat :=
  match month with
  | 2 => if isLeap y then 29 else 28
  | 4 | 6 | 9 | 11 => 30
  | _ => 31

def daysFromCivil (y : Int) (m d : Nat) : Int :=
  let y := if m ≤ 2 then y - 1 else y
  let era := Int.fdiv y 400
  let yoe := y - era * 400
  let mp : Int := if m > 2 then (m : Int) - 3 else (m : Int) + 9
  let doy := (153 * mp + 2) / 5 + (d : Int) - 1
  let doe := yoe * 365 + yoe / 4 - yoe / 100 + doy
  era * 146097 + doe - 719468

def civilFromDays (z : Int) : Int × Nat × Nat :=
  let z := z + 719468
  let era := Int.fdiv z 146097
  let doe := z - era * 146097
  let yoe := (doe - doe / 1460 + doe / 36524 - doe / 146096) / 365
  let y := yoe + era * 400
  let doy := doe - (365 * yoe + yoe / 4 - yoe / 100)
  let mp := (5 * doy + 2) / 153
  let d := doy - (153 * mp + 2) / 5 + 1
  let m := if mp < 10 then mp + 3 else mp - 9
  (if m ≤ 2 then y + 1 else y, m.toNat, d.toNat)

def ofCivil (c : Civil) (nanos : Nat) (offset : Int) : Time :=
  let days := daysFromCivil c.year c.month c.day
  let secs := days * 86400 + c.hour * 3600 + c.minute * 60 + c.second
  ⟨secs - offset, nanos, offset⟩

def civil (t : Time) : Civil :=
  let wall := t.unix + t.offset
  let days := Int.fdiv wall 86400
  let secs := (wall - days * 86400).toNat
  let (y, m, d) := civilFromDays days
  ⟨y, m, d, secs / 3600, secs % 3600 / 60, secs % 60⟩

def toUTC (t : Time) : Time :=
  { t with offset := 0 }

def addNanos (t : Time) (ns : Int) : Time :=
  let total := (t.nanos : Int) + ns
  let secs := Int.fdiv total 1000000000
  ⟨t.unix + secs, (total - secs * 1000000000).toNat, t.offset⟩

def unixNanos (t : Time) : Int :=
  t.unix * 1000000000 + t.nanos

def before (a b : Time) : Bool :=
  a.unixNanos < b.unixNanos

end Time

end CrudRoutes
