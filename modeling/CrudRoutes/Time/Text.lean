import CrudRoutes.Time.Basic

/-!
Written forms of instants. The timestamp form is RFC 3339 with the nanoseconds trimmed of
trailing zeros and `Z` for UTC; the long form is `2006-01-02 15:04:05.5 +0200 +0200`, whose last
word names the zone (`UTC`, or the offset again when the zone has no name).

Reading follows layouts: a layout is a list of chunks, each a literal or a field. Hours may have
one digit, the other fields two (four for the year) unless the layout takes a short field of one
or two; a fraction of a second may follow the seconds even where the layout has none; the day is
checked against its month at the end.
-/

namespace CrudRoutes.Time

def padNat (n width : Nat) : String :=
  let s := toString n
  String.ofList (List.replicate (width - s.length) '0') ++ s

def yearText (y : Int) : String :=
  if y < 0 then "-" ++ padNat y.natAbs 4 else padNat y.toNat 4

def fractionText (nanos : Nat) : String :=
  if nanos == 0 then ""
  else
    let ds := (padNat nanos 9).toList
    "." ++ String.ofList (ds.reverse.dropWhile (· == '0')).reverse

def offsetText (offset : Int) (colon : Bool) : String :=
  let minutes := offset / 60
  let sign := if minutes < 0 then "-" else "+"
  let m := minutes.natAbs
  sign ++ padNat (m / 60) 2 ++ (if colon then ":" else "") ++ padNat (m % 60) 2

def dateText (c : Civil) (sep : String) : String :=
  yearText c.year ++ "-" ++ padNat c.month 2 ++ "-" ++ padNat c.day 2 ++ sep ++
    padNat c.hour 2 ++ ":" ++ padNat c.minute 2 ++ ":" ++ padNat c.second 2

def stamp (t : Time) : String :=
  dateText t.civil "T" ++ fractionText t.nanos ++
    (if t.offset == 0 then "Z" else offsetText t.offset true)

def longText (t : Time) : String :=
  dateText t.civil " " ++ fractionText t.nanos ++ " " ++ offsetText t.offset false ++ " " ++
    (if t.offset == 0 then "UTC" else offsetText t.offset false)

/-- One piece of a layout. -/
inductive Chunk where
  | text (s : List Char)
  | year
  | month
  | day
  | hour
  | minute
  | second
  | fraction
  | zone
  | shortMonth
  | shortDay
  | shortMinute
  | shortSecond
  | spaces
  deriving Repr, BEq

/-- The fields read so far; the zone is `none` until one is read. -/
structure Reading where
  year : Int := 0
  month : Nat := 1
  day : Nat := 1
  hour : Nat := 0
  minute : Nat := 0
  second : Nat := 0
  nanos : Nat := 0
  zone : Option Int := none

def digitOf? (c : Char) : Option Nat :=
  if c.isDigit then some (c.toNat - '0'.toNat) else none

def number? (s : List Char) (fixed : Bool) : Option (Nat × List Char) :=
  match s with
  | a :: rest =>
    match digitOf? a with
    | none => none
    | some x =>
      match rest with
      | b :: rest' =>
        match digitOf? b with
        | some y => some (10 * x + y, rest')
        | none => if fixed then none else some (x, rest)
      | [] => if fixed then none else some (x, [])
  | [] => none

def digitsValue (ds : List Char) : Nat :=
  (ds.filterMap digitOf?).foldl (fun acc d => 10 * acc + d) 0

def nanosOf (ds : List Char) : Nat :=
  let kept := ds.take 9
  digitsValue kept * Nat.pow 10 (9 - kept.length)

def startsFraction (s : List Char) : Bool :=
  match s with
  | m :: d :: _ => (m == '.' || m == ',') && d.isDigit
  | _ => false

def readFraction (s : List Char) : Nat × List Char :=
  let ds := (s.drop 1).takeWhile Char.isDigit
  (nanosOf ds, (s.drop 1).dropWhile Char.isDigit)

def readZone (s : List Char) : Option (Int × List Char) :=
  match s with
  | 'Z' :: rest => some (0, rest)
  | sign :: h1 :: h2 :: ':' :: m1 :: m2 :: rest => do
    let (hr, _) ← number? [h1, h2] true
    let (mm, _) ← number? [m1, m2] true
    if hr > 24 || mm > 60 then none else
    let off : Int := ((hr * 60 + mm) * 60 : Nat)
    if sign == '+' then some (off, rest)
    else if sign == '-' then some (-off, rest)
    else none
  | _ => none

def readChunks : List Chunk → List Char → Reading → Option Reading
  | [], [], r => some r
  | [], _ :: _, _ => none
  | .text lit :: rest, s, r =>
    if lit.isPrefixOf s then readChunks rest (s.drop lit.length) r else none
  | .year :: rest, s, r =>
    let ds := s.take 4
    if ds.length == 4 && ds.all Char.isDigit then
      readChunks rest (s.drop 4) { r with year := digitsValue ds }
    else none
  | .month :: rest, s, r => do
    let (m, s') ← number? s true
    if m == 0 || m > 12 then none else readChunks rest s' { r with month := m }
  | .day :: rest, s, r => do
    let (d, s') ← number? s true
    readChunks rest s' { r with day := d }
  | .hour :: rest, s, r => do
    let (h, s') ← number? s false
    if h ≥ 24 then none else readChunks rest s' { r with hour := h }
  | .minute :: rest, s, r => do
    let (m, s') ← number? s true
    if m ≥ 60 then none else readChunks rest s' { r with minute := m }
  | .second :: rest, s, r => do
    let (sec, s') ← number? s true
    if sec ≥ 60 then none else
    let r := { r with second := sec }
    if startsFraction s' && rest.head? != some .fraction then
      let (ns, s'') := readFraction s'
      readChunks rest s'' { r with nanos := ns }
    else readChunks rest s' r
  | .fraction :: rest, s, r =>
    if startsFraction s then
      let (ns, s') := readFraction s
      readChunks rest s' { r with nanos := ns }
    else readChunks rest s r
  | .zone :: rest, s, r => do
    let (off, s') ← readZone s
    readChunks rest s' { r with zone := some off }
  | .shortMonth :: rest, s, r => do
    let (m, s') ← number? s false
    if m == 0 || m > 12 then none else readChunks rest s' { r with month := m }
  | .shortDay :: rest, s, r => do
    let (d, s') ← number? s false
    readChunks rest s' { r with day := d }
  | .shortMinute :: rest, s, r => do
    let (m, s') ← number? s false
    if m ≥ 60 then none else readChunks rest s' { r with minute := m }
  | .shortSecond :: rest, s, r => do
    let (sec, s') ← number? s false
    if sec ≥ 60 then none else
    let r := { r with second := sec }
    if startsFraction s' && rest.head? != some .fraction then
      let (ns, s'') := readFraction s'
      readChunks rest s'' { r with nanos := ns }
    else readChunks rest s' r
  | .spaces :: rest, s, r =>
    match s with
    | c :: _ => if c != ' ' then none else readChunks rest (s.dropWhile (· == ' ')) r
    | [] => readChunks rest [] r

def readLayout (layout : List Chunk) (s : String) : Option Time := do
  let r ← readChunks layout s.toList {}
  if r.day == 0 || r.day > daysIn r.month r.year then none else
  let c : Civil := ⟨r.year, r.month, r.day, r.hour, r.minute, r.second⟩
  pure (ofCivil c r.nanos (r.zone.getD 0))

def clockLayout : List Chunk :=
  [.hour, .text [':'], .minute, .text [':'], .second]

def zonedClockLayout : List Chunk :=
  clockLayout ++ [.zone]

def dateLayout : List Chunk :=
  [.year, .text ['-'], .month, .text ['-'], .day]

def stampLayout : List Chunk :=
  dateLayout ++ [.text ['T']] ++ clockLayout ++ [.zone]

def fineStampLayout : List Chunk :=
  dateLayout ++ [.text ['T']] ++ clockLayout ++ [.fraction, .zone]

def ofStamp? (s : String) : Option Time :=
  readLayout stampLayout s

def isDateTime (s : String) : Bool :=
  [clockLayout, zonedClockLayout, dateLayout, stampLayout, fineStampLayout].any
    fun l => (readLayout l s).isSome

end CrudRoutes.Time
