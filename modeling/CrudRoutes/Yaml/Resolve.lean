import CrudRoutes.Yaml.Error
import CrudRoutes.Time.Text
import CrudRoutes.Decimal.Shortest

/-!
What a scalar's text stands for.

Tags of the core schema are written short, `!!str` for `tag:yaml.org,2002:str`. A scalar whose
tag is one of `!!str`, `!!bool`, `!!int`, `!!float`, `!!timestamp`, `!!null`, or no tag at all,
is resolved by its text:

* `true`, `false` (also capitalised or in capitals) are booleans; the empty text, `~` and `null`
  are null; `.inf`, `-.inf` and `.nan` are the special floats;
* a text starting with a digit or a sign is tried, in this order, as a timestamp (when it has
  no tag or the `!!timestamp` tag: `yyyy-m-d`, optionally followed by a time after `T`, `t` or
  spaces, with a zone after `T`), as a 64-bit integer (underscores dropped; `0x`, `0o`, `0b` and
  a leading `0` give the base), as an unsigned 64-bit integer, and as a decimal float;
* a text starting with `.` is tried as a float;
* anything else is a string.

A scalar with an explicit tag must resolve to that tag, except that anything may be a string
and an integer may be a float. Other tags leave the text as it is.
-/

namespace CrudRoutes.Yaml

def corePrefix : String := "tag:yaml.org,2002:"

def shortTag (tag : String) : String :=
  if tag.startsWith corePrefix then "!!" ++ (tag.drop corePrefix.length).toString else tag

/-- What a scalar stands for. -/
inductive Resolved where
  | null
  | bool (b : Bool)
  | int (n : Int)
  | uint (n : Nat)
  | float (x : Float)
  | timestamp (t : Time)
  | str (s : String)
  deriving Inhabited

def Resolved.tag : Resolved → String
  | .null => "!!null"
  | .bool _ => "!!bool"
  | .int _ => "!!int"
  | .uint _ => "!!int"
  | .float _ => "!!float"
  | .timestamp _ => "!!timestamp"
  | .str _ => "!!str"

def specialWord? : String → Option Resolved
  | "true" | "True" | "TRUE" => some (.bool true)
  | "false" | "False" | "FALSE" => some (.bool false)
  | "" | "~" | "null" | "Null" | "NULL" => some .null
  | ".nan" | ".NaN" | ".NAN" => some (.float (0.0 / 0.0))
  | ".inf" | ".Inf" | ".INF" | "+.inf" | "+.Inf" | "+.INF" => some (.float (1.0 / 0.0))
  | "-.inf" | "-.Inf" | "-.INF" => some (.float (-1.0 / 0.0))
  | _ => none

/-! ### Numbers -/

def underscoresOk (s : List Char) : Bool :=
  let body := match s with
    | '-' :: r => r
    | '+' :: r => r
    | r => r
  let (start, hex, rest) := match body with
    | '0' :: b :: r =>
      let lb := b.toLower
      if lb == 'b' || lb == 'o' || lb == 'x' then ('0', lb == 'x', r) else ('^', false, body)
    | _ => ('^', false, body)
  let step := fun (saw : Option Char) (c : Char) => saw.bind fun k =>
    if c.isDigit || (hex && 'a' ≤ c.toLower && c.toLower ≤ 'f') then some '0'
    else if c == '_' then (if k == '0' then some '_' else none)
    else if k == '_' then none
    else some '!'
  match rest.foldl step (some start) with
  | some k => k != '_'
  | none => false

def digitsIn (base : Nat) (cs : List Char) : Option Nat :=
  if cs.isEmpty then none else
  cs.foldlM (fun acc c =>
    let l := c.toLower
    let d := if c.isDigit then c.toNat - '0'.toNat
      else if 'a' ≤ l && l ≤ 'z' then l.toNat - 'a'.toNat + 10
      else 99
    if d < base then some (acc * base + d) else none) 0

def readUnsigned? (s : List Char) : Option Nat := do
  if s.isEmpty then none
  let (base, ds) := match s with
    | '0' :: b :: r@(_ :: _) =>
      let lb := b.toLower
      if lb == 'b' then (2, r) else if lb == 'o' then (8, r) else if lb == 'x' then (16, r)
      else (8, b :: r)
    | '0' :: r => (8, r)
    | _ => (10, s)
  let n ← if ds.isEmpty then some 0 else digitsIn base ds
  if n < Nat.pow 2 64 then some n else none

def readSigned? (s : List Char) : Option Int := do
  let (neg, body) := match s with
    | '-' :: r => (true, r)
    | '+' :: r => (false, r)
    | r => (false, r)
  let n ← readUnsigned? body
  if neg then (if n ≤ Nat.pow 2 63 then some (-(n : Int)) else none)
  else if n < Nat.pow 2 63 then some n else none

def readFloat? (s : List Char) : Option Float := do
  let (neg, body) := match s with
    | '-' :: r => (true, r)
    | '+' :: r => (false, r)
    | r => (false, r)
  let mant := body.takeWhile fun c => c.isDigit || c == '_' || c == '.'
  let afterMant := body.drop mant.length
  if (mant.filter (· == '.')).length > 1 then none
  let digits := mant.filter Char.isDigit
  if digits.isEmpty then none
  let fracDigits := ((mant.dropWhile (· != '.')).drop 1).filter Char.isDigit
  let expo : Int ← match afterMant with
    | [] => pure 0
    | e :: r =>
      if e != 'e' && e != 'E' then none
      else
        let (eneg, ds) := match r with
          | '-' :: q => (true, q)
          | '+' :: q => (false, q)
          | q => (false, q)
        match ds with
        | d :: _ =>
          if !d.isDigit || !ds.all (fun c => c.isDigit || c == '_') then none
          else
            let v := digitsValue (ds.filter Char.isDigit)
            pure (if eneg then -(v : Int) else v)
        | [] => none
  if s.contains '_' && !underscoresOk s then none
  let m := digitsValue digits
  Decimal.nearest neg m (expo - fracDigits.length)
where
  digitsValue (ds : List Char) : Nat :=
    ds.foldl (fun acc c => acc * 10 + (c.toNat - '0'.toNat)) 0

def floatShaped (s : List Char) : Bool :=
  let body := match s with
    | '-' :: r => r
    | '+' :: r => r
    | r => r
  let (mantOk, rest) := match body with
    | '.' :: r =>
      let ds := r.takeWhile Char.isDigit
      (!ds.isEmpty, r.drop ds.length)
    | _ =>
      let ds := body.takeWhile Char.isDigit
      let r := body.drop ds.length
      match r with
      | '.' :: q => (!ds.isEmpty, q.dropWhile Char.isDigit)
      | _ => (!ds.isEmpty, r)
  let expOk := match rest with
    | [] => true
    | e :: r =>
      (e == 'e' || e == 'E') &&
        (let ds := match r with
          | '-' :: q => q
          | '+' :: q => q
          | q => q
        !ds.isEmpty && ds.all Char.isDigit)
  mantOk && expOk

/-! ### Timestamps -/

def timestampLayouts : List (List Time.Chunk) :=
  let date : List Time.Chunk := [.year, .text ['-'], .shortMonth, .text ['-'], .shortDay]
  let clock : List Time.Chunk :=
    [.hour, .text [':'], .shortMinute, .text [':'], .shortSecond, .fraction]
  [date ++ [.text ['T']] ++ clock ++ [.zone],
   date ++ [.text ['t']] ++ clock ++ [.zone],
   date ++ [.spaces] ++ clock,
   date]

def readTimestamp? (s : String) : Option Time :=
  let cs := s.toList
  if (cs.takeWhile Char.isDigit).length != 4 || (cs.drop 4).head? != some '-' then none
  else timestampLayouts.findSome? fun layout => Time.readLayout layout s

/-! ### Resolution -/

def resolvable (tag : String) : Bool :=
  tag == "" || tag == "!!str" || tag == "!!bool" || tag == "!!int" || tag == "!!float" ||
    tag == "!!timestamp" || tag == "!!null"

def readScalar (tag : String) (text : String) : Resolved :=
  if tag == "!!str" then .str text else
  match specialWord? text with
  | some r => r
  | none =>
    let cs := text.toList
    match cs with
    | c :: _ =>
      if c == '.' then
        match readFloat? cs with
        | some x => .float x
        | none => .str text
      else if c.isDigit || c == '+' || c == '-' then
        match (if tag == "" || tag == "!!timestamp" then readTimestamp? text else none) with
        | some t => .timestamp t
        | none =>
          let plain := cs.filter (· != '_')
          match readSigned? plain with
          | some n => .int n
          | none =>
            match readUnsigned? plain with
            | some n => .uint n
            | none =>
              match (if floatShaped plain then readFloat? plain else none) with
              | some x => .float x
              | none => .str text
      else .str text
    | [] => .str text

def resolve (tag text : String) : Except Error (String × Resolved) :=
  let tag := shortTag tag
  if !resolvable tag then .ok (tag, .str text)
  else
    let r := readScalar tag text
    if tag == "" || tag == r.tag || tag == "!!str" then .ok (r.tag, r)
    else match tag, r with
      | "!!float", .int n => .ok ("!!float", .float (Float.ofInt n))
      | _, _ => .error (.cannotDecode r.tag text tag)

def resolvedTag (text : String) : String :=
  (readScalar "" text).tag

end CrudRoutes.Yaml
