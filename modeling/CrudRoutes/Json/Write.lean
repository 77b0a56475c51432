import CrudRoutes.Value.Basic
import CrudRoutes.Decimal.Text
import CrudRoutes.Time.Text

/-!
JSON text of values. Strings escape the quote, the backslash and control characters, and also
`<`, `>`, `&`, U+2028 and U+2029, so that the text is safe inside HTML and script. Doubles use
their shortest digits, positionally from `1e-6` up to below `1e21`. Instants are RFC 3339 strings.
Fields are written in the order the object holds them. The indented form puts each item on its
own line, two spaces deeper than its container.
-/

namespace CrudRoutes.Json

def numberStyle : Decimal.Style := ⟨-6, 21, 1⟩

def hexChar (n : Nat) : Char :=
  if n < 10 then Char.ofNat (n + '0'.toNat) else Char.ofNat (n - 10 + 'a'.toNat)

def unicodeEscape (n : Nat) : String :=
  "\\u" ++ String.ofList [hexChar (n / 4096 % 16), hexChar (n / 256 % 16),
    hexChar (n / 16 % 16), hexChar (n % 16)]

def escapeChar (c : Char) : String :=
  if c == '"' then "\\\""
  else if c == '\\' then "\\\\"
  else if c == '\n' then "\\n"
  else if c == '\r' then "\\r"
  else if c == '\t' then "\\t"
  else if c.toNat < 0x20 || c == '<' || c == '>' || c == '&' ||
      c.toNat == 0x2028 || c.toNat == 0x2029 then unicodeEscape c.toNat
  else String.singleton c

def quote (s : String) : String :=
  "\"" ++ String.join (s.toList.map escapeChar) ++ "\""

def lbrace : String := "\x7b"

def rbrace : String := "\x7d"

mutual

/-- The compact JSON text of a value. -/
def render : Value → String
  | .null => "null"
  | .bool b => if b then "true" else "false"
  | .num x => numberStyle.render x
  | .int n => toString n
  | .str s => quote s
  | .time t => quote t.stamp
  | .arr xs => "[" ++ renderItems xs ++ "]"
  | .anyOf xs => "[" ++ renderItems xs ++ "]"
  | .obj fs => lbrace ++ renderFields fs ++ rbrace
  | .doc fs => lbrace ++ renderFields fs ++ rbrace

def renderItems : List Value → String
  | [] => ""
  | [x] => render x
  | x :: rest => render x ++ "," ++ renderItems rest

def renderFields : List (String × Value) → String
  | [] => ""
  | [(k, v)] => quote k ++ ":" ++ render v
  | (k, v) :: rest => quote k ++ ":" ++ render v ++ "," ++ renderFields rest

end

/-- What JSON cannot write. -/
inductive Unwritable where
  | number (text : String)
  | year
  | zoneHour
  deriving Repr, BEq, DecidableEq

def instantFault : String :=
  "json: error calling MarshalJSON for type time.Time: Time.MarshalJSON: "

def Unwritable.message : Unwritable → String
  | .number t => "json: unsupported value: " ++ t
  | .year => instantFault ++ "year outside of range [0,9999]"
  | .zoneHour => instantFault ++ "timezone hour outside of range [0,23]"

def numberUnwritable? (x : Float) : Option Unwritable :=
  if x.isNaN then some (.number "NaN")
  else if x.isInf then some (.number (if x > 0 then "+Inf" else "-Inf"))
  else none

def timeUnwritable? (t : Time) : Option Unwritable :=
  if t.civil.year < 0 ∨ 9999 < t.civil.year then some .year
  else if 86400 ≤ t.offset.natAbs then some .zoneHour
  else none

mutual

/-- The first part of a value that JSON cannot write, items in order and fields in the order the
object holds them (for a map, the order of names in which JSON writes it). -/
def unwritable? : Value → Option Unwritable
  | .num x => numberUnwritable? x
  | .time t => timeUnwritable? t
  | .arr xs => unwritableItems? xs
  | .anyOf xs => unwritableItems? xs
  | .obj fs => unwritableFields? fs
  | .doc fs => unwritableFields? fs
  | _ => none

def unwritableItems? : List Value → Option Unwritable
  | [] => none
  | v :: rest => (unwritable? v).or (unwritableItems? rest)

def unwritableFields? : List (String × Value) → Option Unwritable
  | [] => none
  | (_, v) :: rest => (unwritable? v).or (unwritableFields? rest)

end

def newline (depth : Nat) : String :=
  "\n" ++ String.ofList (List.replicate (2 * depth) ' ')

mutual

/-- The indented JSON text of a value at a nesting depth. -/
def pretty (depth : Nat) : Value → String
  | .arr xs => prettyArray depth xs
  | .anyOf xs => prettyArray depth xs
  | .obj fs => prettyObject depth fs
  | .doc fs => prettyObject depth fs
  | v => render v

def prettyArray (depth : Nat) : List Value → String
  | [] => "[]"
  | xs => "[" ++ prettyItems (depth + 1) xs ++ newline depth ++ "]"

def prettyObject (depth : Nat) : List (String × Value) → String
  | [] => lbrace ++ rbrace
  | fs => lbrace ++ prettyFields (depth + 1) fs ++ newline depth ++ rbrace

def prettyItems (depth : Nat) : List Value → String
  | [] => ""
  | [x] => newline depth ++ pretty depth x
  | x :: rest => newline depth ++ pretty depth x ++ "," ++ prettyItems depth rest

def prettyFields (depth : Nat) : List (String × Value) → String
  | [] => ""
  | [(k, v)] => newline depth ++ quote k ++ ": " ++ pretty depth v
  | (k, v) :: rest => newline depth ++ quote k ++ ": " ++ pretty depth v ++ "," ++
      prettyFields depth rest

end

end CrudRoutes.Json
