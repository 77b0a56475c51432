import CrudRoutes.Value.Basic
import CrudRoutes.Decimal.Shortest

/-!
Reading JSON text into values. Numbers become doubles (the nearest one) and an escaped lone
surrogate becomes U+FFFD. An object is read either as written, its members in order and
repeated names kept, which is what binding to a record needs, or as a map, in which a later
member of the same name wins.

The text is checked as a whole before a value is built: the first character that cannot stand
where it stands is reported with what was expected there, so a syntax error anywhere wins over a
number that is too large for a double.
-/

namespace CrudRoutes.Json

/-- Why a text is not a JSON value. -/
inductive ReadError where
  | badChar (c : Char) (context : String)
  | endOfInput
  | numberRange (text : String)
  deriving Repr, BEq

def showChar (c : Char) : String :=
  let body :=
    if c == '\'' then "\\'"
    else if c == '\n' then "\\n"
    else if c == '\r' then "\\r"
    else if c == '\t' then "\\t"
    else if c.toNat == 7 then "\\a"
    else if c.toNat == 8 then "\\b"
    else if c.toNat == 12 then "\\f"
    else if c.toNat == 11 then "\\v"
    else if c.toNat < 0x20 || c.toNat == 0x7f then
      "\\x" ++ String.ofList [hexDigitChar (c.toNat / 16), hexDigitChar (c.toNat % 16)]
    else String.singleton c
  "'" ++ body ++ "'"
where
  hexDigitChar (n : Nat) : Char :=
    if n < 10 then Char.ofNat (n + '0'.toNat) else Char.ofNat (n - 10 + 'a'.toNat)

def ReadError.message : ReadError → String
  | .badChar c ctx => "invalid character " ++ showChar c ++ " " ++ ctx
  | .endOfInput => "unexpected end of JSON input"
  | .numberRange t => "json: cannot unmarshal number " ++ t ++ " into Go value of type float64"

def isSpace (c : Char) : Bool :=
  c == ' ' || c == '\t' || c == '\n' || c == '\r'

abbrev Reader := StateT (Option String) (Except ReadError)

def failAt {α : Type} (s : List Char) (context : String) : Reader α :=
  match s with
  | c :: _ => throw (.badChar c context)
  | [] => throw .endOfInput

def expectWord (word : String) : List Char → List Char → Reader (List Char)
  | [], s => pure s
  | w :: ws, c :: s =>
    if c == w then expectWord word ws s
    else throw (.badChar c ("in literal " ++ word ++ " (expecting " ++ showChar w ++ ")"))
  | _ :: _, [] => throw .endOfInput

def hexValue? (c : Char) : Option Nat :=
  if '0' ≤ c ∧ c ≤ '9' then some (c.toNat - '0'.toNat)
  else if 'a' ≤ c ∧ c ≤ 'f' then some (c.toNat - 'a'.toNat + 10)
  else if 'A' ≤ c ∧ c ≤ 'F' then some (c.toNat - 'A'.toNat + 10)
  else none

def readHex4 (s : List Char) : Reader (Nat × List Char) :=
  let rec go : Nat → Nat → List Char → Reader (Nat × List Char)
    | 0, acc, s => pure (acc, s)
    | n + 1, acc, c :: s =>
      match hexValue? c with
      | some d => go n (acc * 16 + d) s
      | none => throw (.badChar c "in \\u hexadecimal character escape")
    | _ + 1, _, [] => throw .endOfInput
  go 4 0 s

def readUnicodeEscape (s : List Char) : Reader (Char × List Char) := do
  let (u, rest) ← readHex4 s
  if 0xD800 ≤ u ∧ u < 0xDC00 then
    match rest with
    | '\\' :: 'u' :: more =>
      match hexOf4 more with
      | some (lo, after) =>
        if 0xDC00 ≤ lo ∧ lo < 0xE000 then
          pure (Char.ofNat (0x10000 + (u - 0xD800) * 0x400 + (lo - 0xDC00)), after)
        else pure (Char.ofNat 0xFFFD, rest)
      | none => pure (Char.ofNat 0xFFFD, rest)
    | _ => pure (Char.ofNat 0xFFFD, rest)
  else if 0xDC00 ≤ u ∧ u < 0xE000 then pure (Char.ofNat 0xFFFD, rest)
  else pure (Char.ofNat u, rest)
where
  hexOf4 (s : List Char) : Option (Nat × List Char) :=
    match s with
    | a :: b :: c :: d :: rest => do
      let xs ← [a, b, c, d].mapM hexValue?
      pure (xs.foldl (fun acc x => acc * 16 + x) 0, rest)
    | _ => none

def escaped? (e : Char) : Option Char :=
  if e == '"' then some '"' else if e == '\\' then some '\\'
  else if e == '/' then some '/' else if e == 'b' then some (Char.ofNat 8)
  else if e == 'f' then some (Char.ofNat 12) else if e == 'n' then some '\n'
  else if e == 'r' then some '\r' else if e == 't' then some '\t' else none

def readString : Nat → List Char → List Char → Reader (String × List Char)
  | 0, _, _ => throw .endOfInput
  | _ + 1, _, [] => throw .endOfInput
  | fuel + 1, acc, c :: rest =>
    if c == '"' then pure (String.ofList acc.reverse, rest)
    else if c == '\\' then
      match rest with
      | [] => throw .endOfInput
      | e :: more =>
        if e == 'u' then do
          let (u, after) ← readUnicodeEscape more
          readString fuel (u :: acc) after
        else
          match escaped? e with
          | some d => readString fuel (d :: acc) more
          | none => throw (.badChar e "in string escape code")
    else if c.toNat < 0x20 then throw (.badChar c "in string literal")
    else readString fuel (c :: acc) rest

def digitsValue (ds : List Char) : Nat :=
  ds.foldl (fun acc c => acc * 10 + (c.toNat - '0'.toNat)) 0

def readSign (s : List Char) : Bool × List Char :=
  match s with
  | '-' :: rest => (true, rest)
  | _ => (false, s)

def readIntDigits (s : List Char) : Reader (List Char × List Char) :=
  match s with
  | '0' :: rest => pure (['0'], rest)
  | c :: _ =>
    if c.isDigit then pure (s.takeWhile Char.isDigit, s.dropWhile Char.isDigit)
    else failAt s "in numeric literal"
  | [] => throw .endOfInput

def readFraction (s : List Char) : Reader (List Char × List Char) :=
  match s with
  | '.' :: rest =>
    match rest with
    | c :: _ =>
      if c.isDigit then pure (rest.takeWhile Char.isDigit, rest.dropWhile Char.isDigit)
      else failAt rest "after decimal point in numeric literal"
    | [] => throw .endOfInput
  | _ => pure ([], s)

def readExponent (s : List Char) : Reader (Bool × List Char × List Char) :=
  match s with
  | e :: rest =>
    if e == 'e' || e == 'E' then
      let (eneg, rest') := match rest with
        | '-' :: r => (true, r)
        | '+' :: r => (false, r)
        | r => (false, r)
      match rest' with
      | c :: _ =>
        if c.isDigit then
          pure (eneg, rest'.takeWhile Char.isDigit, rest'.dropWhile Char.isDigit)
        else failAt rest' "in exponent of numeric literal"
      | [] => throw .endOfInput
    else pure (false, [], s)
  | [] => pure (false, [], s)

def readNumber (s : List Char) : Reader (Value × List Char) := do
  let (neg, s1) := readSign s
  let (intDigits, s2) ← readIntDigits s1
  let (fracDigits, s3) ← readFraction s2
  let (expNeg, expDigits, s4) ← readExponent s3
  let text := String.ofList (s.take (s.length - s4.length))
  let expValue : Int := if expNeg then -(digitsValue expDigits : Int) else digitsValue expDigits
  let e := expValue - fracDigits.length
  match Decimal.nearest neg (digitsValue (intDigits ++ fracDigits)) e with
  | some x => pure (.num x, s4)
  | none =>
    modify fun r => r.orElse fun _ => some text
    pure (.num 0, s4)

mutual

/-- Reads one value after optional blanks. -/
def readValue : Nat → List Char → Reader (Value × List Char)
  | 0, _ => throw .endOfInput
  | fuel + 1, s =>
    match s.dropWhile isSpace with
    | [] => throw .endOfInput
    | c :: rest =>
      if c == '\x7b' then readObjectStart fuel (rest.dropWhile isSpace)
      else if c == '[' then readArrayStart fuel (rest.dropWhile isSpace)
      else if c == '"' then do
        let (str, after) ← readString fuel [] rest
        pure (.str str, after)
      else if c == 't' then do
        let after ← expectWord "true" ['r', 'u', 'e'] rest
        pure (.bool true, after)
      else if c == 'f' then do
        let after ← expectWord "false" ['a', 'l', 's', 'e'] rest
        pure (.bool false, after)
      else if c == 'n' then do
        let after ← expectWord "null" ['u', 'l', 'l'] rest
        pure (.null, after)
      else if c == '-' || c.isDigit then readNumber (c :: rest)
      else throw (.badChar c "looking for beginning of value")

def readObjectStart : Nat → List Char → Reader (Value × List Char)
  | 0, _ => throw .endOfInput
  | fuel + 1, s =>
    match s with
    | c :: rest => if c == '\x7d' then pure (.obj [], rest) else readMembers fuel [] s
    | [] => throw .endOfInput

def readMembers : Nat → Fields → List Char → Reader (Value × List Char)
  | 0, _, _ => throw .endOfInput
  | fuel + 1, acc, s =>
    match s with
    | '"' :: rest => do
      let (key, afterKey) ← readString fuel [] rest
      match afterKey.dropWhile isSpace with
      | ':' :: afterColon => do
        let (v, afterValue) ← readValue fuel afterColon
        let acc := (key, v) :: acc
        match afterValue.dropWhile isSpace with
        | ',' :: more => readMembers fuel acc (more.dropWhile isSpace)
        | c :: more =>
          if c == '\x7d' then pure (.obj acc.reverse, more)
          else throw (.badChar c "after object key:value pair")
        | [] => throw .endOfInput
      | other => failAt other "after object key"
    | other => failAt other "looking for beginning of object key string"

def readArrayStart : Nat → List Char → Reader (Value × List Char)
  | 0, _ => throw .endOfInput
  | fuel + 1, s =>
    match s with
    | ']' :: rest => pure (.arr [], rest)
    | _ => readElements fuel [] s

def readElements : Nat → List Value → List Char → Reader (Value × List Char)
  | 0, _, _ => throw .endOfInput
  | fuel + 1, acc, s => do
    let (v, after) ← readValue fuel s
    match after.dropWhile isSpace with
    | ',' :: more => readElements fuel (v :: acc) more
    | ']' :: more => pure (.arr (v :: acc).reverse, more)
    | other => failAt other "after array element"

end

/-- Reads one value from the front of a text, objects as written, and returns the rest; a number
beyond the doubles is reported only when the value is otherwise well formed. -/
def readPrefix (s : List Char) : Except ReadError (Value × List Char) := do
  let ((v, rest), range) ← (readValue (2 * s.length + 2) s).run none
  match range with
  | some t => throw (.numberRange t)
  | none => pure (v, rest)

/-- Reads a text that holds exactly one value, blanks aside, objects as written. -/
def parseWritten (text : String) : Except ReadError Value := do
  let s := text.toList
  let ((v, rest), range) ← (readValue (2 * s.length + 2) s).run none
  match rest.dropWhile isSpace with
  | c :: _ => throw (.badChar c "after top-level value")
  | [] =>
    match range with
    | some t => throw (.numberRange t)
    | none => pure v

/-- Reads a text that holds exactly one value, blanks aside, objects as maps. -/
def parse (text : String) : Except ReadError Value :=
  (parseWritten text).map Value.asMap

end CrudRoutes.Json
