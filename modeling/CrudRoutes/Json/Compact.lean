import CrudRoutes.Json.Read

/-!
Compacting JSON text that is embedded as it is written.

The text must hold exactly one JSON value; only its syntax is checked, so a number beyond the
doubles passes. The compact form drops the blanks between tokens and keeps every token as
written, except that `<`, `>`, `&`, U+2028 and U+2029 inside strings are written as `\u`
escapes.
-/

namespace CrudRoutes.Json

def compactChars : Bool → Bool → List Char → List Char
  | _, _, [] => []
  | false, _, c :: rest =>
    if isSpace c then compactChars false false rest
    else c :: compactChars (c == '"') false rest
  | true, true, c :: rest => c :: compactChars true false rest
  | true, false, c :: rest =>
    if c == '\\' then c :: compactChars true true rest
    else if c == '"' then c :: compactChars false false rest
    else if c == '<' || c == '>' || c == '&' || c.toNat == 0x2028 || c.toNat == 0x2029 then
      (unicodeEscape c.toNat).toList ++ compactChars true false rest
    else c :: compactChars true false rest
where
  unicodeEscape (n : Nat) : String :=
    let hex := fun (d : Nat) => if d < 10 then Char.ofNat (d + 48) else Char.ofNat (d + 87)
    "\\u" ++ String.ofList [hex (n / 4096 % 16), hex (n / 256 % 16), hex (n / 16 % 16), hex (n % 16)]

def compact (text : String) : Except ReadError String :=
  match parse text with
  | .error (.numberRange _) | .ok _ => .ok (String.ofList (compactChars false false text.toList))
  | .error e => .error e

end CrudRoutes.Json
