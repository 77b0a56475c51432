import CrudRoutes.Text.Category

/-!
Quoted strings as they appear in messages: between double quotes, with the quote and the
backslash escaped, the usual letters for the control characters that have one, and hexadecimal
escapes for other characters that are not printable.
-/

namespace CrudRoutes.Text

def hexLower (n : Nat) : Char :=
  if n < 10 then Char.ofNat (n + '0'.toNat) else Char.ofNat (n - 10 + 'a'.toNat)

def hexWidth (n width : Nat) : String :=
  String.ofList ((List.range width).reverse.map fun i => hexLower (n / Nat.pow 16 i % 16))

def quoteChar (c : Char) : String :=
  let n := c.toNat
  if c == '"' then "\\\""
  else if c == '\\' then "\\\\"
  else if isPrint c then String.singleton c
  else if n == 7 then "\\a"
  else if n == 8 then "\\b"
  else if n == 12 then "\\f"
  else if c == '\n' then "\\n"
  else if c == '\r' then "\\r"
  else if c == '\t' then "\\t"
  else if n == 11 then "\\v"
  else if n < 0x20 || n == 0x7f then "\\x" ++ hexWidth n 2
  else if n < 0x10000 then "\\u" ++ hexWidth n 4
  else "\\U" ++ hexWidth n 8

def quoted (s : String) : String :=
  "\"" ++ String.join (s.toList.map quoteChar) ++ "\""

end CrudRoutes.Text
