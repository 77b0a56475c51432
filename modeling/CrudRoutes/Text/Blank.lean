/-!
Blanks are the characters with the Unicode White_Space property. Trimming removes them, or a
chosen character, from both ends of a string.
-/

namespace CrudRoutes.Text

def isBlank (c : Char) : Bool :=
  let n := c.toNat
  (0x09 ≤ n && n ≤ 0x0D) || n == 0x20 || n == 0x85 || n == 0xA0 || n == 0x1680 ||
    (0x2000 ≤ n && n ≤ 0x200A) || n == 0x2028 || n == 0x2029 || n == 0x202F ||
    n == 0x205F || n == 0x3000

def trimBy (p : Char → Bool) (s : String) : String :=
  String.ofList ((s.toList.dropWhile p).reverse.dropWhile p).reverse

def trimBlanks (s : String) : String :=
  trimBy isBlank s

def trimChar (c : Char) (s : String) : String :=
  trimBy (· == c) s

def dropPrefix (p s : String) : String :=
  if s.startsWith p then String.ofList (s.toList.drop p.length) else s

def dropSuffix (p s : String) : String :=
  if s.endsWith p then String.ofList (s.toList.take (s.length - p.length)) else s

end CrudRoutes.Text
