import CrudRoutes.Text.Blank

/-!
Environment files: lines of `NAME=value` (or `NAME: value`), optionally after `export`.

Blank lines and lines starting with `#` are skipped. A name holds letters, digits, `_` and `.`
(blanks inside are kept); any other character before the separator makes the file invalid.
An unquoted value runs to the end of the line, loses a trailing ` # comment` and surrounding
blanks. A value in single quotes is taken as written; one in double quotes turns `\n` and `\r`
into line breaks and drops other backslashes. Unquoted and double-quoted values expand `$NAME`
and `${NAME}` from the names the file has set so far (an unset name is empty); the environment
plays no part. `\$` keeps a dollar sign.
-/

namespace CrudRoutes.Dotenv

def isSpace (c : Char) : Bool :=
  c == '\t' || c == '\x0b' || c == '\x0c' || c == '\r' || c == ' ' ||
    c.toNat == 0x85 || c.toNat == 0xA0

def highByteOk (b : Nat) : Bool :=
  b == 0x85 || b == 0xA0 || b == 0xAA || b == 0xB5 || b == 0xBA || b == 0xB2 || b == 0xB3 ||
    b == 0xB9 || (0xBC ≤ b && b ≤ 0xBE) || (0xC0 ≤ b && b ≤ 0xFF && b != 0xD7 && b != 0xF7)

def isNameChar (c : Char) : Bool :=
  if c.toNat < 128 then c.isAlphanum || c == '_' || c == '.'
  else (String.utf8EncodeChar c).all fun b => highByteOk b.toNat

def isVarChar (c : Char) : Bool :=
  c.isUpper || c.isDigit || c == '_'

def expand (lookup : String → String) : Nat → List Char → List Char
  | 0, cs => cs
  | _, [] => []
  | fuel + 1, '\\' :: '$' :: rest => '$' :: expand lookup fuel rest
  | fuel + 1, '$' :: rest =>
    let afterParen := match rest with
      | '(' :: r => r
      | r => r
    let afterBrace := match afterParen with
      | '\x7b' :: r => r
      | r => r
    let name := afterBrace.takeWhile isVarChar
    if name.isEmpty then '$' :: expand lookup fuel rest
    else
      let after := match afterBrace.drop name.length with
        | '\x7d' :: r => r
        | r => r
      (lookup (String.ofList name)).toList ++ expand lookup fuel after
  | fuel + 1, c :: rest => c :: expand lookup fuel rest

def unescape : List Char → List Char
  | '\\' :: 'n' :: rest => '\n' :: unescape rest
  | '\\' :: 'r' :: rest => '\r' :: unescape rest
  | '\\' :: '$' :: rest => '\\' :: '$' :: unescape rest
  | '\\' :: c :: rest => c :: unescape rest
  | c :: rest => c :: unescape rest
  | [] => []

def statementStart : Nat → List Char → Option (List Char)
  | 0, _ => none
  | fuel + 1, cs =>
    match cs.dropWhile Text.isBlank with
    | [] => none
    | '#' :: rest =>
      match rest.dropWhile (· != '\n') with
      | [] => none
      | more => statementStart fuel more
    | start => some start

def readName (cs : List Char) : Except String (String × List Char) := do
  let cs := cs.dropWhile isSpace
  let cs := match cs with
    | 'e' :: 'x' :: 'p' :: 'o' :: 'r' :: 't' :: c :: rest =>
      if isSpace c then (c :: rest).dropWhile isSpace else cs
    | _ => cs
  let body := cs.takeWhile fun c => c != '=' && c != ':'
  match body.find? fun c => !(isSpace c || isNameChar c) with
  | some c => throw ("unexpected character " ++ String.singleton c ++ " in variable name")
  | none =>
    if cs.isEmpty then throw "zero length string"
    if body.length == cs.length then pure ("", cs)
    else
      let key := String.ofList (body.reverse.dropWhile Text.isBlank).reverse
      pure (key, (cs.drop (body.length + 1)).dropWhile isSpace)

def readValue (lookup : String → String) (cs : List Char) : Except String (String × List Char) :=
  match cs with
  | q :: rest =>
    if q == '"' || q == '\'' then
      let rec close : List Char → List Char → Option (List Char × List Char)
        | [], _ => none
        | c :: more, acc =>
          if c == q && acc.head? != some '\\' then some (acc.reverse, more)
          else close more (c :: acc)
      match close rest [] with
      | none => .error "unterminated quoted value"
      | some (inner, after) =>
        let inner := (inner.dropWhile (· == q)).reverse.dropWhile (· == q) |>.reverse
        if q == '"' then
          let u := unescape inner
          .ok (String.ofList (expand lookup (u.length + 1) u), after)
        else .ok (String.ofList inner, after)
    else plain
  | [] => plain
where
  plain : Except String (String × List Char) :=
    let line := cs.takeWhile fun c => c != '\n' && c != '\r'
    let after := cs.drop line.length
    let cut := (List.range line.length).reverse.find? fun i =>
      i > 0 && line.getD i ' ' == '#' && isSpace (line.getD (i - 1) 'x')
    let body := match cut with
      | some i => line.take i
      | none => line
    let trimmed := (body.dropWhile isSpace).reverse.dropWhile isSpace |>.reverse
    .ok (String.ofList (expand lookup (trimmed.length + 1) trimmed), after)

def parse (text : String) : Except String (List (String × String)) :=
  let cs := (text.replace "\r\n" "\n").toList
  go (cs.length + 1) cs []
where
  go : Nat → List Char → List (String × String) → Except String (List (String × String))
    | 0, _, acc => .ok acc
    | fuel + 1, cs, acc =>
      match statementStart (cs.length + 1) cs with
      | none => .ok acc
      | some start => do
        let (key, rest) ← readName start
        let lookup := fun (n : String) => ((acc.find? (·.1 == n)).map (·.2)).getD ""
        let (value, after) ← readValue lookup rest
        go fuel after ((acc.filter (·.1 != key)) ++ [(key, value)])

end CrudRoutes.Dotenv
