import CrudRoutes.Yaml.Token.Lexer

/-!
Node properties and directives: anchors (`&name`), aliases (`*name`), tags and the `%YAML`
and `%TAG` lines.

An anchor or alias name is a run of ASCII letters, digits, `_` and `-`, followed by a blank, a
break, the end, or one of `?:,]}%@` and the backquote. A tag is verbatim (`!<uri>`), a handle
and a suffix (`!!str`, `!e!tag`), or a single `!` and a suffix (`!local`); a lone `!` is the
non-specific tag. Suffixes are URI characters, with `%` escapes decoded as UTF-8 octets.
-/

namespace CrudRoutes.Yaml

def Lexer.takeWord (l : Lexer) (acc : String) : Nat → Lexer × String
  | 0 => (l, acc)
  | n + 1 => if isWordChar (l.ch 0) then (l.skip).takeWord (acc.push (l.ch 0)) n else (l, acc)

def Lexer.anchor (l : Lexer) (isAlias : Bool) : Except Error (Lexer × Token) :=
  let start := l.mark
  let (l, name) := (l.skip).takeWord "" l.fuel
  let c := l.ch 0
  if name.isEmpty || !(isBlankZ c || c == '?' || c == ':' || c == ',' || c == ']' ||
      c == '\x7d' || c == '%' || c == '@' || c == '\x60') then
    .error (.scanner start "did not find expected alphabetic or numeric character" l.mark)
  else
    .ok (l, { kind := if isAlias then .alias name else .anchor name, start, stop := l.mark })

def isUriChar (c : Char) (wide : Bool) : Bool :=
  isWordChar c || c == ';' || c == '/' || c == '?' || c == ':' || c == '@' || c == '&' ||
    c == '=' || c == '+' || c == '$' || c == '.' || c == '!' || c == '~' || c == '*' ||
    c == '\'' || c == '(' || c == ')' || c == '%' ||
    (wide && (c == ',' || c == '[' || c == ']'))

def utf8Width (b : Nat) : Nat :=
  if b < 0x80 then 1
  else if b / 32 == 6 then 2
  else if b / 16 == 14 then 3
  else if b / 8 == 30 then 4
  else 0

def Lexer.uriEscapes (l : Lexer) (start : Mark) : Except Error (Lexer × List UInt8) :=
  go l 0 [] 5
where
  go (l : Lexer) (width : Nat) (acc : List UInt8) : Nat → Except Error (Lexer × List UInt8)
    | 0 => .ok (l, acc)
    | n + 1 =>
      match l.ch 0 == '%', hexDigit? (l.ch 1), hexDigit? (l.ch 2) with
      | true, some hi, some lo =>
        let octet := hi * 16 + lo
        if width == 0 then
          let w := utf8Width octet
          if w == 0 then
            .error (Error.scanner start "found an incorrect leading UTF-8 octet" l.mark)
          else
            let l := l.skipN 3
            if w == 1 then .ok (l, acc ++ [octet.toUInt8])
            else go l (w - 1) (acc ++ [octet.toUInt8]) n
        else if octet / 64 != 2 then
          .error (Error.scanner start "found an incorrect trailing UTF-8 octet" l.mark)
        else
          let l := l.skipN 3
          if width == 1 then .ok (l, acc ++ [octet.toUInt8])
          else go l (width - 1) (acc ++ [octet.toUInt8]) n
      | _, _, _ => .error (Error.scanner start "did not find URI escaped octet" l.mark)

def textOfOctets (bs : List UInt8) : String :=
  match String.fromUTF8? (ByteArray.mk bs.toArray) with
  | some s => s
  | none => String.ofList (bs.map fun _ => '\uFFFD')

def Lexer.tagUri (l : Lexer) (wide : Bool) (head : String) (start : Mark) :
    Except Error (Lexer × String) := do
  let (l, s) ← go l ((head.drop 1).toString) l.fuel
  if s.isEmpty && head.isEmpty then
    throw (Error.scanner start "did not find expected tag URI" l.mark)
  pure (l, s)
where
  go (l : Lexer) (acc : String) : Nat → Except Error (Lexer × String)
    | 0 => .ok (l, acc)
    | n + 1 =>
      let c := l.ch 0
      if !isUriChar c wide then .ok (l, acc)
      else if c == '%' then do
        let (l, bs) ← l.uriEscapes start
        go l (acc ++ textOfOctets bs) n
      else go l.skip (acc.push c) n

def Lexer.tagHandle (l : Lexer) (directive : Bool) (start : Mark) :
    Except Error (Lexer × String) :=
  if l.ch 0 != '!' then .error (Error.scanner start "did not find expected '!'" l.mark)
  else
    let (l, s) := (l.skip).takeWord "!" l.fuel
    if l.ch 0 == '!' then .ok (l.skip, s.push '!')
    else if directive && s != "!" then
      .error (Error.scanner start "did not find expected '!'" l.mark)
    else .ok (l, s)

def Lexer.tag (l : Lexer) : Except Error (Lexer × Token) := do
  let start := l.mark
  let (l, handle, suffix) ←
    if l.ch 1 == '<' then do
      let (l, suffix) ← (l.skipN 2).tagUri true "" start
      if l.ch 0 != '>' then throw (.scanner start "did not find the expected '>'" l.mark)
      pure (l.skip, "", suffix)
    else do
      let (l, handle) ← l.tagHandle false start
      if handle.length > 1 && handle.startsWith "!" && handle.endsWith "!" then
        let (l, suffix) ← l.tagUri false "" start
        pure (l, handle, suffix)
      else
        let (l, suffix) ← l.tagUri false handle start
        if suffix.isEmpty then pure (l, "", "!") else pure (l, "!", suffix)
  let c := l.ch 0
  if !isBlankZ c && (l.flowLevel == 0 || c != ',') then
    throw (.scanner start "did not find expected whitespace or line break" l.mark)
  pure (l, { kind := .tag handle suffix, start, stop := l.mark })

def Lexer.versionNumber (l : Lexer) (start : Mark) : Except Error (Lexer × Nat) :=
  go l 0 0 4
where
  go (l : Lexer) (value length : Nat) : Nat → Except Error (Lexer × Nat)
    | 0 => .ok (l, value)
    | n + 1 =>
      let c := l.ch 0
      if isDigitChar c then
        if length + 1 > 2 then
          .error (.scanner start "found extremely long version number" l.mark)
        else go l.skip (value * 10 + (c.toNat - '0'.toNat)) (length + 1) n
      else if length == 0 then
        .error (.scanner start "did not find expected version number" l.mark)
      else .ok (l, value)

def Lexer.directive (l : Lexer) : Except Error (Lexer × Token) := do
  let start := l.mark
  let (l, name) := (l.skip).takeWord "" l.fuel
  if name.isEmpty then throw (.scanner start "could not find expected directive name" l.mark)
  if !isBlankZ (l.ch 0) then
    throw (.scanner start "found unexpected non-alphabetical character" l.mark)
  let (l, kind) ←
    if name == "YAML" then do
      let l := l.skipBlanks l.fuel
      let (l, major) ← l.versionNumber start
      if l.ch 0 != '.' then
        throw (.scanner start "did not find expected digit or '.' character" l.mark)
      let (l, minor) ← (l.skip).versionNumber start
      pure (l, TokenKind.versionDirective major minor)
    else if name == "TAG" then do
      let l := l.skipBlanks l.fuel
      let (l, handle) ← l.tagHandle true start
      if !isBlank (l.ch 0) then throw (.scanner start "did not find expected whitespace" l.mark)
      let l := l.skipBlanks l.fuel
      let (l, pfx) ← l.tagUri true "" start
      if !isBlankZ (l.ch 0) then
        throw (.scanner start "did not find expected whitespace or line break" l.mark)
      pure (l, TokenKind.tagDirective handle pfx)
    else throw (.scanner start "found unknown directive name" l.mark)
  let stop := l.mark
  let l := l.skipBlanks l.fuel
  let l := if l.ch 0 == '#' then l.skipToBreak l.fuel else l
  if !isBreakZ (l.ch 0) then
    throw (.scanner start "did not find expected comment or line break" l.mark)
  pure (l.skipLine, { kind, start, stop })

end CrudRoutes.Yaml
