import CrudRoutes.Yaml.Error

/-!
Tokens of a YAML text and the classes of characters that delimit them.

A text is split into indicators (`-`, `?`, `:`, `,`, brackets and braces), scalars,
properties (anchors, aliases and tags), directives and document markers. Block collections
have no brackets: the lexer makes their starts and ends explicit as tokens of their own,
from the indentation of the lines.

Line breaks are carriage return, line feed, next line (U+0085) and the line and paragraph
separators (U+2028, U+2029); blanks are space and tab. The end of the text reads as the
character 0, which no text can hold since control characters are refused.
-/

namespace CrudRoutes.Yaml

/-- How a scalar is written. -/
inductive ScalarStyle where
  | plain
  | singleQuoted
  | doubleQuoted
  | literal
  | folded
  deriving Inhabited, BEq, Repr

/-- What a token is. -/
inductive TokenKind where
  | streamStart
  | streamEnd
  | versionDirective (major minor : Nat)
  | tagDirective (handle pfx : String)
  | documentStart
  | documentEnd
  | blockSequenceStart
  | blockMappingStart
  | blockEnd
  | flowSequenceStart
  | flowSequenceEnd
  | flowMappingStart
  | flowMappingEnd
  | blockEntry
  | flowEntry
  | key
  | value
  | alias (name : String)
  | anchor (name : String)
  | tag (handle suffix : String)
  | scalar (text : String) (style : ScalarStyle)
  deriving Inhabited, BEq, Repr

/-- A token and the marks where it starts and ends. -/
structure Token where
  kind : TokenKind := .streamEnd
  start : Mark := {}
  stop : Mark := {}
  deriving Inhabited, Repr

def isBreak (c : Char) : Bool :=
  c == '\r' || c == '\n' || c == '\x85' || c == '\u2028' || c == '\u2029'

def isBlank (c : Char) : Bool :=
  c == ' ' || c == '\t'

def isBreakZ (c : Char) : Bool :=
  isBreak c || c == '\x00'

def isBlankZ (c : Char) : Bool :=
  isBlank c || isBreakZ c

def isWordChar (c : Char) : Bool :=
  ('0' ≤ c && c ≤ '9') || ('A' ≤ c && c ≤ 'Z') || ('a' ≤ c && c ≤ 'z') || c == '_' || c == '-'

def isDigitChar (c : Char) : Bool :=
  '0' ≤ c && c ≤ '9'

def hexDigit? (c : Char) : Option Nat :=
  if '0' ≤ c && c ≤ '9' then some (c.toNat - '0'.toNat)
  else if 'a' ≤ c && c ≤ 'f' then some (c.toNat - 'a'.toNat + 10)
  else if 'A' ≤ c && c ≤ 'F' then some (c.toNat - 'A'.toNat + 10)
  else none

def isPrintable (c : Char) : Bool :=
  let n := c.toNat
  n == 0x09 || n == 0x0A || n == 0x0D || (0x20 ≤ n && n ≤ 0x7E) || n == 0x85 ||
    (0xA0 ≤ n && n ≤ 0xD7FF) || (0xE000 ≤ n && n ≤ 0xFFFD) || (0x10000 ≤ n && n ≤ 0x10FFFF)

end CrudRoutes.Yaml
