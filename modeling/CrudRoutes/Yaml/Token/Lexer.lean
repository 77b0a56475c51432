import CrudRoutes.Yaml.Token

/-!
The state of a lexer over a YAML text, and how it moves through the characters.

The lexer keeps the text as an array of characters and its position as a mark, whose offset
is the index of the next character. Tokens wait in a queue until the grouping stage takes
them: a token cannot leave while it might still turn out to start an implicit key, since the
key token has to be inserted before it once the `:` is seen.

Besides the queue the lexer keeps the indentation of the enclosing block collections, the
depth of flow brackets, one possible implicit key per flow depth, and whether an implicit key
may start at the current position. It also counts the line breaks passed since the last
character that is not blank, so that a comment is taken as trailing a token only when it is on
the token's own line.
-/

namespace CrudRoutes.Yaml

/-- A position where an implicit key may start: a key without the `?` indicator is known only
when the `:` after it is found. -/
structure SimpleKey where
  possible : Bool := false
  required : Bool := false
  tokenNumber : Nat := 0
  mark : Mark := {}
  deriving Inhabited, Repr

/-- The state of a lexer. -/
structure Lexer where
  text : Array Char
  mark : Mark := {}
  queue : Array Token := #[]
  taken : Nat := 0
  started : Bool := false
  indent : Int := -1
  indents : List Int := []
  keyAllowed : Bool := false
  keys : Array SimpleKey := #[]
  keyDepths : List (Nat × Nat) := []
  flowLevel : Nat := 0
  newlines : Nat := 0
  ready : Bool := false
  deriving Inhabited

namespace Lexer

def start (text : String) : Lexer :=
  let cs := text.toList
  { text := (match cs with
      | '\uFEFF' :: rest => rest
      | _ => cs).toArray }

def ch (l : Lexer) (k : Nat) : Char :=
  l.text.getD (l.mark.index + k) '\x00'

def fuel (l : Lexer) : Nat :=
  l.text.size + 2

def skip (l : Lexer) : Lexer :=
  { l with
    newlines := if isBlank (l.ch 0) then l.newlines else 0
    mark := { l.mark with index := l.mark.index + 1, column := l.mark.column + 1 } }

def skipN (l : Lexer) : Nat → Lexer
  | 0 => l
  | n + 1 => (l.skip).skipN n

def skipLine (l : Lexer) : Lexer :=
  if l.ch 0 == '\r' && l.ch 1 == '\n' then
    { l with newlines := l.newlines + 1, mark := ⟨l.mark.index + 2, l.mark.line + 1, 0⟩ }
  else if isBreak (l.ch 0) then
    { l with newlines := l.newlines + 1, mark := ⟨l.mark.index + 1, l.mark.line + 1, 0⟩ }
  else l

def readLine (l : Lexer) : Lexer × String :=
  let c := l.ch 0
  if isBreak c then
    (l.skipLine, if c == '\u2028' || c == '\u2029' then c.toString else "\n")
  else (l, "")

def skipBlanks (l : Lexer) : Nat → Lexer
  | 0 => l
  | n + 1 => if isBlank (l.ch 0) then (l.skip).skipBlanks n else l

def skipToBreak (l : Lexer) : Nat → Lexer
  | 0 => l
  | n + 1 => if isBreakZ (l.ch 0) then l else (l.skip).skipToBreak n

def atDocumentMarker (l : Lexer) : Bool :=
  l.mark.column == 0 &&
    ((l.ch 0 == '-' && l.ch 1 == '-' && l.ch 2 == '-') ||
      (l.ch 0 == '.' && l.ch 1 == '.' && l.ch 2 == '.')) &&
    isBlankZ (l.ch 3)

def push (l : Lexer) (t : Token) : Lexer :=
  { l with queue := l.queue.push t }

def insert (l : Lexer) (pos : Nat) (t : Token) : Lexer :=
  { l with queue := l.queue.insertIdxIfInBounds pos t }

def nextNumber (l : Lexer) : Nat :=
  l.taken + l.queue.size

def keyDepth? (l : Lexer) (n : Nat) : Option Nat :=
  (l.keyDepths.find? (·.1 == n)).map (·.2)

def forgetKey (l : Lexer) (n : Nat) : Lexer :=
  { l with keyDepths := l.keyDepths.filter (·.1 != n) }

def recordKey (l : Lexer) (n depth : Nat) : Lexer :=
  { l with keyDepths := (n, depth) :: l.keyDepths.filter (·.1 != n) }

def currentKey (l : Lexer) : SimpleKey :=
  l.keys.back?.getD {}

def setCurrentKey (l : Lexer) (k : SimpleKey) : Lexer :=
  { l with keys := l.keys.set! (l.keys.size - 1) k }

end Lexer

end CrudRoutes.Yaml
