import CrudRoutes.Yaml.Token.Lexer

/-!
Scalars: plain, quoted and block.

Inside a plain or quoted scalar that spans lines, a single line break between two pieces of
text folds into a space; further breaks are kept as line feeds; blanks around the breaks are
dropped. A plain scalar ends before `: ` and ` #`, at a document marker, at a line indented no
deeper than the enclosing block collection, and in flow context before `,` and brackets.

Double-quoted scalars read backslash escapes, including `\x`, `\u` and `\U` code points, and
an escaped line break joins the lines without a space; single-quoted ones read `''` as a
quote.

A block scalar (`|` literal, `>` folded) takes its indentation from an explicit indicator or
from its first non-empty line; folding joins lines with a space unless either line starts
with a blank. Its final line breaks are kept or dropped as the chomping indicator says (`-`
drops them all, `+` keeps them all, and by default one is kept).
-/

namespace CrudRoutes.Yaml

/-- A scalar being read: its text so far and the blanks and breaks waiting to be folded in. -/
structure Folding where
  text : String := ""
  leadingBreak : String := ""
  trailingBreaks : String := ""
  whitespaces : String := ""
  leadingBlanks : Bool := false
  deriving Inhabited

namespace Folding

def folded (leadingBreak trailingBreaks : String) : String :=
  if leadingBreak.startsWith "\n" then
    (if trailingBreaks.isEmpty then " " else trailingBreaks)
  else leadingBreak ++ trailingBreaks

def join (f : Folding) : Folding :=
  if f.leadingBlanks then
    { f with text := f.text ++ folded f.leadingBreak f.trailingBreaks,
             leadingBreak := "", trailingBreaks := "", leadingBlanks := false }
  else if !f.whitespaces.isEmpty then
    { f with text := f.text ++ f.whitespaces, whitespaces := "" }
  else f

def takeSpace (f : Folding) (l : Lexer) : Lexer × Folding :=
  let c := l.ch 0
  if isBlank c then
    (l.skip, if f.leadingBlanks then f else { f with whitespaces := f.whitespaces.push c })
  else
    let (l', br) := l.readLine
    if f.leadingBlanks then (l', { f with trailingBreaks := f.trailingBreaks ++ br })
    else (l', { f with whitespaces := "", leadingBreak := br, leadingBlanks := true })

end Folding

/-! ### Plain scalars -/

def Lexer.endsPlain (l : Lexer) : Bool :=
  (l.ch 0 == ':' && isBlankZ (l.ch 1)) ||
    (l.flowLevel > 0 &&
      (l.ch 0 == ',' || l.ch 0 == '[' || l.ch 0 == ']' || l.ch 0 == '\x7b' || l.ch 0 == '\x7d'))

def plainRun (l : Lexer) (f : Folding) (stop : Mark) : Nat → Lexer × Folding × Mark
  | 0 => (l, f, stop)
  | n + 1 =>
    if isBlankZ (l.ch 0) || l.endsPlain then (l, f, stop)
    else
      let f := f.join
      let c := l.ch 0
      let l := l.skip
      plainRun l { f with text := f.text.push c } l.mark n

def plainSpace (l : Lexer) (f : Folding) (indent : Int) (start : Mark) :
    Nat → Except Error (Lexer × Folding)
  | 0 => .ok (l, f)
  | n + 1 =>
    let c := l.ch 0
    if isBlank c && f.leadingBlanks && (l.mark.column : Int) < indent && c == '\t' then
      .error (.scanner start "found a tab character that violates indentation" l.mark)
    else if isBlank c || isBreak c then
      let (l, f) := f.takeSpace l
      plainSpace l f indent start n
    else .ok (l, f)

def plainPieces (l : Lexer) (f : Folding) (stop : Mark) (indent : Int) (start : Mark) :
    Nat → Except Error (Lexer × Folding × Mark)
  | 0 => .ok (l, f, stop)
  | n + 1 =>
    if l.atDocumentMarker || l.ch 0 == '#' then .ok (l, f, stop)
    else
      let (l, f, stop) := plainRun l f stop l.fuel
      if !(isBlank (l.ch 0) || isBreak (l.ch 0)) then .ok (l, f, stop)
      else do
        let (l, f) ← plainSpace l f indent start l.fuel
        if l.flowLevel == 0 && (l.mark.column : Int) < indent then .ok (l, f, stop)
        else plainPieces l f stop indent start n

def Lexer.plainScalar (l : Lexer) : Except Error (Lexer × Token) := do
  let start := l.mark
  let (l, f, stop) ← plainPieces l {} start (l.indent + 1) start l.fuel
  let l := if f.leadingBlanks then { l with keyAllowed := true } else l
  pure (l, { kind := .scalar f.text .plain, start, stop })

/-! ### Quoted scalars -/

def escapeChar? : Char → Option Char
  | '0' => some '\x00'
  | 'a' => some '\x07'
  | 'b' => some '\x08'
  | 't' => some '\t'
  | '\t' => some '\t'
  | 'n' => some '\n'
  | 'v' => some '\x0B'
  | 'f' => some '\x0C'
  | 'r' => some '\r'
  | 'e' => some '\x1B'
  | ' ' => some ' '
  | '"' => some '"'
  | '\'' => some '\''
  | '\\' => some '\\'
  | 'N' => some '\x85'
  | '_' => some '\xA0'
  | 'L' => some '\u2028'
  | 'P' => some '\u2029'
  | _ => none

def escapeDigits : Char → Nat
  | 'x' => 2
  | 'u' => 4
  | 'U' => 8
  | _ => 0

def Lexer.hexValue? (l : Lexer) (start : Nat) : Nat → Option Nat
  | 0 => some 0
  | k + 1 => do
    let high ← l.hexValue? start k
    let d ← hexDigit? (l.ch (start + k))
    pure (high * 16 + d)

def Lexer.escape (l : Lexer) (start : Mark) : Except Error (Lexer × Char) :=
  let e := l.ch 1
  let digits := escapeDigits e
  if digits == 0 then
    match escapeChar? e with
    | some c => .ok (l.skipN 2, c)
    | none => .error (.scanner start "found unknown escape character" l.mark)
  else
    let l := l.skipN 2
    match l.hexValue? 0 digits with
    | none => .error (.scanner start "did not find expected hexdecimal number" l.mark)
    | some v =>
      if (0xD800 ≤ v && v ≤ 0xDFFF) || v > 0x10FFFF then
        .error (.scanner start "found invalid Unicode character escape code" l.mark)
      else .ok (l.skipN digits, Char.ofNat v)

def quotedRun (l : Lexer) (text : String) (single : Bool) (start : Mark) :
    Nat → Except Error (Lexer × String × Bool)
  | 0 => .ok (l, text, false)
  | n + 1 =>
    let c := l.ch 0
    if isBlankZ c then .ok (l, text, false)
    else if single && c == '\'' && l.ch 1 == '\'' then
      quotedRun (l.skipN 2) (text.push '\'') single start n
    else if single && c == '\'' then .ok (l, text, false)
    else if !single && c == '"' then .ok (l, text, false)
    else if !single && c == '\\' && isBreak (l.ch 1) then
      .ok ((l.skip).skipLine, text, true)
    else if !single && c == '\\' then do
      let (l, e) ← l.escape start
      quotedRun l (text.push e) single start n
    else quotedRun l.skip (text.push c) single start n

def quotedSpace (l : Lexer) (f : Folding) : Nat → Lexer × Folding
  | 0 => (l, f)
  | n + 1 =>
    if isBlank (l.ch 0) || isBreak (l.ch 0) then
      let (l, f) := f.takeSpace l
      quotedSpace l f n
    else (l, f)

def Lexer.closesQuote (l : Lexer) (single : Bool) : Bool :=
  if single then l.ch 0 == '\'' else l.ch 0 == '"'

def quotedPieces (l : Lexer) (f : Folding) (single : Bool) (start : Mark) :
    Nat → Except Error (Lexer × Folding)
  | 0 => .ok (l, f)
  | n + 1 =>
    if l.atDocumentMarker then
      .error (.scanner start "found unexpected document indicator" l.mark)
    else if l.ch 0 == '\x00' then
      .error (.scanner start "found unexpected end of stream" l.mark)
    else do
      let (l, text, escapedBreak) ← quotedRun l f.text single start l.fuel
      let f := { f with text, leadingBlanks := escapedBreak }
      if l.closesQuote single then .ok (l, f)
      else
        let (l, f) := quotedSpace l f l.fuel
        let f := if f.leadingBlanks then
            { f with text := f.text ++ Folding.folded f.leadingBreak f.trailingBreaks,
                     leadingBreak := "", trailingBreaks := "" }
          else { f with text := f.text ++ f.whitespaces, whitespaces := "" }
        quotedPieces l f single start n

def Lexer.quotedScalar (l : Lexer) (single : Bool) : Except Error (Lexer × Token) := do
  let start := l.mark
  let (l, f) ← quotedPieces l.skip {} single start l.fuel
  let l := l.skip
  pure (l, { kind := .scalar f.text (if single then .singleQuoted else .doubleQuoted),
             start, stop := l.mark })

/-! ### Block scalars -/

def Lexer.blockIndicators (l : Lexer) (start : Mark) : Except Error (Lexer × Int × Nat) :=
  let chompOf := fun (c : Char) => if c == '+' then (1 : Int) else -1
  let c := l.ch 0
  if c == '+' || c == '-' then
    let l := l.skip
    let d := l.ch 0
    if isDigitChar d then
      if d == '0' then
        .error (.scanner start "found an indentation indicator equal to 0" l.mark)
      else .ok (l.skip, chompOf c, d.toNat - '0'.toNat)
    else .ok (l, chompOf c, 0)
  else if isDigitChar c then
    if c == '0' then
      .error (.scanner start "found an indentation indicator equal to 0" l.mark)
    else
      let l := l.skip
      let d := l.ch 0
      if d == '+' || d == '-' then .ok (l.skip, chompOf d, c.toNat - '0'.toNat)
      else .ok (l, 0, c.toNat - '0'.toNat)
  else .ok (l, 0, 0)

def Lexer.takeToBreak (l : Lexer) (acc : String) : Nat → Lexer × String
  | 0 => (l, acc)
  | n + 1 =>
    let c := l.ch 0
    if isBreakZ c then (l, acc) else (l.skip).takeToBreak (acc.push c) n

def Lexer.blockIndentation (l : Lexer) (indent : Int) : Nat → Lexer
  | 0 => l
  | n + 1 =>
    if (indent == 0 || (l.mark.column : Int) < indent) && l.ch 0 == ' ' then
      (l.skip).blockIndentation indent n
    else l

def blockBreaks (l : Lexer) (indent : Int) (breaks : String) (stop : Mark) (maxIndent : Nat)
    (start : Mark) : Nat → Except Error (Lexer × Int × String × Mark)
  | 0 => .ok (l, indent, breaks, stop)
  | n + 1 =>
    let l := l.blockIndentation indent l.fuel
    let maxIndent := max maxIndent l.mark.column
    if (indent == 0 || (l.mark.column : Int) < indent) && l.ch 0 == '\t' then
      .error (.scanner start "found a tab character where an indentation space is expected" l.mark)
    else if isBreak (l.ch 0) then
      let (l, br) := l.readLine
      blockBreaks l indent (breaks ++ br) l.mark maxIndent start n
    else
      let indent := if indent == 0 then max (max (maxIndent : Int) (l.indent + 1)) 1 else indent
      .ok (l, indent, breaks, stop)

/-- The text of a block scalar being read, with the breaks after its last line. -/
structure BlockText where
  text : String := ""
  leadingBreak : String := ""
  trailingBreaks : String := ""
  leadingBlank : Bool := false

def blockLines (l : Lexer) (b : BlockText) (indent : Int) (stop : Mark) (literal : Bool)
    (start : Mark) : Nat → Except Error (Lexer × BlockText × Mark)
  | 0 => .ok (l, b, stop)
  | n + 1 =>
    if (l.mark.column : Int) != indent || l.ch 0 == '\x00' then .ok (l, b, stop)
    else do
      let trailingBlank := isBlank (l.ch 0)
      let text :=
        if !literal && !b.leadingBlank && !trailingBlank && b.leadingBreak.startsWith "\n" then
          (if b.trailingBreaks.isEmpty then b.text.push ' ' else b.text)
        else b.text ++ b.leadingBreak
      let text := text ++ b.trailingBreaks
      let leadingBlank := isBlank (l.ch 0)
      let (l, text) := l.takeToBreak text l.fuel
      let (l, leadingBreak) := l.readLine
      let (l, indent', trailing, stop) ← blockBreaks l indent "" l.mark 0 start l.fuel
      blockLines l { text, leadingBreak, trailingBreaks := trailing, leadingBlank } indent' stop
        literal start n

def Lexer.blockScalar (l : Lexer) (literal : Bool) : Except Error (Lexer × Token) := do
  let start := l.mark
  let (l, chomping, increment) ← (l.skip).blockIndicators start
  let l := (l.skipBlanks l.fuel).skipToBreak l.fuel
  if !isBreakZ (l.ch 0) then
    throw (.scanner start "did not find expected comment or line break" l.mark)
  let l := l.skipLine
  let indent : Int :=
    if increment > 0 then (if l.indent ≥ 0 then l.indent + increment else increment) else 0
  let (l, indent, trailing, stop) ← blockBreaks l indent "" l.mark 0 start l.fuel
  let (l, b, stop) ← blockLines l { trailingBreaks := trailing } indent stop literal start l.fuel
  let text := if chomping != -1 then b.text ++ b.leadingBreak else b.text
  let text := if chomping == 1 then text ++ b.trailingBreaks else text
  pure (l, { kind := .scalar text (if literal then .literal else .folded), start, stop })

end CrudRoutes.Yaml
