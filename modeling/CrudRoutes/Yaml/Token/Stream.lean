import CrudRoutes.Yaml.Token.Scalar
import CrudRoutes.Yaml.Token.Property

/-!
The token stream of a YAML text.

Each step skips blanks, comments and line breaks, closes the block collections indented deeper
than the new position, and reads one token. Block collections open where a line is indented
deeper than the enclosing one: a `- ` opens a sequence, and a key (written with `? ` or found
implicitly before a `: `) opens a mapping. Their start tokens are inserted before the first
entry's tokens, so an implicit key's start is remembered until its `:` is found or it can no
longer be a key: on a later line, or more than 1024 characters before.

Tabs may separate tokens in flow context and where no implicit key may start; elsewhere they
cannot start a token. A comment on a token's own line is taken with the token, blanks and tabs
before it included; comment lines that follow one another are taken together.

The grouping stage takes tokens from the front of the queue. The lexer keeps at least three
waiting, and more while the first might still start an implicit key, so a syntax error a few
tokens ahead is found before the tokens before it are grouped.
-/

namespace CrudRoutes.Yaml

namespace Lexer

def maxDepth : Nat := 10000

def unroll (l : Lexer) (column : Int) (scanMark : Mark) : Nat → Lexer
  | 0 => l
  | n + 1 =>
    if l.flowLevel > 0 || !(l.indent > column) then l
    else
      let m := { scanMark with index := scanMark.index - 1 }
      let l := l.push { kind := .blockEnd, start := m, stop := m }
      let l := match l.indents with
        | i :: rest => { l with indent := i, indents := rest }
        | [] => { l with indent := -1 }
      l.unroll column scanMark n

def roll (l : Lexer) (column : Int) (number : Option Nat) (kind : TokenKind) (m : Mark) :
    Except Error Lexer :=
  if l.flowLevel > 0 || !(l.indent < column) then .ok l
  else
    let l := { l with indents := l.indent :: l.indents, indent := column }
    if l.indents.length > maxDepth then
      .error (.scanner l.currentKey.mark ("exceeded max depth of " ++ toString maxDepth) l.mark)
    else
      let t : Token := { kind, start := m, stop := m }
      .ok (match number with
        | some k => l.insert (k - l.taken) t
        | none => l.push t)

def removeKey (l : Lexer) : Except Error Lexer :=
  let k := l.currentKey
  if k.possible then
    if k.required then .error (.scanner k.mark "could not find expected ':'" l.mark)
    else .ok ((l.setCurrentKey { k with possible := false }).forgetKey k.tokenNumber)
  else .ok l

def saveKey (l : Lexer) : Except Error Lexer := do
  if !l.keyAllowed then return l
  let k : SimpleKey :=
    { possible := true, required := l.flowLevel == 0 && l.indent == (l.mark.column : Int),
      tokenNumber := l.nextNumber, mark := l.mark }
  let l ← l.removeKey
  let l := l.setCurrentKey k
  pure (l.recordKey k.tokenNumber (l.keys.size - 1))

def keyValid (l : Lexer) (i : Nat) : Except Error (Lexer × Bool) :=
  match l.keys[i]? with
  | none => .ok (l, false)
  | some k =>
    if !k.possible then .ok (l, false)
    else if k.mark.line < l.mark.line || k.mark.index + 1024 < l.mark.index then
      if k.required then .error (.scanner k.mark "could not find expected ':'" l.mark)
      else .ok ({ l with keys := l.keys.set! i { k with possible := false } }, false)
    else .ok (l, true)

def increaseFlow (l : Lexer) : Except Error Lexer :=
  let l := { l with keys := l.keys.push { mark := l.mark }, flowLevel := l.flowLevel + 1 }
  if l.flowLevel > maxDepth then
    .error (.scanner l.mark ("exceeded max depth of " ++ toString maxDepth) l.mark)
  else .ok l

def decreaseFlow (l : Lexer) : Lexer :=
  if l.flowLevel > 0 then
    let k := l.currentKey
    { (l.forgetKey k.tokenNumber) with flowLevel := l.flowLevel - 1, keys := l.keys.pop }
  else l

def indicator (l : Lexer) (kind : TokenKind) : Lexer :=
  let start := l.mark
  let l := l.skip
  l.push { kind, start, stop := l.mark }

/-! ### Comments and spacing -/

def advanceTo (l : Lexer) (target : Nat) : Nat → Lexer
  | 0 => l
  | n + 1 =>
    if l.mark.index ≥ target then l
    else if isBreak (l.ch 0) then (l.skipLine).advanceTo target n
    else (l.skip).advanceTo target n

def nextComment (l : Lexer) (at0 : Nat) : Nat → Option Nat
  | 0 => none
  | n + 1 =>
    if at0 ≥ 512 then none
    else
      let c := l.ch at0
      if isBlank c || isBreak c then l.nextComment (at0 + 1) n
      else if c == '#' then some at0
      else none

def commentLines (l : Lexer) : Nat → Lexer
  | 0 => l
  | n + 1 =>
    let l := l.skipToBreak l.fuel
    match l.nextComment 1 512 with
    | some k => (l.advanceTo (l.mark.index + k) l.fuel).commentLines n
    | none => l

def firstNonBlank (l : Lexer) (k : Nat) : Nat → Option Nat
  | 0 => none
  | n + 1 => if k ≥ 512 then none else if isBlank (l.ch k) then l.firstNonBlank (k + 1) n else some k

def lineComment (l : Lexer) : Lexer :=
  if l.newlines > 0 then l
  else match l.firstNonBlank 0 512 with
    | some k => if l.ch k == '#' then (l.skipN k).skipToBreak l.fuel else l
    | none => l

def skipSpacing (l : Lexer) : Nat → Lexer
  | 0 => l
  | n + 1 =>
    if l.ch 0 == ' ' || ((l.flowLevel > 0 || !l.keyAllowed) && l.ch 0 == '\t') then
      (l.skip).skipSpacing n
    else l

def toNextToken (l : Lexer) : Nat → Lexer
  | 0 => l
  | n + 1 =>
    let l := if l.mark.column == 0 && l.ch 0 == '\uFEFF' then l.skip else l
    let l := l.skipSpacing l.fuel
    let l := if l.ch 0 == '#' then l.commentLines l.fuel else l
    if isBreak (l.ch 0) then
      let l := l.skipLine
      let l := if l.flowLevel == 0 then { l with keyAllowed := true } else l
      l.toNextToken n
    else l

/-! ### Tokens -/

def streamStart (l : Lexer) : Lexer :=
  let l := { l with indent := -1, keys := #[{}], keyDepths := [], keyAllowed := true,
                    started := true }
  l.push { kind := .streamStart, start := l.mark, stop := l.mark }

def streamEnd (l : Lexer) : Except Error Lexer := do
  let l := if l.mark.column != 0 then
      { l with mark := { l.mark with column := 0, line := l.mark.line + 1 } }
    else l
  let l := l.unroll (-1) l.mark (l.indents.length + 1)
  let l ← l.removeKey
  let l := { l with keyAllowed := false }
  pure (l.push { kind := .streamEnd, start := l.mark, stop := l.mark })

def atLineStart (l : Lexer) : Except Error Lexer := do
  let l := l.unroll (-1) l.mark (l.indents.length + 1)
  let l ← l.removeKey
  pure { l with keyAllowed := false }

def documentMarker (l : Lexer) (kind : TokenKind) : Except Error Lexer := do
  let l ← l.atLineStart
  let start := l.mark
  let l := l.skipN 3
  pure (l.push { kind, start, stop := l.mark })

def flowStart (l : Lexer) (kind : TokenKind) : Except Error Lexer := do
  let l ← l.saveKey
  let l ← l.increaseFlow
  pure ({ l with keyAllowed := true }.indicator kind)

def flowEnd (l : Lexer) (kind : TokenKind) : Except Error Lexer := do
  let l ← l.removeKey
  let l := l.decreaseFlow
  pure ({ l with keyAllowed := false }.indicator kind)

def flowEntry (l : Lexer) : Except Error Lexer := do
  let l ← l.removeKey
  pure ({ l with keyAllowed := true }.indicator .flowEntry)

def blockEntry (l : Lexer) : Except Error Lexer := do
  let l ← if l.flowLevel == 0 then do
      if !l.keyAllowed then
        throw (.scanner l.mark "block sequence entries are not allowed in this context" l.mark)
      l.roll l.mark.column none .blockSequenceStart l.mark
    else pure l
  let l ← l.removeKey
  pure ({ l with keyAllowed := true }.indicator .blockEntry)

def explicitKey (l : Lexer) : Except Error Lexer := do
  let l ← if l.flowLevel == 0 then do
      if !l.keyAllowed then
        throw (.scanner l.mark "mapping keys are not allowed in this context" l.mark)
      l.roll l.mark.column none .blockMappingStart l.mark
    else pure l
  let l ← l.removeKey
  pure ({ l with keyAllowed := l.flowLevel == 0 }.indicator .key)

def valueIndicator (l : Lexer) : Except Error Lexer := do
  let (l, valid) ← l.keyValid (l.keys.size - 1)
  let l ← if valid then do
      let k := l.currentKey
      let l := l.insert (k.tokenNumber - l.taken) { kind := .key, start := k.mark, stop := k.mark }
      let l ← l.roll k.mark.column (some k.tokenNumber) .blockMappingStart k.mark
      let l := (l.setCurrentKey { k with possible := false }).forgetKey k.tokenNumber
      pure { l with keyAllowed := false }
    else do
      let l ← if l.flowLevel == 0 then do
          if !l.keyAllowed then
            throw (.scanner l.mark "mapping values are not allowed in this context" l.mark)
          l.roll l.mark.column none .blockMappingStart l.mark
        else pure l
      pure { l with keyAllowed := l.flowLevel == 0 }
  pure (l.indicator .value)

def keyToken (l : Lexer) (scan : Lexer → Except Error (Lexer × Token)) : Except Error Lexer := do
  let l ← l.saveKey
  let (l, t) ← scan { l with keyAllowed := false }
  pure (l.push t)

def startsPlain (l : Lexer) (c : Char) : Bool :=
  !(isBlankZ c || c == '-' || c == '?' || c == ':' || c == ',' || c == '[' || c == ']' ||
    c == '\x7b' || c == '\x7d' || c == '#' || c == '&' || c == '*' || c == '!' || c == '|' ||
    c == '>' || c == '\'' || c == '"' || c == '%' || c == '@' || c == '\x60') ||
  (c == '-' && !isBlank (l.ch 1)) ||
  (l.flowLevel == 0 && (c == '?' || c == ':') && !isBlankZ (l.ch 1))

def fetchToken (l : Lexer) (c : Char) : Except Error Lexer :=
  if c == '[' then l.flowStart .flowSequenceStart
  else if c == '\x7b' then l.flowStart .flowMappingStart
  else if c == ']' then l.flowEnd .flowSequenceEnd
  else if c == '\x7d' then l.flowEnd .flowMappingEnd
  else if c == ',' then l.flowEntry
  else if c == '-' && isBlankZ (l.ch 1) then l.blockEntry
  else if c == '?' && (l.flowLevel > 0 || isBlankZ (l.ch 1)) then l.explicitKey
  else if c == ':' && (l.flowLevel > 0 || isBlankZ (l.ch 1)) then l.valueIndicator
  else if c == '*' then l.keyToken (·.anchor true)
  else if c == '&' then l.keyToken (·.anchor false)
  else if c == '!' then l.keyToken Lexer.tag
  else if (c == '|' || c == '>') && l.flowLevel == 0 then do
    let l ← l.removeKey
    let (l, t) ← { l with keyAllowed := true }.blockScalar (c == '|')
    pure (l.push t)
  else if c == '\'' || c == '"' then l.keyToken (·.quotedScalar (c == '\''))
  else if l.startsPlain c then l.keyToken Lexer.plainScalar
  else .error (.scanner l.mark "found character that cannot start any token" l.mark)

def fetchNext (l : Lexer) : Except Error Lexer := do
  if !l.started then return l.streamStart
  let scanMark := l.mark
  let l := l.toNextToken l.fuel
  let l := l.unroll l.mark.column scanMark (l.indents.length + 1)
  let c := l.ch 0
  if c == '\x00' then l.streamEnd
  else if l.mark.column == 0 && c == '%' then do
    let l ← l.atLineStart
    let (l, t) ← l.directive
    pure (l.push t)
  else if l.mark.column == 0 && c == '-' && l.ch 1 == '-' && l.ch 2 == '-' && isBlankZ (l.ch 3) then
    l.documentMarker .documentStart
  else if l.mark.column == 0 && c == '.' && l.ch 1 == '.' && l.ch 2 == '.' && isBlankZ (l.ch 3) then
    l.documentMarker .documentEnd
  else do
    let l ← l.fetchToken c
    let afterEntry : Bool := match l.queue.back? with
      | some t => t.kind == .blockEntry
      | none => false
    pure (if afterEntry then l else l.lineComment)

def fetchMore (l : Lexer) : Nat → Except Error Lexer
  | 0 => .ok { l with ready := true }
  | n + 1 => do
    if l.queue.size ≥ 3 then
      match l.keyDepth? l.taken with
      | none => return { l with ready := true }
      | some i =>
        let (l, valid) ← l.keyValid i
        if !valid then return { l with ready := true }
        let l ← l.fetchNext
        l.fetchMore n
    else
      let l ← l.fetchNext
      l.fetchMore n

def peek (l : Lexer) : Except Error (Lexer × Token) := do
  let l ← if l.ready then pure l else l.fetchMore (l.fuel + 8)
  pure (l, l.queue[0]?.getD {})

def take (l : Lexer) : Lexer :=
  { l with ready := false, taken := l.taken + 1, queue := l.queue.extract 1 l.queue.size }

end Lexer

end CrudRoutes.Yaml
