import CrudRoutes.Yaml.Event
import CrudRoutes.Yaml.Token.Stream
import CrudRoutes.Yaml.Resolve

/-!
Grouping tokens into events.

The reader follows the YAML grammar with a stack of what it expects next. Documents may start
with `%YAML 1.1` and `%TAG` directives and `---`, or implicitly with their content. A node is an
alias, or has optional anchor and tag properties (in either order) and then content: a scalar,
a flow collection, or in block context a block collection. A sequence that is the value of a
block mapping key may be written without extra indentation.

Tags are expanded by the document's `%TAG` handles together with `!` and `!!` (the core schema);
a handle that is not defined is an error. Errors inside a collection are reported with the mark
where the collection started.
-/

namespace CrudRoutes.Yaml

/-- What the event reader expects next. -/
inductive Expecting where
  | streamStart
  | implicitDocumentStart
  | documentStart
  | documentContent
  | documentEnd
  | blockNode
  | blockNodeOrIndentlessSequence
  | flowNode
  | blockSequenceFirstEntry
  | blockSequenceEntry
  | indentlessSequenceEntry
  | blockMappingFirstKey
  | blockMappingKey
  | blockMappingValue
  | flowSequenceFirstEntry
  | flowSequenceEntry
  | flowSequenceEntryMappingKey
  | flowSequenceEntryMappingValue
  | flowSequenceEntryMappingEnd
  | flowMappingFirstKey
  | flowMappingKey
  | flowMappingValue
  | flowMappingEmptyValue
  | finished
  deriving Inhabited, BEq, Repr

/-- The state of an event reader over a token stream. -/
structure EventReader where
  lexer : Lexer
  expecting : Expecting := .streamStart
  resume : List Expecting := []
  marks : List Mark := []
  tagHandles : List (String × String) := []
  deriving Inhabited

def TokenKind.isDirective : TokenKind → Bool
  | .versionDirective .. => true
  | .tagDirective .. => true
  | _ => false

def defaultTagHandles : List (String × String) :=
  [("!", "!"), ("!!", corePrefix)]

namespace EventReader

def start (text : String) : EventReader :=
  { lexer := Lexer.start text }

def peek (r : EventReader) : Except Error (EventReader × Token) := do
  let (l, t) ← r.lexer.peek
  pure ({ r with lexer := l }, t)

def take (r : EventReader) : EventReader :=
  { r with lexer := r.lexer.take }

def pop (r : EventReader) : EventReader :=
  match r.resume with
  | e :: rest => { r with expecting := e, resume := rest }
  | [] => { r with expecting := .finished }

def push (r : EventReader) (e : Expecting) : EventReader :=
  { r with resume := e :: r.resume }

def popMark (r : EventReader) : EventReader × Mark :=
  match r.marks with
  | m :: rest => ({ r with marks := rest }, m)
  | [] => (r, {})

def enter (r : EventReader) : Except Error EventReader := do
  let (r, t) ← r.peek
  pure { r.take with marks := t.start :: r.marks }

def closing (r : EventReader) (kind : EventKind) (t : Token) : EventReader × Event :=
  let (r, _) := r.pop.popMark
  (r.take, { kind, start := t.start, stop := t.stop })

def directives (r : EventReader) (version : Bool) : Nat → Except Error (EventReader × Token)
  | 0 => r.peek
  | n + 1 => do
    let (r, t) ← r.peek
    match t.kind with
    | .versionDirective major minor =>
      if version then throw (.parser none "found duplicate %YAML directive" t.start)
      if major != 1 || minor != 1 then
        throw (.parser none "found incompatible YAML document" t.start)
      r.take.directives true n
    | .tagDirective handle pfx =>
      if r.tagHandles.any (·.1 == handle) then
        throw (.parser none "found duplicate %TAG directive" t.start)
      { r.take with tagHandles := r.tagHandles ++ [(handle, pfx)] }.directives version n
    | _ =>
      let handles := defaultTagHandles.foldl (fun hs d =>
        if hs.any (·.1 == d.1) then hs else hs ++ [d]) r.tagHandles
      pure ({ r with tagHandles := handles }, t)

def skipDocumentEnds (r : EventReader) : Nat → Except Error (EventReader × Token)
  | 0 => r.peek
  | n + 1 => do
    let (r, t) ← r.peek
    if t.kind == .documentEnd then r.take.skipDocumentEnds n else pure (r, t)

def documentStart (r : EventReader) (implicit : Bool) : Except Error (EventReader × Event) := do
  let (r, t) ← if implicit then r.peek else r.skipDocumentEnds r.lexer.fuel
  if implicit && !t.kind.isDirective && t.kind != .documentStart && t.kind != .streamEnd then
    let (r, _) ← r.directives false r.lexer.fuel
    pure ({ r.push .documentEnd with expecting := .blockNode },
      { kind := .documentStart, start := t.start, stop := t.stop })
  else if t.kind != .streamEnd then
    let start := t.start
    let (r, t) ← r.directives false r.lexer.fuel
    if t.kind != .documentStart then
      throw (.parser none "did not find expected <document start>" t.start)
    pure ({ (r.push .documentEnd).take with expecting := .documentContent },
      { kind := .documentStart, start, stop := t.stop })
  else
    pure ({ r.take with expecting := .finished },
      { kind := .streamEnd, start := t.start, stop := t.stop })

/-- The node properties before a node's content: its anchor, its tag (handle, suffix and
mark), the marks where the node starts and where its properties end, and the token after
them. -/
structure Properties where
  anchor : Option String := none
  tag : Option (String × String × Mark) := none
  start : Mark
  stop : Mark
  next : Token

def properties (r : EventReader) (t : Token) : Except Error (EventReader × Properties) := do
  match t.kind with
  | .anchor name =>
    let (r, t2) ← r.take.peek
    match t2.kind with
    | .tag h s =>
      let (r, t3) ← r.take.peek
      pure (r, { anchor := some name, tag := some (h, s, t2.start), start := t.start,
                 stop := t2.stop, next := t3 })
    | _ => pure (r, { anchor := some name, start := t.start, stop := t.stop, next := t2 })
  | .tag h s =>
    let (r, t2) ← r.take.peek
    match t2.kind with
    | .anchor name =>
      let (r, t3) ← r.take.peek
      pure (r, { anchor := some name, tag := some (h, s, t.start), start := t.start,
                 stop := t2.stop, next := t3 })
    | _ => pure (r, { tag := some (h, s, t.start), start := t.start, stop := t.stop, next := t2 })
  | _ => pure (r, { start := t.start, stop := t.start, next := t })

def expandTag (r : EventReader) (start : Mark) : Option (String × String × Mark) →
    Except Error String
  | none => .ok ""
  | some (handle, suffix, tagMark) =>
    if handle.isEmpty then .ok suffix
    else match r.tagHandles.find? (·.1 == handle) with
      | some (_, pfx) =>
        if (pfx ++ suffix).isEmpty then
          .error (.parser (some start) "found undefined tag handle" tagMark)
        else .ok (pfx ++ suffix)
      | none => .error (.parser (some start) "found undefined tag handle" tagMark)

def emptyOrMissing (r : EventReader) (p : Properties) (tag : String) (t : Token) :
    Except Error (EventReader × Event) :=
  if p.anchor.isSome || !tag.isEmpty then
    .ok (r.pop, { kind := .scalar p.anchor tag "" .plain, start := p.start, stop := p.stop })
  else
    .error (.parser (some p.start) "did not find expected node content" t.start)

def node (r : EventReader) (block indentless : Bool) : Except Error (EventReader × Event) := do
  let (r, t) ← r.peek
  if let .alias name := t.kind then
    return (r.pop.take, { kind := .alias name, start := t.start, stop := t.stop })
  let (r, p) ← r.properties t
  let tag ← r.expandTag p.start p.tag
  let t := p.next
  let a := p.anchor
  if indentless && t.kind == .blockEntry then
    return ({ r with expecting := .indentlessSequenceEntry },
      { kind := .sequenceStart a tag false, start := p.start, stop := t.stop })
  match t.kind with
  | .scalar text style =>
    pure (r.pop.take, { kind := .scalar a tag text style, start := p.start, stop := t.stop })
  | .flowSequenceStart =>
    pure ({ r with expecting := .flowSequenceFirstEntry },
      { kind := .sequenceStart a tag true, start := p.start, stop := t.stop })
  | .flowMappingStart =>
    pure ({ r with expecting := .flowMappingFirstKey },
      { kind := .mappingStart a tag true, start := p.start, stop := t.stop })
  | .blockSequenceStart =>
    if block then
      pure ({ r with expecting := .blockSequenceFirstEntry },
        { kind := .sequenceStart a tag false, start := p.start, stop := t.stop })
    else r.emptyOrMissing p tag t
  | .blockMappingStart =>
    if block then
      pure ({ r with expecting := .blockMappingFirstKey },
        { kind := .mappingStart a tag false, start := p.start, stop := t.stop })
    else r.emptyOrMissing p tag t
  | _ => r.emptyOrMissing p tag t

def startsMappingNode (k : TokenKind) : Bool :=
  k != .key && k != .value && k != .blockEnd

def blockSequenceEntry (r : EventReader) (first : Bool) : Except Error (EventReader × Event) := do
  let r ← if first then r.enter else pure r
  let (r, t) ← r.peek
  match t.kind with
  | .blockEntry =>
    let (r, t2) ← r.take.peek
    if t2.kind != .blockEntry && t2.kind != .blockEnd then
      (r.push .blockSequenceEntry).node true false
    else pure ({ r with expecting := .blockSequenceEntry }, Event.empty t.stop)
  | .blockEnd => pure (r.closing .sequenceEnd t)
  | _ =>
    let (_, m) := r.popMark
    throw (.parser (some m) "did not find expected '-' indicator" t.start)

def indentlessEntry (r : EventReader) : Except Error (EventReader × Event) := do
  let (r, t) ← r.peek
  if t.kind == .blockEntry then
    let (r, t2) ← r.take.peek
    if startsMappingNode t2.kind && t2.kind != .blockEntry then
      (r.push .indentlessSequenceEntry).node true false
    else pure ({ r with expecting := .indentlessSequenceEntry }, Event.empty t.stop)
  else pure (r.pop, { kind := .sequenceEnd, start := t.start, stop := t.start })

def blockMappingKey (r : EventReader) (first : Bool) : Except Error (EventReader × Event) := do
  let r ← if first then r.enter else pure r
  let (r, t) ← r.peek
  match t.kind with
  | .key =>
    let (r, t2) ← r.take.peek
    if startsMappingNode t2.kind then (r.push .blockMappingValue).node true true
    else pure ({ r with expecting := .blockMappingValue }, Event.empty t.stop)
  | .blockEnd => pure (r.closing .mappingEnd t)
  | _ =>
    let (_, m) := r.popMark
    throw (.parser (some m) "did not find expected key" t.start)

def blockMappingValue (r : EventReader) : Except Error (EventReader × Event) := do
  let (r, t) ← r.peek
  if t.kind == .value then
    let (r, t2) ← r.take.peek
    if startsMappingNode t2.kind then (r.push .blockMappingKey).node true true
    else pure ({ r with expecting := .blockMappingKey }, Event.empty t.stop)
  else pure ({ r with expecting := .blockMappingKey }, Event.empty t.start)

def flowSequenceEntry (r : EventReader) (first : Bool) : Except Error (EventReader × Event) := do
  let r ← if first then r.enter else pure r
  let (r, t) ← r.peek
  let (r, t) ← if t.kind != .flowSequenceEnd && !first then
      if t.kind == .flowEntry then r.take.peek
      else
        let (_, m) := r.popMark
        throw (.parser (some m) "did not find expected ',' or ']'" t.start)
    else pure (r, t)
  match t.kind with
  | .flowSequenceEnd => pure (r.closing .sequenceEnd t)
  | .key =>
    pure ({ r.take with expecting := .flowSequenceEntryMappingKey },
      { kind := .mappingStart none "" true, start := t.start, stop := t.stop })
  | _ => (r.push .flowSequenceEntry).node false false

def flowPairKey (r : EventReader) : Except Error (EventReader × Event) := do
  let (r, t) ← r.peek
  if t.kind != .value && t.kind != .flowEntry && t.kind != .flowSequenceEnd then
    (r.push .flowSequenceEntryMappingValue).node false false
  else pure ({ r.take with expecting := .flowSequenceEntryMappingValue }, Event.empty t.stop)

def flowPairValue (r : EventReader) : Except Error (EventReader × Event) := do
  let (r, t) ← r.peek
  if t.kind == .value then
    let (r, t2) ← r.take.peek
    if t2.kind != .flowEntry && t2.kind != .flowSequenceEnd then
      (r.push .flowSequenceEntryMappingEnd).node false false
    else pure ({ r with expecting := .flowSequenceEntryMappingEnd }, Event.empty t.start)
  else pure ({ r with expecting := .flowSequenceEntryMappingEnd }, Event.empty t.start)

def flowPairEnd (r : EventReader) : Except Error (EventReader × Event) := do
  let (r, t) ← r.peek
  pure ({ r with expecting := .flowSequenceEntry },
    { kind := .mappingEnd, start := t.start, stop := t.start })

def flowMappingKey (r : EventReader) (first : Bool) : Except Error (EventReader × Event) := do
  let r ← if first then r.enter else pure r
  let (r, t) ← r.peek
  let (r, t) ← if t.kind != .flowMappingEnd && !first then
      if t.kind == .flowEntry then r.take.peek
      else
        let (_, m) := r.popMark
        throw (.parser (some m) "did not find expected ',' or '\x7d'" t.start)
    else pure (r, t)
  match t.kind with
  | .flowMappingEnd => pure (r.closing .mappingEnd t)
  | .key =>
    let (r, t2) ← r.take.peek
    if t2.kind != .value && t2.kind != .flowEntry && t2.kind != .flowMappingEnd then
      (r.push .flowMappingValue).node false false
    else pure ({ r with expecting := .flowMappingValue }, Event.empty t2.start)
  | _ => (r.push .flowMappingEmptyValue).node false false

def flowMappingValue (r : EventReader) (empty : Bool) : Except Error (EventReader × Event) := do
  let (r, t) ← r.peek
  if empty then return ({ r with expecting := .flowMappingKey }, Event.empty t.start)
  if t.kind == .value then
    let (r, t2) ← r.take.peek
    if t2.kind != .flowEntry && t2.kind != .flowMappingEnd then
      (r.push .flowMappingKey).node false false
    else pure ({ r with expecting := .flowMappingKey }, Event.empty t2.start)
  else pure ({ r with expecting := .flowMappingKey }, Event.empty t.start)

def next (r : EventReader) : Except Error (EventReader × Event) := do
  match r.expecting with
  | .streamStart =>
    let (r, t) ← r.peek
    if t.kind != .streamStart then
      throw (.parser none "did not find expected <stream-start>" t.start)
    pure ({ r.take with expecting := .implicitDocumentStart },
      { kind := .streamStart, start := t.start, stop := t.stop })
  | .implicitDocumentStart => r.documentStart true
  | .documentStart => r.documentStart false
  | .documentContent =>
    let (r, t) ← r.peek
    if t.kind.isDirective || t.kind == .documentStart || t.kind == .documentEnd ||
        t.kind == .streamEnd then
      pure (r.pop, Event.empty t.start)
    else r.node true false
  | .documentEnd =>
    let (r, t) ← r.peek
    let (r, stop) := if t.kind == .documentEnd then (r.take, t.stop) else (r, t.start)
    pure ({ r with tagHandles := [], expecting := .documentStart },
      { kind := .documentEnd, start := t.start, stop })
  | .blockNode => r.node true false
  | .blockNodeOrIndentlessSequence => r.node true true
  | .flowNode => r.node false false
  | .blockSequenceFirstEntry => r.blockSequenceEntry true
  | .blockSequenceEntry => r.blockSequenceEntry false
  | .indentlessSequenceEntry => r.indentlessEntry
  | .blockMappingFirstKey => r.blockMappingKey true
  | .blockMappingKey => r.blockMappingKey false
  | .blockMappingValue => r.blockMappingValue
  | .flowSequenceFirstEntry => r.flowSequenceEntry true
  | .flowSequenceEntry => r.flowSequenceEntry false
  | .flowSequenceEntryMappingKey => r.flowPairKey
  | .flowSequenceEntryMappingValue => r.flowPairValue
  | .flowSequenceEntryMappingEnd => r.flowPairEnd
  | .flowMappingFirstKey => r.flowMappingKey true
  | .flowMappingKey => r.flowMappingKey false
  | .flowMappingValue => r.flowMappingValue false
  | .flowMappingEmptyValue => r.flowMappingValue true
  | .finished =>
    let (r, t) ← r.peek
    pure (r, { kind := .streamEnd, start := t.start, stop := t.stop })

end EventReader

end CrudRoutes.Yaml
