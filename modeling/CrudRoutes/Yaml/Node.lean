import CrudRoutes.Yaml.Event.Parse

/-!
Documents as graphs of nodes.

A document's nodes are kept in an array, and a collection names its children by their places
there, so an alias can name the node of its anchor even when that node contains the alias. An
anchor names the node that carries it from the point where that node starts, so a later anchor
of the same name hides an earlier one; an alias to a name not yet anchored is an error.

Every node keeps its tag in short form: an explicit tag, else `!!str` for a quoted or block
scalar, `!!merge` for a plain `<<`, the tag its text resolves to for another plain scalar, and
`!!seq` or `!!map` for collections. Nodes keep their line and column, counted from 1.
-/

namespace CrudRoutes.Yaml

/-- What a node is. -/
inductive NodeKind where
  | document
  | sequence
  | mapping
  | scalar
  | alias
  deriving Inhabited, BEq, Repr

/-- A node of a document. -/
structure Node where
  kind : NodeKind := .scalar
  tag : String := ""
  value : String := ""
  line : Nat := 0
  column : Nat := 0
  anchor : String := ""
  children : Array Nat := #[]
  target : Option Nat := none
  deriving Inhabited, Repr

/-- A document: its nodes and the place of its root. -/
structure Document where
  nodes : Array Node
  root : Nat
  deriving Inhabited

def Document.node (d : Document) (i : Nat) : Node :=
  d.nodes.getD i {}

namespace Node

def make (kind : NodeKind) (defaultTag tag value : String) (e : Event) : Node :=
  let tag := if tag != "" && tag != "!" then shortTag tag
    else if defaultTag != "" then defaultTag
    else if kind == .scalar then resolvedTag value
    else ""
  { kind, tag, value, line := e.start.line + 1, column := e.start.column + 1 }

end Node

/-- The state of building a document from events. -/
structure Composer where
  reader : EventReader
  pending : Option Event := none
  nodes : Array Node := #[]
  anchors : List (String × Nat) := []
  deriving Inhabited

namespace Composer

def peek (c : Composer) : Except Error (Composer × Event) :=
  match c.pending with
  | some e => .ok (c, e)
  | none => do
    let (r, e) ← c.reader.next
    pure ({ c with reader := r, pending := some e }, e)

def consume (c : Composer) : Composer :=
  { c with pending := none }

def add (c : Composer) (n : Node) (anchor : Option String) : Composer × Nat :=
  let i := c.nodes.size
  let c := { c with nodes := c.nodes.push n }
  let c := match anchor with
    | some a => { c with anchors := (a, i) :: c.anchors }
    | none => c
  (c, i)

def setChildren (c : Composer) (i : Nat) (kids : Array Nat) : Composer :=
  { c with nodes := c.nodes.modify i fun n => { n with children := kids } }

mutual

def compose (c : Composer) : Nat → Except Error (Composer × Option Nat)
  | 0 => .ok (c, none)
  | n + 1 => do
    let (c, e) ← c.peek
    match e.kind with
    | .scalar anchor tag text style =>
      let default := if style == .plain then (if text == "<<" then "!!merge" else "") else "!!str"
      let node := { Node.make .scalar default tag text e with anchor := anchor.getD "" }
      let (c, i) := c.add node anchor
      pure (c.consume, some i)
    | .alias name =>
      match c.anchors.find? (·.1 == name) with
      | none => throw (.unknownAnchor name)
      | some (_, target) =>
        let (c, i) := c.add { Node.make .alias "" "" name e with target := some target } none
        pure (c.consume, some i)
    | .sequenceStart anchor tag _ =>
      let (c, i) := c.add { Node.make .sequence "!!seq" tag "" e with anchor := anchor.getD "" } anchor
      let (c, kids) ← c.consume.children .sequenceEnd #[] n
      pure ((c.setChildren i kids).consume, some i)
    | .mappingStart anchor tag _ =>
      let (c, i) := c.add { Node.make .mapping "!!map" tag "" e with anchor := anchor.getD "" } anchor
      let (c, kids) ← c.consume.children .mappingEnd #[] n
      pure ((c.setChildren i kids).consume, some i)
    | .documentStart =>
      let (c, i) := c.add (Node.make .document "" "" "" e) none
      let (c, kid) ← c.consume.compose n
      let (c, _) ← c.peek
      pure ((c.setChildren i kid.toArray).consume, some i)
    | _ => pure (c, none)

def children (c : Composer) (closing : EventKind) (acc : Array Nat) :
    Nat → Except Error (Composer × Array Nat)
  | 0 => .ok (c, acc)
  | n + 1 => do
    let (c, e) ← c.peek
    if e.kind == closing then return (c, acc)
    let (c, kid) ← c.compose n
    match kid with
    | some k => c.children closing (acc.push k) n
    | none => pure (c, acc)

end

end Composer

def Document.read? (text : String) : Except Error (Option Document) := do
  let text := if text.isEmpty then "\n" else text
  let c : Composer := { reader := EventReader.start text }
  let (c, _) ← c.peek
  let fuel := 4 * (text.length + 16)
  let (c, root) ← c.consume.compose fuel
  pure (root.map fun r => { nodes := c.nodes, root := r })

end CrudRoutes.Yaml
