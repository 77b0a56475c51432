import CrudRoutes.Yaml.Token

/-!
Events: the structure of a YAML stream as a flat sequence.

A stream is a sequence of documents; a document holds one node; a node is a scalar, an alias,
or a collection whose start and end events enclose its children (a mapping's children
alternate key and value). A node's anchor and tag travel on its first event. An empty node,
such as a missing value, is an empty plain scalar.
-/

namespace CrudRoutes.Yaml

/-- What an event is. -/
inductive EventKind where
  | streamStart
  | streamEnd
  | documentStart
  | documentEnd
  | alias (name : String)
  | scalar (anchor : Option String) (tag : String) (text : String) (style : ScalarStyle)
  | sequenceStart (anchor : Option String) (tag : String) (flow : Bool)
  | sequenceEnd
  | mappingStart (anchor : Option String) (tag : String) (flow : Bool)
  | mappingEnd
  deriving Inhabited, BEq, Repr

/-- An event and the marks where it starts and ends. -/
structure Event where
  kind : EventKind := .streamEnd
  start : Mark := {}
  stop : Mark := {}
  deriving Inhabited, Repr

def Event.empty (m : Mark) : Event :=
  { kind := .scalar none "" "" .plain, start := m, stop := m }

end CrudRoutes.Yaml
