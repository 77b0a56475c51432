/-!
Positions in a YAML text and the ways reading one can fail.

A mark counts characters from the start of the text, and lines and columns from 0. A failure
is shown as `yaml: ` followed by its problem. A syntax error may name a line: the line of its
context, or of the problem itself when the context is on the first line. An error found while
splitting the text into tokens names that line counted from 1; one found while grouping tokens
into nodes names the 0-based line as it is. Either names no line when the line it would take
is 0, and an unreadable character names none at all.

Decoding a document into typed values collects mismatches instead of stopping at the first;
they are reported together, one a line.
-/

namespace CrudRoutes.Yaml

/-- A position in a text: the character offset, the line and the column, all from 0. -/
structure Mark where
  index : Nat := 0
  line : Nat := 0
  column : Nat := 0
  deriving Inhabited, Repr, BEq

/-- Why reading a YAML text failed. -/
inductive Error where
  | controlCharacter
  | scanner (context : Mark) (problem : String) (found : Mark)
  | parser (context : Option Mark) (problem : String) (found : Mark)
  | unknownAnchor (name : String)
  | cannotDecode (resolved text wanted : String)
  | invalidBinary
  | mergeNeedsMapping
  | containsItself (anchor : String)
  | excessiveAliasing
  | invalidMapKey (shown : String)
  | mismatches (found : List String)
  deriving Inhabited, Repr

namespace Error

def linePrefix (line : Nat) : String :=
  if line == 0 then "" else "line " ++ toString line ++ ": "

def message : Error → String
  | .controlCharacter => "yaml: control characters are not allowed"
  | .scanner context problem found =>
    let line := if context.line != 0 then context.line else found.line
    "yaml: " ++ (if line == 0 then "" else linePrefix (line + 1)) ++ problem
  | .parser context problem found =>
    let line := match context with
      | some m => if m.line != 0 then m.line else found.line
      | none => found.line
    "yaml: " ++ linePrefix line ++ problem
  | .unknownAnchor name => "yaml: unknown anchor '" ++ name ++ "' referenced"
  | .cannotDecode resolved text wanted =>
    "yaml: cannot decode " ++ resolved ++ " `" ++ text ++ "` as a " ++ wanted
  | .invalidBinary => "yaml: !!binary value contains invalid base64 data"
  | .mergeNeedsMapping => "yaml: map merge requires map or sequence of maps as the value"
  | .containsItself anchor => "yaml: anchor '" ++ anchor ++ "' value contains itself"
  | .excessiveAliasing => "yaml: document contains excessive aliasing"
  | .invalidMapKey shown => "yaml: invalid map key: " ++ shown
  | .mismatches found => "yaml: unmarshal errors:\n  " ++ "\n  ".intercalate found

end Error

end CrudRoutes.Yaml
