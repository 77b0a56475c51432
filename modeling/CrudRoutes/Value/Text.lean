import CrudRoutes.Value.Basic
import CrudRoutes.Decimal.Text
import CrudRoutes.Time.Text

/-!
The text of a value inside a message: null is `<nil>`, strings stand bare, arrays are
`[a b]`, objects are `map[k:v …]` (maps hold their fields sorted by name), instants take their long
form, and doubles use their shortest digits with an exponent outside `1e-4` to below `1e6`.
-/

namespace CrudRoutes.Value

def messageNumberStyle : Decimal.Style := ⟨-4, 6, 2⟩

mutual

def text : Value → String
  | .null => "<nil>"
  | .bool b => if b then "true" else "false"
  | .num x => messageNumberStyle.render x
  | .int n => toString n
  | .str s => s
  | .time t => t.longText
  | .arr xs => "[" ++ textItems xs ++ "]"
  | .anyOf xs => "[" ++ textItems xs ++ "]"
  | .obj fs => "map[" ++ textFields fs ++ "]"
  | .doc fs => "map[" ++ textFields fs ++ "]"

def textItems : List Value → String
  | [] => ""
  | [x] => text x
  | x :: rest => text x ++ " " ++ textItems rest

def textFields : List (String × Value) → String
  | [] => ""
  | [(k, v)] => k ++ ":" ++ text v
  | (k, v) :: rest => k ++ ":" ++ text v ++ " " ++ textFields rest

end

end CrudRoutes.Value
