import CrudRoutes.Yaml.Decode

/-!
Batches of events: a YAML list of entries, each with an `event` name and optional `params`, a
mapping of any values.

An entry that is null is left out; a list that is null is empty. Reading fails as a whole when
an entry, its event or its parameters have the wrong shape, naming the line and the expected
type.
-/

namespace CrudRoutes.Cli

open Yaml

/-- One entry of a batch: the event and its parameters, when given. -/
structure BatchEntry where
  event : String := ""
  params : Option Value := none
  deriving Inhabited

def entryTarget : String :=
  "struct \x7b Event string \"yaml:\\\"event\\\"\"; Params map[string]interface \x7b\x7d \"yaml:\\\"params\\\"\" \x7d"

def paramsTarget : String :=
  "map[string]interface \x7b\x7d"

def batchTarget : Target :=
  .list ("[]" ++ entryTarget)
    (.record entryTarget [("event", .text "string"), ("params", .valueMap paramsTarget)])

def entryOf : Datum → BatchEntry
  | .record [event, params] =>
    { event := event.text!
      params := match params with
        | .valueMap (some es) => some (Value.map es)
        | _ => none }
  | _ => {}

def readBatch (text : String) : Except String (List BatchEntry) :=
  match decodeText text batchTarget with
  | .error e => .error e.message
  | .ok (some (.list (some ds))) => .ok (ds.map entryOf)
  | .ok _ => .ok []

end CrudRoutes.Cli
