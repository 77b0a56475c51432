import CrudRoutes.Value.Basic
import CrudRoutes.Text.Case

/-!
Binding JSON objects, read as written, to records.

A record field takes every member whose name equals the field's name without regard to case
(by simple case folding, so `ſ` stands for `s` but `İ` is no `i`), in order, and each member is
bound over what the earlier ones left:

* a text field takes a string; `null` leaves the field as it was;
* a list field takes an array item by item, each item bound over the item already at its
  place, and then ends after the array's last item; the items past the end stay behind and are
  bound over again by a longer array later. An empty array or `null` starts the list afresh;
* a map field takes an object, whose members replace or join the map's; `null` clears it.

Any other value makes the whole binding fail. The value bound must itself be an object or
`null`; `null` binds nothing.
-/

namespace CrudRoutes.Bind

def members (fs : Fields) (name : String) : List Value :=
  (fs.filter fun (k, _) => Text.foldName k == Text.foldName name).map Prod.snd

def member? (fs : Fields) (name : String) : Option Value :=
  (members fs name).getLast?

def text (fs : Fields) (name : String) : Option String :=
  (members fs name).foldlM (fun acc v =>
    match v with
    | .str s => some s
    | .null => some acc
    | _ => none) ""

/-- A list being bound: every item bound so far, those past its end included, and its length,
`none` while the list is absent. -/
structure Slots (α : Type) where
  kept : List α := []
  length : Option Nat := none

def Slots.bind {α : Type} (zero : α) (item : α → Value → Option α) (s : Slots α) (v : Value) :
    Option (Slots α) :=
  match v with
  | .null => some {}
  | .arr [] => some { length := some 0 }
  | .arr xs => do
    let fresh ← (xs.zipIdx).mapM fun (x, i) => item ((s.kept[i]?).getD zero) x
    pure { kept := fresh ++ s.kept.drop xs.length, length := some xs.length }
  | _ => none

def Slots.items {α : Type} (s : Slots α) : Option (List α) :=
  s.length.map s.kept.take

def list {α : Type} (zero : α) (item : α → Value → Option α) (fs : Fields) (name : String) :
    Option (Option (List α)) :=
  ((members fs name).foldlM (Slots.bind zero item) {}).map Slots.items

def textItem (prev : String) (v : Value) : Option String :=
  match v with
  | .str s => some s
  | .null => some prev
  | _ => none

def textItems (xs : List Value) : Option (List String) :=
  xs.mapM (textItem "")

def texts (fs : Fields) (name : String) : Option (Option (List String)) :=
  list "" textItem fs name

def mapOver (m : Fields) (members : Fields) : Fields :=
  members.foldl (fun acc (k, x) => Fields.set acc k x.asMap) m

def mapItem (prev : Option Fields) (v : Value) : Option (Option Fields) :=
  match v with
  | .obj d => some (some (mapOver (prev.getD []) d))
  | .null => some none
  | _ => none

def map? (fs : Fields) (name : String) : Option (Option Fields) :=
  (members fs name).foldlM (fun acc v => mapItem acc v) none

def fields? (v : Value) : Option Fields :=
  match v with
  | .obj fs => some fs
  | .null => some []
  | _ => none

end CrudRoutes.Bind
