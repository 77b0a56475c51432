import CrudRoutes.Yaml.Node
import CrudRoutes.Value.Basic
import CrudRoutes.Value.Text
import CrudRoutes.Text.Quote
import CrudRoutes.Text.Utf8
import CrudRoutes.Crypto.Base64

/-!
Decoding a document into typed data.

A target describes the data a node is read into: text, a boolean, a list, a record of named
fields, a map of texts to texts or to values of any kind, or a value of any kind. Decoding
fills a datum of the target's shape, starting from its zero, and keeps going past mismatches,
which are collected and reported together:

* a scalar is resolved by its tag; text takes its written form (or the bytes of a `!!binary`
  scalar), a boolean takes `true` and `false` and the words `y`, `yes`, `on`, `n`, `no`, `off`
  in their usual spellings; null leaves text, booleans and records as they were and clears
  lists and maps;
* a list is decoded afresh, keeping the items that decode;
* a record takes the keys that name its fields, each at most once; a map adds its pairs to
  the map it has;
* a mapping with two keys of the same kind and text is reported and not decoded;
* `<<` keys merge the pairs of a mapping, an alias of one, or a sequence of them, after the
  mapping's own pairs: keys already present, and keys merged earlier, win;
* an alias decodes the node it names, which must not contain it; aliases may expand to at
  most 99% of the decoded nodes of a small document, and to less of a large one.

A mismatch reads `line N: cannot unmarshal TAG VALUE into TYPE`: a value longer than ten
bytes is cut to seven, and a collection's tag stands alone.
-/

namespace CrudRoutes.Yaml

/-- What a node is decoded into; names are those shown in mismatches. -/
inductive Target where
  | text (name : String)
  | flag
  | list (name : String) (item : Target)
  | record (name : String) (fields : List (String × Target))
  | textMap (name : String)
  | valueMap (name : String)
  | anyMap
  | value
  deriving Inhabited, Repr

/-- Decoded data, in the shape of a target. -/
inductive Datum where
  | text (s : String)
  | flag (b : Bool)
  | list (items : Option (List Datum))
  | record (fields : List Datum)
  | textMap (entries : Option (List (String × String)))
  | valueMap (entries : Option (List (String × Value)))
  | value (v : Value)
  deriving Inhabited

def Target.name : Target → String
  | .text n => n
  | .flag => "bool"
  | .list n _ => n
  | .record n _ => n
  | .textMap n => n
  | .valueMap n => n
  | .anyMap => "map[interface \x7b\x7d]interface \x7b\x7d"
  | .value => "interface \x7b\x7d"

mutual

def Target.zero : Target → Datum
  | .text _ => .text ""
  | .flag => .flag false
  | .list .. => .list none
  | .record _ fs => .record (Target.zeros fs)
  | .textMap _ => .textMap none
  | .valueMap _ => .valueMap none
  | .anyMap => .valueMap none
  | .value => .value .null

def Target.zeros : List (String × Target) → List Datum
  | [] => []
  | (_, t) :: rest => t.zero :: Target.zeros rest

end

namespace Datum

def text! : Datum → String
  | .text s => s
  | _ => ""

def value! : Datum → Value
  | .value v => v
  | _ => .null

end Datum

def Resolved.toValue : Resolved → Value
  | .null => .null
  | .bool b => .bool b
  | .int n => .int n
  | .uint n => .int n
  | .float x => .num x
  | .timestamp t => .time t
  | .str s => .str s

def yesWords : List String := ["y", "Y", "yes", "Yes", "YES", "on", "On", "ON"]

def noWords : List String := ["n", "N", "no", "No", "NO", "off", "Off", "OFF"]

def bytePrefix (s : String) (n : Nat) : String :=
  String.ofList (go s.toList n)
where
  go : List Char → Nat → List Char
    | [], _ => []
    | c :: rest, room =>
      let w := c.utf8Size
      if w ≤ room then c :: go rest (room - w) else List.replicate room '\uFFFD'

def allowedAliasRatio (count : Nat) : Float :=
  if count ≤ 400000 then 0.99
  else if count ≥ 4000000 then 0.10
  else 0.99 - 0.89 * ((count - 400000).toFloat / 3600000.0)

/-- The state of a decoding. -/
structure Decoding where
  doc : Document
  mismatches : Array String := #[]
  count : Nat := 0
  aliasCount : Nat := 0
  aliasDepth : Nat := 0
  expanding : List Nat := []
  merged : Option (List Value) := none
  deriving Inhabited

abbrev DecodeM := StateT Decoding (Except Error)

def Node.isMerge (n : Node) : Bool :=
  n.kind == .scalar && n.value == "<<" && (n.tag == "" || n.tag == "!" || n.tag == "!!merge")

def Document.tagOf (d : Document) (i : Nat) : Nat → String
  | 0 => ""
  | n + 1 =>
    let node := d.node i
    if node.kind == .alias then d.tagOf (node.target.getD 0) n else node.tag

def Document.kindOf (d : Document) (i : Nat) : NodeKind :=
  let node := d.node i
  if node.kind == .alias then (d.node (node.target.getD 0)).kind else node.kind

def Node.pairs (n : Node) : List (Nat × Nat) :=
  (List.range (n.children.size / 2)).map fun j =>
    (n.children.getD (2 * j) 0, n.children.getD (2 * j + 1) 0)

def hasText (keys : List Value) (s : String) : Bool :=
  keys.any fun
    | .str t => t == s
    | _ => false

def record (message : String) : DecodeM Unit :=
  modify fun d => { d with mismatches := d.mismatches.push message }

def mismatch (n : Node) (tag : String) (t : Target) (cur : Datum) : DecodeM (Datum × Bool) := do
  let tag := if n.tag != "" then n.tag else tag
  let shown := if tag != "!!seq" && tag != "!!map" then
      if n.value.utf8ByteSize > 10 then " `" ++ bytePrefix n.value 7 ++ "...`"
      else " `" ++ n.value ++ "`"
    else n.value
  record ("line " ++ toString n.line ++ ": cannot unmarshal " ++ shortTag tag ++ shown ++
    " into " ++ t.name)
  pure (cur, false)

def Target.null (t : Target) (cur : Datum) : Datum × Bool :=
  match t with
  | .list .. => (.list none, true)
  | .textMap _ => (.textMap none, true)
  | .valueMap _ => (.valueMap none, true)
  | .anyMap => (.valueMap none, true)
  | .value => (.value .null, true)
  | _ => (cur, false)

def decodeScalar (n : Node) (t : Target) (cur : Datum) : DecodeM (Datum × Bool) := do
  let (tag, r) ← if n.tag == "!!str" then pure ("!!str", Resolved.str n.value)
    else match resolve n.tag n.value with
      | .error e => throw e
      | .ok (tag, r) =>
        if tag == "!!binary" then
          match Crypto.decodePadded64 n.value with
          | some bytes => pure (tag, Resolved.str (Text.decodeLossy bytes.toList))
          | none => throw .invalidBinary
        else pure (tag, r)
  match r, t with
  | .null, _ => pure (t.null cur)
  | .str s, .text _ => pure (.text (if tag == "!!binary" then s else n.value), true)
  | _, .text _ => pure (.text n.value, true)
  | .bool b, .flag => pure (.flag b, true)
  | .str s, .flag =>
    if yesWords.contains s then pure (.flag true, true)
    else if noWords.contains s then pure (.flag false, true)
    else mismatch n tag t cur
  | _, .value => pure (.value r.toValue, true)
  | _, _ => mismatch n tag t cur

def uniqueKeys (n : Node) : DecodeM Bool := do
  let d ← get
  let keys := n.pairs.map fun (k, _) => d.doc.node k
  let rec scan : List Node → List String
    | [] => []
    | k :: rest =>
      (rest.filter fun j => j.kind == k.kind && j.value == k.value).map (fun j =>
        "line " ++ toString j.line ++ ": mapping key " ++ Text.quoted j.value ++
          " already defined at line " ++ toString k.line) ++ scan rest
  let found := scan keys
  found.forM record
  pure found.isEmpty

def Document.isTextMap (d : Document) (n : Node) : Bool :=
  n.pairs.all fun (k, _) =>
    let t := (d.node k).tag
    t == "!!str" || t == "!!merge"

def sameKey : Value → Value → Bool
  | .str a, .str b => a == b
  | .int a, .int b => a == b
  | .bool a, .bool b => a == b
  | .num a, .num b => a == b
  | .null, .null => true
  | _, _ => false

mutual

def literal : Value → String
  | .null => "interface \x7b\x7d(nil)"
  | .str s => Text.quoted s
  | .arr xs => "[]interface \x7b\x7d\x7b" ++ literals xs ++ "\x7d"
  | .anyOf xs => "[]interface \x7b\x7d\x7b" ++ literals xs ++ "\x7d"
  | .obj fs => "map[string]interface \x7b\x7d\x7b" ++ literalFields fs ++ "\x7d"
  | v => v.text

def literals : List Value → String
  | [] => ""
  | [x] => literal x
  | x :: rest => literal x ++ ", " ++ literals rest

def literalFields : List (String × Value) → String
  | [] => ""
  | [(k, v)] => Text.quoted k ++ ":" ++ literal v
  | (k, v) :: rest => Text.quoted k ++ ":" ++ literal v ++ ", " ++ literalFields rest

end

def fieldIndex? (fields : List (String × Target)) (name : String) : Option Nat :=
  fields.findIdx? (·.1 == name)

def setEntry {α : Type} (es : List (String × α)) (k : String) (v : α) : List (String × α) :=
  if es.any (·.1 == k) then es.map fun e => if e.1 == k then (k, v) else e else es ++ [(k, v)]

/-- The progress of decoding a mapping's pairs: the merge set it sees, the merge key's value,
and the record fields already set. -/
structure PairState (α : Type) where
  data : α
  merged : Option (List Value)
  mergeNode : Option Nat := none
  done : List Nat := []

mutual

def decode : Nat → Nat → Target → Datum → DecodeM (Datum × Bool)
  | 0, _, _, cur => pure (cur, false)
  | fuel + 1, i, t, cur => do
    let st ← get
    let count := st.count + 1
    let aliasCount := if st.aliasDepth > 0 then st.aliasCount + 1 else st.aliasCount
    set { st with count, aliasCount }
    if aliasCount > 100 && count > 1000 &&
        aliasCount.toFloat / count.toFloat > allowedAliasRatio count then
      throw .excessiveAliasing
    let n := st.doc.node i
    match n.kind with
    | .document =>
      if n.children.size == 1 then
        let (d, _) ← decode fuel (n.children.getD 0 0) t cur
        pure (d, true)
      else pure (cur, false)
    | .alias =>
      if st.expanding.contains i then throw (.containsItself n.value)
      modify fun s => { s with expanding := i :: s.expanding, aliasDepth := s.aliasDepth + 1 }
      let r ← decode fuel (n.target.getD 0) t cur
      modify fun s => { s with expanding := s.expanding.erase i, aliasDepth := s.aliasDepth - 1 }
      pure r
    | .scalar => decodeScalar n t cur
    | .sequence => decodeSequence fuel n t cur
    | .mapping => decodeMapping fuel n t cur

def decodeSequence : Nat → Node → Target → Datum → DecodeM (Datum × Bool)
  | 0, _, _, cur => pure (cur, false)
  | fuel + 1, n, t, cur =>
    match t with
    | .list _ item => do
      let items ← n.children.toList.foldlM (fun acc k => do
        let (d, ok) ← decode fuel k item item.zero
        pure (if ok then acc ++ [d] else acc)) []
      pure (.list (some items), true)
    | .value => do
      let items ← n.children.toList.foldlM (fun acc k => do
        let (d, ok) ← decode fuel k .value (.value .null)
        pure (if ok then acc ++ [d.value!] else acc)) []
      pure (.value (.arr items), true)
    | _ => mismatch n "!!seq" t cur

def decodeMapping : Nat → Node → Target → Datum → DecodeM (Datum × Bool)
  | 0, _, _, cur => pure (cur, false)
  | fuel + 1, n, t, cur => do
    if !(← uniqueKeys n) then return (cur, false)
    match t with
    | .record name fields =>
      let current := match cur with
        | .record ds => ds
        | _ => Target.zeros fields
      let d ← decodeRecord fuel n name fields current
      pure (.record d, true)
    | .textMap _ =>
      let (es, fresh) : List (String × Datum) × Bool := match cur with
        | .textMap (some es) => (es.map fun (k, v) => (k, Datum.text v), false)
        | _ => ([], true)
      let es ← decodeMap fuel n (.text "string") fresh es t
      pure (.textMap (some (es.map fun (k, v) => (k, v.text!))), true)
    | .valueMap _ | .anyMap =>
      let (es, fresh) : List (String × Datum) × Bool := match cur with
        | .valueMap (some es) => (es.map fun (k, v) => (k, Datum.value v), false)
        | _ => ([], true)
      let es ← decodeMap fuel n .value fresh es t
      pure (.valueMap (some (es.map fun (k, v) => (k, v.value!))), true)
    | .value =>
      -- the map is made before its pairs are decoded, so it is never new
      let t := if (← get).doc.isTextMap n then Target.valueMap "map[string]interface \x7b\x7d"
        else .anyMap
      let es ← decodeMap fuel n .value false [] t
      pure (.value (Value.map (es.map fun (k, v) => (k, v.value!))), true)
    | _ => mismatch n "!!map" t cur

def decodeRecord : Nat → Node → String → List (String × Target) → List Datum →
    DecodeM (List Datum)
  | 0, _, _, _, ds => pure ds
  | fuel + 1, n, name, fields, ds => do
    let st ← get
    set { st with merged := none }
    let doc := st.doc
    let s ← n.pairs.foldlM (fun (s : PairState (List Datum)) (k, v) => do
      if (doc.node k).isMerge then return { s with mergeNode := some v }
      let (kd, ok) ← decode fuel k (.text "string") (.text "")
      if !ok then return s
      let key := kd.text!
      if let some m := s.merged then
        if hasText m key then return s
      let s := { s with merged := s.merged.map (· ++ [.str key]) }
      match fieldIndex? fields key with
      | none => pure s
      | some fi =>
        if s.done.contains fi then
          record ("line " ++ toString (doc.node k).line ++ ": field " ++ key ++
            " already set in type " ++ name)
          pure s
        else
          let ft := (fields.getD fi ("", .value)).2
          let (fd, _) ← decode fuel v ft (s.data.getD fi ft.zero)
          pure { s with data := s.data.set fi fd, done := fi :: s.done })
      { data := ds, merged := st.merged }
    modify fun d => { d with merged := s.merged }
    match s.mergeNode with
    | some m =>
      match ← merge fuel n m (.record name fields) (.record s.data) with
      | .record d => pure d
      | _ => pure s.data
    | none => pure s.data

def decodeMap : Nat → Node → Target → Bool → List (String × Datum) → Target →
    DecodeM (List (String × Datum))
  | 0, _, _, _, es, _ => pure es
  | fuel + 1, n, vt, fresh, es, t => do
    let general := match t with
      | .anyMap => true
      | _ => false
    let st ← get
    set { st with merged := none }
    let doc := st.doc
    let s ← n.pairs.foldlM (fun (s : PairState (List (String × Datum))) (k, v) => do
      if (doc.node k).isMerge then return { s with mergeNode := some v }
      let (kd, ok) ← if general then decode fuel k .value (.value .null)
        else decode fuel k (.text "string") (.text "")
      if !ok then return s
      let keyValue := if general then kd.value! else .str kd.text!
      if let some m := s.merged then
        if m.any (sameKey keyValue) then return s
      let s := { s with merged := s.merged.map (· ++ [keyValue]) }
      match keyValue with
      | .arr _ | .anyOf _ | .obj _ => throw (.invalidMapKey (literal keyValue))
      | _ => pure ()
      let key := keyValue.text
      let (vd, vok) ← decode fuel v vt vt.zero
      let isNull := (doc.node v).tag == "!!null"
      if vok || (isNull && (fresh || !s.data.any (·.1 == key))) then
        pure { s with data := setEntry s.data key vd }
      else pure s)
      { data := es, merged := st.merged }
    modify fun d => { d with merged := s.merged }
    match s.mergeNode with
    | some m =>
      let wrap := fun (es : List (String × Datum)) => match t with
        | .textMap _ => Datum.textMap (some (es.map fun (k, v) => (k, v.text!)))
        | _ => Datum.valueMap (some (es.map fun (k, v) => (k, v.value!)))
      let merged ← merge fuel n m t (wrap s.data)
      pure (match merged with
        | .textMap (some es) => es.map fun (k, v) => (k, Datum.text v)
        | .valueMap (some es) => es.map fun (k, v) => (k, Datum.value v)
        | _ => s.data)
    | none => pure s.data

def merge : Nat → Node → Nat → Target → Datum → DecodeM Datum
  | 0, _, _, _, cur => pure cur
  | fuel + 1, parent, m, t, cur => do
    let saved := (← get).merged
    if saved.isNone then
      let keys ← parent.pairs.foldlM (fun acc (k, _) => do
        let (kd, ok) ← decode fuel k .value (.value .null)
        pure (if ok then acc ++ [kd.value!] else acc)) []
      modify fun d => { d with merged := some keys }
    let doc := (← get).doc
    let source := doc.node m
    let cur ← match source.kind with
      | .mapping => do
        let (d, _) ← decode fuel m t cur
        pure d
      | .alias => do
        if doc.kindOf m != .mapping then throw .mergeNeedsMapping
        let (d, _) ← decode fuel m t cur
        pure d
      | .sequence =>
        source.children.toList.foldlM (fun cur c => do
          if doc.kindOf c != .mapping then throw .mergeNeedsMapping
          let (d, _) ← decode fuel c t cur
          pure d) cur
      | _ => throw .mergeNeedsMapping
    if saved.isNone then modify fun d => { d with merged := none }
    pure cur

end

def Document.decode (doc : Document) (t : Target) : Except Error Datum := do
  let fuel := 8 * (doc.nodes.size + 1) * (doc.nodes.size + 1) + 64
  let ((d, _), st) ← (Yaml.decode fuel doc.root t t.zero).run { doc }
  if st.mismatches.isEmpty then pure d else throw (.mismatches st.mismatches.toList)

def decodeText (text : String) (t : Target) : Except Error (Option Datum) := do
  if !text.all isPrintable then throw .controlCharacter
  match ← Document.read? text with
  | none => pure none
  | some doc => doc.decode t

end CrudRoutes.Yaml
