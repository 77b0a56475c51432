import CrudRoutes.Store.Basic

/-!
A document store kept in memory.

A collection keeps its documents by identity in insertion order, and an index from each unique
key (a key name and its text) to the identity of the document holding it. An insert checks the
identity and then every unique key; a replacement checks the keys of the new version against
the index, ignoring the document's own entries. Updating several documents is not atomic: a key
violation stops the loop and leaves the documents before it changed. Inserting a batch is
atomic: on a violation the documents inserted so far are removed again.

Preparing a collection re-reads the index from the stored documents in order and stops at the
first conflict, keeping the new key patterns and the index built so far.
-/

namespace CrudRoutes

/-- A collection of the memory store. -/
structure MemCollection where
  spec : CollectionSpec
  docs : List (String × Fields) := []
  keys : List ((String × String) × String) := []
  deriving Inhabited

namespace MemCollection

def owner? (c : MemCollection) (name value : String) : Option String :=
  (c.keys.find? fun (k, _) => k == (name, value)).map Prod.snd

def conflict? (c : MemCollection) (d : Fields) (self : String) : Option DuplicateKey :=
  c.spec.uniqueKeys.findSome? fun pattern =>
    match uniqueKey d pattern with
    | none => none
    | some (value, fields) =>
      match c.owner? (keyName pattern) value with
      | some o => if o != self then
          some { collection := c.spec.name, keyPattern := pattern, keyValue := fields }
        else none
      | none => none

def indexKeys (c : MemCollection) (d : Fields) : MemCollection :=
  c.spec.uniqueKeys.foldl (fun c pattern =>
    match uniqueKey d pattern with
    | none => c
    | some (value, _) =>
      let k := (keyName pattern, value)
      { c with keys := (c.keys.filter fun (k', _) => k' != k) ++ [(k, docId d)] }) c

def unindexKeys (c : MemCollection) (d : Fields) : MemCollection :=
  c.spec.uniqueKeys.foldl (fun c pattern =>
    match uniqueKey d pattern with
    | none => c
    | some (value, _) =>
      let k := (keyName pattern, value)
      { c with keys := c.keys.filter fun (k', o) => !(k' == k && o == docId d) }) c

def doc? (c : MemCollection) (id : String) : Option Fields :=
  (c.docs.find? fun (i, _) => i == id).map Prod.snd

def select (c : MemCollection) (f : Filter) (limit : Nat) : List Fields :=
  let all := (c.docs.map Prod.snd).filter f.selects
  if limit > 0 then all.take limit else all

/-- Inserts a prepared document: its identity must be new and its keys free. -/
def insert (c : MemCollection) (d : Fields) : Except Fault MemCollection :=
  let id := docId d
  if (c.doc? id).isSome then
    .error (.duplicate
      { collection := c.spec.name
        keyPattern := [fieldId]
        keyValue := [(fieldId, .str id)] })
  else match c.conflict? d "" with
    | some e => .error (.duplicate e)
    | none => .ok ({ c with docs := c.docs ++ [(id, d)] }.indexKeys d)

def replace (c : MemCollection) (current next : Fields) : Except Fault MemCollection :=
  let id := docId current
  match c.conflict? next id with
  | some e => .error (.duplicate e)
  | none =>
    let c := c.unindexKeys current
    let c := { c with docs := c.docs.map fun (i, d) => if i == id then (i, next) else (i, d) }
    .ok (c.indexKeys next)

/-- Removes a document and its keys. -/
def remove (c : MemCollection) (id : String) : MemCollection :=
  match c.doc? id with
  | none => c
  | some d =>
    let c := c.unindexKeys d
    { c with docs := c.docs.filter fun (i, _) => i != id }

def reindexFrom (c : MemCollection) : List (String × Fields) → MemCollection × Option Fault
  | [] => (c, none)
  | (id, d) :: rest =>
    match c.conflict? d id with
    | some e => (c, some (.duplicate e))
    | none => reindexFrom (c.indexKeys d) rest

end MemCollection

/-- The memory store: its collections by name. -/
structure MemoryStore where
  collections : List MemCollection := []
  deriving Inhabited

namespace MemoryStore

def find? (s : MemoryStore) (name : String) : Option MemCollection :=
  s.collections.find? (·.spec.name == name)

def get (s : MemoryStore) (name : String) : MemCollection :=
  (s.find? name).getD { spec := { name } }

def put (s : MemoryStore) (c : MemCollection) : MemoryStore :=
  if (s.find? c.spec.name).isSome then
    { collections := s.collections.map fun c' => if c'.spec.name == c.spec.name then c else c' }
  else { collections := s.collections ++ [c] }

/-- A document as the store keeps it: without the client's time stamps, with a new identity
when it has none, and with both time stamps set to now. -/
def prepare (h : Host) (doc : Fields) : Fields × Host :=
  let d := withoutFields doc [fieldCreatedAt, fieldUpdatedAt]
  let (d, h) := if docId d == "" then
      let (id, h) := h.draw
      (Fields.set d fieldId (.str id), h)
    else (d, h)
  let d := Fields.set d fieldCreatedAt (.time h.now)
  (Fields.set d fieldUpdatedAt (.time h.now), h)

/-- Sets the key patterns of a collection and rebuilds its index. -/
def ensure (s : MemoryStore) (spec : CollectionSpec) : MemoryStore × Option Fault :=
  let c := { s.get spec.name with spec, keys := [] }
  let (c, err) := c.reindexFrom c.docs
  (s.put c, err)

/-- Inserts one document. -/
def create (s : MemoryStore) (h : Host) (name : String) (doc : Fields) :
    (Except Fault Fields × MemoryStore × Host) :=
  let c := s.get name
  let (d, h) := prepare h doc
  match c.insert d with
  | .ok c => (.ok d, s.put c, h)
  | .error e => (.error e, s.put c, h)

/-- Inserts a batch in order; at the first refused document it removes, in order, the documents
it inserted before, and answers the refusal. -/
def createMany (s : MemoryStore) (h : Host) (name : String) (docs : List Fields) :
    (Except Fault (List Fields) × MemoryStore × Host) :=
  let step := fun (acc : Except (Fault × MemCollection) (MemCollection × List Fields) × Host)
      (doc : Fields) =>
    match acc with
    | (.error e, h) => (.error e, h)
    | (.ok (c, done), h) =>
      let (d, h) := prepare h doc
      match c.insert d with
      | .ok c => (.ok (c, done ++ [d]), h)
      | .error e => (.error (e, done.foldl (fun c d => c.remove (docId d)) c), h)
  let (r, h) := docs.foldl step (.ok (s.get name, []), h)
  match r with
  | .ok (c, done) => (.ok done, s.put c, h)
  | .error (e, c) => (.error e, s.put c, h)

def findAll (s : MemoryStore) (name : String) (f : Filter) : List Fields :=
  match s.find? name with
  | none => []
  | some c => c.select f 0

def findOne (s : MemoryStore) (name : String) (f : Filter) : Except Fault Fields :=
  match (s.findAll name f).head? with
  | some d => .ok d
  | none => .error .noDocument

def replaceFirst (s : MemoryStore) (name : String) (f : Filter) (next : Fields → Fields) :
    Except Fault Fields × MemoryStore :=
  let c := s.get name
  match (c.select f 1).head? with
  | none => (.error .noDocument, s.put c)
  | some found =>
    let n := next found
    match c.replace found n with
    | .ok c => (.ok n, s.put c)
    | .error e => (.error e, s.put c)

def findOneAndUpdate (s : MemoryStore) (h : Host) (name : String) (f : Filter) (set : Fields) :
    Except Fault Fields × MemoryStore :=
  s.replaceFirst name f (mergeChange h.now · set)

def findOneAndReplace (s : MemoryStore) (h : Host) (name : String) (f : Filter)
    (doc : Fields) : Except Fault Fields × MemoryStore :=
  s.replaceFirst name f fun found =>
    let next := withoutFields doc [fieldId, fieldCreatedAt, fieldUpdatedAt]
    let next := Fields.set next fieldId (.str (docId found))
    let next := Fields.set next fieldCreatedAt ((Fields.get? found fieldCreatedAt).getD .null)
    Fields.set next fieldUpdatedAt (.time h.now)

def update (s : MemoryStore) (h : Host) (name : String) (f : Filter) (set : Fields)
    (limit : Nat) : Except Fault UpdateResult × MemoryStore :=
  let c0 := s.get name
  let found := c0.select f limit
  let step := fun (acc : MemCollection × Option Fault × Nat) (d : Fields) =>
    match acc with
    | (c, some e, n) => (c, some e, n)
    | (c, none, n) =>
      match c.replace d (mergeChange h.now d set) with
      | .ok c => (c, none, n + 1)
      | .error e => (c, some e, n)
  let (c, err, _) := found.foldl step (c0, none, 0)
  match err with
  | some e => (.error e, s.put c)
  | none => (.ok { matched := found.length, modified := found.length }, s.put c)

def delete (s : MemoryStore) (name : String) (f : Filter) (limit : Nat) :
    DeleteResult × MemoryStore :=
  match s.find? name with
  | none => ({}, s)
  | some c =>
    let found := c.select f limit
    let c := found.foldl (fun c d => c.remove (docId d)) c
    ({ deleted := found.length }, s.put c)

def aggregate (s : MemoryStore) (name : String) (p : Pipeline) : Option (List Fields) :=
  match s.find? name with
  | none => p.run none
  | some c => some ((p.run (some (c.select {} 0))).getD [])

def dump (s : MemoryStore) (name : String) : List Fields :=
  match s.find? name with
  | none => []
  | some c => c.docs.map Prod.snd

end MemoryStore

end CrudRoutes
