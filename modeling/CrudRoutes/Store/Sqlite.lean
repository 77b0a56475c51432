import CrudRoutes.Store.Basic

/-!
A document store over SQL tables, as kept by SQLite.

Every collection lives in one table of rows, each holding a document as JSON text, so documents
read back as JSON gives them: integers as doubles and instants as their text. A second table
maps each unique key (collection, key name, key text) to the document holding it, the three
forming its primary key. Every write runs in a transaction: a failure anywhere leaves the tables
as they were, although identifiers drawn on the way stay drawn.

Writing a document's keys first drops every key the document holds, then claims its keys one by
one; a key held by another document is a duplicate, and claiming the same key twice (two
patterns of one name) breaks the primary key of the key table.

Once the connection is closed, every call fails at its first statement.
-/

namespace CrudRoutes

/-- A stored document: its collection, its identity and its data. -/
structure SqlRow where
  collection : String
  id : String
  data : Fields
  deriving Inhabited

/-- A claimed unique key. -/
structure KeyRow where
  collection : String
  keyName : String
  keyValue : String
  documentId : String
  deriving Inhabited

/-- The tables of the store, the key patterns it serves, and whether the connection is closed. -/
structure SqliteStore where
  rows : List SqlRow := []
  keys : List KeyRow := []
  specs : List CollectionSpec := []
  closed : Bool := false
  deriving Inhabited

namespace SqliteStore

def closedFault : Fault := .plain "sql: database is closed"

def keyTableFault : Fault :=
  .plain ("constraint failed: UNIQUE constraint failed: document_unique_keys.collection, " ++
    "document_unique_keys.key_name, document_unique_keys.key_value (1555)")

def spec (s : SqliteStore) (name : String) : CollectionSpec :=
  (s.specs.find? (·.name == name)).getD { name }

def load (s : SqliteStore) (name : String) (f : Filter) (limit : Nat) : List Fields :=
  let all := ((s.rows.filter (·.collection == name)).map (·.data)).filter f.selects
  if limit > 0 then all.take limit else all

def claim (spec : CollectionSpec) (id : String) (d : Fields) (s : SqliteStore)
    (pattern : List String) : Except Fault SqliteStore :=
  match uniqueKey d pattern with
  | none => .ok s
  | some (value, fields) =>
    let name := keyName pattern
    match s.keys.find? fun k =>
        k.collection == spec.name && k.keyName == name && k.keyValue == value with
    | some k =>
      if k.documentId != id then
        .error (.duplicate { collection := spec.name, keyPattern := pattern, keyValue := fields })
      else .error keyTableFault
    | none =>
      let row : KeyRow :=
        { collection := spec.name
          keyName := name
          keyValue := value
          documentId := id }
      .ok { s with keys := s.keys ++ [row] }

def writeKeys (s : SqliteStore) (spec : CollectionSpec) (d : Fields) :
    Except Fault SqliteStore :=
  let id := docId d
  let s := { s with keys := s.keys.filter fun k => !(k.collection == spec.name && k.documentId == id) }
  spec.uniqueKeys.foldlM (claim spec id d) s

/-- A document written as JSON and read back, or the fault of a value JSON cannot write. -/
def encode (d : Fields) : Except Fault Fields :=
  match Json.unwritableFields? d with
  | some u => .error (.wrapped "encode document" (.plain u.message))
  | none => .ok (storedDoc d)

/-- Inserts a document: stamps, identifies and writes it, then checks its identity and claims its
keys. -/
def insert (s : SqliteStore) (h : Host) (spec : CollectionSpec) (doc : Fields) :
    (Except Fault (Fields × SqliteStore)) × Host :=
  let d := withoutFields doc [fieldCreatedAt, fieldUpdatedAt]
  let (d, h) := if docId d == "" then
      let (id, h) := h.draw
      (Fields.set d fieldId (.str id), h)
    else (d, h)
  let d := Fields.set (Fields.set d fieldCreatedAt (.time h.now)) fieldUpdatedAt (.time h.now)
  match encode d with
  | .error e => (.error e, h)
  | .ok d =>
  let id := docId d
  if s.rows.any fun r => r.collection == spec.name && r.id == id then
    (.error (.duplicate
      { collection := spec.name
        keyPattern := [fieldId]
        keyValue := [(fieldId, .str id)] }), h)
  else
    match s.writeKeys spec d with
    | .error e => (.error e, h)
    | .ok s => (.ok (d, { s with rows := s.rows ++ [{ collection := spec.name, id, data := d }] }), h)

/-- Writes the next version of a document and stores it after claiming its keys. -/
def save (s : SqliteStore) (spec : CollectionSpec) (next : Fields) :
    Except Fault (Fields × SqliteStore) := do
  let d ← encode next
  let s ← s.writeKeys spec d
  let id := docId d
  pure (d, { s with rows := s.rows.map fun r =>
    if r.collection == spec.name && r.id == id then { r with data := d } else r })

/-- Prepares a collection: rebuilds its keys from its documents, or changes nothing on a
conflict. -/
def ensure (s : SqliteStore) (spec : CollectionSpec) : Except Fault SqliteStore :=
  if s.closed then .error (.wrapped ("ensure collection " ++ spec.name) closedFault) else
  let cleared := { s with keys := s.keys.filter (·.collection != spec.name) }
  match (s.load spec.name {} 0).foldlM (fun s d => s.writeKeys spec d) cleared with
  | .error e => .error (.wrapped ("ensure collection " ++ spec.name) e)
  | .ok s => .ok { s with specs := (s.specs.filter (·.name != spec.name)) ++ [spec] }

/-- Inserts one document. -/
def create (s : SqliteStore) (h : Host) (name : String) (doc : Fields) :
    Except Fault Fields × SqliteStore × Host :=
  if s.closed then (.error closedFault, s, h) else
  match s.insert h (s.spec name) doc with
  | (.ok (d, s'), h) => (.ok d, s', h)
  | (.error e, h) => (.error e, s, h)

/-- Inserts a batch in one transaction. -/
def createMany (s : SqliteStore) (h : Host) (name : String) (docs : List Fields) :
    Except Fault (List Fields) × SqliteStore × Host :=
  if s.closed then (.error closedFault, s, h) else
  let spec := s.spec name
  let step := fun (acc : Except Fault (SqliteStore × List Fields) × Host) (doc : Fields) =>
    match acc with
    | (.error e, h) => (.error e, h)
    | (.ok (s, done), h) =>
      match s.insert h spec doc with
      | (.ok (d, s), h) => (.ok (s, done ++ [d]), h)
      | (.error e, h) => (.error e, h)
  match docs.foldl step (.ok (s, []), h) with
  | (.ok (s', done), h) => (.ok done, s', h)
  | (.error e, h) => (.error e, s, h)

def findAll (s : SqliteStore) (name : String) (f : Filter) : Except Fault (List Fields) :=
  if s.closed then .error closedFault else .ok (s.load name f 0)

def findOne (s : SqliteStore) (name : String) (f : Filter) : Except Fault Fields :=
  if s.closed then .error closedFault else
  match (s.load name f 1).head? with
  | some d => .ok d
  | none => .error .noDocument

def replaceFirst (s : SqliteStore) (name : String) (f : Filter) (next : Fields → Fields) :
    Except Fault Fields × SqliteStore :=
  if s.closed then (.error closedFault, s) else
  match (s.load name f 1).head? with
  | none => (.error .noDocument, s)
  | some found =>
    match s.save (s.spec name) (next found) with
    | .ok (d, s') => (.ok d, s')
    | .error e => (.error e, s)

def findOneAndUpdate (s : SqliteStore) (h : Host) (name : String) (f : Filter) (set : Fields) :
    Except Fault Fields × SqliteStore :=
  s.replaceFirst name f (mergeChange h.now · set)

def findOneAndReplace (s : SqliteStore) (h : Host) (name : String) (f : Filter)
    (doc : Fields) : Except Fault Fields × SqliteStore :=
  s.replaceFirst name f fun found =>
    let next := withoutFields doc [fieldId, fieldCreatedAt, fieldUpdatedAt]
    let next := Fields.set next fieldId (.str (docId found))
    let next := Fields.set next fieldCreatedAt ((Fields.get? found fieldCreatedAt).getD .null)
    Fields.set next fieldUpdatedAt (.time h.now)

def update (s : SqliteStore) (h : Host) (name : String) (f : Filter) (set : Fields)
    (limit : Nat) : Except Fault UpdateResult × SqliteStore :=
  if s.closed then (.error closedFault, s) else
  let spec := s.spec name
  let found := s.load name f limit
  match found.foldlM (fun s d => (s.save spec (mergeChange h.now d set)).map Prod.snd) s with
  | .ok s' => (.ok { matched := found.length, modified := found.length }, s')
  | .error e => (.error e, s)

def delete (s : SqliteStore) (name : String) (f : Filter) (limit : Nat) :
    Except Fault DeleteResult × SqliteStore :=
  if s.closed then (.error closedFault, s) else
  let ids := (s.load name f limit).map docId
  let keys := s.keys.filter fun k => !(k.collection == name && ids.contains k.documentId)
  let rows := s.rows.filter fun r => !(r.collection == name && ids.contains r.id)
  let s' := { s with keys, rows }
  (.ok { deleted := ids.length }, s')

def aggregate (s : SqliteStore) (name : String) (p : Pipeline) :
    Except Fault (Option (List Fields)) :=
  if s.closed then .error closedFault else .ok (p.run (some (s.load name {} 0)))

def dump (s : SqliteStore) (name : String) : Except Fault (List Fields) :=
  if s.closed then .error closedFault else .ok ((s.rows.filter (·.collection == name)).map (·.data))

end SqliteStore

end CrudRoutes
