import CrudRoutes.Store.Memory
import CrudRoutes.Store.Sqlite

/-!
The store a program runs against: one of the two backends, the host they share, and two
switches that make every write, or every read, fail with a given text (a way to exercise the
failure paths of everything above the store).

Store calls run in `StoreM`: they read and advance the storage, and a failed call keeps what
it changed on the way, such as identifiers drawn.
-/

namespace CrudRoutes

/-- The backends of a store. -/
inductive Backend where
  | memory (m : MemoryStore)
  | sqlite (s : SqliteStore)
  deriving Inhabited

/-- A store with its host and its failure switches. -/
structure Storage where
  host : Host
  backend : Backend
  failWrites : Option String := none
  failReads : Option String := none
  deriving Inhabited

/-- Computations over a storage that may fail. -/
abbrev StoreM := ExceptT Fault (StateM Storage)

namespace StoreM

def failureOf (x : StoreM Unit) : StoreM (Option Fault) :=
  tryCatch (do x; pure none) fun e => pure (some e)

/-- Runs `f` on every element in turn, a failure stopping none of the others, and raises the
first failure once all have run. -/
def runEach {α : Type} (f : α → StoreM Unit) : List α → StoreM Unit
  | [] => pure ()
  | a :: rest => do
    let first ← failureOf (f a)
    let later ← failureOf (runEach f rest)
    match first.or later with
    | some e => throw e
    | none => pure ()

end StoreM

namespace Storage

/-- Fails with the write switch's text when it is set. -/
def guardWrite : StoreM Unit := do
  match (← get).failWrites with
  | some m => throw (.plain m)
  | none => pure ()

/-- Fails with the read switch's text when it is set. -/
def guardRead : StoreM Unit := do
  match (← get).failReads with
  | some m => throw (.plain m)
  | none => pure ()

def now : StoreM Time := do
  pure (← get).host.now

def draw : StoreM String := do
  let s ← get
  let (id, h) := s.host.draw
  set { s with host := h }
  pure id

def ofExcept {α : Type} (r : Except Fault α) : StoreM α :=
  match r with
  | .ok a => pure a
  | .error e => throw e

def ensureCollection (spec : CollectionSpec) : StoreM Unit := do
  let s ← get
  match s.backend with
  | .memory m =>
    let (m, err) := m.ensure spec
    set { s with backend := .memory m }
    match err with
    | some e => throw e
    | none => pure ()
  | .sqlite q =>
    let q ← ofExcept (q.ensure spec)
    set { s with backend := .sqlite q }

def create (name : String) (doc : Fields) : StoreM Fields := do
  guardWrite
  let s ← get
  match s.backend with
  | .memory m =>
    let (r, m, h) := m.create s.host name doc
    set { s with backend := .memory m, host := h }
    ofExcept r
  | .sqlite q =>
    let (r, q, h) := q.create s.host name doc
    set { s with backend := .sqlite q, host := h }
    ofExcept r

def createMany (name : String) (docs : List Fields) : StoreM (List Fields) := do
  guardWrite
  let s ← get
  match s.backend with
  | .memory m =>
    let (r, m, h) := m.createMany s.host name docs
    set { s with backend := .memory m, host := h }
    ofExcept r
  | .sqlite q =>
    let (r, q, h) := q.createMany s.host name docs
    set { s with backend := .sqlite q, host := h }
    ofExcept r

def find (name : String) (f : Filter) : StoreM (List Fields) := do
  guardRead
  match (← get).backend with
  | .memory m => pure (m.findAll name f)
  | .sqlite q => ofExcept (q.findAll name f)

def findOne (name : String) (f : Filter) : StoreM Fields := do
  guardRead
  match (← get).backend with
  | .memory m => ofExcept (m.findOne name f)
  | .sqlite q => ofExcept (q.findOne name f)

def findOneAndUpdate (name : String) (f : Filter) (change : Fields) : StoreM Fields := do
  guardWrite
  let s ← get
  match s.backend with
  | .memory m =>
    let (r, m) := m.findOneAndUpdate s.host name f change
    set { s with backend := .memory m }
    ofExcept r
  | .sqlite q =>
    let (r, q) := q.findOneAndUpdate s.host name f change
    set { s with backend := .sqlite q }
    ofExcept r

def findOneAndReplace (name : String) (f : Filter) (doc : Fields) : StoreM Fields := do
  guardWrite
  let s ← get
  match s.backend with
  | .memory m =>
    let (r, m) := m.findOneAndReplace s.host name f doc
    set { s with backend := .memory m }
    ofExcept r
  | .sqlite q =>
    let (r, q) := q.findOneAndReplace s.host name f doc
    set { s with backend := .sqlite q }
    ofExcept r

def update (name : String) (f : Filter) (change : Fields) (limit : Nat) :
    StoreM UpdateResult := do
  guardWrite
  let s ← get
  match s.backend with
  | .memory m =>
    let (r, m) := m.update s.host name f change limit
    set { s with backend := .memory m }
    ofExcept r
  | .sqlite q =>
    let (r, q) := q.update s.host name f change limit
    set { s with backend := .sqlite q }
    ofExcept r

def updateOne (name : String) (f : Filter) (change : Fields) : StoreM UpdateResult :=
  update name f change 1

def updateMany (name : String) (f : Filter) (change : Fields) : StoreM UpdateResult :=
  update name f change 0

def delete (name : String) (f : Filter) (limit : Nat) : StoreM DeleteResult := do
  guardWrite
  let s ← get
  match s.backend with
  | .memory m =>
    let (r, m) := m.delete name f limit
    set { s with backend := .memory m }
    pure r
  | .sqlite q =>
    let (r, q) := q.delete name f limit
    set { s with backend := .sqlite q }
    ofExcept r

def deleteOne (name : String) (f : Filter) : StoreM DeleteResult :=
  delete name f 1

def deleteMany (name : String) (f : Filter) : StoreM DeleteResult :=
  delete name f 0

def aggregate (name : String) (p : Pipeline) : StoreM (Option (List Fields)) := do
  guardRead
  match (← get).backend with
  | .memory m => pure (m.aggregate name p)
  | .sqlite q => ofExcept (q.aggregate name p)

def dump (s : Storage) (name : String) : Except Fault (List Fields) :=
  match s.backend with
  | .memory m => .ok (m.dump name)
  | .sqlite q => q.dump name

def close (s : Storage) : Storage :=
  match s.backend with
  | .sqlite q => { s with backend := .sqlite { q with closed := true } }
  | .memory _ => s

end Storage

end CrudRoutes
