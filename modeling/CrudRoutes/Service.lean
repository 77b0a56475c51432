import CrudRoutes.Persist
import CrudRoutes.Route.Basic
import CrudRoutes.Crypto.Bcrypt

/-!
The operations a route runs against its entity, with the route's hooks.

* Creating runs the before-create hook on each new document, inserts, then runs the after-save
  hook on what was stored.
* Updating, duplicating and replacing one document first load it (a missing document fails),
  run the before-save hook on the change, write, then run the after-save hook.
* Updating several documents requires every id to name a live document before anything is
  written; duplicating several requires the same and copies each document with the overrides.
* Deleting never fails: a storage fault counts as nothing deleted.

The after-save hook runs once per saved document; its first failure is the operation's failure,
although the write stays done.

Mappers transform bodies on the way in and documents on the way out: `hash-password` replaces
a non-empty `password` by its hash, `hide-password` removes it.
-/

namespace CrudRoutes

namespace Hooks

def runCreate (h : CreateHook) (p : Option Principal) (doc : Fields) : Except Fault Fields :=
  match h with
  | .setOwner =>
    match p with
    | none => .error Fault.forbidden
    | some p => .ok (Fields.set doc fieldOwner (.str p.id))

def runSave (h : SaveHook) (current change : Fields) : Fields :=
  match h with
  | .keepOwner =>
    let out := Fields.erase change fieldOwner
    match Fields.get? current fieldOwner with
    | some .null | none => out
    | some owner => Fields.set out fieldOwner owner

def runAfter (h : AfterHook) (p : Option Principal) (saved : Fields) : StoreM Unit :=
  match h with
  | .auditTrail audit => do
    let record := Fields.ofPairs ([("documentId", Value.str (docId saved))] ++
      match p with
      | some p => [("actorId", Value.str p.id), ("actorEmail", Value.str p.email)]
      | none => [])
    try
      let _ ← Persist.create audit record
    catch err =>
      throw (.wrapped "write audit record" err)

end Hooks

namespace Mapper

/-- Maps a body on the way in, hashing passwords by a scheme. -/
def toEntityWith (H : PasswordHashing) (m : Mapper) (doc : Fields) : Except Fault Fields :=
  match m with
  | .hashPassword =>
    match Fields.get? doc "password" with
    | some (.str pw) =>
      if pw.isEmpty then .ok doc
      else match H.generate pw with
        | .ok h => .ok (Fields.set doc "password" (.str h))
        | .error e => .error (.wrapped "hash password" (.plain e))
    | _ => .ok doc
  | .hidePassword => .ok doc

def toEntity (m : Mapper) (doc : Fields) : Except Fault Fields :=
  toEntityWith Crypto.bcrypt m doc

def mapsIn : Mapper → Bool
  | .hashPassword => true
  | .hidePassword => false

def fromEntity (m : Mapper) (doc : Fields) : Fields :=
  match m with
  | .hidePassword => Fields.erase doc "password"
  | .hashPassword => doc

def mapsOut : Mapper → Bool
  | .hidePassword => true
  | .hashPassword => false

end Mapper

/-- The entity operations of one route: its entity, its hooks and its caller. -/
structure Service where
  entity : Entity
  hooks : Hooks := {}
  principal : Option Principal := none

namespace Service

def lift {α : Type} (r : Except Fault α) : StoreM α :=
  match r with
  | .ok a => pure a
  | .error e => throw e

def beforeSave (s : Service) (current change : Fields) : Fields :=
  let change := Persist.writable change
  match s.hooks.beforeSave with
  | none => change
  | some h => Persist.writable (Hooks.runSave h current change)

def beforeCreate (s : Service) (doc : Fields) : Except Fault Fields :=
  match s.hooks.beforeCreate with
  | none => .ok doc
  | some h => (Hooks.runCreate h s.principal (Persist.writable doc)).map Persist.writable

/-- Runs the after-save hook on every saved document, all of them even after one fails, and
raises the first failure; the write stays. -/
def afterSave (s : Service) (docs : List Fields) : StoreM Unit :=
  match s.hooks.afterSave with
  | none => pure ()
  | some h => StoreM.runEach (fun d => Hooks.runAfter h s.principal d) docs

def copyWith (src overrides : Fields) : Fields :=
  (Persist.writable overrides).foldl (fun acc (k, v) => Fields.set acc k v) (Persist.writable src)

/-- Creates one document. -/
def createOne (s : Service) (doc : Fields) : StoreM Fields := do
  let doc ← lift (s.beforeCreate doc)
  let created ← Persist.create s.entity doc
  s.afterSave [created]
  pure created

/-- Creates documents, all or none. -/
def createMany (s : Service) (docs : List Fields) : StoreM (List Fields) := do
  let docs ← lift (docs.mapM s.beforeCreate)
  let created ← Persist.createMany s.entity docs
  s.afterSave created
  pure created

def getOne (s : Service) (id : String) : StoreM Fields :=
  Persist.findOne s.entity (Filter.byId id)

def getMany (s : Service) (f : Filter) : StoreM (List Fields) :=
  Persist.find s.entity f

/-- Applies a change to one document. -/
def updateOne (s : Service) (id : String) (change : Fields) : StoreM Fields := do
  let current ← s.getOne id
  let change := s.beforeSave current change
  let updated ← Persist.findOneAndUpdate s.entity (Filter.byId id) change
  s.afterSave [updated]
  pure updated

def requireAll (s : Service) (ids : List String) : StoreM Unit := do
  let found ← Persist.find s.entity (Filter.byIds ids)
  if found.length != ids.length then throw Fault.notFound

/-- Applies a change to several documents. -/
def updateMany (s : Service) (ids : List String) (change : Fields) : StoreM (List Fields) := do
  s.requireAll ids
  let _ ← Persist.updateMany s.entity (Filter.byIds ids) change
  let updated ← Persist.find s.entity (Filter.byIds ids)
  s.afterSave updated
  pure updated

/-- Deletes one document; a fault counts as nothing deleted. -/
def deleteOne (s : Service) (id : String) : StoreM DeleteResult :=
  tryCatch (Persist.deleteOne s.entity (Filter.byId id)) fun _ => pure {}

/-- Deletes several documents; a fault counts as nothing deleted. -/
def deleteMany (s : Service) (ids : List String) : StoreM DeleteResult :=
  tryCatch (Persist.deleteMany s.entity (Filter.byIds ids)) fun _ => pure {}

/-- Copies one document with overrides. -/
def duplicateOne (s : Service) (id : String) (overrides : Fields) : StoreM Fields := do
  let current ← s.getOne id
  let overrides := s.beforeSave current overrides
  let created ← Persist.create s.entity (copyWith current overrides)
  s.afterSave [created]
  pure created

/-- Copies several documents with the same overrides. -/
def duplicateMany (s : Service) (ids : List String) (overrides : Fields) :
    StoreM (List Fields) := do
  let found ← Persist.find s.entity (Filter.byIds ids)
  if found.length != ids.length then throw Fault.notFound
  let created ← Persist.createMany s.entity (found.map (copyWith · overrides))
  s.afterSave created
  pure created

/-- Replaces one document. -/
def replaceOne (s : Service) (id : String) (doc : Fields) : StoreM Fields := do
  let current ← s.getOne id
  let doc := s.beforeSave current doc
  let replaced ← Persist.findOneAndReplace s.entity (Filter.byId id) doc
  s.afterSave [replaced]
  pure replaced

end Service

end CrudRoutes
