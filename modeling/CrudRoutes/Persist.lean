import CrudRoutes.Store.Storage
import CrudRoutes.Shape.Basic

/-!
Persistence of an entity's documents over a store.

Reads and updates of a soft-deletable entity only see live documents: their filters are pinned
to `isDeleted = false`, which callers cannot override. New documents of such an entity start
live, with no deletion time. Deleting soft-deletes (marks the document deleted, with the time)
when the entity allows it and removes the document otherwise. Fields that callers may not set
(identity, time stamps, soft-delete state) are dropped from every write.

Store conditions are turned into client faults: a lookup that matches nothing is a missing
document, a duplicate key is reported by its fields.
-/

namespace CrudRoutes

namespace Persist

/-- The filter restricted to live documents when the entity is soft-deletable. -/
def scope (e : Entity) (f : Filter) : Filter :=
  if e.softDeletable then f.add fieldIsDeleted (.bool false) else f

def writable (doc : Fields) : Fields :=
  withoutFields doc baseExclusions

def fresh (e : Entity) (doc : Fields) : Fields :=
  let d := writable doc
  if e.softDeletable then
    Fields.set (Fields.set d fieldIsDeleted (.bool false)) fieldDeletedAt .null
  else d

def normalized {α : Type} (m : StoreM α) : StoreM α :=
  tryCatch m fun e => throw e.normalize

/-- Inserts a new document. -/
def create (e : Entity) (doc : Fields) : StoreM Fields :=
  normalized (Storage.create e.collectionName (fresh e doc))

/-- Inserts new documents, all or none. -/
def createMany (e : Entity) (docs : List Fields) : StoreM (List Fields) :=
  normalized (Storage.createMany e.collectionName (docs.map (fresh e)))

def findOne (e : Entity) (f : Filter) : StoreM Fields :=
  normalized (Storage.findOne e.collectionName (scope e f))

def find (e : Entity) (f : Filter) : StoreM (List Fields) :=
  normalized (Storage.find e.collectionName (scope e f))

def findOneAndUpdate (e : Entity) (f : Filter) (change : Fields) : StoreM Fields :=
  normalized (Storage.findOneAndUpdate e.collectionName (scope e f) (writable change))

def findOneAndReplace (e : Entity) (f : Filter) (doc : Fields) : StoreM Fields :=
  normalized (Storage.findOneAndReplace e.collectionName (scope e f) (fresh e doc))

def updateMany (e : Entity) (f : Filter) (change : Fields) : StoreM UpdateResult :=
  normalized (Storage.updateMany e.collectionName (scope e f) (writable change))

def tombstone : StoreM Fields := do
  let now ← Storage.now
  pure (Fields.ofPairs [(fieldIsDeleted, .bool true), (fieldDeletedAt, .time now)])

/-- Deletes the first document a filter selects: soft when the entity allows it. -/
def deleteOne (e : Entity) (f : Filter) : StoreM DeleteResult := do
  if !e.softDeletable then
    normalized (Storage.deleteOne e.collectionName f)
  else
    let t ← tombstone
    try
      let _ ← Storage.findOneAndUpdate e.collectionName (scope e f) t
      pure { deleted := 1 }
    catch err =>
      if err.isNoDocument then pure {} else throw err.normalize

/-- Deletes every document a filter selects: soft when the entity allows it. -/
def deleteMany (e : Entity) (f : Filter) : StoreM DeleteResult := do
  if !e.softDeletable then
    normalized (Storage.deleteMany e.collectionName f)
  else
    let t ← tombstone
    let r ← normalized (Storage.updateMany e.collectionName (scope e f) t)
    pure { deleted := r.modified }

def aggregate (e : Entity) (p : Pipeline) : StoreM (Option (List Fields)) :=
  let stages := if e.softDeletable then { filter := scope e {} } :: p else p
  normalized (Storage.aggregate e.collectionName stages)

end Persist

end CrudRoutes
