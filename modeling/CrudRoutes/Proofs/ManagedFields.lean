import Mathlib
import CrudRoutes.Proofs.Store.Persistence

/-!
The managed fields of a document belong to the engine: its identity, its two time stamps, its
soft-delete pair and the store's internal fields (`Stamps`). A write of persistence cannot set
them, whatever it is handed: `fresh` and `writable` drop them, preparing a document draws its
identity and stamps the clock, a merge keeps all but the update time, a replacement takes the
identity and creation time of the document it replaces, and a soft deletion sets the pair.

`Persist.Stamped` says what one write leaves in a collection, `Stamps.Written` what every stored
document holds. The step lemma `Persist.stamped_after` and the run lemma
`Persist.written_of_reaches` need the entities writing into one collection to agree on soft
deletion: an entity that does not soft-delete replaces documents with no soft-delete pair.
-/

namespace CrudRoutes

/-- The fields the engine manages in a stored document: its identity, its time stamps, its
soft-delete pair and the two internal fields of the document store. -/
@[ext]
structure Stamps where
  id : Option Value
  createdAt : Option Value
  updatedAt : Option Value
  isDeleted : Option Value
  deletedAt : Option Value
  internalId : Option Value
  internalVersion : Option Value

/-- The managed fields a document holds. -/
def Fields.stamps (d : Fields) : Stamps where
  id := d.get? fieldId
  createdAt := d.get? fieldCreatedAt
  updatedAt := d.get? fieldUpdatedAt
  isDeleted := d.get? fieldIsDeleted
  deletedAt := d.get? fieldDeletedAt
  internalId := d.get? fieldInternalId
  internalVersion := d.get? fieldInternalVersion

namespace Stamps

/-- Every managed field passed through a map of values. -/
def map (g : Value → Value) (m : Stamps) : Stamps where
  id := m.id.map g
  createdAt := m.createdAt.map g
  updatedAt := m.updatedAt.map g
  isDeleted := m.isDeleted.map g
  deletedAt := m.deletedAt.map g
  internalId := m.internalId.map g
  internalVersion := m.internalVersion.map g

theorem map_updatedAt (g : Value → Value) (m : Stamps) (v : Value) :
    ({ m with updatedAt := some v } : Stamps).map g = { m.map g with updatedAt := some (g v) } :=
  rfl

theorem map_deleted (g : Value → Value) (m : Stamps) (u b t : Value) :
    ({ m with updatedAt := some u, isDeleted := some b, deletedAt := some t } : Stamps).map g =
      { m.map g with updatedAt := some (g u), isDeleted := some (g b), deletedAt := some (g t) } :=
  rfl

def blank (soft : Bool) : Stamps where
  id := none
  createdAt := none
  updatedAt := none
  isDeleted := if soft then some (.bool false) else none
  deletedAt := if soft then some .null else none
  internalId := none
  internalVersion := none

/-- The managed fields of a new document of identifier `i` inserted at `now`. -/
def fresh (soft : Bool) (i : String) (now : Time) : Stamps :=
  { blank soft with
    id := some (.str i)
    createdAt := some (.time now)
    updatedAt := some (.time now) }

/-- The soft-delete pair of a stored document under a backend keeping values by `kv`: live or
marked deleted at some time where the collection soft-deletes, absent where it does not. -/
inductive SoftPair (kv : Value → Value) : Bool → Option Value → Option Value → Prop
  | live : SoftPair kv true (some (.bool false)) (some .null)
  | deleted (t : Time) : SoftPair kv true (some (.bool true)) (some (kv (.time t)))
  | absent : SoftPair kv false none none

theorem SoftPair.eq_blank {kv : Value → Value} {soft : Bool} {a b : Option Value}
    (h : SoftPair kv soft a b) (hlive : soft = true → a = some (.bool false)) :
    a = (Stamps.blank soft).isDeleted ∧ b = (Stamps.blank soft).deletedAt := by
  cases h with
  | live | absent => exact ⟨rfl, rfl⟩
  | deleted t => simp at hlive

/-- The managed fields of a stored document of identity `i`, as the engine writes them under a
backend keeping values by `kv`: a drawn identifier, both times instants, the soft-delete pair of
the collection and no internal field. -/
structure Written (soft : Bool) (kv : Value → Value) (i : String) (m : Stamps) : Prop where
  drawn : ∃ k, i = uuidOf k
  id : m.id = some (.str i)
  createdAt : ∃ t, m.createdAt = some (kv (.time t))
  updatedAt : ∃ t, m.updatedAt = some (kv (.time t))
  softPair : SoftPair kv soft m.isDeleted m.deletedAt
  internalId : m.internalId = none
  internalVersion : m.internalVersion = none

end Stamps

/-- A value as the backend of a storage keeps it. -/
def Storage.keepValue (s : Storage) (v : Value) : Value :=
  match s.backend with
  | .memory _ => v
  | .sqlite _ => v.stored

namespace Storage

variable (s : Storage)

@[simp] theorem keepValue_str (x : String) : s.keepValue (.str x) = .str x := by
  unfold keepValue
  split <;> rfl

@[simp] theorem keepValue_bool (b : Bool) : s.keepValue (.bool b) = .bool b := by
  unfold keepValue
  split <;> rfl

@[simp] theorem keepValue_null : s.keepValue .null = .null := by
  unfold keepValue
  split <;> rfl

@[simp] theorem keepValue_keepValue (v : Value) : s.keepValue (s.keepValue v) = s.keepValue v := by
  unfold keepValue
  split
  · rfl
  · exact Value.stored_stored v

theorem stamps_keep (d : Fields) : (s.keep d).stamps = d.stamps.map s.keepValue := by
  unfold keep keepValue
  cases s.backend with
  | memory => simp [Stamps.map]
  | sqlite => simp [Fields.stamps, Stamps.map, get?_storedDoc]

end Storage

theorem StoreCall.keepValue_after (c : StoreCall) (s : Storage) :
    (c.after s).keepValue = s.keepValue := by
  funext v
  unfold Storage.keepValue
  cases hb : s.backend with
  | memory m => rcases c.after_memory hb with h | h <;> rw [h]
  | sqlite q => rcases c.after_sqlite_eq hb with h | h <;> rw [h]

theorem docId_of_stamps {d : Fields} {i : String} (h : d.stamps.id = some (.str i)) :
    docId d = i := by
  unfold docId
  rw [show Fields.get? d fieldId = some (.str i) from h]

theorem get?_withoutFields_of_mem (doc : Fields) {names : List String} {k : String}
    (h : k ∈ names) : Fields.get? (withoutFields doc names) k = none := by
  cases hg : Fields.get? (withoutFields doc names) k with
  | none => rfl
  | some v =>
    have hk := (List.mem_filter.1 (Fields.mem_of_get? hg)).2
    simp [h] at hk

theorem stamps_prepare (h : Host) {doc : Fields} (hid : Fields.get? doc fieldId = none) :
    (MemoryStore.prepare h doc).1.stamps =
      { doc.stamps with
        id := some (.str (uuidOf (h.drawn + 1)))
        createdAt := some (.time h.now)
        updatedAt := some (.time h.now) } := by
  have hd : docId (withoutFields doc [fieldCreatedAt, fieldUpdatedAt]) = "" := by
    simp [docId, get?_withoutFields_of_not_mem doc
      (show fieldId ∉ [fieldCreatedAt, fieldUpdatedAt] by decide), hid]
  have hprep : (MemoryStore.prepare h doc).1 = Fields.set (Fields.set (Fields.set
      (withoutFields doc [fieldCreatedAt, fieldUpdatedAt]) fieldId (.str (uuidOf (h.drawn + 1))))
      fieldCreatedAt (.time h.now)) fieldUpdatedAt (.time h.now) := by
    simp [MemoryStore.prepare, hd, Host.draw]
  rw [hprep]
  simp (disch := decide) only [Fields.stamps, Fields.get?_set_self, Fields.get?_set_of_ne,
    get?_withoutFields_of_not_mem]

theorem stamps_replacement (now : Time) (doc found : Fields) :
    (replacement now doc found).stamps =
      { doc.stamps with
        id := some (.str (docId found))
        createdAt := some (found.stamps.createdAt.getD .null)
        updatedAt := some (.time now) } := by
  unfold replacement
  simp (disch := decide) only [Fields.stamps, Fields.get?_set_self, Fields.get?_set_of_ne,
    get?_withoutFields_of_not_mem]

theorem Fields.get?_mergeChange_updatedAt (now : Time) (current set : Fields) :
    Fields.get? (mergeChange now current set) fieldUpdatedAt = some (.time now) := by
  unfold mergeChange
  exact Fields.get?_set_self _ _ _

namespace Persist

theorem not_mem_writable_of_mem {k : String} (hk : k ∈ baseExclusions) (doc : Fields)
    (v : Value) :
    (k, v) ∉ writable doc := by
  intro h
  have := (List.mem_filter.1 h).2
  simp [hk] at this

theorem stamps_fresh (e : Entity) (doc : Fields) :
    (fresh e doc).stamps = Stamps.blank e.softDeletable := by
  unfold fresh writable
  cases e.softDeletable
  · simp (disch := decide) only [Fields.stamps, Stamps.blank, get?_withoutFields_of_mem, if_false,
      Bool.false_eq_true]
  · simp (disch := decide) only [Fields.stamps, Stamps.blank, Fields.get?_set_self,
      Fields.get?_set_of_ne, get?_withoutFields_of_mem, if_true]

theorem stamps_prepare_fresh (h : Host) (e : Entity) (doc : Fields) :
    (MemoryStore.prepare h (fresh e doc)).1.stamps =
      Stamps.fresh e.softDeletable (uuidOf (h.drawn + 1)) h.now := by
  have hid : Fields.get? (fresh e doc) fieldId = none := congrArg Stamps.id (stamps_fresh e doc)
  rw [stamps_prepare h hid, stamps_fresh]
  rfl

theorem stamps_mergeChange_writable (now : Time) (d change : Fields) :
    (mergeChange now d (writable change)).stamps =
      { d.stamps with updatedAt := some (.time now) } := by
  have hk : ∀ k ∈ baseExclusions, k ≠ fieldUpdatedAt →
      Fields.get? (mergeChange now d (writable change)) k = Fields.get? d k := fun k hk hu =>
    Fields.get?_mergeChange_of_not_mem now d _ (not_mem_writable_of_mem hk change) hu
  simp (disch := decide) only [Fields.stamps, hk, Fields.get?_mergeChange_updatedAt]

theorem tombstoneAt_eq (t : Time) :
    tombstoneAt t = [(fieldDeletedAt, .time t), (fieldIsDeleted, .bool true)] := rfl

theorem mergeChange_tombstoneAt (now t : Time) (d : Fields) :
    mergeChange now d (tombstoneAt t) = Fields.set (Fields.set (Fields.set d fieldDeletedAt
      (.time t)) fieldIsDeleted (.bool true)) fieldUpdatedAt (.time now) := by
  rw [tombstoneAt_eq]
  rfl

theorem stamps_mergeChange_tombstoneAt (now t : Time) (d : Fields) :
    (mergeChange now d (tombstoneAt t)).stamps =
      { d.stamps with
        updatedAt := some (.time now)
        isDeleted := some (.bool true)
        deletedAt := some (.time t) } := by
  rw [mergeChange_tombstoneAt]
  simp (disch := decide) only [Fields.stamps, Fields.get?_set_self, Fields.get?_set_of_ne]

theorem get?_isDeleted_of_live {d : Fields} (h : Live d) :
    Fields.get? d fieldIsDeleted = some (.bool false) := by
  unfold Live Filter.fieldOf at h
  cases hg : Fields.get? d fieldIsDeleted with
  | none => rw [hg] at h; cases h
  | some v => rw [hg] at h; exact congrArg some h

namespace Write

variable {w : Write} {s : Storage} {name : String}

/-- A write agrees with `soft` on collection `name` when its entity, if it writes there,
soft-deletes exactly when `soft` says. -/
def Agrees (name : String) (soft : Bool) (w : Write) : Prop :=
  w.entity.collectionName = name → w.entity.softDeletable = soft

theorem mem_inserts {doc : Fields} (h : doc ∈ (w.call s).inserts name) :
    w.entity.collectionName = name ∧ ∃ doc', doc = fresh w.entity doc' := by
  cases w with
  | create e doc₀ =>
    simp only [call, StoreCall.inserts] at h
    split at h
    · exact ⟨‹_›, doc₀, List.mem_singleton.1 h⟩
    · cases h
  | createMany e docs =>
    simp only [call, StoreCall.inserts] at h
    split at h
    · obtain ⟨doc₀, -, rfl⟩ := List.mem_map.1 h
      exact ⟨‹_›, doc₀, rfl⟩
    · cases h
  | deleteOne e f | deleteMany e f =>
    simp only [call] at h
    split at h <;> simp [StoreCall.inserts] at h
  | findOneAndUpdate | findOneAndReplace | updateMany => simp [call, StoreCall.inserts] at h

/-- The next version a write makes of a document it revises, by the clock `now`: a change
merged through `writable`, a replacement by a fresh document, or for an entity that soft-deletes,
the tombstone of the clock. -/
inductive Revises (e : Entity) (now : Time) : (Fields → Fields) → Prop
  | change (change : Fields) : Revises e now fun d => mergeChange now d (writable change)
  | replace (doc : Fields) : Revises e now (replacement now (fresh e doc))
  | tombstone : e.softDeletable = true →
      Revises e now fun d => mergeChange now d (tombstoneAt now)

theorem revision_cases {f : Filter} {next : Fields → Fields}
    (h : (w.call s).revision s.host.now = some (name, f, next)) :
    w.entity.collectionName = name ∧ (∃ g, f = scope w.entity g) ∧
      Revises w.entity s.host.now next := by
  cases w with
  | create | createMany => simp [call, StoreCall.revision] at h
  | findOneAndUpdate e g change =>
    obtain ⟨rfl, rfl, rfl⟩ := by simpa [call, StoreCall.revision] using h
    exact ⟨rfl, ⟨g, rfl⟩, .change change⟩
  | findOneAndReplace e g doc =>
    obtain ⟨rfl, rfl, rfl⟩ := by simpa [call, StoreCall.revision] using h
    exact ⟨rfl, ⟨g, rfl⟩, .replace doc⟩
  | updateMany e g change =>
    obtain ⟨rfl, rfl, rfl⟩ := by simpa [call, StoreCall.revision] using h
    exact ⟨rfl, ⟨g, rfl⟩, .change change⟩
  | deleteOne e g | deleteMany e g =>
    simp only [call] at h
    split at h
    · rename_i hs
      obtain ⟨rfl, rfl, rfl⟩ := by simpa [StoreCall.revision] using h
      exact ⟨rfl, ⟨g, rfl⟩, .tombstone hs⟩
    · simp [StoreCall.revision] at h

end Write

/-! What one write leaves in a collection, and what every run keeps. -/

/-- What one write does to a document of collection `name`, when the entities writing there
soft-delete exactly when `soft` says: the document is one the collection held; or one the write
inserted, under an identifier drawn after every earlier one, with the managed fields of a new
document at the clock; or the next version of a stored document, live where the collection
soft-deletes, with its managed fields kept but the update time, which is the clock; or a live
document marked deleted at the clock. -/
inductive Stamped (soft : Bool) (s : Storage) (name : String) : String → Fields → Prop
  | kept {i : String} {d : Fields} : (i, d) ∈ s.stored name → Stamped soft s name i d
  | inserted {d : Fields} (k : Nat) : s.host.drawn < k →
      d.stamps = (Stamps.fresh soft (uuidOf k) s.host.now).map s.keepValue →
      Stamped soft s name (uuidOf k) d
  | revised {i : String} {d₀ d : Fields} : (i, d₀) ∈ s.stored name →
      (soft = true → d₀.stamps.isDeleted = some (.bool false)) →
      d.stamps = { d₀.stamps with updatedAt := some (s.keepValue (.time s.host.now)) } →
      Stamped soft s name i d
  | deleted {i : String} {d₀ d : Fields} : soft = true → (i, d₀) ∈ s.stored name →
      d₀.stamps.isDeleted = some (.bool false) →
      d.stamps = { d₀.stamps with
        updatedAt := some (s.keepValue (.time s.host.now))
        isDeleted := some (.bool true)
        deletedAt := some (s.keepValue (.time s.host.now)) } →
      Stamped soft s name i d

/-- The store calls of a run in which the entities writing into collection `name` soft-delete
exactly when `soft` says: the writes of persistence, and calls that neither insert nor revise
documents of the collection (preparations, reads, writes elsewhere). -/
def Made (name : String) (soft : Bool) (c : StoreCall) (s : Storage) : Prop :=
  (∃ w : Write, w.Agrees name soft ∧ c = w.call s) ∨
    (c.inserts name = [] ∧ ∀ now f next, c.revision now ≠ some (name, f, next))

variable {soft : Bool} {s : Storage} {name : String}

theorem stamps_keep_replacement {i : String} {d₀ : Fields} (e : Entity)
    (he : e.softDeletable = soft)
    (hv : Stamps.Written soft s.keepValue i d₀.stamps)
    (hlive : soft = true → d₀.stamps.isDeleted = some (.bool false)) (doc : Fields)
    (now : Time) :
    (s.keep (replacement now (fresh e doc) d₀)).stamps =
      { d₀.stamps with updatedAt := some (s.keepValue (.time now)) } := by
  obtain ⟨t, ht⟩ := hv.createdAt
  obtain ⟨hdel, hdat⟩ := hv.softPair.eq_blank hlive
  rw [s.stamps_keep, stamps_replacement, stamps_fresh, he, docId_of_stamps hv.id]
  ext1
  · simp [Stamps.map, hv.id]
  · simp [Stamps.map, ht]
  · rfl
  · rw [hdel]
    cases soft <;> simp [Stamps.map, Stamps.blank]
  · rw [hdat]
    cases soft <;> simp [Stamps.map, Stamps.blank]
  · simp [Stamps.map, Stamps.blank, hv.internalId]
  · simp [Stamps.map, Stamps.blank, hv.internalVersion]

theorem stamped_insert {w : Write} (hagree : w.Agrees name soft)
    {doc d : Fields} (hdoc : doc ∈ (w.call s).inserts name) (hp : Prepared s.host s.keep doc d) :
    Stamped soft s name (docId d) d := by
  obtain ⟨hname, doc', rfl⟩ := Write.mem_inserts hdoc
  obtain ⟨h', ⟨hnow, hdrawn⟩, rfl⟩ := hp
  have hst : (s.keep (MemoryStore.prepare h' (fresh w.entity doc')).1).stamps =
      (Stamps.fresh soft (uuidOf (h'.drawn + 1)) s.host.now).map s.keepValue := by
    rw [s.stamps_keep, stamps_prepare_fresh, hagree hname, hnow]
  have hid : docId (s.keep (MemoryStore.prepare h' (fresh w.entity doc')).1) =
      uuidOf (h'.drawn + 1) := docId_of_stamps (by rw [hst]; simp [Stamps.map, Stamps.fresh])
  rw [hid]
  exact .inserted _ (Nat.lt_succ_of_le hdrawn) hst

theorem stamped_revise {w : Write} (hagree : w.Agrees name soft)
    {f : Filter} {next : Fields → Fields} {i : String} {d₀ : Fields}
    (hr : (w.call s).revision s.host.now = some (name, f, next))
    (h₀ : (i, d₀) ∈ s.stored name) (hsel : f.selects d₀ = true)
    (hv : Stamps.Written soft s.keepValue i d₀.stamps) (hq : s.SqlInv) :
    Stamped soft s name i (s.keep (next d₀)) := by
  obtain ⟨hname, ⟨g, rfl⟩, hrev⟩ := Write.revision_cases hr
  have hsoft := hagree hname
  -- the live filter of a soft-deletable entity selects live documents only
  have hlive : soft = true → d₀.stamps.isDeleted = some (.bool false) := fun h =>
    get?_isDeleted_of_live (live_of_selects_scope (hsoft.trans h) hsel)
  have hfix : d₀.stamps.map s.keepValue = d₀.stamps := by
    rw [← s.stamps_keep, Storage.keep_of_mem_stored hq h₀]
  cases hrev with
  | change change =>
    refine .revised h₀ hlive ?_
    rw [s.stamps_keep, stamps_mergeChange_writable, Stamps.map_updatedAt, hfix]
  | replace doc => exact .revised h₀ hlive (stamps_keep_replacement _ hsoft hv hlive doc _)
  | tombstone hs =>
    have hs' : soft = true := hsoft.symm.trans hs
    refine .deleted hs' h₀ (hlive hs') ?_
    rw [s.stamps_keep, stamps_mergeChange_tombstoneAt, Stamps.map_deleted, hfix,
      Storage.keepValue_bool]

/-- One step: a call of a run leaves in the collection documents that are stamped by it. -/
theorem stamped_after {c : StoreCall} (hc : Made name soft c s) (hm : s.MemDocsWf) (hq : s.SqlInv)
    (hv : ∀ i d, (i, d) ∈ s.stored name → Stamps.Written soft s.keepValue i d.stamps)
    {i : String}
    {d : Fields} (hd : (i, d) ∈ (c.after s).stored name) : Stamped soft s name i d := by
  rcases c.mem_stored_after_cases hm hq hd with hold | hw
  · exact .kept hold
  rcases hc with ⟨w, hagree, rfl⟩ | ⟨hins, hrev⟩
  · cases hw with
    | insert hdoc hp => exact stamped_insert hagree hdoc hp
    | revise hr h₀ hsel hd' =>
      subst hd'
      exact stamped_revise hagree hr h₀ hsel (hv _ _ h₀) hq
  · cases hw with
    | insert hdoc => simp [hins] at hdoc
    | revise hr => exact absurd hr (hrev _ _ _)

theorem Stamped.written
    (hv : ∀ i d, (i, d) ∈ s.stored name → Stamps.Written soft s.keepValue i d.stamps)
    {i : String} {d : Fields} (h : Stamped soft s name i d) :
    Stamps.Written soft s.keepValue i d.stamps := by
  cases h with
  | kept hd => exact hv _ _ hd
  | inserted k _ hst =>
    rw [hst]
    refine ⟨⟨k, rfl⟩, by simp [Stamps.map, Stamps.fresh], ⟨s.host.now, rfl⟩,
      ⟨s.host.now, rfl⟩, ?_, rfl, rfl⟩
    cases soft
    · exact .absent
    · simpa [Stamps.map, Stamps.fresh, Stamps.blank] using Stamps.SoftPair.live
  | revised h₀ _ hst =>
    have v := hv _ _ h₀
    rw [hst]
    exact ⟨v.drawn, v.id, v.createdAt, ⟨s.host.now, rfl⟩, v.softPair, v.internalId,
      v.internalVersion⟩
  | deleted hs h₀ _ hst =>
    subst hs
    have v := hv _ _ h₀
    rw [hst]
    exact ⟨v.drawn, v.id, v.createdAt, ⟨s.host.now, rfl⟩, .deleted s.host.now, v.internalId,
      v.internalVersion⟩

/-- The run: along every run from a new store, every document of the collection has the managed
fields the engine writes. -/
theorem written_of_reaches {h : Host} {bk : Backend} (hbk : bk = .memory {} ∨ bk = .sqlite {})
    {t : Storage} (hr : StoreCall.Reaches (Made name soft) { host := h, backend := bk } t) :
    ∀ i d, (i, d) ∈ t.stored name → Stamps.Written soft t.keepValue i d.stamps := by
  induction hr with
  | refl =>
    intro i d hd
    rcases hbk with rfl | rfl <;> cases hd
  | call c hr' hc ih =>
    obtain ⟨hm, hq⟩ := Storage.docsWf_of_reaches hbk hr'
    intro i d hd
    rw [StoreCall.keepValue_after]
    exact (stamped_after hc hm hq ih hd).written ih
  | env h' w r _ ih => exact ih

end Persist

/-- Managed fields belong to the engine. Along every run from a new memory or SQLite store, made
of persistence writes in which the entities writing into collection `name` soft-delete exactly
when `soft` says, every document of the collection holds a drawn identifier as `id`, instants as
`createdAt` and `updatedAt`, no internal field, and the soft-delete pair of the collection: live
or deleted at an instant where it soft-deletes, absent otherwise. And the next such write, whatever
its payload, leaves documents that were there, or new ones under an identifier it drew with the
clock as both times, or the next versions of live documents with every managed field kept but
the update time, which is the clock, or live documents marked deleted at the clock. -/
theorem engine_owns_managed_fields {soft : Bool} {name : String} {h : Host} {bk : Backend}
    (hbk : bk = .memory {} ∨ bk = .sqlite {}) {s : Storage}
    (hr : StoreCall.Reaches (Persist.Made name soft) { host := h, backend := bk } s) :
    (∀ i d, (i, d) ∈ s.stored name → Stamps.Written soft s.keepValue i d.stamps) ∧
      ∀ w : Persist.Write, w.Agrees name soft →
        ∀ i d, (i, d) ∈ (w.run.run s).2.stored name → Persist.Stamped soft s name i d := by
  have hv := Persist.written_of_reaches hbk hr
  obtain ⟨hm, hq⟩ := Storage.docsWf_of_reaches hbk hr
  refine ⟨hv, fun w hagree i d hd => ?_⟩
  rw [w.run_state] at hd
  exact Persist.stamped_after (Or.inl ⟨w, hagree, rfl⟩) hm hq hv hd

/-- A note created in a new memory store, by an entity that soft-deletes: the store it leaves
holds notes with the managed fields the engine writes. -/
theorem created_note_owns_managed_fields :
    let note : Entity := { name := "Note", collection := "notes", softDeletable := true }
    let s₀ : Storage := { host := { now := ⟨0, 0, 0⟩ }, backend := .memory {} }
    let s := ((Persist.Write.create note [("t", .str "a")]).call s₀).after s₀
    (∀ i d, (i, d) ∈ s.stored "notes" → Stamps.Written true s.keepValue i d.stamps) ∧
      ∀ w : Persist.Write, w.Agrees "notes" true →
        ∀ i d, (i, d) ∈ (w.run.run s).2.stored "notes" → Persist.Stamped true s "notes" i d :=
  engine_owns_managed_fields (Or.inl rfl) (.call _ .refl (Or.inl ⟨_, fun _ => rfl, rfl⟩))

/-- Two entities sharing a collection need not agree on soft deletion: a note created live by
an entity that soft-deletes, then replaced through the route of one that does not, loses its
soft-delete pair. -/
theorem replacement_by_other_entity_drops_soft_pair :
    let note : Entity := { name := "Note", collection := "notes", softDeletable := true }
    let memo : Route := { (default : Route) with
      entity := { name := "Memo", collection := "notes" }, kind := .replaceOne,
      shapes := { body := some { fields := [{ name := "t", kind := "string" }] } } }
    let s₀ : Storage := { host := { now := ⟨0, 0, 0⟩ }, backend := .memory {} }
    let s₁ := ((Persist.create note [("t", .str "a")]).run s₀).2
    let i := "00000000-0000-4000-8000-000000000001"
    s₁.stored "notes" = [(i, [("createdAt", .time ⟨0, 0, 0⟩), ("deletedAt", .null),
        ("id", .str i), ("isDeleted", .bool false), ("t", .str "a"),
        ("updatedAt", .time ⟨0, 0, 0⟩)])] ∧
      ((memo.handle none { id := i, body := [("t", .str "b")] }).run s₁).2.stored "notes" =
        [(i, [("createdAt", .time ⟨0, 0, 0⟩), ("id", .str i), ("t", .str "b"),
          ("updatedAt", .time ⟨0, 0, 0⟩)])] :=
  ⟨by rfl, by rfl⟩

end CrudRoutes
