import Mathlib
import CrudRoutes.Proofs.Gate
import CrudRoutes.Proofs.ManagedFields
import CrudRoutes.Proofs.RouteWrites

/-!
Creating documents in batches. A store inserts a batch whole or not at all: the documents are
prepared in turn, each drawing the next identifier and taking the clock as both time stamps,
and the collection ends with all of them appended in order and answered in that order, or, at
the first refusal, with nothing of the batch (`Storage.BatchAnswer`). Only the identifiers drawn
before the refusal stay drawn.

A batch creation of an entity (the persistence call, the service's create and duplicate of
several documents, and a route that creates several) runs its before-create hooks before the
store and its after-save hook on the inserted documents after it (`BatchRun`). A failure before
the insertion leaves every collection as it was; a failure of the after-save hook is the answer
of the call, while the batch stays inserted (`batch_creation_outcome`).
-/

namespace CrudRoutes

namespace MemoryStore

def prepareAll (h : Host) : List Fields → List Fields × Host
  | [] => ([], h)
  | doc :: rest =>
    let r := prepareAll (prepare h doc).2 rest
    ((prepare h doc).1 :: r.1, r.2)

@[simp] theorem prepareAll_nil (h : Host) : prepareAll h [] = ([], h) := rfl

@[simp] theorem prepareAll_cons (h : Host) (doc : Fields) (rest : List Fields) :
    prepareAll h (doc :: rest) =
      ((prepare h doc).1 :: (prepareAll (prepare h doc).2 rest).1,
        (prepareAll (prepare h doc).2 rest).2) := rfl

@[simp] theorem length_prepareAll (h : Host) (docs : List Fields) :
    (prepareAll h docs).1.length = docs.length := by
  induction docs generalizing h with
  | nil => rfl
  | cons doc rest ih => simp [ih]

theorem advances_prepareAll (h : Host) (docs : List Fields) : h.Advances (prepareAll h docs).2 := by
  induction docs generalizing h with
  | nil => exact Host.Advances.refl h
  | cons doc rest ih => exact (advances_prepare h doc).trans (ih _)

theorem foldl_batchStep_cases (docs : List Fields) :
    ∀ (c : MemCollection) (done : List Fields) (h : Host),
      (∃ e c' h', docs.foldl batchStep (.ok (c, done), h) = (.error (e, c'), h') ∧
          h.Advances h') ∨
        ∃ c', docs.foldl batchStep (.ok (c, done), h) =
            (.ok (c', done ++ (prepareAll h docs).1), (prepareAll h docs).2) ∧
          c'.spec = c.spec ∧ c'.docs = c.docs ++ (prepareAll h docs).1.map fun d => (docId d, d) := by
  induction docs with
  | nil => exact fun c done h => .inr ⟨c, by simp, rfl, by simp⟩
  | cons doc rest ih =>
    intro c done h
    rw [List.foldl_cons]
    cases hins : c.insert (prepare h doc).1 with
    | error e =>
      have hstep : batchStep (.ok (c, done), h) doc =
          (.error (e, done.foldl (fun c d => c.remove (docId d)) c), (prepare h doc).2) := by
        simp [batchStep, hins]
      rw [hstep, foldl_batchStep_error]
      exact .inl ⟨e, _, _, rfl, advances_prepare h doc⟩
    | ok c₁ =>
      have hstep : batchStep (.ok (c, done), h) doc =
          (.ok (c₁, done ++ [(prepare h doc).1]), (prepare h doc).2) := by
        simp [batchStep, hins]
      obtain ⟨-, -, rfl⟩ := MemCollection.insert_eq_ok hins
      rw [hstep]
      rcases ih _ _ _ with ⟨e, c', h', he, hh⟩ | ⟨c', hfold, hspec, hdocs⟩
      · exact .inl ⟨e, c', h', he, (advances_prepare h doc).trans hh⟩
      · exact .inr ⟨c', by simp [hfold], hspec, by simp [hdocs]⟩

theorem createMany_cases {m : MemoryStore} {name : String} (hsound : (m.get name).Sound) (h : Host)
    (docs : List Fields) :
    (∃ e h', m.createMany h name docs = (.error e, m.put (m.get name), h') ∧ h.Advances h') ∨
      ∃ c', m.createMany h name docs = (.ok (prepareAll h docs).1, m.put c', (prepareAll h docs).2) ∧
        c'.spec = (m.get name).spec ∧
        c'.docs = (m.get name).docs ++ (prepareAll h docs).1.map fun d => (docId d, d) := by
  rw [createMany_eq]
  have hroll := foldl_batchStep_rollback hsound docs h
  rcases foldl_batchStep_cases docs (m.get name) [] h with ⟨e, c', h', he, hh⟩ | ⟨c', hf, hs, hd⟩
  · rw [he] at hroll ⊢
    have hc' : c' = m.get name := hroll
    subst hc'
    exact .inl ⟨e, h', rfl, hh⟩
  · exact .inr ⟨c', by rw [hf]; rfl, hs, hd⟩

theorem prepare_host {doc : Fields} (hid : Fields.get? doc fieldId = none) (h : Host) :
    (prepare h doc).2 = { h with drawn := h.drawn + 1 } := by
  have hd : docId (withoutFields doc [fieldCreatedAt, fieldUpdatedAt]) = "" := by
    rw [docId_withoutFields doc (by decide)]
    simp [docId, hid]
  simp [prepare, hd, Host.draw]

end MemoryStore

namespace SqliteStore

open MemoryStore

theorem insert_ok_docsOf {q q' : SqliteStore} {h : Host} {spec : CollectionSpec} {doc d : Fields}
    (hi : (q.insert h spec doc).1 = .ok (d, q')) :
    d = storedDoc (prepare h doc).1 ∧ q'.specs = q.specs ∧ q'.closed = q.closed ∧
      ∀ n, q'.docsOf n = q.docsOf n ++ if spec.name = n then [(docId d, d)] else [] := by
  obtain ⟨rfl, -, q₁, hw, rfl⟩ := insert_eq_ok hi
  obtain ⟨hrows, hspecs, hclosed⟩ := writeKeys_frame hw
  exact ⟨rfl, hspecs, hclosed, fun n => by rw [docsOf_append, docsOf_of_rows hrows]⟩

theorem foldl_insertStep_cases (spec : CollectionSpec) (docs : List Fields) :
    ∀ (q : SqliteStore) (done : List Fields) (h : Host),
      (∃ e h', docs.foldl (insertStep spec) (.ok (q, done), h) = (.error e, h') ∧ h.Advances h') ∨
        ∃ q', docs.foldl (insertStep spec) (.ok (q, done), h) =
            (.ok (q', done ++ (prepareAll h docs).1.map storedDoc), (prepareAll h docs).2) ∧
          q'.specs = q.specs ∧ q'.closed = q.closed ∧
          ∀ n, q'.docsOf n = q.docsOf n ++ if spec.name = n then
            ((prepareAll h docs).1.map storedDoc).map (fun d => (docId d, d)) else [] := by
  induction docs with
  | nil => exact fun q done h => .inr ⟨q, by simp, rfl, rfl, fun n => by simp⟩
  | cons doc rest ih =>
    intro q done h
    rw [List.foldl_cons]
    have hhost := insert_host q h spec doc
    cases hins : q.insert h spec doc with
    | mk r h₁ =>
      rw [hins] at hhost
      subst hhost
      cases r with
      | error e =>
        rw [show insertStep spec (.ok (q, done), h) doc = (.error e, (prepare h doc).2) by
          simp [insertStep, hins], foldl_insertStep_error]
        exact .inl ⟨e, _, rfl, advances_prepare h doc⟩
      | ok p =>
        obtain ⟨d, q₁⟩ := p
        obtain ⟨rfl, hspecs, hclosed, hdocs⟩ := insert_ok_docsOf (congrArg Prod.fst hins)
        rw [show insertStep spec (.ok (q, done), h) doc =
            (.ok (q₁, done ++ [storedDoc (prepare h doc).1]), (prepare h doc).2) by
          simp [insertStep, hins]]
        rcases ih q₁ _ _ with ⟨e, h', he, hh⟩ | ⟨q', hfold, hspecs', hclosed', hdocs'⟩
        · exact .inl ⟨e, h', he, (advances_prepare h doc).trans hh⟩
        · refine .inr ⟨q', by simp [hfold], hspecs'.trans hspecs, hclosed'.trans hclosed, fun n => ?_⟩
          rw [hdocs', hdocs]
          by_cases hn : spec.name = n <;> simp [hn]

theorem createMany_cases (q : SqliteStore) (h : Host) (name : String) (docs : List Fields) :
    (∃ e h', q.createMany h name docs = (.error e, q, h') ∧ h.Advances h') ∨
      ∃ q', q.createMany h name docs =
          (.ok ((prepareAll h docs).1.map storedDoc), q', (prepareAll h docs).2) ∧
        q'.specs = q.specs ∧ q'.closed = q.closed ∧
        ∀ n, q'.docsOf n = q.docsOf n ++ if name = n then
          ((prepareAll h docs).1.map storedDoc).map (fun d => (docId d, d)) else [] := by
  rw [createMany_eq]
  by_cases hc : q.closed = true
  · exact .inl ⟨closedFault, h, by simp [hc], Host.Advances.refl h⟩
  · simp only [hc, Bool.false_eq_true, if_false]
    rcases foldl_insertStep_cases (q.spec name) docs q [] h with
      ⟨e, h', he, hh⟩ | ⟨q', hf, hs, hcl, hd⟩
    · exact .inl ⟨e, h', by rw [he], hh⟩
    · refine .inr ⟨q', by rw [hf]; rfl, hs, by simpa [hcl] using hc, fun n => ?_⟩
      rw [hd, spec_name]

end SqliteStore

/-- Two backends hold the same collections: the memory store gives the same collection under
every name, the tables are the same. -/
inductive Backend.Same : Backend → Backend → Prop
  | memory {m m' : MemoryStore} : (∀ n, m'.get n = m.get n) → Backend.Same (.memory m) (.memory m')
  | sqlite (q : SqliteStore) : Backend.Same (.sqlite q) (.sqlite q)

theorem Backend.Same.refl : ∀ b : Backend, Backend.Same b b
  | .memory _ => .memory fun _ => rfl
  | .sqlite q => .sqlite q

namespace Storage

open MemoryStore

/-- `s'` holds every collection of `s` as it was, its documents, key index and key patterns, under
the same switches and clock; it may have drawn more identifiers. -/
structure Untouched (s s' : Storage) : Prop where
  backend : Backend.Same s.backend s'.backend
  failWrites : s'.failWrites = s.failWrites
  failReads : s'.failReads = s.failReads
  host : s.host.Advances s'.host

theorem Untouched.refl (s : Storage) : s.Untouched s :=
  ⟨Backend.Same.refl _, rfl, rfl, Host.Advances.refl _⟩

/-- `s'` is `s` with the documents `ds` appended in order to collection `name`; every other
collection and every key pattern reads as before, under the same switches. -/
structure Appended (s s' : Storage) (name : String) (ds : List Fields) : Prop where
  stored : s'.stored name = s.stored name ++ ds.map fun d => (docId d, d)
  others : ∀ n, n ≠ name → s'.stored n = s.stored n
  patterns : ∀ n, s'.patterns n = s.patterns n
  failWrites : s'.failWrites = s.failWrites
  failReads : s'.failReads = s.failReads

def batch (s : Storage) (docs : List Fields) : List Fields :=
  (prepareAll s.host docs).1.map s.keep

/-- What inserting the batch `docs` into collection `name` from `s` may answer and leave: a
refusal with every collection as it was, or the whole batch, answered and appended, with one
preparation per document on the host. -/
inductive BatchAnswer (s : Storage) (name : String) (docs : List Fields) :
    Except Fault (List Fields) × Storage → Prop
  | refused {f : Fault} {s' : Storage} : s.Untouched s' → BatchAnswer s name docs (.error f, s')
  | inserted {s' : Storage} : s.Appended s' name (s.batch docs) →
      s'.host = (prepareAll s.host docs).2 → BatchAnswer s name docs (.ok (s.batch docs), s')

section Backends

variable {s : Storage} {name : String} {docs : List Fields}

theorem keep_of_memory {m : MemoryStore} (hb : s.backend = .memory m) : s.keep = id := by
  funext d
  simp [Storage.keep, hb]

theorem keep_of_sqlite {q : SqliteStore} (hb : s.backend = .sqlite q) : s.keep = storedDoc := by
  funext d
  simp [Storage.keep, hb]

theorem batchAnswer_memory {m : MemoryStore} (hb : s.backend = .memory m) (hs : s.MemSound) :
    BatchAnswer s name docs
      ((m.createMany s.host name docs).1,
        { s with backend := .memory (m.createMany s.host name docs).2.1,
                 host := (m.createMany s.host name docs).2.2 }) := by
  have hkeep : s.batch docs = (prepareAll s.host docs).1 := by
    rw [batch, keep_of_memory hb, List.map_id]
  rcases MemoryStore.createMany_cases ((hs m hb).get_of_closed MemCollection.writeClosed_sound name) s.host docs
    with ⟨e, h', he, hh⟩ | ⟨c', he, hs, hd⟩
  · rw [he]
    exact .refused ⟨by rw [hb]; exact .memory fun n => get_put_get name, rfl, rfl, hh⟩
  · rw [he, ← hkeep]
    have hname : c'.spec.name = name := by rw [hs, get_spec_name]
    refine .inserted ⟨?_, fun n hn => ?_, fun n => ?_, rfl, rfl⟩ rfl
    · simp [stored, hb, get_put_of_name hname, hd, hkeep]
    · simp [stored, hb, get_put_of_name hname, Ne.symm hn]
    · unfold patterns
      simp only [hb, get_put_of_name hname]
      split
      · rename_i h
        rw [hs, h]
      · rfl

theorem batchAnswer_sqlite {q : SqliteStore} (hb : s.backend = .sqlite q) :
    BatchAnswer s name docs
      ((q.createMany s.host name docs).1,
        { s with backend := .sqlite (q.createMany s.host name docs).2.1,
                 host := (q.createMany s.host name docs).2.2 }) := by
  have hkeep : s.batch docs = (prepareAll s.host docs).1.map storedDoc := by
    rw [batch, keep_of_sqlite hb]
  rcases SqliteStore.createMany_cases q s.host name docs with
    ⟨e, h', he, hh⟩ | ⟨q', he, hs, -, hd⟩
  · rw [he]
    exact .refused ⟨by rw [hb]; exact .sqlite q, rfl, rfl, hh⟩
  · rw [he, ← hkeep]
    refine .inserted ⟨?_, fun n hn => ?_, fun n => ?_, rfl, rfl⟩ rfl
    · simp [stored, hb, hd, hkeep]
    · simp [stored, hb, hd, Ne.symm hn]
    · simp [patterns, hb, SqliteStore.spec_congr hs]

end Backends

theorem createMany_answer (name : String) (docs : List Fields) {s : Storage} (hs : s.MemSound) :
    BatchAnswer s name docs ((createMany name docs).run s) := by
  rw [createMany_run]
  obtain ⟨h, b, fw, fr⟩ := s
  cases fw with
  | some msg => exact .refused (Untouched.refl _)
  | none =>
    cases b with
    | memory m => exact batchAnswer_memory rfl hs
    | sqlite q => exact batchAnswer_sqlite rfl

end Storage

namespace Persist

open MemoryStore

theorem get?_fresh_id (e : Entity) (doc : Fields) : Fields.get? (fresh e doc) fieldId = none :=
  congrArg Stamps.id (stamps_fresh e doc)

theorem prepareAll_fresh_host (e : Entity) (h : Host) (docs : List Fields) :
    (prepareAll h (docs.map (fresh e))).2 = { h with drawn := h.drawn + docs.length } := by
  induction docs generalizing h with
  | nil => rfl
  | cons doc rest ih =>
    rw [List.map_cons, prepareAll_cons, prepare_host (get?_fresh_id e doc), ih]
    simp only [List.length_cons]
    congr 1
    omega

theorem stamps_prepareAll_fresh (e : Entity) (h : Host) (docs : List Fields) :
    (prepareAll h (docs.map (fresh e))).1.map Fields.stamps =
      (List.range docs.length).map fun i =>
        Stamps.fresh e.softDeletable (uuidOf (h.drawn + i + 1)) h.now := by
  induction docs generalizing h with
  | nil => rfl
  | cons doc rest ih =>
    rw [List.map_cons, prepareAll_cons, List.map_cons, stamps_prepare_fresh, ih,
      prepare_host (get?_fresh_id e doc), List.length_cons, List.range_succ_eq_map,
      List.map_cons, List.map_map]
    congr 2
    funext i
    simp only [Function.comp_apply, Nat.succ_eq_add_one]
    congr 2
    omega

open StoreM in
theorem createMany_answer (e : Entity) (docs : List Fields) {s : Storage} (hs : s.MemSound) :
    Storage.BatchAnswer s e.collectionName (docs.map (fresh e)) ((createMany e docs).run s) := by
  rw [createMany, run_normalized]
  have h := Storage.createMany_answer e.collectionName (docs.map (fresh e)) hs
  generalize (Storage.createMany e.collectionName (docs.map (fresh e))).run s = out at h ⊢
  cases h with
  | refused hu => exact .refused hu
  | inserted ha hh => exact .inserted ha hh

end Persist

namespace Storage

open MemoryStore

theorem stamps_batch_fresh (s : Storage) (e : Entity) (docs : List Fields) :
    (s.batch (docs.map (Persist.fresh e))).map Fields.stamps =
      (List.range docs.length).map fun i =>
        (Stamps.fresh e.softDeletable (uuidOf (s.host.drawn + i + 1)) s.host.now).map s.keepValue := by
  calc (s.batch (docs.map (Persist.fresh e))).map Fields.stamps
      = ((prepareAll s.host (docs.map (Persist.fresh e))).1.map Fields.stamps).map
          (Stamps.map s.keepValue) := by
        simp only [batch, List.map_map, Function.comp_def, s.stamps_keep]
    _ = _ := by
        rw [Persist.stamps_prepareAll_fresh, List.map_map]
        rfl

end Storage

open MemoryStore StoreM

/-- A run of a batch creation of entity `e` from `s` that answers `out`. Either it failed and left
every collection as it was, or the store took the new documents made of a batch `ds` that
`Admitted` allows, appended in order to the entity's collection, with the next identifiers and
the clock as time stamps; the rest of the run is then the after-save step `after` on the
inserted documents, and the answer is what `present` makes of them. -/
inductive BatchRun {α : Type} (s : Storage) (e : Entity) (Admitted : List Fields → Prop)
    (after : List Fields → StoreM Unit) (present : List Fields → α) :
    Except Fault α × Storage → Prop
  | failed {f : Fault} {s' : Storage} : s.Untouched s' →
      BatchRun s e Admitted after present (.error f, s')
  | inserted {ds : List Fields} {s₁ : Storage} : Admitted ds →
      s.Appended s₁ e.collectionName (s.batch (ds.map (Persist.fresh e))) →
      (s.batch (ds.map (Persist.fresh e))).map Fields.stamps = (List.range ds.length).map
        (fun i => (Stamps.fresh e.softDeletable (uuidOf (s.host.drawn + i + 1)) s.host.now).map
          s.keepValue) →
      s₁.host = { s.host with drawn := s.host.drawn + ds.length } →
      BatchRun s e Admitted after present
        ((after (s.batch (ds.map (Persist.fresh e))) >>= fun _ =>
          pure (present (s.batch (ds.map (Persist.fresh e))))).run s₁)

namespace BatchRun

variable {α β : Type} {s : Storage} {e : Entity} {A A' : List Fields → Prop}
  {after : List Fields → StoreM Unit} {present : List Fields → α}

theorem mono (h : ∀ ds, A ds → A' ds) {out : Except Fault α × Storage}
    (hr : BatchRun s e A after present out) : BatchRun s e A' after present out := by
  cases hr with
  | failed hu => exact .failed hu
  | inserted ha happ hst hh => exact .inserted (h _ ha) happ hst hh

theorem of_createMany (hs : s.MemSound) (docs : List Fields) (after : List Fields → StoreM Unit)
    (present : List Fields → α) :
    BatchRun s e (· = docs) after present
      ((Persist.createMany e docs >>= fun c => after c >>= fun _ => pure (present c)).run s) := by
  rw [run_bind]
  have h := Persist.createMany_answer e docs hs
  generalize (Persist.createMany e docs).run s = out at h ⊢
  cases h with
  | refused hu => exact .failed hu
  | inserted ha hh =>
    rw [Persist.prepareAll_fresh_host] at hh
    exact .inserted rfl ha (s.stamps_batch_fresh e docs) hh

theorem of_keeps_bind {γ : Type} {x : StoreM γ} {f : γ → StoreM α} (hx : Keeps (· = s) x)
    (hf : ∀ a, (x.run s).1 = .ok a → BatchRun s e A after present ((f a).run s)) :
    BatchRun s e A after present ((x >>= f).run s) := by
  have hs := hx s rfl
  rw [run_bind]
  cases hr : x.run s with
  | mk r s' =>
    rw [hr] at hs
    cases r with
    | ok a =>
      have hs' : s' = s := hs
      subst hs'
      exact hf a (by rw [hr])
    | error f => exact .failed (by rw [show s' = s from hs]; exact Storage.Untouched.refl s)

theorem map {x : StoreM (List Fields)} (g : List Fields → β)
    (h : BatchRun s e A after id (x.run s)) :
    BatchRun s e A after (fun c => g c) ((x >>= fun c => pure (g c)).run s) := by
  rw [run_bind]
  generalize hx : x.run s = out at h
  cases h with
  | failed hu => exact .failed hu
  | inserted ha happ hst hh =>
    rw [← run_bind, bind_assoc]
    simp only [pure_bind, id]
    exact .inserted ha happ hst hh

end BatchRun

namespace Service

variable (sv : Service) (s : Storage)

theorem persist_createMany_batch (hs : s.MemSound) (e : Entity) (docs : List Fields) :
    BatchRun s e (· = docs) (fun _ => pure ()) id ((Persist.createMany e docs).run s) := by
  have h := BatchRun.of_createMany (e := e) hs docs (fun _ => pure ()) id
  simpa only [pure_bind, id, bind_pure] using h

theorem createMany_batch (hs : s.MemSound) (docs : List Fields) :
    BatchRun s sv.entity (fun ds => docs.mapM sv.beforeCreate = .ok ds) sv.afterSave id
      ((sv.createMany docs).run s) := by
  unfold createMany
  refine BatchRun.of_keeps_bind (keeps_lift _) fun ds hds => ?_
  exact (BatchRun.of_createMany hs ds sv.afterSave id).mono fun _ h => h ▸ eq_of_lift_ok hds

theorem duplicateMany_batch (hs : s.MemSound) (ids : List String) (overrides : Fields) :
    BatchRun s sv.entity
      (fun ds => ∃ found, ((Persist.find sv.entity (Filter.byIds ids)).run s).1 = .ok found ∧
        found.length = ids.length ∧ ds = found.map (copyWith · overrides))
      sv.afterSave id ((sv.duplicateMany ids overrides).run s) := by
  unfold duplicateMany
  refine BatchRun.of_keeps_bind (Persist.find_keeps_eq _ _ s) fun found hfound => ?_
  dsimp only
  split
  · rw [run_bind, run_throw]
    exact .failed (Storage.Untouched.refl s)
  · -- the length check passed
    rename_i hne
    refine (BatchRun.of_createMany hs _ sv.afterSave id).mono fun _ h => ⟨found, hfound, ?_, h⟩
    simpa using hne

end Service

namespace Route

theorem handle_createMany_batch (r : Route) (hk : r.kind = .createMany) (p : Option Principal)
    (req : Request) {s : Storage} (hs : s.MemSound) :
    BatchRun s r.entity
      (fun ds => ((r.guard p req.id).run s).1 = .ok () ∧
        ∃ list, r.toEntities req.list = .ok list ∧ list.mapM (r.service p).beforeCreate = .ok ds)
      (r.service p).afterSave r.presentMany ((r.handle p req).run s) := by
  unfold handle
  refine BatchRun.of_keeps_bind (guard_keeps_eq r p req.id s) fun _ hg => ?_
  rw [hk]
  refine BatchRun.of_keeps_bind (Service.keeps_lift _) fun list hl => ?_
  exact (BatchRun.map r.presentMany ((r.service p).createMany_batch s hs list)).mono
    fun _ h => ⟨hg, list, Service.eq_of_lift_ok hl, h⟩

end Route

/-- Every batch creation (the persistence call, the service's creation and duplication of several
documents, and a route creating several) either fails and leaves every collection as it was, or
inserts the whole batch of new documents, in order, each with the next identifier and the clock as
creation and update time, answers them in that order, and then runs the after-save hook, whose
failure becomes the answer while the batch stays inserted. -/
theorem batch_creation_outcome (e : Entity) (sv : Service) (r : Route) (p : Option Principal)
    (req : Request) (docs : List Fields) (ids : List String) (overrides : Fields) (s : Storage)
    (hs : s.MemSound) :
    BatchRun s e (· = docs) (fun _ => pure ()) id ((Persist.createMany e docs).run s) ∧
      BatchRun s sv.entity (fun ds => docs.mapM sv.beforeCreate = .ok ds) sv.afterSave id
        ((sv.createMany docs).run s) ∧
      BatchRun s sv.entity
        (fun ds => ∃ found, ((Persist.find sv.entity (Filter.byIds ids)).run s).1 = .ok found ∧
          found.length = ids.length ∧ ds = found.map (Service.copyWith · overrides))
        sv.afterSave id ((sv.duplicateMany ids overrides).run s) ∧
      (r.kind = .createMany → BatchRun s r.entity
        (fun ds => ((r.guard p req.id).run s).1 = .ok () ∧
          ∃ list, r.toEntities req.list = .ok list ∧ list.mapM (r.service p).beforeCreate = .ok ds)
        (r.service p).afterSave r.presentMany ((r.handle p req).run s)) :=
  ⟨Service.persist_createMany_batch s hs e docs, sv.createMany_batch s hs docs,
    sv.duplicateMany_batch s hs ids overrides, fun hk => r.handle_createMany_batch hk p req hs⟩

/-- The four batch creations of a note on a new memory store, the route's being a route that
creates several notes. -/
theorem note_batch_creations_outcome :
    let note : Entity := { name := "Note", collection := "notes" }
    let sv : Service := { entity := note }
    let r : Route := { (default : Route) with entity := note, kind := .createMany }
    let s : Storage := { host := { now := ⟨0, 0, 0⟩ }, backend := .memory {} }
    let docs : List Fields := [[("t", .str "a")], [("t", .str "b")]]
    s.MemSound ∧ r.kind = .createMany ∧
      BatchRun s note (· = docs) (fun _ => pure ()) id ((Persist.createMany note docs).run s) ∧
      BatchRun s note (fun ds => docs.mapM sv.beforeCreate = .ok ds) sv.afterSave id
        ((sv.createMany docs).run s) ∧
      BatchRun s note
        (fun ds => ∃ found, ((Persist.find note (Filter.byIds ["n1"])).run s).1 = .ok found ∧
          found.length = 1 ∧ ds = found.map (Service.copyWith · []))
        sv.afterSave id ((sv.duplicateMany ["n1"] []).run s) ∧
      BatchRun s note
        (fun ds => ((r.guard none "").run s).1 = .ok () ∧
          ∃ list, r.toEntities docs = .ok list ∧ list.mapM (r.service none).beforeCreate = .ok ds)
        (r.service none).afterSave r.presentMany ((r.handle none { list := docs }).run s) := by
  intro note sv r s docs
  have hs : s.MemSound := Storage.memSound_new (Or.inl rfl)
  have h := batch_creation_outcome note sv r none { list := docs } docs ["n1"] [] s hs
  exact ⟨hs, rfl, h.1, h.2.1, h.2.2.1, h.2.2.2 rfl⟩

/-- An after-save hook that fails once the batch is in: the audit collection already holds, under
a unique key, a record for the identifier the new note draws, so creating the note fails while
the note stays stored. -/
theorem failed_audit_keeps_created_batch :
    let audit : Entity := { name := "Audit", collection := "audits" }
    let note : Entity := { name := "Note", collection := "notes" }
    let sv : Service := { entity := note, hooks := { afterSave := some (.auditTrail audit) } }
    let s₀ : Storage := { host := { now := ⟨0, 0, 0⟩ }, backend := .memory {} }
    let s := (StoreCall.create "audits" [("documentId", .str (uuidOf 2))]).after
      ((StoreCall.ensureCollection { name := "audits", uniqueKeys := [["documentId"]] }).after s₀)
    s.stored "notes" = [] ∧ (((sv.createMany [[("t", .str "a")]]).run s).1 matches .error _) ∧
      (((sv.createMany [[("t", .str "a")]]).run s).2.stored "notes").length = 1 := by
  decide

end CrudRoutes
