import Mathlib
import CrudRoutes.Proofs.Store.MirrorCalls

/-!
The memory store and the SQLite store, run side by side from new stores by the same calls on
the same clock and the same sequence of identifiers. Main statement: every call is answered
alike, documents compared as their JSON text reads back and in the same order, counts equal,
and faults of one class (a lookup that matched nothing, or a duplicate key reported with the
same collection, pattern and values), as long as the clock reads UTC in a year JSON can write,
the calls write storable documents with encodable changes, prepare collections under patterns
of distinct key names, and no earlier call was a preparation or an update of every selected
document that the memory store refused. A batch of
an aggregation compares as a list of documents: the memory store answers no batch where the
collection does not exist, and an empty one where the pipeline gives none, where the tables
answer the pipeline's own result.

Each of these conditions is needed, as the closing example shows on new stores: a value that is
a list of alternatives reads back as an array, which filters see differently; a pattern listed
twice makes the key table refuse a document's own key; a refused preparation keeps the new
patterns in the memory store only; and an aggregation of a missing collection answers no batch
in one store and an empty one in the other.
-/

namespace CrudRoutes

open StoreM Storage

/-- Two answers of the store that a client reads alike: documents as their JSON text reads back,
in the same order, the same counts, and batches as lists of documents, no batch reading as an
empty one. -/
def StoreAnswer.Alike : StoreAnswer → StoreAnswer → Prop
  | .prepared, .prepared => True
  | .doc a, .doc b => storedDoc a = storedDoc b
  | .docs as, .docs bs => as.map storedDoc = bs.map storedDoc
  | .updated r, .updated r' => r = r'
  | .deleted r, .deleted r' => r = r'
  | .batch a, .batch b => (a.getD []).map storedDoc = (b.getD []).map storedDoc
  | _, _ => False

theorem Except.Alike.map {α β : Type} {R : α → α → Prop} {S : β → β → Prop} {f : α → β}
    (hf : ∀ a b, R a b → S (f a) (f b)) {x y : Except Fault α} (h : Except.Alike R x y) :
    Except.Alike S (x.map f) (y.map f) := by
  cases x with
  | ok a =>
    cases y with
    | ok b => exact hf a b h
    | error e => exact h.elim
  | error e =>
    cases y with
    | ok b => exact h.elim
    | error e' => exact h

theorem Except.alike_map_storedDoc (x : Except Fault Fields) :
    Except.Alike (fun a b => storedDoc a = storedDoc b) x (x.map storedDoc) := by
  cases x with
  | ok a => exact (storedDoc_storedDoc a).symm
  | error e => exact Fault.alike_refl e

theorem StoreM.run_map_fst {α β : Type} (f : α → β) (x : StoreM α) (s : Storage) :
    ((f <$> x).run s).1 = (x.run s).1.map f := by
  rw [run_map]
  cases x.run s with
  | mk r s' => cases r <;> rfl

theorem StoreM.run_bind_pure_fst {α β : Type} (x : StoreM α) (b : β) (s : Storage) :
    ((x >>= fun _ => pure b).run s).1 = (x.run s).1.map fun _ => b := by
  rw [run_bind]
  cases x.run s with
  | mk r s' => cases r <;> rfl

theorem StoreMirror.empty : StoreMirror {} {} where
  coll name :=
    { spec_name := rfl
      patterns := rfl
      docs := rfl
      storable := fun _ _ h => by cases h
      distinct := List.nodup_nil
      inv := MemCollection.inv_empty _ }
  inv := SqliteStore.inv_empty
  opened := rfl

namespace Storage

/-- A memory storage and an SQL storage side by side: the same host and failure switches, and
every collection held alike. -/
structure Mirrors (s t : Storage) : Prop where
  host : t.host = s.host
  failWrites : t.failWrites = s.failWrites
  failReads : t.failReads = s.failReads
  stores : ∃ m q, s.backend = .memory m ∧ t.backend = .sqlite q ∧ StoreMirror m q

namespace Mirrors

variable {s t : Storage}

theorem new (h : Host) :
    Mirrors { host := h, backend := .memory {} } { host := h, backend := .sqlite {} } :=
  ⟨rfl, rfl, rfl, {}, {}, rfl, rfl, StoreMirror.empty⟩

theorem env (hst : s.Mirrors t) (h : Host) (w r : Option String) :
    Mirrors { s with host := h, failWrites := w, failReads := r }
      { t with host := h, failWrites := w, failReads := r } :=
  ⟨rfl, rfl, rfl, hst.stores⟩

theorem backends (hst : s.Mirrors t) {m : MemoryStore} {q : SqliteStore} (hm : StoreMirror m q)
    {h₁ h₂ : Host} (hh : h₂ = h₁) :
    Mirrors { s with backend := .memory m, host := h₁ } { t with backend := .sqlite q, host := h₂ } :=
  ⟨hh, hst.failWrites, hst.failReads, m, q, rfl, rfl, hm⟩

theorem guarded {α : Type} {R : α → α → Prop} (f : α → StoreAnswer)
    (hf : ∀ a b, R a b → StoreAnswer.Alike (f a) (f b)) (hst : s.Mirrors t)
    (sw : Storage → Option String) (hsw : sw t = sw s) {x : StoreM α} {r₁ r₂ : Except Fault α}
    {s₁ t₁ : Storage}
    (hs : x.run s = match sw s with | some msg => (.error (.plain msg), s) | none => (r₁, s₁))
    (ht : x.run t = match sw t with | some msg => (.error (.plain msg), t) | none => (r₂, t₁))
    (hr : Except.Alike R r₁ r₂) {P : Prop} (hm : P → s₁.Mirrors t₁) :
    Except.Alike StoreAnswer.Alike ((x.run s).1.map f) ((x.run t).1.map f) ∧
      (P → (x.run s).2.Mirrors (x.run t).2) := by
  rw [hs, ht, hsw]
  cases sw s with
  | some msg => exact ⟨Fault.alike_refl _, fun _ => hst⟩
  | none => exact ⟨hr.map hf, hm⟩

end Mirrors

end Storage

namespace StoreCall

/-- A call whose documents both stores keep alike: the documents it writes are storable, the
changes and replacements it applies are encodable, and a preparation's patterns have distinct
key names. Filters and pipelines are free. -/
def Comparable : StoreCall → Prop
  | .ensureCollection spec => (spec.uniqueKeys.map keyName).Nodup
  | .create _ doc => Storable doc
  | .createMany _ docs => ∀ doc ∈ docs, Storable doc
  | .findOneAndUpdate _ _ change => change.Encodable
  | .findOneAndReplace _ _ doc => doc.Encodable
  | .updateOne _ _ change => change.Encodable
  | .updateMany _ _ change => change.Encodable
  | .find .. | .findOne .. | .deleteOne .. | .deleteMany .. | .aggregate .. => True

def splits (c : StoreCall) (s : Storage) : Bool :=
  match c, s.backend with
  | .ensureCollection spec, .memory m => (m.ensure spec).2.isSome
  | .updateMany name f change, .memory m => !(m.update s.host name f change 0).1.toBool
  | _, _ => false

theorem answers_alike {s t : Storage} (hst : s.Mirrors t) (hnow : s.host.now.Encodable)
    {c : StoreCall} (hc : c.Comparable) :
    Except.Alike StoreAnswer.Alike (c.run.run s).1 (c.run.run t).1 ∧
      (c.splits s = false → (c.after s).Mirrors (c.after t)) := by
  obtain ⟨m, q, hbs, hbt, hm⟩ := hst.stores
  -- both storages as the run equations take them: one host and switches, a backend each
  obtain ⟨h, b, w, rd⟩ := s
  obtain ⟨h', b', w', rd'⟩ := t
  obtain ⟨hh, hw, hrd, -⟩ := id hst
  dsimp only at hbs hbt hh hw hrd hnow
  subst b b' h' w' rd'
  have hstor : ∀ name d, (docId d, d) ∈ (m.get name).docs → Storable d :=
    fun name d hd => (hm.coll name).storable _ d hd
  cases c with
  | ensureCollection spec =>
    simp only [run, after, run_bind_pure_fst, run_bind_pure_snd, ensureCollection_run]
    rcases hm.ensure hc with ⟨hnone, q', hok, hm'⟩ | ⟨e, e', herr, hfail, hal⟩
    · simp only [hnone, hok]
      exact ⟨trivial, fun _ => hst.backends hm' rfl⟩
    · simp only [herr, hfail]
      refine ⟨hal, fun hs => ?_⟩
      simp [splits, herr] at hs
  | create name doc =>
    simp only [run, after, run_map_fst, run_map_snd]
    obtain ⟨hr, hm', hhost⟩ := hm.create hnow name hc
    exact hst.guarded StoreAnswer.doc (fun _ _ h => h) failWrites rfl (create_run name doc _)
      (create_run name doc _) hr fun _ => hst.backends hm' hhost
  | createMany name docs =>
    simp only [run, after, run_map_fst, run_map_snd]
    obtain ⟨hr, hm', hhost⟩ := hm.createMany hnow name hc
    exact hst.guarded StoreAnswer.docs (fun _ _ h => h) failWrites rfl
      (createMany_run name docs _) (createMany_run name docs _) hr
      fun _ => hst.backends hm' hhost
  | find name f =>
    simp only [run, after, run_map_fst, run_map_snd]
    have hr : Except.Alike (fun as bs => as.map storedDoc = bs.map storedDoc)
        (.ok (m.findAll name f)) (q.findAll name f) := by
      rw [hm.findAll]
      simp
    exact hst.guarded StoreAnswer.docs (fun _ _ h => h) failReads rfl (find_run name f _)
      (find_run name f _) hr fun _ => hst
  | findOne name f =>
    simp only [run, after, run_map_fst, run_map_snd]
    have hr : Except.Alike (fun a b => storedDoc a = storedDoc b) (m.findOne name f)
        (q.findOne name f) := by
      rw [hm.findOne]
      exact Except.alike_map_storedDoc _
    exact hst.guarded StoreAnswer.doc (fun _ _ h => h) failReads rfl (findOne_run name f _)
      (findOne_run name f _) hr fun _ => hst
  | findOneAndUpdate name f change =>
    simp only [run, after, run_map_fst, run_map_snd]
    obtain ⟨hr, hm'⟩ := hm.replaceFirst name f (mergeChange h.now · change)
      (mergeChange h.now · change) fun d hd =>
        ⟨storable_mergeChange (hstor name d hd) hc hnow, docId_mergeChange _ _ _,
          (storable_mergeChange (hstor name d hd).storedDoc hc hnow).encodable.writable,
          storedDoc_mergeChange_storedDoc _ _ _⟩
    exact hst.guarded StoreAnswer.doc (fun _ _ h => h) failWrites rfl
      (findOneAndUpdate_run name f change _) (findOneAndUpdate_run name f change _) hr
      fun _ => hst.backends hm' rfl
  | findOneAndReplace name f doc =>
    simp only [run, after, run_map_fst, run_map_snd]
    obtain ⟨hr, hm'⟩ := hm.replaceFirst name f (replacement h.now doc)
      (replacement h.now doc) fun d hd =>
        ⟨storable_replacement hc (hstor name d hd) hnow, docId_replacement _ _ _,
          (storable_replacement hc (hstor name d hd).storedDoc hnow).encodable.writable,
          storedDoc_replacement_storedDoc _ _ (hstor name d hd)⟩
    exact hst.guarded StoreAnswer.doc (fun _ _ h => h) failWrites rfl
      (findOneAndReplace_run name f doc _) (findOneAndReplace_run name f doc _) hr
      fun _ => hst.backends hm' rfl
  | updateOne name f change =>
    simp only [run, after, run_map_fst, run_map_snd, Storage.updateOne]
    obtain ⟨hr, hm'⟩ := hm.update hnow name f hc 1
    refine hst.guarded StoreAnswer.updated (fun _ _ h => h) failWrites rfl
      (update_run name f change 1 _) (update_run name f change 1 _) hr fun _ => ?_
    -- an update of one document keeps the stores side by side even when it is refused
    rcases hm' with hm' | ⟨hne, -⟩
    · exact hst.backends hm' rfl
    · exact absurd rfl hne
  | updateMany name f change =>
    simp only [run, after, run_map_fst, run_map_snd, Storage.updateMany]
    obtain ⟨hr, hm'⟩ := hm.update hnow name f hc 0
    refine hst.guarded StoreAnswer.updated (fun _ _ h => h) failWrites rfl
      (update_run name f change 0 _) (update_run name f change 0 _) hr fun hs => ?_
    rcases hm' with hm' | ⟨-, hfail⟩
    · exact hst.backends hm' rfl
    · simp [splits, hfail] at hs
  | deleteOne name f =>
    simp only [run, after, run_map_fst, run_map_snd, Storage.deleteOne]
    obtain ⟨hdel, hm'⟩ := hm.delete name f 1
    have hr : Except.Alike Eq (.ok (m.delete name f 1).1) (q.delete name f 1).1 := by
      rw [hdel]
      exact rfl
    exact hst.guarded StoreAnswer.deleted (fun _ _ h => h) failWrites rfl (delete_run name f 1 _)
      (delete_run name f 1 _) hr fun _ => hst.backends hm' rfl
  | deleteMany name f =>
    simp only [run, after, run_map_fst, run_map_snd, Storage.deleteMany]
    obtain ⟨hdel, hm'⟩ := hm.delete name f 0
    have hr : Except.Alike Eq (.ok (m.delete name f 0).1) (q.delete name f 0).1 := by
      rw [hdel]
      exact rfl
    exact hst.guarded StoreAnswer.deleted (fun _ _ h => h) failWrites rfl (delete_run name f 0 _)
      (delete_run name f 0 _) hr fun _ => hst.backends hm' rfl
  | aggregate name p =>
    simp only [run, after, run_map_fst, run_map_snd]
    obtain ⟨bt, hb, hdocs⟩ := hm.aggregate name p
    have hr : Except.Alike (fun a b => (a.getD []).map storedDoc = (b.getD []).map storedDoc)
        (.ok (m.aggregate name p)) (q.aggregate name p) := by
      rw [hb]
      exact hdocs
    exact hst.guarded StoreAnswer.batch (fun _ _ h => h) failReads rfl (aggregate_run name p _)
      (aggregate_run name p _) hr fun _ => hst

/-- A memory storage and an SQL storage reached from new stores on one host by the same run:
the same calls, each comparable, none splitting them, and each made while the clock reads UTC
in a year JSON can write, with the same host and failure switches set between calls. -/
inductive SameRun : Storage → Storage → Prop
  | start (h : Host) :
      SameRun { host := h, backend := .memory {} } { host := h, backend := .sqlite {} }
  | call {s t : Storage} (c : StoreCall) : SameRun s t → c.Comparable →
      s.host.now.Encodable → c.splits s = false → SameRun (c.after s) (c.after t)
  | env {s t : Storage} (h : Host) (w r : Option String) : SameRun s t →
      SameRun { s with host := h, failWrites := w, failReads := r }
        { t with host := h, failWrites := w, failReads := r }

theorem SameRun.mirrors {s t : Storage} (h : SameRun s t) : s.Mirrors t := by
  induction h with
  | start h => exact Mirrors.new h
  | call c _ hc hnow hsplit ih => exact (answers_alike ih hnow hc).2 hsplit
  | env h w r _ ih => exact ih.env h w r

/-- The memory store and the SQLite store answer alike: after the same run from new stores, a
comparable call made while the clock reads UTC in a year JSON can write gets answers that a
client reads alike. -/
theorem memory_and_sqlite_answer_alike {s t : Storage} (hrun : SameRun s t) {c : StoreCall}
    (hc : c.Comparable) (hnow : s.host.now.Encodable) :
    Except.Alike StoreAnswer.Alike (c.run.run s).1 (c.run.run t).1 :=
  (answers_alike hrun.mirrors hnow hc).1

theorem new_stores_find_alike_after_create :
    let h : Host := { now := ⟨0, 0, 0⟩ }
    let prep : StoreCall := .ensureCollection { name := "users", uniqueKeys := [["email"]] }
    let add : StoreCall := .create "users" [("email", .str "a@x")]
    let s := add.after (prep.after { host := h, backend := .memory {} })
    let t := add.after (prep.after { host := h, backend := .sqlite {} })
    SameRun s t ∧ (StoreCall.find "users" {}).Comparable ∧ s.host.now.Encodable ∧
      Except.Alike StoreAnswer.Alike ((StoreCall.find "users" {}).run.run s).1
        ((StoreCall.find "users" {}).run.run t).1 :=
  have hdoc : Storable [("email", .str "a@x")] :=
    ⟨fun k v h => by
      obtain ⟨-, rfl⟩ := Prod.mk.inj (List.mem_singleton.1 h)
      exact Value.encodable_str _,
     fun v h => by simp [fieldId] at h⟩
  have hnow : Time.Encodable ⟨0, 0, 0⟩ := ⟨rfl, by decide⟩
  have hrun : SameRun
      ((StoreCall.create "users" [("email", .str "a@x")]).after
        ((StoreCall.ensureCollection { name := "users", uniqueKeys := [["email"]] }).after
          { host := { now := ⟨0, 0, 0⟩ }, backend := .memory {} }))
      ((StoreCall.create "users" [("email", .str "a@x")]).after
        ((StoreCall.ensureCollection { name := "users", uniqueKeys := [["email"]] }).after
          { host := { now := ⟨0, 0, 0⟩ }, backend := .sqlite {} })) :=
    .call _ (.call _ (.start _) (List.nodup_singleton _) hnow (by decide)) hdoc hnow (by decide)
  ⟨hrun, trivial, hnow, memory_and_sqlite_answer_alike hrun trivial hnow⟩

end StoreCall

/-- Where the stores part, each from new stores on one UTC clock. An aggregation of a collection
that does not exist answers no batch in the memory store and an empty one in the tables. Under
a pattern listed twice, the tables refuse a document the memory store takes, its own key being
claimed twice. A value of alternatives reads back as an array: a filter asking for that array
finds nothing in the memory store and the document in the tables. And after a preparation
refused over two documents holding one key, the memory store refuses a third such document,
under the new pattern, while the tables take it under the old ones. -/
theorem memory_and_sqlite_part :
    let mem : Storage := { host := { now := ⟨0, 0, 0⟩ }, backend := .memory {} }
    let sql : Storage := { host := { now := ⟨0, 0, 0⟩ }, backend := .sqlite {} }
    let agg : StoreCall := .aggregate "things" []
    let twice : StoreCall := .ensureCollection { name := "things", uniqueKeys := [["email"], ["email"]] }
    let addEmail : StoreCall := .create "things" [("email", .str "x")]
    let addAlts : StoreCall := .create "things" [("t", .anyOf [.str "a", .str "b"])]
    let findArr : StoreCall := .find "things" ⟨[("t", .arr [.str "a", .str "b"])]⟩
    let add (i : String) : StoreCall := .create "things" [("id", .str i), ("x", .str "one")]
    let prepX : StoreCall := .ensureCollection { name := "things", uniqueKeys := [["x"]] }
    let refused (s : Storage) := prepX.after ((add "b").after ((add "a").after s))
    ((agg.run.run mem).1 matches .ok (.batch none)) ∧
      ((agg.run.run sql).1 matches .ok (.batch (some []))) ∧
      ((addEmail.run.run (twice.after mem)).1 matches .ok (.doc _)) ∧
      ((addEmail.run.run (twice.after sql)).1 matches .error (.plain _)) ∧
      ((findArr.run.run (addAlts.after mem)).1 matches .ok (.docs [])) ∧
      ((findArr.run.run (addAlts.after sql)).1 matches .ok (.docs [_])) ∧
      (((add "c").run.run (refused mem)).1 matches .error (.duplicate _)) ∧
      (((add "c").run.run (refused sql)).1 matches .ok (.doc _)) := by
  decide

end CrudRoutes
