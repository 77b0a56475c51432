import Mathlib
import CrudRoutes.Proofs.Document
import CrudRoutes.Store.Storage

/-!
Running store computations. `StoreM` is an exception monad over the storage state; its laws are
stated once here on `run`, so that later proofs never unfold `bind`. Each call of the storage
then gets one equation: what it answers and what it leaves, by the failure switch it consults
and by the backend.

The calls of the document-store interface are collected in `StoreCall`, with the answer of each,
so that properties of every call and of every run of calls can be stated.
-/

namespace CrudRoutes

namespace StoreM

theorem run_bind {α β : Type} (x : StoreM α) (f : α → StoreM β) (s : Storage) :
    (x >>= f).run s = match x.run s with
      | (.ok a, s') => (f a).run s'
      | (.error e, s') => (.error e, s') := by
  simp only [bind, ExceptT.bind, ExceptT.mk, ExceptT.run, StateT.bind, ExceptT.bindCont]
  cases x s with
  | mk r s' => cases r <;> rfl

@[simp] theorem run_pure {α : Type} (a : α) (s : Storage) :
    (pure a : StoreM α).run s = (.ok a, s) := rfl

@[simp] theorem run_throw {α : Type} (e : Fault) (s : Storage) :
    (throw e : StoreM α).run s = (.error e, s) := rfl

@[simp] theorem run_get (s : Storage) : (get : StoreM Storage).run s = (.ok s, s) := rfl

@[simp] theorem run_set (t s : Storage) : (set t : StoreM Unit).run s = (.ok (), t) := rfl

theorem run_map {α β : Type} (f : α → β) (x : StoreM α) (s : Storage) :
    (f <$> x).run s = match x.run s with
      | (.ok a, s') => (.ok (f a), s')
      | (.error e, s') => (.error e, s') := by
  rw [← bind_pure_comp, run_bind]
  cases x.run s with
  | mk r s' => cases r <;> rfl

@[simp] theorem run_map_snd {α β : Type} (f : α → β) (x : StoreM α) (s : Storage) :
    ((f <$> x).run s).2 = (x.run s).2 := by
  rw [run_map]
  cases x.run s with
  | mk r s' => cases r <;> rfl

@[simp] theorem run_bind_pure_snd {α β : Type} (x : StoreM α) (b : β) (s : Storage) :
    ((x >>= fun _ => pure b).run s).2 = (x.run s).2 := by
  rw [run_bind]
  cases x.run s with
  | mk r s' => cases r <;> rfl

theorem run_tryCatch {α : Type} (x : StoreM α) (h : Fault → StoreM α) (s : Storage) :
    (tryCatch x h).run s = match x.run s with
      | (.ok a, s') => (.ok a, s')
      | (.error e, s') => (h e).run s' := by
  show (ExceptT.tryCatch x h).run s = _
  simp only [ExceptT.tryCatch, ExceptT.mk, ExceptT.run, bind, StateT.bind]
  cases x s with
  | mk r s' => cases r <;> rfl

@[simp] theorem run_ofExcept {α : Type} (r : Except Fault α) (s : Storage) :
    (Storage.ofExcept r).run s = (r, s) := by
  cases r <;> rfl

def Keeps {α : Type} (P : Storage → Prop) (x : StoreM α) : Prop :=
  ∀ s, P s → P (x.run s).2

section Keeps

variable {P : Storage → Prop} {α β : Type}

theorem keeps_of_run {x : StoreM α} (h : ∀ s, (x.run s).2 = s) : Keeps P x := by
  intro s hs
  rw [h]
  exact hs

theorem keeps_pure (a : α) : Keeps P (pure a) :=
  keeps_of_run fun _ => rfl

theorem keeps_throw (e : Fault) : Keeps P (throw e : StoreM α) :=
  keeps_of_run fun _ => rfl

theorem Keeps.bind {x : StoreM α} {f : α → StoreM β} (hx : Keeps P x)
    (hf : ∀ a, Keeps P (f a)) : Keeps P (x >>= f) := by
  intro s hs
  have hs' := hx s hs
  rw [run_bind]
  cases hr : x.run s with
  | mk r s' =>
    rw [hr] at hs'
    cases r with
    | ok a => exact hf a s' hs'
    | error e => exact hs'

theorem Keeps.map {x : StoreM α} (hx : Keeps P x) (f : α → β) : Keeps P (f <$> x) := by
  intro s hs
  rw [run_map_snd]
  exact hx s hs

theorem Keeps.tryCatch {x : StoreM α} {h : Fault → StoreM α} (hx : Keeps P x)
    (hh : ∀ e, Keeps P (h e)) : Keeps P (tryCatch x h) := by
  intro s hs
  have hs' := hx s hs
  rw [run_tryCatch]
  cases hr : x.run s with
  | mk r s' =>
    rw [hr] at hs'
    cases r with
    | ok a => exact hs'
    | error e => exact hh e s' hs'

theorem keeps_ite_throw (c : Prop) [Decidable c] (e : Fault) :
    Keeps P (if c then throw e else pure ()) := by
  split
  · exact keeps_throw e
  · exact keeps_pure ()

theorem Keeps.failureOf {x : StoreM Unit} (hx : Keeps P x) : Keeps P (StoreM.failureOf x) :=
  Keeps.tryCatch (hx.bind fun _ => keeps_pure _) fun _ => keeps_pure _

theorem keeps_runEach {xs : List α} {f : α → StoreM Unit} (hf : ∀ a ∈ xs, Keeps P (f a)) :
    Keeps P (StoreM.runEach f xs) := by
  induction xs with
  | nil => exact keeps_pure _
  | cons a rest ih =>
    rw [StoreM.runEach]
    refine (hf a List.mem_cons_self).failureOf.bind fun first => ?_
    refine (ih fun b hb => hf b (List.mem_cons_of_mem a hb)).failureOf.bind fun later => ?_
    split
    · exact keeps_throw _
    · exact keeps_pure _

end Keeps

/-- Every answer of a computation, from any storage, has a property. -/
def Yields {α : Type} (Q : α → Prop) (x : StoreM α) : Prop :=
  ∀ s a, (x.run s).1 = .ok a → Q a

section Yields

variable {α β : Type} {P : α → Prop} {Q : β → Prop}

theorem yields_pure {b : β} (h : Q b) : Yields Q (pure b) := by
  intro s a ha
  cases ha
  exact h

theorem yields_throw (e : Fault) : Yields Q (throw e : StoreM β) := by
  intro s a ha
  cases ha

theorem Yields.bind {x : StoreM α} {f : α → StoreM β} (hx : Yields P x)
    (hf : ∀ a, P a → Yields Q (f a)) : Yields Q (x >>= f) := by
  intro s b hb
  rw [run_bind] at hb
  cases hr : x.run s with
  | mk r s' =>
    rw [hr] at hb
    cases r with
    | ok a => exact hf a (hx s a (by rw [hr])) s' b hb
    | error e => cases hb

theorem Yields.tryCatch {x : StoreM β} {h : Fault → StoreM β} (hx : Yields Q x)
    (hh : ∀ e, Yields Q (h e)) : Yields Q (tryCatch x h) := by
  intro s b hb
  rw [run_tryCatch] at hb
  cases hr : x.run s with
  | mk r s' =>
    rw [hr] at hb
    cases r with
    | ok a =>
      cases hb
      exact hx s _ (by rw [hr])
    | error e => exact hh e s' b hb

end Yields

theorem yields_trivial {α : Type} (x : StoreM α) : Yields (fun _ => True) x :=
  fun _ _ _ => trivial

theorem run_bind_fst {α β : Type} {x : StoreM α} {f : α → StoreM β} {s : Storage} {a : α}
    (h : (x.run s).1 = .ok a) : ((x >>= f).run s).1 = ((f a).run (x.run s).2).1 := by
  rw [run_bind]
  cases hr : x.run s with
  | mk r s' =>
    rw [hr] at h
    obtain rfl : r = .ok a := h
    rfl

theorem run_bind_eq_ok {α β : Type} {x : StoreM α} {f : α → StoreM β} {s : Storage} {b : β}
    (h : ((x >>= f).run s).1 = .ok b) :
    ∃ a, (x.run s).1 = .ok a ∧ ((f a).run (x.run s).2).1 = .ok b := by
  rw [run_bind] at h
  cases hr : x.run s with
  | mk r s' =>
    rw [hr] at h
    cases r with
    | ok a => exact ⟨a, rfl, h⟩
    | error e => cases h

theorem run_bind_of_run {α β : Type} {x : StoreM α} {f : α → StoreM β} {s s' : Storage} {a : α}
    (h : x.run s = (.ok a, s')) : (x >>= f).run s = (f a).run s' := by
  rw [run_bind, h]

def FailsFrom {α : Type} (s : Storage) (x : StoreM α) : Prop :=
  ∃ f, (x.run s).1 = .error f

section FailsFrom

variable {α β : Type} {s : Storage}

theorem failsFrom_throw (e : Fault) : FailsFrom s (throw e : StoreM α) := ⟨e, rfl⟩

theorem FailsFrom.bind {x : StoreM α} (hx : FailsFrom s x) (f : α → StoreM β) :
    FailsFrom s (x >>= f) := by
  obtain ⟨e, he⟩ := hx
  refine ⟨e, ?_⟩
  rw [run_bind]
  cases hr : x.run s with
  | mk r s' =>
    rw [hr] at he
    obtain rfl : r = .error e := he
    rfl

theorem FailsFrom.map {x : StoreM α} (hx : FailsFrom s x) (f : α → β) :
    FailsFrom s (f <$> x) := by
  rw [← bind_pure_comp]
  exact hx.bind _

theorem failsFrom_bind {x : StoreM α} {f : α → StoreM β} (hx : Keeps (· = s) x)
    (hf : ∀ a, (x.run s).1 = .ok a → FailsFrom s (f a)) : FailsFrom s (x >>= f) := by
  have hs := hx s rfl
  cases hr : x.run s with
  | mk r s' =>
    rw [hr] at hs
    cases r with
    | ok a =>
      have hs' : s' = s := hs
      subst hs'
      obtain ⟨e, he⟩ := hf a (by rw [hr])
      exact ⟨e, by rw [run_bind_of_run hr]; exact he⟩
    | error e => exact ⟨e, by rw [run_bind, hr]⟩

end FailsFrom

end StoreM

namespace Storage

open StoreM

theorem guardWrite_run (s : Storage) :
    guardWrite.run s = match s.failWrites with
      | some msg => (.error (.plain msg), s)
      | none => (.ok (), s) := by
  obtain ⟨h, b, fw, fr⟩ := s
  cases fw <;> rfl

theorem guardRead_run (s : Storage) :
    guardRead.run s = match s.failReads with
      | some msg => (.error (.plain msg), s)
      | none => (.ok (), s) := by
  obtain ⟨h, b, fw, fr⟩ := s
  cases fr <;> rfl

@[simp] theorem now_run (s : Storage) : now.run s = (.ok s.host.now, s) := rfl

theorem ensureCollection_run (spec : CollectionSpec) (s : Storage) :
    (ensureCollection spec).run s = match s.backend with
      | .memory m =>
        let r := m.ensure spec
        ((match r.2 with | some e => .error e | none => .ok ()), { s with backend := .memory r.1 })
      | .sqlite q =>
        match q.ensure spec with
        | .ok q' => (.ok (), { s with backend := .sqlite q' })
        | .error e => (.error e, s) := by
  obtain ⟨h, b, fw, fr⟩ := s
  cases b with
  | memory m =>
    simp only [ensureCollection, run_bind, run_get, run_set]
    cases (m.ensure spec).2 <;> rfl
  | sqlite q =>
    simp only [ensureCollection, run_bind, run_get, run_set, run_ofExcept]
    cases q.ensure spec <;> rfl

theorem create_run (name : String) (doc : Fields) (s : Storage) :
    (create name doc).run s = match s.failWrites with
      | some msg => (.error (.plain msg), s)
      | none =>
        match s.backend with
        | .memory m =>
          let r := m.create s.host name doc
          (r.1, { s with backend := .memory r.2.1, host := r.2.2 })
        | .sqlite q =>
          let r := q.create s.host name doc
          (r.1, { s with backend := .sqlite r.2.1, host := r.2.2 }) := by
  obtain ⟨h, b, fw, fr⟩ := s
  cases fw with
  | some msg => rfl
  | none => cases b <;> simp [create, guardWrite, run_bind]

theorem createMany_run (name : String) (docs : List Fields) (s : Storage) :
    (createMany name docs).run s = match s.failWrites with
      | some msg => (.error (.plain msg), s)
      | none =>
        match s.backend with
        | .memory m =>
          let r := m.createMany s.host name docs
          (r.1, { s with backend := .memory r.2.1, host := r.2.2 })
        | .sqlite q =>
          let r := q.createMany s.host name docs
          (r.1, { s with backend := .sqlite r.2.1, host := r.2.2 }) := by
  obtain ⟨h, b, fw, fr⟩ := s
  cases fw with
  | some msg => rfl
  | none => cases b <;> simp [createMany, guardWrite, run_bind]

theorem find_run (name : String) (f : Filter) (s : Storage) :
    (find name f).run s = match s.failReads with
      | some msg => (.error (.plain msg), s)
      | none =>
        match s.backend with
        | .memory m => (.ok (m.findAll name f), s)
        | .sqlite q => (q.findAll name f, s) := by
  obtain ⟨h, b, fw, fr⟩ := s
  cases fr with
  | some msg => rfl
  | none => cases b <;> simp [find, guardRead, run_bind]

theorem findOne_run (name : String) (f : Filter) (s : Storage) :
    (findOne name f).run s = match s.failReads with
      | some msg => (.error (.plain msg), s)
      | none =>
        match s.backend with
        | .memory m => (m.findOne name f, s)
        | .sqlite q => (q.findOne name f, s) := by
  obtain ⟨h, b, fw, fr⟩ := s
  cases fr with
  | some msg => rfl
  | none => cases b <;> simp [findOne, guardRead, run_bind]

theorem findOneAndUpdate_run (name : String) (f : Filter) (change : Fields) (s : Storage) :
    (findOneAndUpdate name f change).run s = match s.failWrites with
      | some msg => (.error (.plain msg), s)
      | none =>
        match s.backend with
        | .memory m =>
          let r := m.findOneAndUpdate s.host name f change
          (r.1, { s with backend := .memory r.2 })
        | .sqlite q =>
          let r := q.findOneAndUpdate s.host name f change
          (r.1, { s with backend := .sqlite r.2 }) := by
  obtain ⟨h, b, fw, fr⟩ := s
  cases fw with
  | some msg => rfl
  | none => cases b <;> simp [findOneAndUpdate, guardWrite, run_bind]

theorem findOneAndReplace_run (name : String) (f : Filter) (doc : Fields) (s : Storage) :
    (findOneAndReplace name f doc).run s = match s.failWrites with
      | some msg => (.error (.plain msg), s)
      | none =>
        match s.backend with
        | .memory m =>
          let r := m.findOneAndReplace s.host name f doc
          (r.1, { s with backend := .memory r.2 })
        | .sqlite q =>
          let r := q.findOneAndReplace s.host name f doc
          (r.1, { s with backend := .sqlite r.2 }) := by
  obtain ⟨h, b, fw, fr⟩ := s
  cases fw with
  | some msg => rfl
  | none => cases b <;> simp [findOneAndReplace, guardWrite, run_bind]

theorem update_run (name : String) (f : Filter) (change : Fields) (limit : Nat) (s : Storage) :
    (update name f change limit).run s = match s.failWrites with
      | some msg => (.error (.plain msg), s)
      | none =>
        match s.backend with
        | .memory m =>
          let r := m.update s.host name f change limit
          (r.1, { s with backend := .memory r.2 })
        | .sqlite q =>
          let r := q.update s.host name f change limit
          (r.1, { s with backend := .sqlite r.2 }) := by
  obtain ⟨h, b, fw, fr⟩ := s
  cases fw with
  | some msg => rfl
  | none => cases b <;> simp [update, guardWrite, run_bind]

theorem delete_run (name : String) (f : Filter) (limit : Nat) (s : Storage) :
    (delete name f limit).run s = match s.failWrites with
      | some msg => (.error (.plain msg), s)
      | none =>
        match s.backend with
        | .memory m =>
          let r := m.delete name f limit
          (.ok r.1, { s with backend := .memory r.2 })
        | .sqlite q =>
          let r := q.delete name f limit
          (r.1, { s with backend := .sqlite r.2 }) := by
  obtain ⟨h, b, fw, fr⟩ := s
  cases fw with
  | some msg => rfl
  | none =>
    cases b with
    | memory m => simp [delete, guardWrite, run_bind]; rfl
    | sqlite q => simp [delete, guardWrite, run_bind]

theorem aggregate_run (name : String) (p : Pipeline) (s : Storage) :
    (aggregate name p).run s = match s.failReads with
      | some msg => (.error (.plain msg), s)
      | none =>
        match s.backend with
        | .memory m => (.ok (m.aggregate name p), s)
        | .sqlite q => (q.aggregate name p, s) := by
  obtain ⟨h, b, fw, fr⟩ := s
  cases fr with
  | some msg => rfl
  | none => cases b <;> simp [aggregate, guardRead, run_bind]

end Storage

/-- A call of the document-store interface with its arguments. -/
inductive StoreCall where
  | ensureCollection (spec : CollectionSpec)
  | create (name : String) (doc : Fields)
  | createMany (name : String) (docs : List Fields)
  | find (name : String) (f : Filter)
  | findOne (name : String) (f : Filter)
  | findOneAndUpdate (name : String) (f : Filter) (change : Fields)
  | findOneAndReplace (name : String) (f : Filter) (doc : Fields)
  | updateOne (name : String) (f : Filter) (change : Fields)
  | updateMany (name : String) (f : Filter) (change : Fields)
  | deleteOne (name : String) (f : Filter)
  | deleteMany (name : String) (f : Filter)
  | aggregate (name : String) (p : Pipeline)

/-- What a call of the document store answers. -/
inductive StoreAnswer where
  | prepared
  | doc (d : Fields)
  | docs (ds : List Fields)
  | updated (r : UpdateResult)
  | deleted (r : DeleteResult)
  | batch (b : Option (List Fields))

namespace StoreCall

/-- Runs a call against the storage. -/
def run : StoreCall → StoreM StoreAnswer
  | .ensureCollection spec => do
    Storage.ensureCollection spec
    pure .prepared
  | .create name doc => .doc <$> Storage.create name doc
  | .createMany name docs => .docs <$> Storage.createMany name docs
  | .find name f => .docs <$> Storage.find name f
  | .findOne name f => .doc <$> Storage.findOne name f
  | .findOneAndUpdate name f change => .doc <$> Storage.findOneAndUpdate name f change
  | .findOneAndReplace name f doc => .doc <$> Storage.findOneAndReplace name f doc
  | .updateOne name f change => .updated <$> Storage.updateOne name f change
  | .updateMany name f change => .updated <$> Storage.updateMany name f change
  | .deleteOne name f => .deleted <$> Storage.deleteOne name f
  | .deleteMany name f => .deleted <$> Storage.deleteMany name f
  | .aggregate name p => .batch <$> Storage.aggregate name p

/-- The storage a call leaves. -/
def after (c : StoreCall) (s : Storage) : Storage :=
  (c.run.run s).2

def onMemory (h : Host) (m : MemoryStore) : StoreCall → MemoryStore
  | .ensureCollection spec => (m.ensure spec).1
  | .create name doc => (m.create h name doc).2.1
  | .createMany name docs => (m.createMany h name docs).2.1
  | .find .. | .findOne .. | .aggregate .. => m
  | .findOneAndUpdate name f change => (m.findOneAndUpdate h name f change).2
  | .findOneAndReplace name f doc => (m.findOneAndReplace h name f doc).2
  | .updateOne name f change => (m.update h name f change 1).2
  | .updateMany name f change => (m.update h name f change 0).2
  | .deleteOne name f => (m.delete name f 1).2
  | .deleteMany name f => (m.delete name f 0).2

open StoreM Storage in
theorem after_memory (c : StoreCall) {s : Storage} {m : MemoryStore}
    (hb : s.backend = .memory m) :
    (c.after s).backend = .memory m ∨ (c.after s).backend = .memory (c.onMemory s.host m) := by
  cases c <;>
    simp only [after, run, onMemory, run_map_snd, run_bind_pure_snd, ensureCollection_run, create_run,
      createMany_run, find_run, findOne_run, findOneAndUpdate_run, findOneAndReplace_run,
      Storage.updateOne, Storage.updateMany, update_run, Storage.deleteOne, Storage.deleteMany,
      delete_run, aggregate_run, hb] <;>
    (try split) <;> simp [hb]

def onSqlite (h : Host) (q : SqliteStore) : StoreCall → SqliteStore
  | .ensureCollection spec =>
    match q.ensure spec with
    | .ok q' => q'
    | .error _ => q
  | .create name doc => (q.create h name doc).2.1
  | .createMany name docs => (q.createMany h name docs).2.1
  | .find .. | .findOne .. | .aggregate .. => q
  | .findOneAndUpdate name f change => (q.findOneAndUpdate h name f change).2
  | .findOneAndReplace name f doc => (q.findOneAndReplace h name f doc).2
  | .updateOne name f change => (q.update h name f change 1).2
  | .updateMany name f change => (q.update h name f change 0).2
  | .deleteOne name f => (q.delete name f 1).2
  | .deleteMany name f => (q.delete name f 0).2

open StoreM Storage in
theorem after_sqlite_eq (c : StoreCall) {s : Storage} {q : SqliteStore}
    (hb : s.backend = .sqlite q) :
    (c.after s).backend = .sqlite q ∨ (c.after s).backend = .sqlite (c.onSqlite s.host q) := by
  cases c <;>
    simp only [after, run, onSqlite, run_map_snd, run_bind_pure_snd, ensureCollection_run,
      create_run, createMany_run, find_run, findOne_run, findOneAndUpdate_run,
      findOneAndReplace_run, Storage.updateOne, Storage.updateMany, update_run, Storage.deleteOne,
      Storage.deleteMany, delete_run, aggregate_run, hb] <;>
    (try split) <;> simp [hb]

theorem after_sqlite (c : StoreCall) {s : Storage} {q : SqliteStore}
    (hb : s.backend = .sqlite q) : ∃ q', (c.after s).backend = .sqlite q' := by
  rcases c.after_sqlite_eq hb with h | h
  · exact ⟨q, h⟩
  · exact ⟨_, h⟩

/-- The call prepares a collection and fails. -/
def FailsPreparation (c : StoreCall) (s : Storage) : Prop :=
  ∃ spec f, c = .ensureCollection spec ∧ (c.run.run s).1 = .error f

def isPreparation : StoreCall → Bool
  | .ensureCollection _ => true
  | _ => false

theorem failsPreparation_iff (c : StoreCall) (s : Storage) :
    c.FailsPreparation s ↔ c.isPreparation = true ∧ (c.run.run s).1.toBool = false := by
  constructor
  · rintro ⟨spec, f, rfl, h⟩
    simp [isPreparation, h, Except.toBool]
  · rintro ⟨hp, hr⟩
    cases c with
    | ensureCollection spec =>
      cases h : ((StoreCall.ensureCollection spec).run.run s).1 with
      | ok a => simp [h, Except.toBool] at hr
      | error f => exact ⟨spec, f, rfl, h⟩
    | _ => simp [isPreparation] at hp

instance (c : StoreCall) (s : Storage) : Decidable (c.FailsPreparation s) :=
  decidable_of_iff _ (failsPreparation_iff c s).symm

/-- The storages reached from `s` by calls each `allowed` in the storage it runs on, with the
host and the failure switches set at will between calls. -/
inductive Reaches (allowed : StoreCall → Storage → Prop) (s : Storage) : Storage → Prop
  | refl : Reaches allowed s s
  | call {t : Storage} (c : StoreCall) : Reaches allowed s t → allowed c t →
      Reaches allowed s (c.after t)
  | env {t : Storage} (h : Host) (w r : Option String) : Reaches allowed s t →
      Reaches allowed s { t with host := h, failWrites := w, failReads := r }

end StoreCall

end CrudRoutes
