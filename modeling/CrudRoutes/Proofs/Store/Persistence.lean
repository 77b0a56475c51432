import Mathlib
import CrudRoutes.Proofs.Store.Provenance
import CrudRoutes.Proofs.SoftDelete.Routes

/-!
What persistence writes into a collection. Each operation of `Persist` makes at most one call of
the store, so it keeps a collection confined (`Storage.Confined`) when the documents that call
writes are good: the fresh documents it inserts once prepared, the next versions of the
documents it selects, and for soft deletion the tombstone merged in at the clock of the call.
-/

namespace CrudRoutes

namespace StoreM

variable {P : Storage → Prop} {α β : Type}

theorem Keeps.bind_of {x : StoreM α} {f : α → StoreM β} {Q : α → Prop} (hx : Keeps P x)
    (hq : ∀ s a, P s → (x.run s).1 = .ok a → Q a) (hf : ∀ a, Q a → Keeps P (f a)) :
    Keeps P (x >>= f) := by
  intro s hs
  have hs' := hx s hs
  rw [run_bind]
  cases hr : x.run s with
  | mk r s' =>
    rw [hr] at hs'
    cases r with
    | ok a => exact hf a (hq s a hs (by rw [hr])) s' hs'
    | error e => exact hs'

theorem run_bind_of_keeps_eq {s₀ : Storage} {x : StoreM α} {f : α → StoreM β}
    (hx : Keeps (· = s₀) x) (hf : ∀ a, (x.run s₀).1 = .ok a → P ((f a).run s₀).2) (h₀ : P s₀) :
    P ((x >>= f).run s₀).2 := by
  have hs : (x.run s₀).2 = s₀ := hx s₀ rfl
  rw [run_bind]
  cases hr : x.run s₀ with
  | mk r s' =>
    rw [hr] at hs
    cases hs
    cases r with
    | ok a => exact hf a (by rw [hr])
    | error e => exact h₀

theorem run_tryCatch_snd {α : Type} (x : StoreM α) {h : Fault → StoreM α}
    (hh : ∀ e s, ((h e).run s).2 = s) (s : Storage) :
    ((tryCatch x h).run s).2 = (x.run s).2 := by
  rw [run_tryCatch]
  cases x.run s with
  | mk r s' =>
    cases r with
    | ok a => rfl
    | error e => exact hh e s'

end StoreM

namespace Persist

open StoreM Storage

variable {s₀ : Storage} {name : String} {Good : String → Fields → Prop}

theorem keeps_confined_of_call {α : Type} {x : StoreM α} (c : StoreCall)
    (hx : ∀ s, (x.run s).2 = c.after s)
    (hc : ∀ s, Confined s₀ name Good s → Confined s₀ name Good (c.after s)) :
    Keeps (Confined s₀ name Good) x := by
  intro s hs
  rw [hx s]
  exact hc s hs

theorem findOne_confined (e : Entity) (f : Filter) : Keeps (Confined s₀ name Good) (findOne e f) :=
  keeps_of_run fun s => findOne_keeps_eq e f s s rfl

theorem find_confined (e : Entity) (f : Filter) : Keeps (Confined s₀ name Good) (find e f) :=
  keeps_of_run fun s => find_keeps_eq e f s s rfl

theorem no_revision {c : StoreCall} (hc : ∀ now, c.revision now = none) {now : Time}
    {f : Filter} {next : Fields → Fields} (h : c.revision now = some (name, f, next)) : False := by
  rw [hc] at h
  cases h

theorem confined_after_revision (c : StoreCall) {s : Storage} (hs : Confined s₀ name Good s)
    {n : String} {f : Filter} {next : Fields → Fields} (hins : c.inserts name = [])
    (hrev : c.revision s.host.now = some (n, f, next))
    (hgood : n = name → ∀ i d₀, (i, d₀) ∈ s.stored name → f.selects d₀ = true →
      ((i, d₀) ∈ s₀.stored name ∨ Good i d₀) → Good i (s.keep (next d₀))) :
    Confined s₀ name Good (c.after s) :=
  hs.after c (fun _ hd => by simp [hins] at hd) fun f' next' hr => by
    rw [hrev, Option.some.injEq, Prod.mk.injEq, Prod.mk.injEq] at hr
    obtain ⟨hn, rfl, rfl⟩ := hr
    exact hgood hn

theorem keeps_confined_of_revision {α : Type} {x : StoreM α} (c : StoreCall) {n : String}
    {f : Filter} {next : Time → Fields → Fields} (hx : ∀ s, (x.run s).2 = c.after s)
    (hins : c.inserts name = []) (hrev : ∀ now, c.revision now = some (n, f, next now))
    (hgood : n = name → ∀ s, Confined s₀ name Good s → ∀ i d₀,
      (i, d₀) ∈ s.stored name → f.selects d₀ = true →
      ((i, d₀) ∈ s₀.stored name ∨ Good i d₀) → Good i (s.keep (next s.host.now d₀))) :
    Keeps (Confined s₀ name Good) x :=
  keeps_confined_of_call c hx fun s hs =>
    confined_after_revision c hs hins (hrev s.host.now) fun hn => hgood hn s hs

theorem create_confined (e : Entity) (doc : Fields)
    (hgood : e.collectionName = name → ∀ s, Confined s₀ name Good s → ∀ h, s.host.Advances h →
      Good (docId (s.keep (MemoryStore.prepare h (fresh e doc)).1))
        (s.keep (MemoryStore.prepare h (fresh e doc)).1)) :
    Keeps (Confined s₀ name Good) (create e doc) :=
  keeps_confined_of_call (.create e.collectionName (fresh e doc))
    (fun s => (normalized_state _ s).trans (run_map_snd _ _ _).symm)
    fun s hs => hs.after _ (fun d hd h hh => by
        simp only [StoreCall.inserts] at hd
        split at hd
        · rename_i hn
          rw [List.mem_singleton.1 hd]
          exact hgood hn s hs h hh
        · cases hd)
      fun _ _ hr => (no_revision (fun _ => rfl) hr).elim

theorem createMany_confined (e : Entity) (docs : List Fields)
    (hgood : e.collectionName = name → ∀ doc ∈ docs, ∀ s, Confined s₀ name Good s → ∀ h,
      s.host.Advances h → Good (docId (s.keep (MemoryStore.prepare h (fresh e doc)).1))
        (s.keep (MemoryStore.prepare h (fresh e doc)).1)) :
    Keeps (Confined s₀ name Good) (createMany e docs) :=
  keeps_confined_of_call (.createMany e.collectionName (docs.map (fresh e)))
    (fun s => (normalized_state _ s).trans (run_map_snd _ _ _).symm)
    fun s hs => hs.after _ (fun d hd h hh => by
        simp only [StoreCall.inserts] at hd
        split at hd
        · rename_i hn
          obtain ⟨doc, hdoc, rfl⟩ := List.mem_map.1 hd
          exact hgood hn doc hdoc s hs h hh
        · cases hd)
      fun _ _ hr => (no_revision (fun _ => rfl) hr).elim

theorem findOneAndUpdate_confined (e : Entity) (f : Filter) (change : Fields)
    (hgood : e.collectionName = name → ∀ s, Confined s₀ name Good s → ∀ i d₀,
      (i, d₀) ∈ s.stored name → (scope e f).selects d₀ = true →
      ((i, d₀) ∈ s₀.stored name ∨ Good i d₀) →
      Good i (s.keep (mergeChange s.host.now d₀ (writable change)))) :
    Keeps (Confined s₀ name Good) (findOneAndUpdate e f change) :=
  keeps_confined_of_revision (.findOneAndUpdate e.collectionName (scope e f) (writable change))
    (fun s => (normalized_state _ s).trans (run_map_snd _ _ _).symm) rfl (fun _ => rfl) hgood

theorem updateMany_confined (e : Entity) (f : Filter) (change : Fields)
    (hgood : e.collectionName = name → ∀ s, Confined s₀ name Good s → ∀ i d₀,
      (i, d₀) ∈ s.stored name → (scope e f).selects d₀ = true →
      ((i, d₀) ∈ s₀.stored name ∨ Good i d₀) →
      Good i (s.keep (mergeChange s.host.now d₀ (writable change)))) :
    Keeps (Confined s₀ name Good) (updateMany e f change) :=
  keeps_confined_of_revision (.updateMany e.collectionName (scope e f) (writable change))
    (fun s => (normalized_state _ s).trans (run_map_snd _ _ _).symm) rfl (fun _ => rfl) hgood

theorem findOneAndReplace_confined (e : Entity) (f : Filter) (doc : Fields)
    (hgood : e.collectionName = name → ∀ s, Confined s₀ name Good s → ∀ i d₀,
      (i, d₀) ∈ s.stored name → (scope e f).selects d₀ = true →
      ((i, d₀) ∈ s₀.stored name ∨ Good i d₀) →
      Good i (s.keep (replacement s.host.now (fresh e doc) d₀))) :
    Keeps (Confined s₀ name Good) (findOneAndReplace e f doc) :=
  keeps_confined_of_revision (.findOneAndReplace e.collectionName (scope e f) (fresh e doc))
    (fun s => (normalized_state _ s).trans (run_map_snd _ _ _).symm) rfl (fun _ => rfl) hgood

theorem deleteOne_confined (e : Entity) (f : Filter)
    (hgood : e.softDeletable = true → e.collectionName = name → ∀ s, Confined s₀ name Good s →
      ∀ i d₀, (i, d₀) ∈ s.stored name → (scope e f).selects d₀ = true →
      ((i, d₀) ∈ s₀.stored name ∨ Good i d₀) →
      Good i (s.keep (mergeChange s.host.now d₀ (Fields.ofPairs [(fieldIsDeleted, .bool true),
        (fieldDeletedAt, .time s.host.now)])))) :
    Keeps (Confined s₀ name Good) (deleteOne e f) := by
  unfold deleteOne
  split
  · exact keeps_confined_of_call (.deleteOne e.collectionName f)
      (fun s => (normalized_state _ s).trans (run_map_snd _ _ _).symm)
      fun s hs => hs.after _ (fun _ hd => by cases hd) fun _ _ hr =>
        (no_revision (fun _ => rfl) hr).elim
  · rename_i hsoft
    have he : e.softDeletable = true := by simpa using hsoft
    intro s hs
    -- the tombstone is read at the storage's clock and written by one call
    have hcall := confined_after_revision (.findOneAndUpdate e.collectionName (scope e f)
      (Fields.ofPairs [(fieldIsDeleted, .bool true), (fieldDeletedAt, .time s.host.now)]))
      hs rfl rfl fun hn => hgood he hn s hs
    rw [StoreCall.after, StoreCall.run, run_map_snd] at hcall
    rw [run_bind, tombstone_run]
    dsimp only
    rw [run_tryCatch_snd _ (fun _ _ => by split <;> rfl), run_bind_pure_snd]
    exact hcall

theorem deleteMany_confined (e : Entity) (f : Filter)
    (hgood : e.softDeletable = true → e.collectionName = name → ∀ s, Confined s₀ name Good s →
      ∀ i d₀, (i, d₀) ∈ s.stored name → (scope e f).selects d₀ = true →
      ((i, d₀) ∈ s₀.stored name ∨ Good i d₀) →
      Good i (s.keep (mergeChange s.host.now d₀ (Fields.ofPairs [(fieldIsDeleted, .bool true),
        (fieldDeletedAt, .time s.host.now)])))) :
    Keeps (Confined s₀ name Good) (deleteMany e f) := by
  unfold deleteMany
  split
  · exact keeps_confined_of_call (.deleteMany e.collectionName f)
      (fun s => (normalized_state _ s).trans (run_map_snd _ _ _).symm)
      fun s hs => hs.after _ (fun _ hd => by cases hd) fun _ _ hr =>
        (no_revision (fun _ => rfl) hr).elim
  · rename_i hsoft
    have he : e.softDeletable = true := by simpa using hsoft
    intro s hs
    have hcall := confined_after_revision (.updateMany e.collectionName (scope e f)
      (Fields.ofPairs [(fieldIsDeleted, .bool true), (fieldDeletedAt, .time s.host.now)]))
      hs rfl rfl fun hn => hgood he hn s hs
    rw [StoreCall.after, StoreCall.run, run_map_snd] at hcall
    rw [run_bind, tombstone_run]
    dsimp only
    rw [bind_pure_comp, run_map_snd, normalized_state]
    exact hcall

/-! The writes of persistence, each one store call. -/

def tombstoneAt (t : Time) : Fields :=
  Fields.ofPairs [(fieldIsDeleted, .bool true), (fieldDeletedAt, .time t)]

/-- The writes persistence offers, each for an entity. -/
inductive Write where
  | create (e : Entity) (doc : Fields)
  | createMany (e : Entity) (docs : List Fields)
  | findOneAndUpdate (e : Entity) (f : Filter) (change : Fields)
  | findOneAndReplace (e : Entity) (f : Filter) (doc : Fields)
  | updateMany (e : Entity) (f : Filter) (change : Fields)
  | deleteOne (e : Entity) (f : Filter)
  | deleteMany (e : Entity) (f : Filter)

namespace Write

/-- The entity a write is for. -/
def entity : Write → Entity
  | .create e _ | .createMany e _ | .findOneAndUpdate e _ _ | .findOneAndReplace e _ _
  | .updateMany e _ _ | .deleteOne e _ | .deleteMany e _ => e

/-- Runs a write, forgetting its answer. -/
def run : Write → StoreM Unit
  | .create e doc => (fun _ => ()) <$> Persist.create e doc
  | .createMany e docs => (fun _ => ()) <$> Persist.createMany e docs
  | .findOneAndUpdate e f change => (fun _ => ()) <$> Persist.findOneAndUpdate e f change
  | .findOneAndReplace e f doc => (fun _ => ()) <$> Persist.findOneAndReplace e f doc
  | .updateMany e f change => (fun _ => ()) <$> Persist.updateMany e f change
  | .deleteOne e f => (fun _ => ()) <$> Persist.deleteOne e f
  | .deleteMany e f => (fun _ => ()) <$> Persist.deleteMany e f

def call (s : Storage) : Write → StoreCall
  | .create e doc => .create e.collectionName (fresh e doc)
  | .createMany e docs => .createMany e.collectionName (docs.map (fresh e))
  | .findOneAndUpdate e f change =>
    .findOneAndUpdate e.collectionName (scope e f) (writable change)
  | .findOneAndReplace e f doc => .findOneAndReplace e.collectionName (scope e f) (fresh e doc)
  | .updateMany e f change => .updateMany e.collectionName (scope e f) (writable change)
  | .deleteOne e f =>
    if e.softDeletable then .findOneAndUpdate e.collectionName (scope e f) (tombstoneAt s.host.now)
    else .deleteOne e.collectionName f
  | .deleteMany e f =>
    if e.softDeletable then .updateMany e.collectionName (scope e f) (tombstoneAt s.host.now)
    else .deleteMany e.collectionName f

theorem run_state (w : Write) (s : Storage) : (w.run.run s).2 = (w.call s).after s := by
  have hcall : ∀ {α : Type} (x : StoreM α) (c : StoreCall), (∀ s, (x.run s).2 = c.after s) →
      (((fun _ => ()) <$> x).run s).2 = c.after s := fun x c hx => by
    rw [run_map_snd, hx]
  cases w with
  | create e doc => exact hcall _ _ fun s => (normalized_state _ s).trans (run_map_snd _ _ _).symm
  | createMany e docs =>
    exact hcall _ _ fun s => (normalized_state _ s).trans (run_map_snd _ _ _).symm
  | findOneAndUpdate e f change =>
    exact hcall _ _ fun s => (normalized_state _ s).trans (run_map_snd _ _ _).symm
  | findOneAndReplace e f doc =>
    exact hcall _ _ fun s => (normalized_state _ s).trans (run_map_snd _ _ _).symm
  | updateMany e f change =>
    exact hcall _ _ fun s => (normalized_state _ s).trans (run_map_snd _ _ _).symm
  | deleteOne e f =>
    rw [run, run_map_snd, call, StoreCall.after]
    cases he : e.softDeletable
    · simp only [Persist.deleteOne, he, Bool.not_false, if_true, Bool.false_eq_true, if_false]
      rw [normalized_state, StoreCall.run, run_map_snd]
    · simp only [Persist.deleteOne, he, Bool.not_true, Bool.false_eq_true, if_false, if_true]
      rw [run_bind, tombstone_run]
      dsimp only
      rw [run_tryCatch_snd _ (fun _ _ => by split <;> rfl), run_bind_pure_snd, StoreCall.run,
        run_map_snd]
      rfl
  | deleteMany e f =>
    rw [run, run_map_snd, call, StoreCall.after]
    cases he : e.softDeletable
    · simp only [Persist.deleteMany, he, Bool.not_false, if_true, Bool.false_eq_true, if_false]
      rw [normalized_state, StoreCall.run, run_map_snd]
    · simp only [Persist.deleteMany, he, Bool.not_true, Bool.false_eq_true, if_false, if_true]
      rw [run_bind, tombstone_run]
      dsimp only
      rw [bind_pure_comp, run_map_snd, normalized_state, StoreCall.run, run_map_snd]
      rfl

end Write

end Persist

end CrudRoutes
