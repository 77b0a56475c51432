import Mathlib
import CrudRoutes.Proofs.Store.Selection
import CrudRoutes.Persist

/-!
Soft deletion in persistence. For a soft-deletable entity every filter is pinned to
`isDeleted = false`, whatever the caller's filter says about that field; every change loses the
soft-delete fields; and every new or replacing document starts live. So the persistence
operations of such an entity read, count and change live documents only, and leave every
document marked deleted stored as it is.
-/

namespace CrudRoutes

/-- A document marked deleted. -/
def Deleted (d : Fields) : Prop := Filter.fieldOf d fieldIsDeleted = .bool true

def Live (d : Fields) : Prop := Filter.fieldOf d fieldIsDeleted = .bool false

theorem Live.not_deleted {d : Fields} (h : Live d) : ¬ Deleted d := by
  unfold Deleted
  rw [h]
  simp

theorem Value.looseEq_bool_false {v : Value} :
    Value.looseEq v (.bool false) = true ↔ v = .bool false := by
  cases v <;> simp [Value.looseEq, Value.normalize, Value.same, Value.isNull]

theorem Value.looseEq_str {j i : String} : Value.looseEq (.str j) (.str i) = true ↔ j = i := by
  simp [Value.looseEq, Value.normalize, Value.same, Value.isNull]

theorem Value.stored_eq_bool {v : Value} {b : Bool} : v.stored = .bool b ↔ v = .bool b := by
  cases v <;> simp [Value.stored]

theorem Filter.accepts_of_selects {f : Filter} {d : Fields} {k : String} {v : Value}
    (h : f.selects d = true) (hc : (k, v) ∈ f.conditions) :
    Filter.accepts v (Filter.fieldOf d k) = true :=
  List.all_eq_true.1 h (k, v) hc

/-! Versions of a document keep whether it is live. -/

theorem live_congr {d d' : Fields}
    (h : Fields.get? d fieldIsDeleted = Fields.get? d' fieldIsDeleted) : Live d ↔ Live d' := by
  unfold Live Filter.fieldOf
  rw [h]

theorem live_storedDoc {d : Fields} : Live (storedDoc d) ↔ Live d := by
  unfold Live Filter.fieldOf
  rw [get?_storedDoc]
  cases Fields.get? d fieldIsDeleted <;> simp [Value.stored_eq_bool]

theorem live_prepare {h : Host} {doc : Fields} : Live (MemoryStore.prepare h doc).1 ↔ Live doc := by
  apply live_congr
  have hw : Fields.get? (withoutFields doc [fieldCreatedAt, fieldUpdatedAt]) fieldIsDeleted =
      Fields.get? doc fieldIsDeleted := get?_withoutFields_of_not_mem doc (by decide)
  unfold MemoryStore.prepare
  generalize h.draw = p
  obtain ⟨id, h'⟩ := p
  by_cases hd : (docId (withoutFields doc [fieldCreatedAt, fieldUpdatedAt]) == "") = true
  · simp only [hd, if_true]
    rw [Fields.get?_set_of_ne _ _ (by decide), Fields.get?_set_of_ne _ _ (by decide),
      Fields.get?_set_of_ne _ _ (by decide), hw]
  · simp only [hd, if_false, Bool.false_eq_true]
    rw [Fields.get?_set_of_ne _ _ (by decide), Fields.get?_set_of_ne _ _ (by decide), hw]

theorem live_replacement {now : Time} {doc found : Fields} :
    Live (replacement now doc found) ↔ Live doc := by
  apply live_congr
  unfold replacement
  rw [Fields.get?_set_of_ne _ _ (by decide), Fields.get?_set_of_ne _ _ (by decide),
    Fields.get?_set_of_ne _ _ (by decide), get?_withoutFields_of_not_mem doc (by decide)]

theorem Fields.get?_mergeChange_of_not_mem (now : Time) (current set : Fields) {k : String}
    (hk : ∀ v, (k, v) ∉ set) (hu : k ≠ fieldUpdatedAt) :
    Fields.get? (mergeChange now current set) k = Fields.get? current k := by
  unfold mergeChange
  rw [Fields.get?_set_of_ne _ _ hu]
  induction set generalizing current with
  | nil => rfl
  | cons kv rest ih =>
    obtain ⟨k', v'⟩ := kv
    have hne : k ≠ k' := fun he => hk v' (by simp [he])
    simp only [List.foldl_cons]
    rw [ih _ fun v hv => hk v (List.mem_cons_of_mem _ hv)]
    split
    · rfl
    · exact Fields.get?_set_of_ne current v' hne

namespace Persist

theorem not_mem_writable (doc : Fields) (v : Value) : (fieldIsDeleted, v) ∉ writable doc := by
  intro h
  have := (List.mem_filter.1 h).2
  simp [baseExclusions] at this

theorem live_mergeChange_writable {now : Time} {d change : Fields} :
    Live (mergeChange now d (writable change)) ↔ Live d :=
  live_congr (Fields.get?_mergeChange_of_not_mem now d _ (not_mem_writable change) (by decide))

theorem run_normalized {α : Type} (x : StoreM α) (s : Storage) :
    (normalized x).run s = match x.run s with
      | (.ok a, s') => (.ok a, s')
      | (.error e, s') => (.error e.normalize, s') := by
  unfold normalized
  rw [StoreM.run_tryCatch]
  cases x.run s with
  | mk r s' => cases r <;> rfl

theorem normalized_ok {α : Type} {x : StoreM α} {s : Storage} {a : α}
    (h : ((normalized x).run s).1 = .ok a) : (x.run s).1 = .ok a := by
  rw [run_normalized] at h
  cases hr : x.run s with
  | mk r s' =>
    rw [hr] at h
    cases r with
    | ok b => exact h
    | error e => cases h

theorem normalized_state {α : Type} (x : StoreM α) (s : Storage) :
    ((normalized x).run s).2 = (x.run s).2 := by
  rw [run_normalized]
  cases x.run s with
  | mk r s' => cases r <;> rfl

theorem tombstone_run (s : Storage) :
    tombstone.run s = (.ok (Fields.ofPairs [(fieldIsDeleted, .bool true),
      (fieldDeletedAt, .time s.host.now)]), s) := rfl

theorem tombstone_state (s : Storage) : (tombstone.run s).2 = s := rfl

theorem keeps_normalized {name i : String} {T : Fields} {α : Type} {x : StoreM α}
    (c : StoreCall) (hx : ∀ s, (x.run s).2 = c.after s) (hc : c.Avoids name T) :
    StoreM.Keeps (Storage.Holding name i T) (normalized x) := fun s hs =>
  normalized_state x s ▸ Storage.keeps_holding_of_call c hx hc s hs

theorem avoids_of_target_none {c : StoreCall} {name : String} {T : Fields}
    (h : c.target = none) : c.Avoids name T := fun _ hf => by
  rw [h] at hf
  cases hf

/-! Reads and inserts choose no documents by a filter, so they keep every stored document. -/

section Reads

variable {e : Entity} {name i : String} {T : Fields}

theorem keeps_create (doc : Fields) :
    StoreM.Keeps (Storage.Holding name i T) (create e doc) :=
  keeps_normalized (.create e.collectionName (fresh e doc))
    (fun _ => (StoreM.run_map_snd _ _ _).symm) (avoids_of_target_none rfl)

theorem keeps_createMany (docs : List Fields) :
    StoreM.Keeps (Storage.Holding name i T) (createMany e docs) :=
  keeps_normalized (.createMany e.collectionName (docs.map (fresh e)))
    (fun _ => (StoreM.run_map_snd _ _ _).symm) (avoids_of_target_none rfl)

theorem keeps_findOne (f : Filter) :
    StoreM.Keeps (Storage.Holding name i T) (findOne e f) :=
  keeps_normalized (.findOne e.collectionName (scope e f))
    (fun _ => (StoreM.run_map_snd _ _ _).symm) (avoids_of_target_none rfl)

theorem keeps_find (f : Filter) :
    StoreM.Keeps (Storage.Holding name i T) (find e f) :=
  keeps_normalized (.find e.collectionName (scope e f))
    (fun _ => (StoreM.run_map_snd _ _ _).symm) (avoids_of_target_none rfl)

theorem keeps_aggregate (p : Pipeline) :
    StoreM.Keeps (Storage.Holding name i T) (aggregate e p) :=
  keeps_normalized (.aggregate e.collectionName _) (fun _ => (StoreM.run_map_snd _ _ _).symm)
    (avoids_of_target_none rfl)

end Reads

section Soft

variable {e : Entity} (he : e.softDeletable = true)
include he

theorem scope_soft (f : Filter) : scope e f = f.add fieldIsDeleted (.bool false) := by
  simp [scope, he]

theorem live_of_selects_scope {f : Filter} {d : Fields} (h : (scope e f).selects d = true) :
    Live d := by
  rw [scope_soft he] at h
  exact Value.looseEq_bool_false.1
    (Filter.accepts_of_selects h (Fields.mem_of_get? (Fields.get?_set_self _ _ _)))

theorem selects_scope_of_deleted {T : Fields} (hT : Deleted T) (f : Filter) :
    (scope e f).selects T = false := by
  cases h : (scope e f).selects T
  · rfl
  · exact absurd hT (live_of_selects_scope he h).not_deleted

theorem live_of_mem_selected {s : Storage} {name : String} {f : Filter} {d : Fields}
    (h : d ∈ s.selected name (scope e f)) : Live d :=
  live_of_selects_scope he (List.mem_filter.1 h).2

theorem scope_isEmpty (f : Filter) : (scope e f).isEmpty = false := by
  rw [scope_soft he]
  unfold Filter.isEmpty Filter.add
  cases h : Fields.set f.conditions fieldIsDeleted (.bool false) with
  | nil => simpa [h] using Fields.mem_of_get? (Fields.get?_set_self f.conditions fieldIsDeleted (.bool false))
  | cons p rest => rfl

theorem live_fresh (doc : Fields) : Live (fresh e doc) := by
  unfold Live Filter.fieldOf fresh
  simp only [he, if_true]
  rw [Fields.get?_set_of_ne _ _ (by decide), Fields.get?_set_self]
  rfl

/-! What the operations of a soft-deletable entity answer: live documents, counts of live
documents, and pipelines over live documents. -/

theorem find_live (f : Filter) : StoreM.Yields (fun ds => ∀ d ∈ ds, Live d) (find e f) := by
  intro s ds h
  rw [Storage.find_ok (normalized_ok h)]
  exact fun d hd => live_of_mem_selected he hd

theorem findOne_live (f : Filter) : StoreM.Yields Live (findOne e f) := fun _ _ h =>
  live_of_mem_selected he (Storage.findOne_ok (normalized_ok h))

theorem findOneAndUpdate_live (f : Filter) (change : Fields) :
    StoreM.Yields Live (findOneAndUpdate e f change) := by
  intro s n h
  obtain ⟨found, hf, hn | hn⟩ := Storage.findOneAndUpdate_ok (normalized_ok h) <;> subst hn
  · exact live_mergeChange_writable.2 (live_of_mem_selected he hf)
  · exact live_storedDoc.2 (live_mergeChange_writable.2 (live_of_mem_selected he hf))

theorem findOneAndReplace_live (f : Filter) (doc : Fields) :
    StoreM.Yields Live (findOneAndReplace e f doc) := by
  intro s n h
  obtain ⟨found, -, hn | hn⟩ := Storage.findOneAndReplace_ok (normalized_ok h) <;> subst hn
  · exact live_replacement.2 (live_fresh he doc)
  · exact live_storedDoc.2 (live_replacement.2 (live_fresh he doc))

theorem create_live (doc : Fields) : StoreM.Yields Live (create e doc) := by
  intro s n h
  rcases Storage.create_ok (normalized_ok h) with rfl | rfl
  · exact live_prepare.2 (live_fresh he doc)
  · exact live_storedDoc.2 (live_prepare.2 (live_fresh he doc))

theorem createMany_live (docs : List Fields) :
    StoreM.Yields (fun ns => ∀ n ∈ ns, Live n) (createMany e docs) := by
  intro s ns h
  refine Storage.createMany_ok (fun h doc hd => ?_) (normalized_ok h)
  obtain ⟨d₀, -, rfl⟩ := List.mem_map.1 hd
  exact ⟨live_prepare.2 (live_fresh he d₀), live_storedDoc.2 (live_prepare.2 (live_fresh he d₀))⟩

variable {s : Storage}

omit he in
theorem updateMany_count {f : Filter} {change : Fields} {r : UpdateResult}
    (h : ((updateMany e f change).run s).1 = .ok r) :
    r.modified = (s.selected e.collectionName (scope e f)).length :=
  Storage.updateMany_ok (normalized_ok h)

theorem deleteMany_count {f : Filter} {r : DeleteResult}
    (h : ((deleteMany e f).run s).1 = .ok r) :
    r.deleted = (s.selected e.collectionName (scope e f)).length := by
  simp only [deleteMany, he, Bool.not_true, Bool.false_eq_true, if_false, StoreM.run_bind,
    tombstone_run] at h
  generalize hu : (normalized (Storage.updateMany e.collectionName (scope e f)
    (Fields.ofPairs [(fieldIsDeleted, .bool true), (fieldDeletedAt, .time s.host.now)]))).run s
    = res at h
  obtain ⟨r', s'⟩ := res
  cases r' with
  | error err => cases h
  | ok u =>
    cases h
    exact Storage.updateMany_ok (normalized_ok (congrArg Prod.fst hu))

theorem aggregate_live {p : Pipeline} {b : Option (List Fields)}
    (h : ((aggregate e p).run s).1 = .ok b) :
    b = p.run (some (s.selected e.collectionName (scope e {}))) ∨
      b = some ((p.run (some (s.selected e.collectionName (scope e {})))).getD []) := by
  simp only [aggregate, he, if_true] at h
  exact Storage.aggregate_ok (scope_isEmpty he {}) (normalized_ok h)

/-! The operations of a soft-deletable entity leave every deleted document stored as it is. -/

section Keep

variable {i : String} {T : Fields} (hT : Deleted T)
include hT

theorem avoids_scope {c : StoreCall} {f : Filter}
    (h : c.target = some (e.collectionName, scope e f)) : c.Avoids e.collectionName T := by
  intro f' hf
  rw [h, Option.some.injEq, Prod.mk.injEq] at hf
  rw [← hf.2]
  exact selects_scope_of_deleted he hT f

theorem keeps_findOneAndUpdate (f : Filter) (change : Fields) :
    StoreM.Keeps (Storage.Holding e.collectionName i T) (findOneAndUpdate e f change) :=
  keeps_normalized (.findOneAndUpdate e.collectionName (scope e f) (writable change))
    (fun _ => (StoreM.run_map_snd _ _ _).symm) (avoids_scope he hT rfl)

theorem keeps_findOneAndReplace (f : Filter) (doc : Fields) :
    StoreM.Keeps (Storage.Holding e.collectionName i T) (findOneAndReplace e f doc) :=
  keeps_normalized (.findOneAndReplace e.collectionName (scope e f) (fresh e doc))
    (fun _ => (StoreM.run_map_snd _ _ _).symm) (avoids_scope he hT rfl)

theorem keeps_updateMany (f : Filter) (change : Fields) :
    StoreM.Keeps (Storage.Holding e.collectionName i T) (updateMany e f change) :=
  keeps_normalized (.updateMany e.collectionName (scope e f) (writable change))
    (fun _ => (StoreM.run_map_snd _ _ _).symm) (avoids_scope he hT rfl)

theorem keeps_deleteOne (f : Filter) :
    StoreM.Keeps (Storage.Holding e.collectionName i T) (deleteOne e f) := by
  simp only [deleteOne, he, Bool.not_true, Bool.false_eq_true, if_false]
  refine (StoreM.keeps_of_run tombstone_state).bind fun t => ?_
  refine StoreM.Keeps.tryCatch ?_ fun err => ?_
  · -- the tombstone is written through the live filter, so it cannot land on a deleted document
    refine Storage.keeps_holding_of_call (.findOneAndUpdate e.collectionName (scope e f) t)
      (fun _ => (StoreM.run_bind_pure_snd _ _ _).trans (StoreM.run_map_snd _ _ _).symm)
      (avoids_scope he hT rfl)
  · split
    · exact StoreM.keeps_pure _
    · exact StoreM.keeps_throw _

theorem keeps_deleteMany (f : Filter) :
    StoreM.Keeps (Storage.Holding e.collectionName i T) (deleteMany e f) := by
  simp only [deleteMany, he, Bool.not_true, Bool.false_eq_true, if_false]
  refine (StoreM.keeps_of_run tombstone_state).bind fun t => ?_
  refine StoreM.Keeps.bind ?_ fun r => StoreM.keeps_pure _
  exact keeps_normalized (.updateMany e.collectionName (scope e f) t)
    (fun _ => (StoreM.run_map_snd _ _ _).symm) (avoids_scope he hT rfl)

end Keep

end Soft

end Persist

end CrudRoutes
