import Mathlib
import CrudRoutes.Proofs.SoftDelete.Scope
import CrudRoutes.Route.Handle
import CrudRoutes.Auth.Service

/-!
Soft deletion seen through the routes. A route of a soft-deletable entity, whatever its kind,
request and caller, leaves a document marked deleted stored as it is and answers with live
documents only. The routes on one document do not find it by its id, and the routes on several
documents refuse a list of ids that names it. Deleting it again through an unguarded route
answers a count of zero; a guarded route loads the document for its check first, so there the
answer is a failure.
-/

namespace CrudRoutes

open StoreM

namespace Storage

theorem stored_wf {s : Storage} (hm : s.MemDocsWf) (hq : s.SqlInv) (name : String) :
    ((s.stored name).map Prod.fst).Nodup ∧ ∀ p ∈ s.stored name, docId p.2 = p.1 := by
  unfold stored
  cases hb : s.backend with
  | memory m =>
    have hc := (hm m hb).get_of_closed MemCollection.writeClosed_docsWf name
    exact ⟨hc.nodup, fun p hp => hc.docId_eq p.1 p.2 hp⟩
  | sqlite q =>
    have hi := hq q hb
    refine ⟨hi.nodup name, fun p hp => ?_⟩
    obtain ⟨r, hr, rfl⟩ := List.mem_map.1 hp
    exact hi.docId_eq r (List.mem_filter.1 hr).1

/-- Every document of a collection has a string identifier, as every document written through
persistence has. -/
def StringIds (s : Storage) (name : String) : Prop :=
  ∀ p ∈ s.stored name, ∃ j, Fields.get? p.2 fieldId = some (.str j)

theorem get?_id_of_stored {s : Storage} (hm : s.MemDocsWf) (hq : s.SqlInv) {name : String}
    (hid : s.StringIds name) {p : String × Fields} (hp : p ∈ s.stored name) :
    Fields.get? p.2 fieldId = some (.str p.1) := by
  obtain ⟨j, hj⟩ := hid p hp
  have hd : docId p.2 = p.1 := (stored_wf hm hq name).2 p hp
  simp only [docId, hj] at hd
  rw [hj, hd]

theorem exists_of_mem_selected {s : Storage} {name : String} {f : Filter} {d : Fields}
    (h : d ∈ s.selected name f) : ∃ p ∈ s.stored name, p.2 = d ∧ f.selects d = true := by
  obtain ⟨hd, hsel⟩ := List.mem_filter.1 h
  obtain ⟨p, hp, rfl⟩ := List.mem_map.1 hd
  exact ⟨p, hp, rfl, hsel⟩

end Storage

namespace Persist

theorem mem_scope_conditions {e : Entity} {f : Filter} {k : String} {v : Value}
    (h : (k, v) ∈ f.conditions) (hk : k ≠ fieldIsDeleted) : (k, v) ∈ (scope e f).conditions := by
  unfold scope
  split
  · exact Fields.mem_set_of_ne h hk
  · exact h

theorem findOne_keeps_eq (e : Entity) (f : Filter) (s : Storage) :
    Keeps (· = s) (findOne e f) := by
  rintro t rfl
  rw [findOne, normalized_state, Storage.findOne_run]
  split
  · rfl
  · split <;> rfl

theorem find_keeps_eq (e : Entity) (f : Filter) (s : Storage) : Keeps (· = s) (find e f) := by
  rintro t rfl
  rw [find, normalized_state, Storage.find_run]
  split
  · rfl
  · split <;> rfl

/-! A document marked deleted in a collection whose documents have string identifiers: no live
document has its key, so the filters by id of a soft-deletable entity miss it. -/

section Tombstone

variable {e : Entity} {s : Storage} {i : String} {T : Fields}

theorem key_ne_of_live (hm : s.MemDocsWf) (hq : s.SqlInv) (hT : (i, T) ∈ s.stored e.collectionName)
    (hdel : Deleted T) {p : String × Fields} (hp : p ∈ s.stored e.collectionName)
    (hl : Live p.2) : p.1 ≠ i := by
  intro h
  have hpT : p = (i, T) := List.inj_on_of_nodup_map (s.stored_wf hm hq _).1 hp hT h
  rw [hpT] at hl
  exact hl.not_deleted hdel

variable (hm : s.MemDocsWf) (hq : s.SqlInv) (hid : s.StringIds e.collectionName)
include hm hq hid

theorem key_eq_of_selects_byId {p : String × Fields} (hp : p ∈ s.stored e.collectionName)
    {j : String} (hsel : (scope e (Filter.byId j)).selects p.2 = true) : p.1 = j := by
  have hc := Filter.accepts_of_selects hsel
    (mem_scope_conditions (List.mem_singleton_self ("id", Value.str j)) (by decide))
  have hpid : Fields.get? p.2 "id" = some (.str p.1) := Storage.get?_id_of_stored hm hq hid hp
  simp only [Filter.accepts, Filter.fieldOf, hpid, Option.getD_some] at hc
  exact Value.looseEq_str.1 hc

theorem key_mem_of_selects_byIds {p : String × Fields} (hp : p ∈ s.stored e.collectionName)
    {ids : List String} (hsel : (scope e (Filter.byIds ids)).selects p.2 = true) : p.1 ∈ ids := by
  have hc := Filter.accepts_of_selects hsel
    (mem_scope_conditions (List.mem_singleton_self ("id", Value.anyOf (ids.map Value.str)))
      (by decide))
  have hpid : Fields.get? p.2 "id" = some (.str p.1) := Storage.get?_id_of_stored hm hq hid hp
  simp only [Filter.accepts, Filter.fieldOf, hpid, Option.getD_some, List.any_map,
    List.any_eq_true, Function.comp_apply, Value.looseEq_str] at hc
  obtain ⟨j, hj, rfl⟩ := hc
  exact hj

variable (he : e.softDeletable = true) (hT : (i, T) ∈ s.stored e.collectionName)
  (hdel : Deleted T)
include he hT hdel

theorem selected_byId_eq_nil : s.selected e.collectionName (scope e (Filter.byId i)) = [] := by
  refine List.eq_nil_iff_forall_not_mem.2 fun d hd => ?_
  obtain ⟨p, hp, rfl, hsel⟩ := Storage.exists_of_mem_selected hd
  exact key_ne_of_live hm hq hT hdel hp (live_of_selects_scope he hsel)
    (key_eq_of_selects_byId hm hq hid hp hsel)

theorem length_selected_byIds_lt {ids : List String} (hi : i ∈ ids) :
    (s.selected e.collectionName (scope e (Filter.byIds ids))).length < ids.length := by
  set L := (s.stored e.collectionName).filter fun p => (scope e (Filter.byIds ids)).selects p.2
  have hsel : s.selected e.collectionName (scope e (Filter.byIds ids)) = L.map Prod.snd :=
    List.filter_map ..
  have hnd : (L.map Prod.fst).Nodup :=
    (s.stored_wf hm hq _).1.sublist (List.filter_sublist.map Prod.fst)
  have hsub : (L.map Prod.fst).toFinset ⊆ ids.toFinset.erase i := by
    intro k hk
    obtain ⟨p, hp, rfl⟩ := List.mem_map.1 (List.mem_toFinset.1 hk)
    obtain ⟨hp, hs⟩ := List.mem_filter.1 hp
    exact Finset.mem_erase.2 ⟨key_ne_of_live hm hq hT hdel hp (live_of_selects_scope he hs),
      List.mem_toFinset.2 (key_mem_of_selects_byIds hm hq hid hp hs)⟩
  calc (s.selected e.collectionName (scope e (Filter.byIds ids))).length
      = (L.map Prod.fst).toFinset.card := by
        rw [hsel, List.toFinset_card_of_nodup hnd, List.length_map, List.length_map]
    _ ≤ (ids.toFinset.erase i).card := Finset.card_le_card hsub
    _ < ids.toFinset.card := Finset.card_erase_lt_of_mem (List.mem_toFinset.2 hi)
    _ ≤ ids.length := List.toFinset_card_le ids

end Tombstone

theorem findOneAndUpdate_fails_of_nil {s : Storage} {name : String} {f : Filter} (change : Fields)
    (h : s.selected name f = []) : FailsFrom s (Storage.findOneAndUpdate name f change) := by
  cases hr : ((Storage.findOneAndUpdate name f change).run s).1 with
  | ok n =>
    obtain ⟨found, hf, -⟩ := Storage.findOneAndUpdate_ok hr
    rw [h] at hf
    simp at hf
  | error err => exact ⟨err, hr⟩

theorem deleteOne_ok_of_nil {e : Entity} {f : Filter} {s : Storage} (he : e.softDeletable = true)
    (hnil : s.selected e.collectionName (scope e f) = []) {r : DeleteResult}
    (h : ((deleteOne e f).run s).1 = .ok r) : r = {} := by
  simp only [deleteOne, he, Bool.not_true, Bool.false_eq_true, if_false] at h
  rw [run_bind_of_run (tombstone_run s), run_tryCatch] at h
  split at h
  · -- the tombstone cannot be written: no live document is selected
    rename_i heq
    obtain ⟨err, herr⟩ := (findOneAndUpdate_fails_of_nil (Fields.ofPairs
      [(fieldIsDeleted, .bool true), (fieldDeletedAt, .time s.host.now)]) hnil).bind
      fun _ => (pure { deleted := 1 } : StoreM DeleteResult)
    rw [heq] at herr
    cases herr
  · split at h
    · simp only [run_pure, Except.ok.injEq] at h
      exact h.symm
    · cases h

end Persist

/-! The operations of a service keep a deleted document of its entity stored as it is. -/

namespace Service

section Keep

variable {name i : String} {T : Fields}

theorem keeps_lift {α : Type} {P : Storage → Prop} (r : Except Fault α) : Keeps P (lift r) :=
  keeps_of_run fun _ => by cases r <;> rfl

theorem keeps_runAfter (h : AfterHook) (p : Option Principal) (d : Fields) :
    Keeps (Storage.Holding name i T) (Hooks.runAfter h p d) := by
  cases h with
  | auditTrail audit =>
    exact Keeps.tryCatch ((Persist.keeps_create _).bind fun _ => keeps_pure _)
      fun _ => keeps_throw _

variable (sv : Service)

theorem keeps_afterSave (docs : List Fields) :
    Keeps (Storage.Holding name i T) (sv.afterSave docs) := by
  unfold afterSave
  split
  · exact keeps_pure _
  · exact keeps_runEach fun d _ => keeps_runAfter _ _ d

theorem keeps_createOne (doc : Fields) : Keeps (Storage.Holding name i T) (sv.createOne doc) :=
  (keeps_lift _).bind fun _ => (Persist.keeps_create _).bind fun _ =>
    (keeps_afterSave sv _).bind fun _ => keeps_pure _

theorem keeps_createMany (docs : List Fields) :
    Keeps (Storage.Holding name i T) (sv.createMany docs) :=
  (keeps_lift _).bind fun _ => (Persist.keeps_createMany _).bind fun _ =>
    (keeps_afterSave sv _).bind fun _ => keeps_pure _

theorem keeps_getOne (id : String) : Keeps (Storage.Holding name i T) (sv.getOne id) :=
  Persist.keeps_findOne _

theorem keeps_getMany (f : Filter) : Keeps (Storage.Holding name i T) (sv.getMany f) :=
  Persist.keeps_find _

theorem keeps_requireAll (ids : List String) :
    Keeps (Storage.Holding name i T) (sv.requireAll ids) :=
  (Persist.keeps_find _).bind fun _ => keeps_ite_throw _ _

theorem keeps_duplicateOne (id : String) (overrides : Fields) :
    Keeps (Storage.Holding name i T) (sv.duplicateOne id overrides) :=
  (keeps_getOne sv id).bind fun _ => (Persist.keeps_create _).bind fun _ =>
    (keeps_afterSave sv _).bind fun _ => keeps_pure _

theorem keeps_duplicateMany (ids : List String) (overrides : Fields) :
    Keeps (Storage.Holding name i T) (sv.duplicateMany ids overrides) := by
  unfold duplicateMany
  refine (Persist.keeps_find _).bind fun found => ?_
  have hcopy : Keeps (Storage.Holding name i T)
      (Persist.createMany sv.entity (found.map (copyWith · overrides)) >>= fun created =>
        sv.afterSave created >>= fun _ => pure created) :=
    (Persist.keeps_createMany _).bind fun _ => (keeps_afterSave sv _).bind fun _ => keeps_pure _
  dsimp only
  split
  · exact (keeps_throw _).bind fun _ => hcopy
  · exact hcopy

variable {sv} (he : sv.entity.softDeletable = true) (hT : Deleted T)
include he hT

theorem keeps_updateOne (id : String) (change : Fields) :
    Keeps (Storage.Holding sv.entity.collectionName i T) (sv.updateOne id change) :=
  (keeps_getOne sv id).bind fun _ => (Persist.keeps_findOneAndUpdate he hT _ _).bind fun _ =>
    (keeps_afterSave sv _).bind fun _ => keeps_pure _

theorem keeps_updateMany (ids : List String) (change : Fields) :
    Keeps (Storage.Holding sv.entity.collectionName i T) (sv.updateMany ids change) :=
  (keeps_requireAll sv ids).bind fun _ => (Persist.keeps_updateMany he hT _ _).bind fun _ =>
    (Persist.keeps_find _).bind fun _ => (keeps_afterSave sv _).bind fun _ => keeps_pure _

theorem keeps_deleteOne (id : String) :
    Keeps (Storage.Holding sv.entity.collectionName i T) (sv.deleteOne id) :=
  Keeps.tryCatch (Persist.keeps_deleteOne he hT _) fun _ => keeps_pure _

theorem keeps_deleteMany (ids : List String) :
    Keeps (Storage.Holding sv.entity.collectionName i T) (sv.deleteMany ids) :=
  Keeps.tryCatch (Persist.keeps_deleteMany he hT _) fun _ => keeps_pure _

theorem keeps_replaceOne (id : String) (doc : Fields) :
    Keeps (Storage.Holding sv.entity.collectionName i T) (sv.replaceOne id doc) :=
  (keeps_getOne sv id).bind fun _ => (Persist.keeps_findOneAndReplace he hT _ _).bind fun _ =>
    (keeps_afterSave sv _).bind fun _ => keeps_pure _

end Keep

/-! What the operations of a service of a soft-deletable entity answer: live documents only. -/

section Live

variable {sv : Service} (he : sv.entity.softDeletable = true)
include he

theorem getOne_live (id : String) : Yields Live (sv.getOne id) :=
  Persist.findOne_live he _

theorem getMany_live (f : Filter) : Yields (fun ds => ∀ d ∈ ds, Live d) (sv.getMany f) :=
  Persist.find_live he _

theorem createOne_live (doc : Fields) : Yields Live (sv.createOne doc) :=
  (yields_trivial _).bind fun _ _ => (Persist.create_live he _).bind fun _ hc =>
    (yields_trivial _).bind fun _ _ => yields_pure hc

theorem createMany_live (docs : List Fields) :
    Yields (fun ns => ∀ n ∈ ns, Live n) (sv.createMany docs) :=
  (yields_trivial _).bind fun _ _ => (Persist.createMany_live he _).bind fun _ hc =>
    (yields_trivial _).bind fun _ _ => yields_pure hc

theorem updateOne_live (id : String) (change : Fields) : Yields Live (sv.updateOne id change) :=
  (yields_trivial _).bind fun _ _ => (Persist.findOneAndUpdate_live he _ _).bind fun _ hu =>
    (yields_trivial _).bind fun _ _ => yields_pure hu

theorem updateMany_live (ids : List String) (change : Fields) :
    Yields (fun ds => ∀ d ∈ ds, Live d) (sv.updateMany ids change) :=
  (yields_trivial _).bind fun _ _ => (yields_trivial _).bind fun _ _ =>
    (Persist.find_live he _).bind fun _ hu => (yields_trivial _).bind fun _ _ => yields_pure hu

theorem duplicateOne_live (id : String) (overrides : Fields) :
    Yields Live (sv.duplicateOne id overrides) :=
  (yields_trivial _).bind fun _ _ => (Persist.create_live he _).bind fun _ hc =>
    (yields_trivial _).bind fun _ _ => yields_pure hc

theorem duplicateMany_live (ids : List String) (overrides : Fields) :
    Yields (fun ns => ∀ n ∈ ns, Live n) (sv.duplicateMany ids overrides) := by
  unfold duplicateMany
  refine (yields_trivial _).bind fun found _ => ?_
  have hcopy : Yields (fun ns => ∀ n ∈ ns, Live n)
      (Persist.createMany sv.entity (found.map (copyWith · overrides)) >>= fun created =>
        sv.afterSave created >>= fun _ => pure created) :=
    (Persist.createMany_live he _).bind fun _ hc => (yields_trivial _).bind fun _ _ => yields_pure hc
  dsimp only
  split
  · exact (yields_trivial _).bind fun _ _ => hcopy
  · exact hcopy

theorem replaceOne_live (id : String) (doc : Fields) : Yields Live (sv.replaceOne id doc) :=
  (yields_trivial _).bind fun _ _ => (Persist.findOneAndReplace_live he _ _).bind fun _ hu =>
    (yields_trivial _).bind fun _ _ => yields_pure hu

end Live

/-! A deleted document in a collection whose documents have string identifiers: the operations on
its id fail, or count nothing deleted. -/

section Tombstone

variable {sv : Service} {s : Storage} {i : String} {T : Fields}
  (he : sv.entity.softDeletable = true) (hm : s.MemDocsWf) (hq : s.SqlInv)
  (hid : s.StringIds sv.entity.collectionName) (hT : (i, T) ∈ s.stored sv.entity.collectionName)
  (hdel : Deleted T)
include he hm hq hid hT hdel

theorem getOne_fails : FailsFrom s (sv.getOne i) := by
  cases hr : ((sv.getOne i).run s).1 with
  | ok d =>
    have hd := Storage.findOne_ok (Persist.normalized_ok hr)
    rw [Persist.selected_byId_eq_nil hm hq hid he hT hdel] at hd
    simp at hd
  | error f => exact ⟨f, hr⟩

theorem updateOne_fails (change : Fields) : FailsFrom s (sv.updateOne i change) :=
  (getOne_fails he hm hq hid hT hdel).bind _

theorem duplicateOne_fails (overrides : Fields) : FailsFrom s (sv.duplicateOne i overrides) :=
  (getOne_fails he hm hq hid hT hdel).bind _

theorem replaceOne_fails (doc : Fields) : FailsFrom s (sv.replaceOne i doc) :=
  (getOne_fails he hm hq hid hT hdel).bind _

theorem find_byIds_short {ids : List String} (hi : i ∈ ids) {found : List Fields}
    (h : ((Persist.find sv.entity (Filter.byIds ids)).run s).1 = .ok found) :
    found.length ≠ ids.length := by
  rw [Storage.find_ok (Persist.normalized_ok h)]
  exact (Persist.length_selected_byIds_lt hm hq hid he hT hdel hi).ne

theorem requireAll_fails {ids : List String} (hi : i ∈ ids) : FailsFrom s (sv.requireAll ids) := by
  unfold requireAll
  refine failsFrom_bind (Persist.find_keeps_eq _ _ s) fun found hf => ?_
  rw [if_pos (bne_iff_ne.2 (find_byIds_short he hm hq hid hT hdel hi hf))]
  exact failsFrom_throw _

theorem updateMany_fails {ids : List String} (hi : i ∈ ids) (change : Fields) :
    FailsFrom s (sv.updateMany ids change) :=
  (requireAll_fails he hm hq hid hT hdel hi).bind _

theorem duplicateMany_fails {ids : List String} (hi : i ∈ ids) (overrides : Fields) :
    FailsFrom s (sv.duplicateMany ids overrides) := by
  unfold duplicateMany
  refine failsFrom_bind (Persist.find_keeps_eq _ _ s) fun found hf => ?_
  dsimp only
  rw [if_pos (bne_iff_ne.2 (find_byIds_short he hm hq hid hT hdel hi hf))]
  exact (failsFrom_throw _).bind _

theorem deleteOne_zero : ((sv.deleteOne i).run s).1 = .ok {} := by
  unfold deleteOne
  rw [run_tryCatch]
  cases hr : (Persist.deleteOne sv.entity (Filter.byId i)).run s with
  | mk res s' =>
    cases res with
    | ok r =>
      have hnil := Persist.selected_byId_eq_nil hm hq hid he hT hdel
      have hr0 : r = {} := Persist.deleteOne_ok_of_nil he hnil (by rw [hr])
      rw [hr0]
    | error _ => rfl

end Tombstone

end Service

namespace Route

theorem keeps_guard {P : Storage → Prop} (r : Route) (p : Option Principal) (id : String)
    (hget : Keeps P ((r.service p).getOne id)) : Keeps P (r.guard p id) := by
  unfold guard
  split
  · exact keeps_pure _
  · dsimp only
    split
    · exact (hget.map _).bind fun _ => keeps_ite_throw _ _
    · exact (keeps_pure _).bind fun _ => keeps_ite_throw _ _

theorem keeps_handle {i : String} {T : Fields} (r : Route) (he : r.entity.softDeletable = true)
    (hT : Deleted T) (p : Option Principal) (req : Request) :
    Keeps (Storage.Holding r.entity.collectionName i T) (r.handle p req) := by
  have he' : (r.service p).entity.softDeletable = true := he
  unfold handle
  refine (keeps_guard r p req.id (Service.keeps_getOne _ _)).bind fun _ => ?_
  split
  · exact (Service.keeps_getOne _ _).bind fun _ => keeps_pure _
  · exact (Service.keeps_getMany _ _).bind fun _ => keeps_pure _
  · exact (Service.keeps_lift _).bind fun _ =>
      (Service.keeps_createOne _ _).bind fun _ => keeps_pure _
  · exact (Service.keeps_lift _).bind fun _ =>
      (Service.keeps_createMany _ _).bind fun _ => keeps_pure _
  · exact (Service.keeps_lift _).bind fun _ =>
      (Service.keeps_updateOne he' hT _ _).bind fun _ => keeps_pure _
  · exact (Service.keeps_lift _).bind fun _ =>
      (Service.keeps_updateMany he' hT _ _).bind fun _ => keeps_pure _
  · exact (Service.keeps_deleteOne he' hT _).bind fun _ => keeps_pure _
  · exact (Service.keeps_deleteMany he' hT _).bind fun _ => keeps_pure _
  · exact (Service.keeps_lift _).bind fun _ =>
      (Service.keeps_duplicateOne _ _ _).bind fun _ => keeps_pure _
  · exact (Service.keeps_lift _).bind fun _ =>
      (Service.keeps_duplicateMany _ _ _).bind fun _ => keeps_pure _
  · exact (Service.keeps_lift _).bind fun _ =>
      (Service.keeps_replaceOne he' hT _ _).bind fun _ => keeps_pure _

def ShowsLive (r : Route) (v : Value) : Prop :=
  (∃ d, Live d ∧ v = r.present d) ∨ (∃ ds, (∀ d ∈ ds, Live d) ∧ v = r.presentMany ds) ∨
    ∃ res, v = presentDelete res

theorem showsLive_present (r : Route) {d : Fields} (h : Live d) : r.ShowsLive (r.present d) :=
  Or.inl ⟨d, h, rfl⟩

theorem showsLive_presentMany (r : Route) {ds : List Fields} (h : ∀ d ∈ ds, Live d) :
    r.ShowsLive (r.presentMany ds) :=
  Or.inr (Or.inl ⟨ds, h, rfl⟩)

theorem showsLive_presentDelete (r : Route) (res : DeleteResult) :
    r.ShowsLive (presentDelete res) :=
  Or.inr (Or.inr ⟨res, rfl⟩)

theorem handle_showsLive (r : Route) (he : r.entity.softDeletable = true) (p : Option Principal)
    (req : Request) : Yields r.ShowsLive (r.handle p req) := by
  have he' : (r.service p).entity.softDeletable = true := he
  unfold handle
  refine (yields_trivial _).bind fun _ _ => ?_
  split
  · exact (Service.getOne_live he' _).bind fun _ hd => yields_pure (r.showsLive_present hd)
  · exact (Service.getMany_live he' _).bind fun _ hd => yields_pure (r.showsLive_presentMany hd)
  · exact (yields_trivial _).bind fun _ _ =>
      (Service.createOne_live he' _).bind fun _ hd => yields_pure (r.showsLive_present hd)
  · exact (yields_trivial _).bind fun _ _ =>
      (Service.createMany_live he' _).bind fun _ hd => yields_pure (r.showsLive_presentMany hd)
  · exact (yields_trivial _).bind fun _ _ =>
      (Service.updateOne_live he' _ _).bind fun _ hd => yields_pure (r.showsLive_present hd)
  · exact (yields_trivial _).bind fun _ _ =>
      (Service.updateMany_live he' _ _).bind fun _ hd => yields_pure (r.showsLive_presentMany hd)
  · exact (yields_trivial _).bind fun res _ => yields_pure (r.showsLive_presentDelete res)
  · exact (yields_trivial _).bind fun res _ => yields_pure (r.showsLive_presentDelete res)
  · exact (yields_trivial _).bind fun _ _ =>
      (Service.duplicateOne_live he' _ _).bind fun _ hd => yields_pure (r.showsLive_present hd)
  · exact (yields_trivial _).bind fun _ _ => (Service.duplicateMany_live he' _ _).bind
      fun _ hd => yields_pure (r.showsLive_presentMany hd)
  · exact (yields_trivial _).bind fun _ _ =>
      (Service.replaceOne_live he' _ _).bind fun _ hd => yields_pure (r.showsLive_present hd)

theorem guard_keeps_eq (r : Route) (p : Option Principal) (id : String) (s : Storage) :
    Keeps (· = s) (r.guard p id) :=
  keeps_guard r p id (Persist.findOne_keeps_eq _ _ s)

section Tombstone

variable {r : Route} {s : Storage} {i : String} {T : Fields}
  (he : r.entity.softDeletable = true) (hm : s.MemDocsWf) (hq : s.SqlInv)
  (hid : s.StringIds r.entity.collectionName) (hT : (i, T) ∈ s.stored r.entity.collectionName)
  (hdel : Deleted T)
include he hm hq hid hT hdel

theorem handle_fails_on_id (p : Option Principal) {req : Request} (hreq : req.id = i)
    (hk : r.kind.targetsResource = true) (hne : r.kind ≠ .deleteOne) :
    FailsFrom s (r.handle p req) := by
  have he' : (r.service p).entity.softDeletable = true := he
  unfold handle
  refine failsFrom_bind (guard_keeps_eq r p req.id s) fun _ _ => ?_
  rw [hreq]
  split <;> rename_i hkind <;>
    simp only [hkind, RouteKind.targetsResource, Bool.false_eq_true, ne_eq, not_true_eq_false] at hk hne
  · exact (Service.getOne_fails he' hm hq hid hT hdel).bind _
  · exact failsFrom_bind (Service.keeps_lift _) fun _ _ =>
      (Service.updateOne_fails he' hm hq hid hT hdel _).bind _
  · exact failsFrom_bind (Service.keeps_lift _) fun _ _ =>
      (Service.duplicateOne_fails he' hm hq hid hT hdel _).bind _
  · exact failsFrom_bind (Service.keeps_lift _) fun _ _ =>
      (Service.replaceOne_fails he' hm hq hid hT hdel _).bind _

theorem handle_fails_on_ids (p : Option Principal) {req : Request} (hi : i ∈ req.ids)
    (hk : r.kind = .updateMany ∨ r.kind = .duplicateMany) : FailsFrom s (r.handle p req) := by
  have he' : (r.service p).entity.softDeletable = true := he
  unfold handle
  refine failsFrom_bind (guard_keeps_eq r p req.id s) fun _ _ => ?_
  rcases hk with hk | hk <;> simp only [hk]
  · exact failsFrom_bind (Service.keeps_lift _) fun _ _ =>
      (Service.updateMany_fails he' hm hq hid hT hdel hi _).bind _
  · exact failsFrom_bind (Service.keeps_lift _) fun _ _ =>
      (Service.duplicateMany_fails he' hm hq hid hT hdel hi _).bind _

theorem handle_redelete_unguarded (p : Option Principal) {req : Request} (hreq : req.id = i)
    (hk : r.kind = .deleteOne) (hab : r.ability = none) :
    ((r.handle p req).run s).1 = .ok (presentDelete {}) := by
  have he' : (r.service p).entity.softDeletable = true := he
  unfold handle guard
  simp only [hab, hk, pure_bind, hreq]
  rw [run_bind_fst (Service.deleteOne_zero he' hm hq hid hT hdel)]
  rfl

theorem handle_redelete_guarded (p : Option Principal) {req : Request} (hreq : req.id = i)
    (hk : r.kind = .deleteOne) (hab : r.ability.isSome = true) (hi : i ≠ "") :
    FailsFrom s (r.handle p req) := by
  have he' : (r.service p).entity.softDeletable = true := he
  obtain ⟨a, ha⟩ := Option.isSome_iff_exists.1 hab
  unfold handle guard
  refine FailsFrom.bind ?_ _
  simp only [ha, hk, hreq, RouteKind.targetsResource]
  -- the guard loads the addressed document before it checks the ability
  have hload : (!i.isEmpty && true) = true := by simpa [String.isEmpty_iff] using hi
  rw [if_pos hload]
  exact ((Service.getOne_fails he' hm hq hid hT hdel).map _).bind _

end Tombstone

end Route

namespace AuthService

theorem yields_issue (a : AuthService) (P : Principal) (c : Prop) [Decidable c] (e : Fault) :
    Yields (fun tp : String × Principal => tp.2 = P)
      (if c then (throw e >>= fun (_ : PUnit) => a.issue P >>= fun token => pure (token, P))
        else a.issue P >>= fun token => pure (token, P)) := by
  have hissue : Yields (fun tp : String × Principal => tp.2 = P)
      (a.issue P >>= fun token => pure (token, P)) :=
    (yields_trivial _).bind fun _ _ => yields_pure rfl
  split
  · exact (yields_trivial _).bind fun _ _ => hissue
  · exact hissue

theorem login_user {a : AuthService} {email pw tok : String} {s : Storage} {p : Principal}
    (h : ((a.login email pw).run s).1 = .ok (tok, p)) :
    ∃ u ∈ s.selected a.users.collectionName
      (Persist.scope a.users ⟨[(fieldEmail, .str (normalEmail email))]⟩), p.id = docId u := by
  unfold login at h
  dsimp only at h
  split at h
  · rw [run_bind] at h
    cases h
  · obtain ⟨u, hu, hrest⟩ := run_bind_eq_ok h
    -- every failure of the lookup is turned into a failure, so the lookup itself found `u`
    have hfound :
        ((Persist.findOne a.users ⟨[(fieldEmail, .str (normalEmail email))]⟩).run s).1 = .ok u := by
      rw [run_tryCatch] at hu
      split at hu
      · rename_i heq
        rw [heq]
        exact hu
      · split at hu <;> cases hu
    refine ⟨u, Storage.findOne_ok (Persist.normalized_ok hfound), ?_⟩
    have hp : p = { id := docId u, email := normalEmail email, roles := rolesOf u } :=
      yields_issue a _ _ _ _ _ hrest
    rw [hp]

theorem login_not_deleted {a : AuthService} {s : Storage} {i : String} {T : Fields}
    (he : a.users.softDeletable = true) (hm : s.MemDocsWf) (hq : s.SqlInv)
    (hT : (i, T) ∈ s.stored a.users.collectionName) (hdel : Deleted T) {email pw tok : String}
    {p : Principal} (h : ((a.login email pw).run s).1 = .ok (tok, p)) : p.id ≠ i := by
  obtain ⟨u, hu, hp⟩ := login_user h
  obtain ⟨q, hq', rfl, hsel⟩ := Storage.exists_of_mem_selected hu
  rw [hp, (s.stored_wf hm hq _).2 q hq']
  exact Persist.key_ne_of_live hm hq hT hdel hq' (Persist.live_of_selects_scope he hsel)

end AuthService

theorem Storage.docsWf_of_reaches {h : Host} {b : Backend} (hb : b = .memory {} ∨ b = .sqlite {})
    {allowed : StoreCall → Storage → Prop} {t : Storage}
    (hr : StoreCall.Reaches allowed { host := h, backend := b } t) : t.MemDocsWf ∧ t.SqlInv := by
  rcases hb with rfl | rfl
  · exact ⟨memDocsWf_of_reaches (fun m hm => MemoryStore.Inv.docsWf (memInv_new h m hm)) hr,
      sqlInv_of_reaches (fun q hq => by cases hq) hr⟩
  · exact ⟨memDocsWf_of_reaches (fun m hm => by cases hm) hr, sqlInv_of_reaches (sqlInv_new h) hr⟩

/-- What the routes and the login of a soft-deletable entity do with its document of key `i`,
marked deleted, in a storage `s`. -/
structure HidesDeleted (e : Entity) (s : Storage) (i : String) (T : Fields) : Prop where
  -- persistence reads, counts and changes only documents a live filter selects, never it
  unselected : ∀ f, T ∉ s.selected e.collectionName (Persist.scope e f)
  counts_updated : ∀ f change (res : UpdateResult),
    ((Persist.updateMany e f change).run s).1 = .ok res →
      res.modified = (s.selected e.collectionName (Persist.scope e f)).length
  counts_deleted : ∀ f (res : DeleteResult), ((Persist.deleteMany e f).run s).1 = .ok res →
    res.deleted = (s.selected e.collectionName (Persist.scope e f)).length
  aggregates_live : ∀ (pl : Pipeline) out, ((Persist.aggregate e pl).run s).1 = .ok out →
    out = pl.run (some (s.selected e.collectionName (Persist.scope e {}))) ∨
      out = some ((pl.run (some (s.selected e.collectionName (Persist.scope e {})))).getD [])
  -- deleting it again by its id through persistence deletes nothing
  redelete_persisted : ∀ res : DeleteResult,
    ((Persist.deleteOne e (Filter.byId i)).run s).1 = .ok res → res = {}
  -- no route changes or removes it, from any storage that holds it
  stays : ∀ r : Route, r.entity = e → ∀ p req,
    Keeps (Storage.Holding e.collectionName i T) (r.handle p req)
  -- routes answer with live documents or counts only
  shows_live : ∀ r : Route, r.entity = e → ∀ p req, Yields r.ShowsLive (r.handle p req)
  -- the routes on one document, deletion apart, fail on its id
  misses_id : ∀ r : Route, r.entity = e → r.kind.targetsResource = true → r.kind ≠ .deleteOne →
    ∀ p (req : Request), req.id = i → FailsFrom s (r.handle p req)
  -- updating or duplicating several documents fails on a list that names it
  misses_ids : ∀ r : Route, r.entity = e → (r.kind = .updateMany ∨ r.kind = .duplicateMany) →
    ∀ p (req : Request), i ∈ req.ids → FailsFrom s (r.handle p req)
  -- deleting it again through an unguarded route counts nothing deleted
  redelete_unguarded : ∀ r : Route, r.entity = e → r.kind = .deleteOne → r.ability = none →
    ∀ p (req : Request), req.id = i → ((r.handle p req).run s).1 = .ok (Route.presentDelete {})
  -- through a guarded route it fails instead: the guard loads the document and does not find it
  redelete_guarded : ∀ r : Route, r.entity = e → r.kind = .deleteOne → r.ability.isSome = true →
    i ≠ "" → ∀ p (req : Request), req.id = i → FailsFrom s (r.handle p req)
  -- login never signs in as it
  login_other : ∀ a : AuthService, a.users = e → ∀ email pw tok (p : Principal),
    ((a.login email pw).run s).1 = .ok (tok, p) → p.id ≠ i

end CrudRoutes
