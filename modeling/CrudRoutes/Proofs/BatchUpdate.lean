import Mathlib
import CrudRoutes.Proofs.Deletion

/-!
Batch updates and duplicates are checked before they write. Updating or duplicating the documents
of a list of distinct identities first reads the live documents the list selects and compares their
number with the list's length. The read selects, in the collection's order, exactly the documents
stored under the identities (`Storage.under`), so the two numbers agree exactly when every identity
names a live document (`length_selected_byIds_eq_iff`).

The main statement (`batch_writes_check_every_id`) is about a storage reached from a new store by
the writes of persistence. Each operation fails with the missing-document fault, writing nothing,
exactly when reads go through and some identity names no live document; no other run of it reports
a missing document. When every identity names a live document, the update revises exactly the named
documents by the writable part of the change (`Storage.revision`, `UpdateRun`), re-reads them in the
collection's order and answers them, unless the store refuses it; the duplicate inserts one copy of
each named document, without its managed fields and with the writable overrides (`BatchRun`).
-/

namespace CrudRoutes

open StoreM Persist

namespace Fields

theorem get?_append (xs ys : Fields) (k : String) :
    get? (xs ++ ys) k = (get? xs k).or (get? ys k) := by
  induction xs with
  | nil => rfl
  | cons p rest ih =>
    obtain ⟨k', v⟩ := p
    by_cases hk : k' = k <;> simp [get?, hk, ih]

theorem get?_foldl_set (ps current : Fields) (k : String) :
    get? (ps.foldl (fun acc (kv : String × Value) => set acc kv.1 kv.2) current) k =
      (get? ps.reverse k).or (get? current k) := by
  induction ps generalizing current with
  | nil => rfl
  | cons p rest ih =>
    obtain ⟨k', v⟩ := p
    rw [List.foldl_cons, ih, List.reverse_cons, get?_append, Option.or_assoc]
    congr 1
    by_cases hk : k' = k
    · subst hk
      simp [get?]
    · simp [get?, hk, get?_set_of_ne _ _ (Ne.symm hk)]

theorem get?_foldl_merge_of_ne (set current : Fields) {k : String} (hi : k ≠ fieldId)
    (hc : k ≠ fieldCreatedAt) :
    get? (set.foldl (fun acc (kv : String × Value) =>
      if kv.1 == fieldId || kv.1 == fieldCreatedAt then acc else Fields.set acc kv.1 kv.2)
      current) k = (get? set.reverse k).or (get? current k) := by
  induction set generalizing current with
  | nil => rfl
  | cons p rest ih =>
    obtain ⟨k', v⟩ := p
    rw [List.foldl_cons, ih, List.reverse_cons, get?_append, Option.or_assoc]
    congr 1
    by_cases hk : k' = k
    · subst hk
      simp [get?, hi, hc]
    · split <;> simp [get?, hk, get?_set_of_ne _ _ (Ne.symm hk)]

theorem get?_mergeChange (now : Time) (current set : Fields) {k : String} (hi : k ≠ fieldId)
    (hc : k ≠ fieldCreatedAt) (hu : k ≠ fieldUpdatedAt) :
    get? (mergeChange now current set) k = (get? set.reverse k).or (get? current k) := by
  unfold mergeChange
  rw [get?_set_of_ne _ _ hu]
  exact get?_foldl_merge_of_ne set current hi hc

end Fields

namespace Persist

theorem get?_writable (doc : Fields) (k : String) :
    Fields.get? (writable doc) k = if k ∈ baseExclusions then none else Fields.get? doc k := by
  split
  · exact get?_withoutFields_of_mem doc ‹_›
  · exact get?_withoutFields_of_not_mem doc ‹_›

theorem get?_reverse_writable (doc : Fields) (k : String) :
    Fields.get? (writable doc).reverse k =
      if k ∈ baseExclusions then none else Fields.get? doc.reverse k := by
  rw [writable, withoutFields, ← List.filter_reverse]
  exact get?_writable doc.reverse k

theorem get?_mergeChange_writable (now : Time) (d change : Fields) (k : String) :
    Fields.get? (mergeChange now d (writable change)) k =
      if k = fieldUpdatedAt then some (.time now)
      else if k ∈ baseExclusions then Fields.get? d k
      else (Fields.get? change.reverse k).or (Fields.get? d k) := by
  by_cases hu : k = fieldUpdatedAt
  · rw [if_pos hu, hu, Fields.get?_mergeChange_updatedAt]
  rw [if_neg hu]
  by_cases hk : k ∈ baseExclusions
  · rw [if_pos hk]
    exact Fields.get?_mergeChange_of_not_mem now d _ (not_mem_writable_of_mem hk change) hu
  · have hi : k ≠ fieldId := fun h => hk (by rw [h]; decide)
    have hc : k ≠ fieldCreatedAt := fun h => hk (by rw [h]; decide)
    rw [if_neg hk, Fields.get?_mergeChange now d _ hi hc hu, get?_reverse_writable, if_neg hk]

end Persist

namespace Service

theorem get?_copyWith (src overrides : Fields) (k : String) :
    Fields.get? (copyWith src overrides) k =
      if k ∈ baseExclusions then none
      else (Fields.get? overrides.reverse k).or (Fields.get? src k) := by
  have h := Fields.get?_foldl_set (writable overrides) (writable src) k
  rw [get?_reverse_writable, get?_writable] at h
  refine h.trans ?_
  split <;> rfl

end Service

namespace Storage

theorem get?_keep (s : Storage) (d : Fields) (k : String) :
    Fields.get? (s.keep d) k = (Fields.get? d k).map s.keepValue := by
  unfold keep keepValue
  cases s.backend with
  | memory => simp
  | sqlite => exact get?_storedDoc d k

theorem get?_revision_writable (s : Storage) (change d : Fields) (k : String) :
    Fields.get? (s.revision (writable change) d) k =
      (if k = fieldUpdatedAt then some (.time s.host.now)
        else if k ∈ baseExclusions then Fields.get? d k
        else (Fields.get? change.reverse k).or (Fields.get? d k)).map s.keepValue := by
  rw [revision, get?_keep, get?_mergeChange_writable]

/-- Identity `i` names a live document of entity `e` in `s`: one stored under it that the
entity's reads see, which for an entity that soft-deletes is one not marked deleted. -/
def NamesLive (s : Storage) (e : Entity) (i : String) : Prop :=
  ∃ d, (i, d) ∈ s.stored e.collectionName ∧ (e.softDeletable = true → Live d)

def Lacks (s : Storage) (e : Entity) (ids : List String) : Prop :=
  s.ReadsWork ∧ ∃ i ∈ ids, ¬ s.NamesLive e i

/-- The documents a collection stores under a list of identities, in the collection's order. -/
def under (s : Storage) (name : String) (ids : List String) : List Fields :=
  ((s.stored name).filter (·.1 ∈ ids)).map Prod.snd

theorem stringIds_of_reaches {name : String} {soft : Bool} {h : Host} {b : Backend}
    (hb : b = .memory {} ∨ b = .sqlite {}) {s : Storage}
    (hr : StoreCall.Reaches (Persist.Made name soft) { host := h, backend := b } s) :
    s.StringIds name := by
  intro p hp
  exact ⟨p.1, (Persist.written_of_reaches hb hr p.1 p.2 hp).id⟩

variable {s : Storage}

theorem find_run_of_readsWork (h : s.ReadsWork) (name : String) (f : Filter) :
    (find name f).run s = (.ok (s.selected name f), s) := by
  obtain ⟨hr, hc⟩ := h
  have hok : ((find name f).run s).1 = .ok (s.selected name f) := by
    have hrun := find_run name f s
    cases hb : s.backend with
    | memory m =>
      have hm : ((find name f).run s).1 = .ok (m.findAll name f) := by rw [hrun, hr, hb]
      rw [hm, ← find_ok hm]
    | sqlite q =>
      have hq : ((find name f).run s).1 = .ok (q.load name f 0) := by
        rw [hrun, hr, hb]
        simp [SqliteStore.findAll, hc q hb]
      rw [hq, ← find_ok hq]
  have hs : ((find name f).run s).2 = s := by
    rw [find_run, hr]
    cases s.backend <;> rfl
  exact Prod.ext hok hs

theorem find_fails_of_not_readsWork (h : ¬ s.ReadsWork) (name : String) (f : Filter) :
    ∃ r, r.Raised ∧ (find name f).run s = (.error r, s) := by
  rw [find_run]
  cases hr : s.failReads with
  | some msg => exact ⟨_, Fault.raised_plain msg, rfl⟩
  | none =>
    -- with the read switch off, only a closed connection stops the read
    have hc : ∃ q, s.backend = .sqlite q ∧ q.closed = true := by
      by_contra hno
      refine h ⟨hr, fun q hq => ?_⟩
      simpa using fun hc => hno ⟨q, hq, hc⟩
    obtain ⟨q, hq, hc⟩ := hc
    dsimp only
    rw [hq]
    exact ⟨_, SqliteStore.closedFault_raised, by simp [SqliteStore.findAll, hc]⟩

theorem get?_id_revision_writable (change d : Fields) {j : String}
    (hd : Fields.get? d fieldId = some (.str j)) :
    Fields.get? (s.revision (Persist.writable change) d) fieldId = some (.str j) := by
  have h := congrArg Stamps.id (s.stamps_keep (mergeChange s.host.now d (Persist.writable change)))
  simp only [Fields.stamps, Stamps.map] at h
  rw [revision, h, Fields.get?_mergeChange_id, hd]
  simp

theorem live_revision_writable (change d : Fields) :
    Live (s.revision (Persist.writable change) d) ↔ Live d := by
  unfold revision keep
  split
  · exact live_mergeChange_writable
  · exact live_storedDoc.trans live_mergeChange_writable

end Storage

namespace Persist

theorem find_run_of_readsWork {s : Storage} (h : s.ReadsWork) (e : Entity) (f : Filter) :
    (find e f).run s = (.ok (s.selected e.collectionName (scope e f)), s) := by
  rw [find, run_normalized, Storage.find_run_of_readsWork h]

theorem find_fails_of_not_readsWork {s : Storage} (h : ¬ s.ReadsWork) (e : Entity) (f : Filter) :
    ∃ r, r.Reported ∧ (find e f).run s = (.error r, s) := by
  obtain ⟨r, hr, hrun⟩ := Storage.find_fails_of_not_readsWork h e.collectionName (scope e f)
  exact ⟨r.normalize, hr.reported, by rw [find, run_normalized, hrun]⟩

theorem mem_conditions_scope_single {e : Entity} {k : String} {v : Value}
    (hk : k ≠ fieldIsDeleted) {c : String × Value} :
    c ∈ (scope e ⟨[(k, v)]⟩).conditions ↔
      c = (k, v) ∨ (e.softDeletable = true ∧ c = (fieldIsDeleted, .bool false)) := by
  unfold scope
  cases e.softDeletable
  · simp
  · rw [if_pos rfl]
    simp only [Filter.add, true_and]
    constructor
    · intro hc
      obtain ⟨k', v'⟩ := c
      rcases Fields.mem_set hc with ⟨rfl, rfl⟩ | hc
      · exact .inr rfl
      · exact .inl (List.mem_singleton.1 hc)
    · rintro (rfl | rfl)
      · exact Fields.mem_set_of_ne (List.mem_singleton_self _) hk
      · exact Fields.mem_of_get? (Fields.get?_set_self _ _ _)

theorem selects_scope_single {e : Entity} {k : String} {v : Value} (hk : k ≠ fieldIsDeleted)
    {d : Fields} :
    (scope e ⟨[(k, v)]⟩).selects d = true ↔
      Filter.accepts v (Filter.fieldOf d k) = true ∧ (e.softDeletable = true → Live d) := by
  have hdel : Filter.accepts (.bool false) (Filter.fieldOf d fieldIsDeleted) = true ↔ Live d :=
    Value.looseEq_bool_false
  rw [Filter.selects, List.all_eq_true]
  constructor
  · intro h
    exact ⟨h _ ((mem_conditions_scope_single hk).2 (.inl rfl)),
      fun hs => hdel.1 (h _ ((mem_conditions_scope_single hk).2 (.inr ⟨hs, rfl⟩)))⟩
  · rintro ⟨hv, hl⟩ c hc
    rcases (mem_conditions_scope_single hk).1 hc with rfl | ⟨hs, rfl⟩
    · exact hv
    · exact hdel.2 (hl hs)

theorem selects_scope_byIds {e : Entity} {ids : List String} {d : Fields} {j : String}
    (hd : Fields.get? d fieldId = some (.str j)) :
    (scope e (Filter.byIds ids)).selects d = true ↔
      j ∈ ids ∧ (e.softDeletable = true → Live d) := by
  have hid : Filter.accepts (.anyOf (ids.map .str)) (Filter.fieldOf d fieldId) = true ↔
      j ∈ ids := by
    simp [Filter.accepts, Filter.fieldOf, hd, Value.looseEq_str]
  exact (selects_scope_single (by decide)).trans (and_congr_left fun _ => hid)

end Persist

/-! The read that checks a list of distinct identities, in a storage whose documents have string
identifiers. -/

section Checked

variable {s : Storage} {e : Entity} {ids : List String}
  (hm : s.MemDocsWf) (hq : s.SqlInv) (hid : s.StringIds e.collectionName)
include hm hq hid

theorem selects_stored_iff {p : String × Fields} (hp : p ∈ s.stored e.collectionName) :
    (scope e (Filter.byIds ids)).selects p.2 = true ↔
      p.1 ∈ ids ∧ (e.softDeletable = true → Live p.2) :=
  selects_scope_byIds (Storage.get?_id_of_stored hm hq hid hp)

theorem selects_stored_iff_mem (hall : ∀ i ∈ ids, s.NamesLive e i) {p : String × Fields}
    (hp : p ∈ s.stored e.collectionName) :
    (scope e (Filter.byIds ids)).selects p.2 = true ↔ p.1 ∈ ids := by
  rw [selects_stored_iff hm hq hid hp]
  refine ⟨And.left, fun hi => ⟨hi, fun hsoft => ?_⟩⟩
  obtain ⟨d, hd, hlive⟩ := hall p.1 hi
  -- one document per identity: `p` is the live one
  have hpd : p = (p.1, d) :=
    List.inj_on_of_nodup_map (s.stored_wf hm hq _).1 hp hd rfl
  rw [hpd]
  exact hlive hsoft

/-- The live documents of a list of distinct identities are as many as the identities exactly when
every identity names a live document. -/
theorem length_selected_byIds_eq_iff (hnd : ids.Nodup) :
    (s.selected e.collectionName (scope e (Filter.byIds ids))).length = ids.length ↔
      ∀ i ∈ ids, s.NamesLive e i := by
  set L := s.stored e.collectionName
  set K := (L.filter fun p => (scope e (Filter.byIds ids)).selects p.2).map Prod.fst
  have hlen : (s.selected e.collectionName (scope e (Filter.byIds ids))).length = K.length := by
    simp [Storage.selected, K, L, List.filter_map, Function.comp_def]
  -- the identities selected are distinct and in the list
  have hKnd : K.Nodup := (s.stored_wf hm hq _).1.sublist (List.filter_sublist.map Prod.fst)
  have hKids : K ⊆ ids := by
    intro i hi
    obtain ⟨p, hp, rfl⟩ := List.mem_map.1 hi
    obtain ⟨hpL, hsel⟩ := List.mem_filter.1 hp
    exact ((selects_stored_iff hm hq hid hpL).1 hsel).1
  -- and an identity of the list is selected exactly when it names a live document
  have hnames : ∀ i ∈ ids, i ∈ K ↔ s.NamesLive e i := by
    intro i hi
    simp only [K, List.mem_map, List.mem_filter]
    constructor
    · rintro ⟨p, ⟨hpL, hsel⟩, rfl⟩
      exact ⟨p.2, hpL, ((selects_stored_iff hm hq hid hpL).1 hsel).2⟩
    · rintro ⟨d, hdL, hlive⟩
      exact ⟨(i, d), ⟨hdL, (selects_stored_iff hm hq hid hdL).2 ⟨hi, hlive⟩⟩, rfl⟩
  rw [hlen]
  constructor
  · intro heq i hi
    have hperm := (hKnd.subperm hKids).perm_of_length_le heq.ge
    exact (hnames i hi).1 (hperm.symm.subset hi)
  · intro hall
    have hsub : ids ⊆ K := fun i hi => (hnames i hi).2 (hall i hi)
    exact le_antisymm (hKnd.subperm hKids).length_le (hnd.subperm hsub).length_le

theorem length_selected_byIds_ne (hnd : ids.Nodup) (h : ∃ i ∈ ids, ¬ s.NamesLive e i) :
    (s.selected e.collectionName (scope e (Filter.byIds ids))).length ≠ ids.length := by
  obtain ⟨i, hi, hno⟩ := h
  exact fun heq => hno ((length_selected_byIds_eq_iff hm hq hid hnd).1 heq i hi)

variable (hall : ∀ i ∈ ids, s.NamesLive e i)
include hall

theorem selected_byIds_eq_under :
    s.selected e.collectionName (scope e (Filter.byIds ids)) = s.under e.collectionName ids := by
  unfold Storage.selected Storage.under
  rw [List.filter_map]
  congr 1
  apply List.filter_congr
  intro p hp
  rw [Bool.eq_iff_iff, Function.comp_apply, selects_stored_iff_mem hm hq hid hall hp,
    decide_eq_true_iff]

theorem perm_under (hnd : ids.Nodup) : ((s.under e.collectionName ids).map docId).Perm ids := by
  rw [← selected_byIds_eq_under hm hq hid hall]
  have hsub : (s.selected e.collectionName (scope e (Filter.byIds ids))).map docId ⊆ ids := by
    intro i hi
    obtain ⟨d, hd, rfl⟩ := List.mem_map.1 hi
    obtain ⟨p, hp, rfl, hsel⟩ := Storage.exists_of_mem_selected hd
    rw [(s.stored_wf hm hq _).2 p hp]
    exact ((selects_stored_iff hm hq hid hp).1 hsel).1
  have hlen := (length_selected_byIds_eq_iff hm hq hid hnd).2 hall
  exact ((s.nodup_ids_selected hm hq _).subperm hsub).perm_of_length_le (by simp [hlen])

theorem selected_byIds_revised (hnd : ids.Nodup) {s' : Storage} {next : Fields → Fields}
    (hr : s.RevisedFrom s' e.collectionName next ((s.under e.collectionName ids).map docId))
    (hid' : ∀ d j, Fields.get? d fieldId = some (.str j) → Fields.get? (next d) fieldId = some (.str j))
    (hlive : ∀ d, Live (next d) ↔ Live d) :
    s'.selected e.collectionName (scope e (Filter.byIds ids)) =
      (s.under e.collectionName ids).map next := by
  have hmem : ∀ i, i ∈ (s.under e.collectionName ids).map docId ↔ i ∈ ids :=
    fun i => (perm_under hm hq hid hall hnd).mem_iff
  unfold Storage.selected Storage.under
  rw [hr.stored, List.map_map, List.filter_map, List.map_map]
  simp only [hmem]
  -- the revised entries are those of the identities, and no other entry is selected
  rw [List.filter_congr (q := fun p : String × Fields => decide (p.1 ∈ ids)) fun p hp => ?_]
  · apply List.map_congr_left
    intro p hp
    have hi : p.1 ∈ ids := by simpa using (List.mem_filter.1 hp).2
    simp [hi]
  · have hpid := Storage.get?_id_of_stored hm hq hid hp
    by_cases hi : p.1 ∈ ids
    · have hsel := (selects_stored_iff_mem hm hq hid hall hp).2 hi
      rw [selects_stored_iff hm hq hid hp] at hsel
      simp only [Function.comp_apply, hi, if_true, decide_true]
      exact (selects_scope_byIds (hid' _ _ hpid)).2 ⟨hi, fun hs => (hlive _).2 (hsel.2 hs)⟩
    · simp only [Function.comp_apply, hi, if_false, decide_false]
      exact Bool.eq_false_iff.2 fun hsel => hi ((selects_stored_iff hm hq hid hp).1 hsel).1

end Checked

namespace StoreM

theorem Raises.of_run {α : Type} {E : Fault → Prop} {x : StoreM α} (hx : Raises E x) {s s' : Storage}
    {f : Fault} (h : x.run s = (.error f, s')) : E f :=
  hx s f (by rw [h])

end StoreM

/-- What a batch update through a service answers and leaves from `s`, the documents `named` of
collection `name` each revised by the change `set` (`Storage.revision`), with the after-save step
`after`: a fault of the store as persistence reports it, for a cause, with none of the documents
revised or, on the memory store, those before the refused one; or all of them revised, every other
document and collection as it was, and then the after-save step on the revised documents, read back
in the collection's order, which are the answer. The causes are reads or writes that do not go
through, and a revised version that the store cannot encode or that holds a unique key. -/
inductive UpdateRun (s : Storage) (name : String) (named : List Fields) (set : Fields)
    (after : List Fields → StoreM Unit) : Except Fault (List Fields) × Storage → Prop
  | refused {f : Fault} {s' : Storage} (j : Nat) : f.Reported →
      j = 0 ∨ ((∃ m, s.backend = .memory m) ∧ j < named.length) →
      (¬ s.ReadsWork ∨ (∃ msg, s.failWrites = some msg) ∨
        ∃ d ∈ named, s.Unencodable (mergeChange s.host.now d set) ∨
          ∃ k, MemCollection.Holds (s.patterns name) (s.revision set d) k) →
      s.RevisedFrom s' name (s.revision set) ((named.take j).map docId) →
      UpdateRun s name named set after (.error f, s')
  | revised {s₁ : Storage} : s.RevisedFrom s₁ name (s.revision set) (named.map docId) →
      UpdateRun s name named set after
        ((after (named.map (s.revision set)) >>= fun _ => pure (named.map (s.revision set))).run s₁)

/-- A batch operation run from `s` refuses a list of identities as missing exactly when reads go
through and one of them names no live document: it then fails with the missing-document fault and
writes nothing. No other run of it reports a missing document. -/
structure RefusesMissing {α : Type} (s : Storage) (e : Entity) (ids : List String)
    (out : Except Fault α × Storage) : Prop where
  refused : out = (.error Fault.notFound, s) ↔ s.Lacks e ids
  only : ∀ f s', out = (.error f, s') → f.Missing → s.Lacks e ids

theorem RefusesMissing.of_cases {α : Type} {s : Storage} {e : Entity} {ids : List String}
    {out : Except Fault α × Storage}
    (hfail : ¬ s.ReadsWork → ∃ r, r.Reported ∧ out = (.error r, s))
    (hlacks : s.Lacks e ids → out = (.error Fault.notFound, s))
    (hnamed : s.ReadsWork → (∀ i ∈ ids, s.NamesLive e i) →
      ∀ f s', out = (.error f, s') → ¬ f.Missing) :
    RefusesMissing s e ids out := by
  have honly : ∀ f s', out = (.error f, s') → f.Missing → s.Lacks e ids := by
    intro f s' hout hf
    by_cases hrw : s.ReadsWork
    · refine ⟨hrw, ?_⟩
      by_contra hno
      push Not at hno
      exact hnamed hrw hno f s' hout hf
    · obtain ⟨r, hr, hout'⟩ := hfail hrw
      rw [hout'] at hout
      cases hout
      exact absurd hf hr.not_missing
  exact ⟨⟨fun h => honly _ _ h Fault.missing_notFound, hlacks⟩, honly⟩

namespace Service

variable {sv : Service} {s : Storage} {ids : List String}

variable (sv) in
theorem requireAll_run_of_not_readsWork (h : ¬ s.ReadsWork) (ids : List String) :
    ∃ r, r.Reported ∧ (sv.requireAll ids).run s = (.error r, s) := by
  obtain ⟨r, hr, hfind⟩ := Persist.find_fails_of_not_readsWork h sv.entity (Filter.byIds ids)
  exact ⟨r, hr, by rw [requireAll, run_bind, hfind]⟩

variable (sv) in
theorem updateMany_run_of_not_readsWork (h : ¬ s.ReadsWork) (ids : List String) (change : Fields) :
    ∃ r, r.Reported ∧ (sv.updateMany ids change).run s = (.error r, s) := by
  obtain ⟨r, hr, hreq⟩ := requireAll_run_of_not_readsWork sv h ids
  exact ⟨r, hr, by unfold updateMany; rw [run_bind, hreq]⟩

variable (sv) in
theorem duplicateMany_run_of_not_readsWork (h : ¬ s.ReadsWork) (ids : List String)
    (overrides : Fields) :
    ∃ r, r.Reported ∧ (sv.duplicateMany ids overrides).run s = (.error r, s) := by
  obtain ⟨r, hr, hfind⟩ := Persist.find_fails_of_not_readsWork h sv.entity (Filter.byIds ids)
  exact ⟨r, hr, by unfold duplicateMany; rw [run_bind, hfind]⟩

section Checked

variable (hm : s.MemDocsWf) (hq : s.SqlInv) (hid : s.StringIds sv.entity.collectionName)
  (hnd : ids.Nodup)
include hm hq hid hnd

theorem requireAll_run_of_lacks (h : s.Lacks sv.entity ids) :
    (sv.requireAll ids).run s = (.error Fault.notFound, s) := by
  have hne := length_selected_byIds_ne hm hq hid hnd h.2
  rw [requireAll, run_bind_of_run (Persist.find_run_of_readsWork h.1 _ _),
    if_pos (bne_iff_ne.2 hne)]
  rfl

theorem requireAll_run_of_named (hrw : s.ReadsWork) (hall : ∀ i ∈ ids, s.NamesLive sv.entity i) :
    (sv.requireAll ids).run s = (.ok (), s) := by
  have heq := (length_selected_byIds_eq_iff hm hq hid hnd).2 hall
  rw [requireAll, run_bind_of_run (Persist.find_run_of_readsWork hrw _ _), heq]
  simp

theorem updateMany_run_of_lacks (h : s.Lacks sv.entity ids) (change : Fields) :
    (sv.updateMany ids change).run s = (.error Fault.notFound, s) := by
  unfold updateMany
  rw [run_bind, requireAll_run_of_lacks hm hq hid hnd h]

theorem duplicateMany_run_of_lacks (h : s.Lacks sv.entity ids) (overrides : Fields) :
    (sv.duplicateMany ids overrides).run s = (.error Fault.notFound, s) := by
  have hne := length_selected_byIds_ne hm hq hid hnd h.2
  unfold duplicateMany
  rw [run_bind_of_run (Persist.find_run_of_readsWork h.1 _ _)]
  dsimp only
  rw [if_pos (bne_iff_ne.2 hne)]
  rfl

theorem updateMany_not_missing (hrw : s.ReadsWork) (hall : ∀ i ∈ ids, s.NamesLive sv.entity i)
    {change : Fields} {f : Fault} {s' : Storage}
    (hrun : (sv.updateMany ids change).run s = (.error f, s')) : ¬ f.Missing := by
  -- the check passes; the write, the read after it and the after-save step remain
  unfold updateMany at hrun
  rw [run_bind_of_run (requireAll_run_of_named hm hq hid hnd hrw hall)] at hrun
  refine Raises.of_run (E := fun f => ¬ f.Missing) ?_ hrun
  exact ((Persist.raises_updateMany _ _ _).mono fun _ h => h.not_missing).bind fun _ =>
    ((Persist.raises_find _ _).mono fun _ h => h.not_missing).bind fun updated =>
      (raises_afterSave sv updated).bind fun _ => raises_pure _

theorem duplicateMany_not_missing (hrw : s.ReadsWork) (hall : ∀ i ∈ ids, s.NamesLive sv.entity i)
    {overrides : Fields} {f : Fault} {s' : Storage}
    (hrun : (sv.duplicateMany ids overrides).run s = (.error f, s')) : ¬ f.Missing := by
  have heq := (length_selected_byIds_eq_iff hm hq hid hnd).2 hall
  -- the check passes; the insertion of the copies and the after-save step remain
  unfold duplicateMany at hrun
  rw [run_bind_of_run (Persist.find_run_of_readsWork hrw _ _)] at hrun
  dsimp only at hrun
  rw [heq] at hrun
  simp only [bne_self_eq_false, Bool.false_eq_true, if_false] at hrun
  refine Raises.of_run (E := fun f => ¬ f.Missing) ?_ hrun
  exact ((Persist.raises_createMany _ _).mono fun _ h => h.not_missing).bind fun created =>
    (raises_afterSave sv created).bind fun _ => raises_pure _

theorem updateMany_refusesMissing (change : Fields) :
    RefusesMissing s sv.entity ids ((sv.updateMany ids change).run s) :=
  .of_cases (fun hrw => sv.updateMany_run_of_not_readsWork hrw ids change)
    (fun h => updateMany_run_of_lacks hm hq hid hnd h change)
    (fun hrw hall _ _ => updateMany_not_missing hm hq hid hnd hrw hall)

theorem duplicateMany_refusesMissing (overrides : Fields) :
    RefusesMissing s sv.entity ids ((sv.duplicateMany ids overrides).run s) :=
  .of_cases (fun hrw => sv.duplicateMany_run_of_not_readsWork hrw ids overrides)
    (fun h => duplicateMany_run_of_lacks hm hq hid hnd h overrides)
    (fun hrw hall _ _ => duplicateMany_not_missing hm hq hid hnd hrw hall)

theorem updateMany_run_of_named (hall : ∀ i ∈ ids, s.NamesLive sv.entity i) (change : Fields) :
    UpdateRun s sv.entity.collectionName (s.under sv.entity.collectionName ids)
      (Persist.writable change) sv.afterSave ((sv.updateMany ids change).run s) := by
  by_cases hrw : s.ReadsWork
  · unfold updateMany
    rw [run_bind_of_run (requireAll_run_of_named hm hq hid hnd hrw hall), run_bind,
      Persist.updateMany, run_normalized, Storage.updateMany]
    have hu : Storage.Updates s sv.entity.collectionName _ _ _ :=
      Storage.updates_update hm hq (scope sv.entity (Filter.byIds ids)) (Persist.writable change) 0
    rw [Storage.selectedUpTo_zero, selected_byIds_eq_under hm hq hid hall] at hu
    generalize (Storage.update sv.entity.collectionName (scope sv.entity (Filter.byIds ids))
      (Persist.writable change) 0).run s = out at hu ⊢
    cases hu with
    | revised hc hr =>
      -- the read after the write finds the revised documents in the collection's order
      dsimp only
      rw [run_bind_of_run (Persist.find_run_of_readsWork (hr.reads.2 hrw) _ _),
        selected_byIds_revised hm hq hid hall hnd hr
          (fun d _ hd => Storage.get?_id_revision_writable change d hd)
          (Storage.live_revision_writable change)]
      exact .revised hr
    | refused j hf hj hcause hr =>
      dsimp only
      refine .refused j hf.reported hj ?_ hr
      rcases hcause with hw | ⟨q, hb, hc⟩ | hk
      · exact .inr (.inl hw)
      · exact .inl fun h => by simp [h.2 q hb] at hc
      · exact .inr (.inr hk)
  · obtain ⟨r, hr, hrun⟩ := sv.updateMany_run_of_not_readsWork hrw ids change
    rw [hrun]
    exact .refused 0 hr (.inl rfl) (.inl hrw) (.of_same (fun _ => rfl) Iff.rfl)

end Checked

theorem duplicateMany_run_of_named (hm : s.MemDocsWf) (hsound : s.MemSound) (hq : s.SqlInv)
    (hid : s.StringIds sv.entity.collectionName) (hall : ∀ i ∈ ids, s.NamesLive sv.entity i)
    (overrides : Fields) :
    BatchRun s sv.entity (· = (s.under sv.entity.collectionName ids).map (copyWith · overrides))
      sv.afterSave id ((sv.duplicateMany ids overrides).run s) :=
  (sv.duplicateMany_batch s hsound ids overrides).mono fun _ ⟨_, hfound, _, hds⟩ => by
    rw [hds, Storage.find_ok (Persist.normalized_ok hfound), selected_byIds_eq_under hm hq hid hall]

end Service

end CrudRoutes
