import Mathlib
import CrudRoutes.Proofs.Store.ReadBack
import CrudRoutes.Proofs.ValueOrder

/-!
What an aggregation pipeline does to a list of documents, stage by stage.

A stage keeps the documents its filter selects, sorts them stably by its keys, drops the first
`skip` of them, keeps at most `limit` (none when `limit` is not positive), keeps of each document
the projected fields it has, and replaces the list by its count. An absent batch counts as an
empty one.

Documents compare on a sort key by the standing of the key's field (`Value.standing`), reversed
for a descending key, and on several keys lexicographically (`Stage.compareBy`); this is a total
preorder. Where no field is NaN, the stage's own sort order is this one (`before_eq_compareBy`),
so the merge sort returns the stable sorted permutation of its input (`sortedBy_mergeSort`).
Instants stand where their UTC timestamp text stands, so two instants whose texts have fractions
of different lengths need not sort in time order (`later_instant_sorts_first`).
-/

namespace CrudRoutes

/-- A document whose fields all have a place in the sort order. -/
def Fields.Comparable (d : Fields) : Prop :=
  ∀ k v, (k, v) ∈ d → v.Comparable

theorem Value.comparable_null : Value.null.Comparable := by
  intro x h
  cases h

theorem Fields.Comparable.fieldOf {d : Fields} (hd : d.Comparable) (k : String) :
    (Filter.fieldOf d k).Comparable := by
  unfold Filter.fieldOf
  cases h : Fields.get? d k with
  | none => exact Value.comparable_null
  | some v => exact hd k v (Fields.mem_of_get? h)

namespace SortKey

def compareDocs (k : SortKey) : Fields → Fields → Ordering :=
  if k.desc then fun a b => compareOn (fun d => (Filter.fieldOf d k.field).standing) b a
  else compareOn fun d => (Filter.fieldOf d k.field).standing

theorem compareDocs_eq (k : SortKey) (a b : Fields) :
    k.compareDocs a b =
      if k.desc then (compare (Filter.fieldOf a k.field).standing (Filter.fieldOf b k.field).standing).swap
      else compare (Filter.fieldOf a k.field).standing (Filter.fieldOf b k.field).standing := by
  unfold compareDocs
  split
  · exact Std.OrientedCmp.eq_swap
  · rfl

instance (k : SortKey) : Std.TransCmp k.compareDocs := by
  unfold compareDocs
  split <;> infer_instance

end SortKey

namespace Stage

/-- Documents compared on sort keys lexicographically. -/
def compareBy : List SortKey → Fields → Fields → Ordering
  | [] => fun _ _ => .eq
  | k :: rest => compareLex k.compareDocs (compareBy rest)

instance transCmp_compareBy : (keys : List SortKey) → Std.TransCmp (compareBy keys)
  | [] => { eq_swap := rfl, isLE_trans := fun _ _ => rfl }
  | k :: rest =>
    have := transCmp_compareBy rest
    inferInstanceAs (Std.TransCmp (compareLex k.compareDocs (compareBy rest)))

/-- Where the fields are not NaN, a stage puts one document before another exactly when they
compare below on its keys. -/
theorem before_eq_compareBy {a b : Fields} (ha : a.Comparable) (hb : b.Comparable) :
    (keys : List SortKey) → before keys a b = (compareBy keys a b == .lt)
  | [] => rfl
  | k :: rest => by
    simp only [before, compareBy, compareLex, SortKey.compareDocs_eq,
      Value.order_eq_compare (ha.fieldOf k.field) (hb.fieldOf k.field), before_eq_compareBy ha hb rest]
    generalize compare (Filter.fieldOf a k.field).standing (Filter.fieldOf b k.field).standing = c
    cases k.desc <;> cases c <;> rfl

theorem mergeSort_before {keys : List SortKey} {xs : List Fields}
    (hx : ∀ d ∈ xs, d.Comparable) :
    xs.mergeSort (fun a c => !before keys c a) =
      xs.mergeSort (fun a c => (compareBy keys a c).isLE) := by
  have h := List.map_mergeSort (f := id) (l := xs) (r := fun a c => !before keys c a)
    (s := fun a c => (compareBy keys a c).isLE) fun a ha c hc => by
      have hswap : compareBy keys c a = (compareBy keys a c).swap := Std.OrientedCmp.eq_swap
      rw [id, id, before_eq_compareBy (hx c hc) (hx a ha), hswap]
      cases compareBy keys a c <;> rfl
  simpa using h

/-- `ys` is `xs` sorted stably by the keys: a permutation of `xs` in which no document comes
after one it compares below, and the documents tied with any document keep their order in `xs`. -/
structure SortedBy (keys : List SortKey) (xs ys : List Fields) : Prop where
  perm : ys.Perm xs
  ordered : ys.Pairwise fun a c => (compareBy keys a c).isLE
  stable : ∀ a, ys.filter (fun c => compareBy keys a c == .eq) =
    xs.filter (fun c => compareBy keys a c == .eq)

section Sorting

variable {keys : List SortKey}

theorem compareBy_isLE_trans {a b c : Fields} (hab : (compareBy keys a b).isLE = true)
    (hbc : (compareBy keys b c).isLE = true) : (compareBy keys a c).isLE = true :=
  Std.TransCmp.isLE_trans hab hbc

theorem compareBy_isLE_total (a c : Fields) :
    ((compareBy keys a c).isLE || (compareBy keys c a).isLE) = true := by
  have hswap : compareBy keys c a = (compareBy keys a c).swap := Std.OrientedCmp.eq_swap
  rw [hswap]
  cases compareBy keys a c <;> rfl

theorem pairwise_tied (a : Fields) (xs : List Fields) :
    (xs.filter fun c => compareBy keys a c == .eq).Pairwise
      fun b c => (compareBy keys b c).isLE := by
  refine List.Pairwise.imp_of_mem (R := fun _ _ => True) ?_ (List.pairwise_of_forall fun _ _ => trivial)
  intro b c hb hc _
  have hab : compareBy keys a b = .eq := by simpa using (List.mem_filter.1 hb).2
  have hac : compareBy keys a c = .eq := by simpa using (List.mem_filter.1 hc).2
  have hbc : compareBy keys b c = .eq := Std.TransCmp.eq_trans (Std.OrientedCmp.eq_symm hab) hac
  rw [hbc]
  rfl

/-- A merge sort by a total preorder sorts stably. -/
theorem sortedBy_mergeSort (xs : List Fields) :
    SortedBy keys xs (xs.mergeSort fun a c => (compareBy keys a c).isLE) where
  perm := List.mergeSort_perm xs _
  ordered := @List.pairwise_mergeSort _ (fun a c => (compareBy keys a c).isLE)
    (fun _ _ _ => compareBy_isLE_trans) compareBy_isLE_total xs
  stable a := by
    let tied := fun c => compareBy keys a c == .eq
    -- the tied documents of the input stay a sublist of the output, and have as many members
    have hsub : (xs.filter tied).Sublist (xs.mergeSort fun a c => (compareBy keys a c).isLE) :=
      @List.sublist_mergeSort _ (fun a c => (compareBy keys a c).isLE) xs
        (fun _ _ _ => compareBy_isLE_trans) compareBy_isLE_total _ (pairwise_tied a xs)
        List.filter_sublist
    have hsub' : (xs.filter tied).Sublist
        ((xs.mergeSort fun a c => (compareBy keys a c).isLE).filter tied) := by
      have h := hsub.filter tied
      rwa [List.filter_filter, List.filter_congr fun c _ => Bool.and_self (tied c)] at h
    have hlen := ((List.mergeSort_perm xs fun a c => (compareBy keys a c).isLE).filter tied).length_eq
    exact (hsub'.eq_of_length hlen.symm).symm

theorem sortedBy_self {xs : List Fields} (hx : xs.length ≤ 1) : SortedBy keys xs xs where
  perm := List.Perm.refl xs
  ordered := by
    match xs, hx with
    | [], _ => exact List.Pairwise.nil
    | [_], _ => exact List.pairwise_singleton _ _
  stable _ := rfl

theorem mergeSort_of_length_le_one {xs : List Fields} (hx : xs.length ≤ 1)
    (le : Fields → Fields → Bool) : xs.mergeSort le = xs := by
  match xs, hx with
  | [], _ => exact List.mergeSort_nil
  | [_], _ => exact List.mergeSort_singleton _

end Sorting

/-! The documents each part of a stage leaves, an absent batch counting as an empty one. -/

section Parts

variable (st : Stage) (b : Option (List Fields))

theorem filter_selects_of_isEmpty {f : Filter} (h : f.isEmpty = true) (xs : List Fields) :
    xs.filter f.selects = xs := by
  have hc : f.conditions = [] := List.isEmpty_iff.1 h
  exact List.filter_eq_self.2 fun d _ => by simp [Filter.selects, hc]

theorem getD_filterPart_eq :
    (st.filterPart b).getD [] = (b.getD []).filter st.filter.selects := by
  unfold filterPart
  split
  · rename_i h
    rw [filter_selects_of_isEmpty h]
  · rfl

theorem getD_sortPart_eq :
    (st.sortPart b).getD [] = if st.sort.isEmpty then b.getD []
      else (b.getD []).mergeSort fun a c => !before st.sort c a := by
  unfold sortPart
  split
  · rfl
  · split
    · rename_i h
      rw [List.isEmpty_iff.1 h, List.mergeSort_nil]
      rfl
    · rfl

theorem getD_skipPart_eq : (st.skipPart b).getD [] = (b.getD []).drop st.skip.toNat := by
  unfold skipPart
  split
  · split
    · rename_i h
      exact (List.drop_eq_nil_of_le (by omega)).symm
    · rfl
  · rename_i h
    rw [show st.skip.toNat = 0 by omega, List.drop_zero]

theorem getD_limitPart_eq :
    (st.limitPart b).getD [] = if 0 < st.limit then (b.getD []).take st.limit.toNat
      else b.getD [] := by
  unfold limitPart
  split
  · rename_i h
    simp only [Bool.and_eq_true, decide_eq_true_eq] at h
    simp [h.1]
  · rename_i h
    simp only [Bool.and_eq_true, decide_eq_true_eq, not_and, not_lt] at h
    split
    · rename_i hl
      exact (List.take_of_length_le (by have := h hl; omega)).symm
    · rfl

theorem getD_projectPart_eq :
    (st.projectPart b).getD [] = if st.project.isEmpty then b.getD []
      else (b.getD []).map (projectDoc st.project) := by
  unfold projectPart
  split <;> rfl

theorem getD_countPart_eq :
    (st.countPart b).getD [] = if st.count.isEmpty then b.getD []
      else [[(st.count, .int (b.getD []).length)]] := by
  unfold countPart
  split <;> rfl

end Parts

def Projects (names : List String) (d p : Fields) : Prop :=
  ∀ n, Fields.get? p n = if n ∈ names then Fields.get? d n else none

theorem projects_projectDoc (names : List String) (d : Fields) :
    Projects names d (projectDoc names d) := by
  -- the projection grows one name at a time, from the right
  induction names using List.reverseRecOn with
  | nil => intro n; simp [projectDoc, Fields.get?]
  | append_singleton init m ih =>
    intro n
    simp only [projectDoc, List.foldl_append, List.foldl_cons, List.foldl_nil] at ih ⊢
    have hmem : n ∈ init ++ [m] ↔ n ∈ init ∨ n = m := by simp
    cases hm : Fields.get? d m with
    | none =>
      simp only [ih n, hmem]
      by_cases hn : n = m
      · subst hn
        simp [hm]
      · simp [hn]
    | some v =>
      dsimp only
      by_cases hn : n = m
      · subst hn
        simp [hm, Fields.get?_set_self]
      · rw [Fields.get?_set_of_ne _ _ hn, ih n]
        simp [hn]

theorem mem_of_mem_projectDoc {names : List String} {d : Fields} {k : String} {v : Value}
    (h : (k, v) ∈ projectDoc names d) : (k, v) ∈ d := by
  induction names using List.reverseRecOn with
  | nil => simp [projectDoc] at h
  | append_singleton init m ih =>
    simp only [projectDoc, List.foldl_append, List.foldl_cons, List.foldl_nil] at ih h
    cases hm : Fields.get? d m with
    | none =>
      simp only [hm] at h
      exact ih h
    | some w =>
      simp only [hm] at h
      rcases Fields.mem_set h with ⟨rfl, rfl⟩ | h
      · exact Fields.mem_of_get? hm
      · exact ih h

def window (st : Stage) (xs : List Fields) : List Fields :=
  if 0 < st.limit then (xs.drop st.skip.toNat).take st.limit.toNat else xs.drop st.skip.toNat

/-- What a stage makes of a list of documents: the documents its filter selects, sorted stably
by its keys, windowed, projected, and counted. -/
def Yields (st : Stage) (xs ys : List Fields) : Prop :=
  ∃ sorted projected : List Fields,
    (if st.sort.isEmpty then sorted = xs.filter st.filter.selects
      else SortedBy st.sort (xs.filter st.filter.selects) sorted) ∧
    (if st.project.isEmpty then projected = st.window sorted
      else List.Forall₂ (Projects st.project) (st.window sorted) projected) ∧
    ys = if st.count.isEmpty then projected else [[(st.count, .int projected.length)]]

def Sortable (xs : List Fields) : Prop :=
  (∀ d ∈ xs, d.Comparable) ∨ xs.length ≤ 1

theorem Sortable.sublist {xs ys : List Fields} (hx : Sortable xs) (h : ys.Sublist xs) :
    Sortable ys :=
  hx.imp (fun hc d hd => hc d (h.subset hd)) fun hl => h.length_le.trans hl

theorem Sortable.perm {xs ys : List Fields} (hx : Sortable xs) (h : ys.Perm xs) : Sortable ys :=
  hx.imp (fun hc d hd => hc d (h.subset hd)) fun hl => h.length_eq ▸ hl

theorem Sortable.projectDocs {xs : List Fields} (hx : Sortable xs) (names : List String) :
    Sortable (xs.map (projectDoc names)) := by
  refine hx.imp (fun hc d hd => ?_) fun hl => by simpa using hl
  obtain ⟨d', hd', rfl⟩ := List.mem_map.1 hd
  exact fun k v h => hc d' hd' k v (mem_of_mem_projectDoc h)

theorem sortedBy_stageSort {keys : List SortKey} {xs : List Fields} (hx : Sortable xs) :
    SortedBy keys xs (xs.mergeSort fun a c => !before keys c a) := by
  rcases hx with hc | hl
  · rw [mergeSort_before hc]
    exact sortedBy_mergeSort xs
  · rw [mergeSort_of_length_le_one hl]
    exact sortedBy_self hl

theorem yields_apply (st : Stage) {b : Option (List Fields)} (hb : Sortable (b.getD [])) :
    st.Yields (b.getD []) ((st.apply b).getD []) := by
  let matched := (b.getD []).filter st.filter.selects
  let sorted := if st.sort.isEmpty then matched
    else matched.mergeSort fun a c => !before st.sort c a
  let projected := if st.project.isEmpty then st.window sorted
    else (st.window sorted).map (projectDoc st.project)
  refine ⟨sorted, projected, ?_, ?_, ?_⟩
  · split
    · rename_i h
      simp only [sorted, matched, h, if_true]
    · rename_i h
      simp only [sorted, h]
      exact sortedBy_stageSort (hb.sublist List.filter_sublist)
  · split
    · rename_i h
      simp only [projected, h, if_true]
    · rename_i h
      simp only [projected, h]
      exact List.forall₂_map_right_iff.2
        (List.forall₂_same.2 fun d _ => projects_projectDoc st.project d)
  · rw [apply_eq, getD_countPart_eq, getD_projectPart_eq, getD_limitPart_eq, getD_skipPart_eq,
      getD_sortPart_eq, getD_filterPart_eq]
    rfl

section Parts

variable (st : Stage) {b : Option (List Fields)} (hb : Sortable (b.getD []))
include hb

theorem sortable_filterPart : Sortable ((st.filterPart b).getD []) := by
  rw [getD_filterPart_eq]
  exact hb.sublist List.filter_sublist

theorem sortable_sortPart : Sortable ((st.sortPart b).getD []) := by
  rw [getD_sortPart_eq]
  split
  · exact hb
  · exact hb.perm (List.mergeSort_perm _ _)

theorem sortable_skipPart : Sortable ((st.skipPart b).getD []) := by
  rw [getD_skipPart_eq]
  exact hb.sublist (List.drop_sublist _ _)

theorem sortable_limitPart : Sortable ((st.limitPart b).getD []) := by
  rw [getD_limitPart_eq]
  split
  · exact hb.sublist (List.take_sublist _ _)
  · exact hb

theorem sortable_projectPart : Sortable ((st.projectPart b).getD []) := by
  rw [getD_projectPart_eq]
  split
  · exact hb
  · exact hb.projectDocs st.project

theorem sortable_countPart : Sortable ((st.countPart b).getD []) := by
  rw [getD_countPart_eq]
  split
  · exact hb
  · exact Or.inr (by simp)

theorem sortable_apply : Sortable ((st.apply b).getD []) := by
  rw [apply_eq]
  exact sortable_countPart st (sortable_projectPart st (sortable_limitPart st
    (sortable_skipPart st (sortable_sortPart st (sortable_filterPart st hb)))))

end Parts

end Stage

/-- What a pipeline makes of a list of documents: each stage's result is the next stage's input. -/
def Pipeline.Yields : Pipeline → List Fields → List Fields → Prop
  | [], xs, ys => ys = xs
  | st :: p, xs, zs => ∃ ys, st.Yields xs ys ∧ Pipeline.Yields p ys zs

theorem Pipeline.yields_run (p : Pipeline) {b : Option (List Fields)}
    (hb : Stage.Sortable (b.getD [])) : p.Yields (b.getD []) ((p.run b).getD []) := by
  -- the stages run in turn, each on a sortable batch
  induction p generalizing b with
  | nil => rfl
  | cons st rest ih => exact ⟨_, st.yields_apply hb, ih (st.sortable_apply hb)⟩

/-- Every pipeline follows its stage semantics on every list of documents without NaN fields. -/
theorem pipeline_follows_stages (p : Pipeline) (xs : List Fields) (hx : ∀ d ∈ xs, d.Comparable) :
    p.Yields xs ((p.run (some xs)).getD []) :=
  p.yields_run (b := some xs) (Or.inl hx)

theorem titles_sorted_follow_stages :
    (∀ d ∈ [[("title", Value.str "b")], [("title", Value.str "a")]], Fields.Comparable d) ∧
    Pipeline.Yields [{ sort := [{ field := "title" }], limit := 1 }]
      [[("title", Value.str "b")], [("title", Value.str "a")]]
      ((Pipeline.run [{ sort := [{ field := "title" }], limit := 1 }]
        (some [[("title", Value.str "b")], [("title", Value.str "a")]])).getD []) := by
  have hx : ∀ d ∈ [[("title", Value.str "b")], [("title", Value.str "a")]], Fields.Comparable d := by
    intro d hd k v hkv x hv
    simp only [List.mem_cons, List.not_mem_nil, or_false] at hd
    rcases hd with rfl | rfl <;> simp only [List.mem_singleton, Prod.mk.injEq] at hkv <;>
      (obtain ⟨-, rfl⟩ := hkv; cases hv)
  exact ⟨hx, pipeline_follows_stages _ _ hx⟩

/-- Instants sort by the text of their UTC timestamps, not in time order: the text of an instant
half a second past midnight sorts before the text of midnight, so sorting puts it first. -/
theorem later_instant_sorts_first :
    Time.before ⟨1704067200, 0, 0⟩ ⟨1704067200, 500000000, 0⟩ = true ∧
    Pipeline.run [{ sort := [{ field := "t" }] }]
        (some [[("t", .time ⟨1704067200, 500000000, 0⟩)], [("t", .time ⟨1704067200, 0, 0⟩)]]) =
      some [[("t", .time ⟨1704067200, 500000000, 0⟩)], [("t", .time ⟨1704067200, 0, 0⟩)]] := by
  refine ⟨by decide, ?_⟩
  have h : Value.order (.time ⟨1704067200, 0, 0⟩) (.time ⟨1704067200, 500000000, 0⟩) = .gt := by
    decide
  simp [Pipeline.run, Stage.apply, List.mergeSort, Stage.before, Filter.isEmpty, Filter.fieldOf,
    Fields.get?, h]

end CrudRoutes
