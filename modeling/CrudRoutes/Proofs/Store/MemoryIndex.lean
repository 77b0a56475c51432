import Mathlib
import CrudRoutes.Proofs.Store.Run

/-!
The representation invariant of the memory store.

A collection keeps its documents as a list of identities with documents, and its unique-key
index as a list from keys (a key name and a key text) to the identity holding the key. The
invariant says that identities are unique, non-empty and those of their documents, and that the
index is exactly the finite map from every key a stored document holds under the collection's
patterns to that document's identity. In particular no two documents hold one key.

Every write keeps the invariant. Preparing a collection re-reads the index and establishes it
when it succeeds; when it fails, the new patterns stay in place over documents two of which hold
one key, so the invariant cannot hold afterwards.
-/

namespace CrudRoutes

namespace MemCollection

def keyOf (d : Fields) (P : List String) : Option (String × String) :=
  (uniqueKey d P).map fun r => (keyName P, r.1)

/-- A document holds a key under one of the patterns. -/
def Holds (ps : List (List String)) (d : Fields) (k : String × String) : Prop :=
  ∃ P ∈ ps, keyOf d P = some k

@[simp] theorem holds_nil (d : Fields) (k : String × String) : ¬ Holds [] d k := by
  simp [Holds]

theorem holds_cons {P : List String} {ps : List (List String)} {d : Fields}
    {k : String × String} : Holds (P :: ps) d k ↔ keyOf d P = some k ∨ Holds ps d k := by
  simp [Holds]

def indexList (d : Fields) (ps : List (List String)) (keys : List ((String × String) × String)) :
    List ((String × String) × String) :=
  ps.foldl (fun keys P =>
    match keyOf d P with
    | none => keys
    | some k => (keys.filter fun e => e.1 != k) ++ [(k, docId d)]) keys

def unindexList (d : Fields) (ps : List (List String))
    (keys : List ((String × String) × String)) : List ((String × String) × String) :=
  ps.foldl (fun keys P =>
    match keyOf d P with
    | none => keys
    | some k => keys.filter fun e => !(e.1 == k && e.2 == docId d)) keys

theorem indexKeys_fold (d : Fields) (ps : List (List String)) (c : MemCollection) :
    ps.foldl (fun c pattern =>
      match uniqueKey d pattern with
      | none => c
      | some (value, _) =>
        let k := (keyName pattern, value)
        { c with keys := (c.keys.filter fun (k', _) => k' != k) ++ [(k, docId d)] }) c =
      { c with keys := indexList d ps c.keys } := by
  induction ps generalizing c with
  | nil => rfl
  | cons P rest ih =>
    simp only [List.foldl_cons, indexList]
    rw [ih]
    unfold keyOf
    cases uniqueKey d P <;> rfl

theorem indexKeys_eq (c : MemCollection) (d : Fields) :
    c.indexKeys d = { c with keys := indexList d c.spec.uniqueKeys c.keys } :=
  indexKeys_fold d c.spec.uniqueKeys c

theorem unindexKeys_fold (d : Fields) (ps : List (List String)) (c : MemCollection) :
    ps.foldl (fun c pattern =>
      match uniqueKey d pattern with
      | none => c
      | some (value, _) =>
        let k := (keyName pattern, value)
        { c with keys := c.keys.filter fun (k', o) => !(k' == k && o == docId d) }) c =
      { c with keys := unindexList d ps c.keys } := by
  induction ps generalizing c with
  | nil => rfl
  | cons P rest ih =>
    simp only [List.foldl_cons, unindexList]
    rw [ih]
    unfold keyOf
    cases uniqueKey d P <;> rfl

theorem unindexKeys_eq (c : MemCollection) (d : Fields) :
    c.unindexKeys d = { c with keys := unindexList d c.spec.uniqueKeys c.keys } :=
  unindexKeys_fold d c.spec.uniqueKeys c

theorem mem_indexList {d : Fields} {ps : List (List String)}
    {keys : List ((String × String) × String)} {k : String × String} {o : String} :
    (k, o) ∈ indexList d ps keys ↔
      ((k, o) ∈ keys ∧ ¬ Holds ps d k) ∨ (Holds ps d k ∧ o = docId d) := by
  induction ps generalizing keys with
  | nil => simp [indexList]
  | cons P rest ih =>
    simp only [indexList, List.foldl_cons] at ih ⊢
    rw [ih, holds_cons]
    cases hP : keyOf d P with
    | none => simp
    | some k₀ =>
      by_cases hk : k = k₀
      · subst hk
        simp only [List.mem_append, List.mem_filter, List.mem_singleton, Prod.mk.injEq, true_and,
          bne_self_eq_false, Bool.false_eq_true, and_false, false_or, true_or]
        tauto
      · simp [List.mem_filter, hk, Ne.symm hk]

theorem nodup_indexList {d : Fields} {ps : List (List String)}
    {keys : List ((String × String) × String)} (h : (keys.map Prod.fst).Nodup) :
    ((indexList d ps keys).map Prod.fst).Nodup := by
  induction ps generalizing keys with
  | nil => exact h
  | cons P rest ih =>
    simp only [indexList, List.foldl_cons] at ih ⊢
    apply ih
    cases keyOf d P with
    | none => exact h
    | some k =>
      have hf : ((keys.filter fun e => e.1 != k).map Prod.fst).Nodup :=
        h.sublist ((List.filter_sublist).map Prod.fst)
      simp only [List.map_append, List.map_cons, List.map_nil]
      refine hf.append (List.nodup_singleton k) ?_
      simp [List.disjoint_singleton, List.mem_filter]

theorem mem_unindexList {d : Fields} {ps : List (List String)}
    {keys : List ((String × String) × String)} {k : String × String} {o : String} :
    (k, o) ∈ unindexList d ps keys ↔ (k, o) ∈ keys ∧ ¬ (Holds ps d k ∧ o = docId d) := by
  induction ps generalizing keys with
  | nil => simp [unindexList]
  | cons P rest ih =>
    simp only [unindexList, List.foldl_cons] at ih ⊢
    rw [ih, holds_cons]
    cases hP : keyOf d P with
    | none => simp
    | some k₀ =>
      by_cases hk : k = k₀
      · subst hk
        simp [List.mem_filter]
        tauto
      · simp [List.mem_filter, hk, Ne.symm hk]

theorem unindexList_sublist (d : Fields) (ps : List (List String))
    (keys : List ((String × String) × String)) : List.Sublist (unindexList d ps keys) keys := by
  induction ps generalizing keys with
  | nil => exact List.Sublist.refl keys
  | cons P rest ih =>
    simp only [unindexList, List.foldl_cons] at ih ⊢
    refine (ih _).trans ?_
    cases keyOf d P with
    | none => exact List.Sublist.refl keys
    | some k => exact List.filter_sublist

theorem owner?_eq_some_iff {c : MemCollection} (h : (c.keys.map Prod.fst).Nodup)
    {k : String × String} {o : String} : c.owner? k.1 k.2 = some o ↔ (k, o) ∈ c.keys := by
  unfold owner?
  constructor
  · intro hs
    obtain ⟨e, he, rfl⟩ := Option.map_eq_some_iff.1 hs
    have hk : e.1 = k := by simpa using List.find?_some he
    have hm := List.mem_of_find?_eq_some he
    obtain ⟨k', o'⟩ := e
    simp only at hk
    subst hk
    exact hm
  · intro hm
    cases hf : c.keys.find? (fun e => e.1 == (k.1, k.2)) with
    | none =>
      rw [List.find?_eq_none] at hf
      exact absurd (by simp) (hf _ hm)
    | some e =>
      have hk : e.1 = k := by simpa using List.find?_some hf
      have he := List.mem_of_find?_eq_some hf
      have : e = (k, o) := List.inj_on_of_nodup_map h he hm hk
      simp [this]

theorem conflict?_eq_none_iff {c : MemCollection} (h : (c.keys.map Prod.fst).Nodup)
    {d : Fields} {self : String} :
    c.conflict? d self = none ↔
      ∀ k o, Holds c.spec.uniqueKeys d k → (k, o) ∈ c.keys → o = self := by
  unfold conflict?
  rw [List.findSome?_eq_none_iff]
  constructor
  · rintro hall k o ⟨P, hP, hk⟩ hm
    have hP' := hall P hP
    unfold keyOf at hk
    obtain ⟨⟨value, fields⟩, hu, rfl⟩ := Option.map_eq_some_iff.1 hk
    rw [← owner?_eq_some_iff h] at hm
    simp only [hu, hm] at hP'
    simpa using hP'
  · intro hall P hP
    cases hu : uniqueKey d P with
    | none => rfl
    | some r =>
      obtain ⟨value, fields⟩ := r
      cases ho : c.owner? (keyName P) value with
      | none => simp [ho]
      | some o =>
        have hk : Holds c.spec.uniqueKeys d (keyName P, value) :=
          ⟨P, hP, by simp [keyOf, hu]⟩
        have hm : ((keyName P, value), o) ∈ c.keys := (owner?_eq_some_iff h).1 ho
        simp [ho, hall _ _ hk hm]

theorem exists_clash_of_conflict? {c : MemCollection} (h : (c.keys.map Prod.fst).Nodup)
    {d : Fields} {self : String} {e : DuplicateKey} (he : c.conflict? d self = some e) :
    ∃ k o, Holds c.spec.uniqueKeys d k ∧ (k, o) ∈ c.keys ∧ o ≠ self := by
  by_contra hne
  push Not at hne
  have : c.conflict? d self = none := (conflict?_eq_none_iff h).2 hne
  simp [this] at he

/-- The documents of a collection: each stored under its own non-empty identity, none twice. -/
structure DocsWf (c : MemCollection) : Prop where
  nodup : (c.docs.map Prod.fst).Nodup
  docId_eq : ∀ i d, (i, d) ∈ c.docs → docId d = i
  id_ne : ∀ i d, (i, d) ∈ c.docs → i ≠ ""

/-- The representation invariant of a collection: well-formed documents, and an index that is
exactly the map from each key a document holds to the document's identity. -/
structure Inv (c : MemCollection) : Prop extends DocsWf c where
  keys_nodup : (c.keys.map Prod.fst).Nodup
  mem_keys : ∀ k o, (k, o) ∈ c.keys ↔ ∃ d, (o, d) ∈ c.docs ∧ Holds c.spec.uniqueKeys d k

theorem DocsWf.of_docs_eq {c c' : MemCollection} (h : c.DocsWf) (he : c'.docs = c.docs) :
    c'.DocsWf :=
  ⟨he ▸ h.nodup, he ▸ h.docId_eq, he ▸ h.id_ne⟩

theorem DocsWf.eq_of_mem {c : MemCollection} (h : c.DocsWf) {i : String} {d d' : Fields}
    (hd : (i, d) ∈ c.docs) (hd' : (i, d') ∈ c.docs) : d = d' := by
  have := List.inj_on_of_nodup_map h.nodup hd hd' rfl
  simpa using this

theorem Inv.unique {c : MemCollection} (h : c.Inv) {i₁ i₂ : String} {d₁ d₂ : Fields}
    {k : String × String} (h₁ : (i₁, d₁) ∈ c.docs) (h₂ : (i₂, d₂) ∈ c.docs)
    (hk₁ : Holds c.spec.uniqueKeys d₁ k) (hk₂ : Holds c.spec.uniqueKeys d₂ k) :
    i₁ = i₂ ∧ d₁ = d₂ := by
  have m₁ := (h.mem_keys k i₁).2 ⟨d₁, h₁, hk₁⟩
  have m₂ := (h.mem_keys k i₂).2 ⟨d₂, h₂, hk₂⟩
  have hi : i₁ = i₂ := by simpa using List.inj_on_of_nodup_map h.keys_nodup m₁ m₂ rfl
  subst hi
  exact ⟨rfl, h.eq_of_mem h₁ h₂⟩

theorem not_inv_of_clash {c : MemCollection} {i₁ i₂ : String} {d₁ d₂ : Fields}
    {k : String × String} (h₁ : (i₁, d₁) ∈ c.docs) (h₂ : (i₂, d₂) ∈ c.docs) (hne : i₁ ≠ i₂)
    (hk₁ : Holds c.spec.uniqueKeys d₁ k) (hk₂ : Holds c.spec.uniqueKeys d₂ k) : ¬ c.Inv :=
  fun h => hne (h.unique h₁ h₂ hk₁ hk₂).1

theorem inv_empty (spec : CollectionSpec) : (MemCollection.mk spec [] []).Inv where
  nodup := List.nodup_nil
  docId_eq := by simp
  id_ne := by simp
  keys_nodup := List.nodup_nil
  mem_keys := by simp

theorem doc?_eq_none_iff {c : MemCollection} {i : String} :
    c.doc? i = none ↔ ∀ d, (i, d) ∉ c.docs := by
  simp only [doc?, Option.map_eq_none_iff, List.find?_eq_none, beq_iff_eq, Prod.forall]
  constructor
  · intro h d hd
    exact h _ _ hd rfl
  · rintro h a b hab rfl
    exact h b hab

theorem insert_eq_ok {c c' : MemCollection} {d : Fields} (h : c.insert d = .ok c') :
    (∀ d', (docId d, d') ∉ c.docs) ∧ c.conflict? d "" = none ∧
      c' = { c with docs := c.docs ++ [(docId d, d)],
                    keys := indexList d c.spec.uniqueKeys c.keys } := by
  unfold insert at h
  cases hdoc : c.doc? (docId d) with
  | some _ => simp [hdoc] at h
  | none =>
    cases hc : c.conflict? d "" with
    | some e => simp [hdoc, hc] at h
    | none =>
      simp only [hdoc, hc, Option.isSome_none, Bool.false_eq_true, if_false,
        Except.ok.injEq] at h
      subst h
      exact ⟨doc?_eq_none_iff.1 hdoc, rfl, by rw [indexKeys_eq]⟩

theorem insert_docsWf {c c' : MemCollection} {d : Fields} (hc : c.DocsWf) (hid : docId d ≠ "")
    (h : c.insert d = .ok c') : c'.DocsWf := by
  obtain ⟨hnew, -, rfl⟩ := insert_eq_ok h
  refine ⟨?_, ?_, ?_⟩
  · simp only [List.map_append, List.map_cons, List.map_nil]
    refine hc.nodup.append (List.nodup_singleton _) ?_
    simp only [List.disjoint_singleton, List.mem_map, not_exists, not_and]
    rintro ⟨i, d'⟩ hm rfl
    exact hnew d' hm
  · simp only [List.mem_append, List.mem_singleton, Prod.mk.injEq]
    rintro i d' (hm | ⟨rfl, rfl⟩)
    · exact hc.docId_eq i d' hm
    · rfl
  · simp only [List.mem_append, List.mem_singleton, Prod.mk.injEq]
    rintro i d' (hm | ⟨rfl, rfl⟩)
    · exact hc.id_ne i d' hm
    · exact hid

theorem owners_append_iff {docs : List (String × Fields)} {i o : String} {d : Fields}
    {holds : Fields → Prop} {old keep : Prop} (hold : old ↔ ∃ d', (o, d') ∈ docs ∧ holds d')
    (hkeep : ∀ d', (o, d') ∈ docs → holds d' → keep) :
    (old ∧ keep) ∨ (holds d ∧ o = i) ↔ ∃ d', (o, d') ∈ docs ++ [(i, d)] ∧ holds d' := by
  simp only [hold, List.mem_append, List.mem_singleton, Prod.mk.injEq]
  constructor
  · rintro (⟨⟨d', hm, hk⟩, -⟩ | ⟨hk, rfl⟩)
    · exact ⟨d', Or.inl hm, hk⟩
    · exact ⟨d, Or.inr ⟨rfl, rfl⟩, hk⟩
  · rintro ⟨d', hm | ⟨rfl, rfl⟩, hk⟩
    · exact Or.inl ⟨⟨d', hm, hk⟩, hkeep d' hm hk⟩
    · exact Or.inr ⟨hk, rfl⟩

theorem insert_inv {c c' : MemCollection} {d : Fields} (hc : c.Inv) (hid : docId d ≠ "")
    (h : c.insert d = .ok c') : c'.Inv := by
  have hw := insert_docsWf hc.toDocsWf hid h
  obtain ⟨-, hfree, rfl⟩ := insert_eq_ok h
  have hfree' := (conflict?_eq_none_iff hc.keys_nodup).1 hfree
  refine ⟨hw, nodup_indexList hc.keys_nodup, fun k o => ?_⟩
  rw [mem_indexList]
  refine owners_append_iff (hc.mem_keys k o) fun d' hm hk hd => ?_
  -- the check admitted `d` only because no stored identity owns its keys
  exact hc.id_ne o d' hm (hfree' k o hd ((hc.mem_keys k o).2 ⟨d', hm, hk⟩))

theorem mem_of_doc?_eq_some {c : MemCollection} {i : String} {d : Fields}
    (h : c.doc? i = some d) : (i, d) ∈ c.docs := by
  unfold doc? at h
  obtain ⟨e, he, rfl⟩ := Option.map_eq_some_iff.1 h
  have hi : e.1 = i := by simpa using List.find?_some he
  have hm := List.mem_of_find?_eq_some he
  obtain ⟨i', d'⟩ := e
  simp only at hi
  subst hi
  exact hm

theorem replace_eq_ok {c c' : MemCollection} {current next : Fields}
    (h : c.replace current next = .ok c') :
    c.conflict? next (docId current) = none ∧
      c' = { c with
        docs := c.docs.map fun (i, d) => if i == docId current then (i, next) else (i, d),
        keys := indexList next c.spec.uniqueKeys
          (unindexList current c.spec.uniqueKeys c.keys) } := by
  unfold replace at h
  cases hc : c.conflict? next (docId current) with
  | some e => simp [hc] at h
  | none =>
    simp only [hc, Except.ok.injEq] at h
    subst h
    refine ⟨rfl, ?_⟩
    rw [indexKeys_eq, unindexKeys_eq]

theorem mem_map_replace {docs : List (String × Fields)} {id i : String} {next d : Fields} :
    (i, d) ∈ docs.map (fun (i, d) => if i == id then (i, next) else (i, d)) ↔
      ((i, d) ∈ docs ∧ i ≠ id) ∨ (i = id ∧ d = next ∧ ∃ d₀, (id, d₀) ∈ docs) := by
  simp only [List.mem_map, Prod.exists]
  constructor
  · rintro ⟨i', d', hm, he⟩
    by_cases hi : i' = id
    · subst hi
      simp only [beq_self_eq_true, if_true, Prod.mk.injEq] at he
      obtain ⟨rfl, rfl⟩ := he
      exact Or.inr ⟨rfl, rfl, d', hm⟩
    · simp only [beq_iff_eq, hi, if_false, Prod.mk.injEq] at he
      obtain ⟨rfl, rfl⟩ := he
      exact Or.inl ⟨hm, hi⟩
  · rintro (⟨hm, hi⟩ | ⟨rfl, rfl, d₀, hm⟩)
    · exact ⟨i, d, hm, by simp [hi]⟩
    · exact ⟨i, d₀, hm, by simp⟩

theorem map_replace_fst (docs : List (String × Fields)) (id : String) (next : Fields) :
    (docs.map fun (i, d) => if i == id then (i, next) else (i, d)).map Prod.fst =
      docs.map Prod.fst := by
  rw [List.map_map]
  apply List.map_congr_left
  rintro ⟨i, d⟩ -
  by_cases hi : i = id <;> simp [hi]

theorem replace_docsWf {c c' : MemCollection} {current next : Fields} (hc : c.DocsWf)
    (hcur : (docId current, current) ∈ c.docs) (hid : docId next = docId current)
    (h : c.replace current next = .ok c') : c'.DocsWf := by
  obtain ⟨-, rfl⟩ := replace_eq_ok h
  refine ⟨?_, ?_, ?_⟩
  · rw [map_replace_fst]
    exact hc.nodup
  · intro i d hm
    rcases mem_map_replace.1 hm with ⟨hm, -⟩ | ⟨rfl, rfl, -⟩
    · exact hc.docId_eq i d hm
    · exact hid
  · intro i d hm
    rcases mem_map_replace.1 hm with ⟨hm, -⟩ | ⟨rfl, rfl, -⟩
    · exact hc.id_ne i d hm
    · exact hc.id_ne _ _ hcur

theorem replace_inv {c c' : MemCollection} {current next : Fields} (hc : c.Inv)
    (hcur : (docId current, current) ∈ c.docs) (hid : docId next = docId current)
    (h : c.replace current next = .ok c') : c'.Inv := by
  have hw := replace_docsWf hc.toDocsWf hcur hid h
  obtain ⟨hfree, rfl⟩ := replace_eq_ok h
  have hfree' := (conflict?_eq_none_iff hc.keys_nodup).1 hfree
  refine ⟨hw, nodup_indexList ((hc.keys_nodup).sublist
    ((unindexList_sublist _ _ _).map Prod.fst)), ?_⟩
  intro k o
  simp only [mem_indexList, mem_unindexList, hc.mem_keys, mem_map_replace, hid]
  constructor
  · rintro (⟨⟨⟨d', hm, hk⟩, hnot⟩, -⟩ | ⟨hk, rfl⟩)
    · by_cases ho : o = docId current
      · -- the only document under that identity is the current version, whose keys went
        subst ho
        have := hc.eq_of_mem hm hcur
        subst this
        exact absurd ⟨hk, rfl⟩ hnot
      · exact ⟨d', Or.inl ⟨hm, ho⟩, hk⟩
    · exact ⟨next, Or.inr ⟨rfl, rfl, current, hcur⟩, hk⟩
  · rintro ⟨d', ⟨hm, ho⟩ | ⟨rfl, rfl, -⟩, hk⟩
    · have hnext : ¬ Holds c.spec.uniqueKeys next k := fun hn =>
        ho (hfree' k o hn ((hc.mem_keys k o).2 ⟨d', hm, hk⟩))
      exact Or.inl ⟨⟨⟨d', hm, hk⟩, fun h => ho h.2⟩, hnext⟩
    · exact Or.inr ⟨hk, rfl⟩

theorem remove_eq {c : MemCollection} {id : String} {d : Fields} (hd : c.doc? id = some d) :
    c.remove id = { c with docs := c.docs.filter fun (i, _) => i != id,
                           keys := unindexList d c.spec.uniqueKeys c.keys } := by
  simp only [remove, hd, unindexKeys_eq]

theorem remove_docsWf {c : MemCollection} (hc : c.DocsWf) (id : String) :
    (c.remove id).DocsWf := by
  cases hd : c.doc? id with
  | none => simpa [remove, hd] using hc
  | some d =>
    rw [remove_eq hd]
    refine ⟨?_, ?_, ?_⟩
    · exact hc.nodup.sublist (List.filter_sublist.map Prod.fst)
    · intro i d' hm'
      exact hc.docId_eq i d' (List.mem_filter.1 hm').1
    · intro i d' hm'
      exact hc.id_ne i d' (List.mem_filter.1 hm').1

theorem remove_inv {c : MemCollection} (hc : c.Inv) (id : String) : (c.remove id).Inv := by
  have hw := remove_docsWf hc.toDocsWf id
  cases hd : c.doc? id with
  | none => simpa [remove, hd] using hc
  | some d =>
    have hm := mem_of_doc?_eq_some hd
    have hid := hc.docId_eq id d hm
    rw [remove_eq hd] at hw ⊢
    refine ⟨hw, (hc.keys_nodup).sublist ((unindexList_sublist _ _ _).map Prod.fst), ?_⟩
    intro k o
    simp only [mem_unindexList, hc.mem_keys, List.mem_filter, bne_iff_ne, ne_eq, hid]
    constructor
    · rintro ⟨⟨d', hm', hk⟩, hnot⟩
      by_cases ho : o = id
      · subst ho
        have := hc.eq_of_mem hm' hm
        subst this
        exact absurd ⟨hk, rfl⟩ hnot
      · exact ⟨d', ⟨hm', ho⟩, hk⟩
    · rintro ⟨d', ⟨hm', ho⟩, hk⟩
      exact ⟨⟨d', hm', hk⟩, fun h => ho h.2⟩

/-- A property of collections that every write keeps: each property of the memory store proved
below is kept by the store's calls as soon as it is kept by these. -/
structure WriteClosed (P : MemCollection → Prop) : Prop where
  docsWf : ∀ c, P c → c.DocsWf
  empty : ∀ spec, P (MemCollection.mk spec [] [])
  insert : ∀ {c c' d}, P c → docId d ≠ "" → c.insert d = .ok c' → P c'
  replace : ∀ {c c' current next}, P c → (docId current, current) ∈ c.docs →
    docId next = docId current → c.replace current next = .ok c' → P c'
  remove : ∀ {c} id, P c → P (c.remove id)

theorem writeClosed_docsWf : WriteClosed DocsWf where
  docsWf _ h := h
  empty spec := (inv_empty spec).toDocsWf
  insert := insert_docsWf
  replace := replace_docsWf
  remove id h := remove_docsWf h id

theorem writeClosed_inv : WriteClosed Inv where
  docsWf _ h := h.toDocsWf
  empty := inv_empty
  insert := insert_inv
  replace := replace_inv
  remove id h := remove_inv h id

/-- The index is exact for some of the documents: a prefix of them, while it is being re-read. -/
structure ExactFor (c : MemCollection) (pre : List (String × Fields)) : Prop where
  keys_nodup : (c.keys.map Prod.fst).Nodup
  mem_keys : ∀ k o, (k, o) ∈ c.keys ↔ ∃ d, (o, d) ∈ pre ∧ Holds c.spec.uniqueKeys d k

theorem reindexFrom_docs (c : MemCollection) (l : List (String × Fields)) :
    (c.reindexFrom l).1.docs = c.docs ∧ (c.reindexFrom l).1.spec = c.spec := by
  induction l generalizing c with
  | nil => exact ⟨rfl, rfl⟩
  | cons e rest ih =>
    obtain ⟨id, d⟩ := e
    simp only [reindexFrom]
    cases c.conflict? d id with
    | some _ => exact ⟨rfl, rfl⟩
    | none =>
      obtain ⟨h₁, h₂⟩ := ih (c.indexKeys d)
      rw [h₁, h₂, indexKeys_eq]
      exact ⟨rfl, rfl⟩

theorem ExactFor.indexKeys {c : MemCollection} {pre rest : List (String × Fields)}
    {id : String} {d : Fields} (hw : c.DocsWf) (hdocs : c.docs = pre ++ (id, d) :: rest)
    (hx : c.ExactFor pre) (hfree : c.conflict? d id = none) :
    (c.indexKeys d).ExactFor (pre ++ [(id, d)]) := by
  have hfree' := (conflict?_eq_none_iff hx.keys_nodup).1 hfree
  have hid : docId d = id := hw.docId_eq id d (by simp [hdocs])
  have hfresh : ∀ d', (id, d') ∉ pre := by
    intro d' hm
    have hnd := hw.nodup
    rw [hdocs, List.map_append, List.map_cons] at hnd
    exact List.disjoint_of_nodup_append hnd (List.mem_map_of_mem (f := Prod.fst) hm)
      List.mem_cons_self
  rw [indexKeys_eq]
  refine ⟨nodup_indexList hx.keys_nodup, fun k o => ?_⟩
  rw [mem_indexList, hid]
  refine owners_append_iff (hx.mem_keys k o) fun d' hm hk hd => ?_
  have ho := hfree' k o hd ((hx.mem_keys k o).2 ⟨d', hm, hk⟩)
  subst ho
  exact hfresh d' hm

theorem reindexFrom_inv {c : MemCollection} {pre l : List (String × Fields)}
    (hw : c.DocsWf) (hdocs : c.docs = pre ++ l) (hx : c.ExactFor pre)
    (hok : (c.reindexFrom l).2 = none) : (c.reindexFrom l).1.Inv := by
  induction l generalizing pre c with
  | nil =>
    simp only [List.append_nil] at hdocs
    subst hdocs
    exact ⟨hw, hx.keys_nodup, hx.mem_keys⟩
  | cons e rest ih =>
    obtain ⟨id, d⟩ := e
    simp only [reindexFrom] at hok ⊢
    cases hc : c.conflict? d id with
    | some _ => simp [hc] at hok
    | none =>
      simp only [hc] at hok ⊢
      have hw' : (c.indexKeys d).DocsWf := hw.of_docs_eq (by rw [indexKeys_eq])
      refine ih hw' ?_ (hx.indexKeys hw hdocs hc) hok
      rw [indexKeys_eq]
      simp [hdocs]

theorem reindexFrom_clash {c : MemCollection} {pre l : List (String × Fields)}
    (hw : c.DocsWf) (hdocs : c.docs = pre ++ l) (hx : c.ExactFor pre) {f : Fault}
    (herr : (c.reindexFrom l).2 = some f) :
    ∃ i₁ d₁ i₂ d₂ k, (i₁, d₁) ∈ c.docs ∧ (i₂, d₂) ∈ c.docs ∧ i₁ ≠ i₂ ∧
      Holds c.spec.uniqueKeys d₁ k ∧ Holds c.spec.uniqueKeys d₂ k := by
  induction l generalizing pre c with
  | nil => simp [reindexFrom] at herr
  | cons e rest ih =>
    obtain ⟨id, d⟩ := e
    simp only [reindexFrom] at herr
    cases hc : c.conflict? d id with
    | some _ =>
      obtain ⟨k, o, hk, hm, ho⟩ := exists_clash_of_conflict? hx.keys_nodup hc
      obtain ⟨d', hm', hk'⟩ := (hx.mem_keys k o).1 hm
      exact ⟨o, d', id, d, k, by simp [hdocs, hm'], by simp [hdocs], ho, hk', hk⟩
    | none =>
      simp only [hc] at herr
      have hw' : (c.indexKeys d).DocsWf := hw.of_docs_eq (by rw [indexKeys_eq])
      have hdocs' : (c.indexKeys d).docs = (pre ++ [(id, d)]) ++ rest := by
        rw [indexKeys_eq]; simp [hdocs]
      have := ih hw' hdocs' (hx.indexKeys hw hdocs hc) herr
      rw [indexKeys_eq] at this
      exact this

end MemCollection

end CrudRoutes

namespace CrudRoutes

namespace MemCollection

theorem select_sublist (c : MemCollection) (f : Filter) (limit : Nat) :
    List.Sublist (c.select f limit) (c.docs.map Prod.snd) := by
  unfold select
  split
  · exact (List.take_sublist _ _).trans List.filter_sublist
  · exact List.filter_sublist

theorem DocsWf.mem_of_select {c : MemCollection} (hw : c.DocsWf) {f : Filter} {limit : Nat}
    {d : Fields} (hd : d ∈ c.select f limit) : (docId d, d) ∈ c.docs := by
  obtain ⟨⟨i, d'⟩, hm, rfl⟩ := List.mem_map.1 ((c.select_sublist f limit).subset hd)
  rw [hw.docId_eq i d' hm]
  exact hm

theorem DocsWf.nodup_select {c : MemCollection} (hw : c.DocsWf) (f : Filter) (limit : Nat) :
    ((c.select f limit).map docId).Nodup := by
  have heq : (c.docs.map Prod.snd).map docId = c.docs.map Prod.fst := by
    rw [List.map_map]
    apply List.map_congr_left
    rintro ⟨i, d⟩ hm
    exact hw.docId_eq i d hm
  have := hw.nodup
  rw [← heq] at this
  exact this.sublist ((c.select_sublist f limit).map docId)

end MemCollection

namespace MemoryStore

/-- Every collection of a store satisfies `P`, and no two share a name. -/
structure AllColl (P : MemCollection → Prop) (s : MemoryStore) : Prop where
  names_nodup : (s.collections.map (·.spec.name)).Nodup
  coll : ∀ c ∈ s.collections, P c

abbrev Inv (s : MemoryStore) : Prop := AllColl MemCollection.Inv s

abbrev DocsWf (s : MemoryStore) : Prop := AllColl MemCollection.DocsWf s

theorem AllColl.mono {P Q : MemCollection → Prop} {s : MemoryStore} (h : AllColl P s)
    (hpq : ∀ c, P c → Q c) : AllColl Q s :=
  ⟨h.names_nodup, fun c hc => hpq c (h.coll c hc)⟩

theorem Inv.docsWf {s : MemoryStore} (h : s.Inv) : s.DocsWf :=
  h.mono fun _ hc => hc.toDocsWf

theorem inv_empty : (MemoryStore.mk []).Inv :=
  ⟨List.nodup_nil, by simp⟩

theorem mem_of_find? {s : MemoryStore} {name : String} {c : MemCollection}
    (h : s.find? name = some c) : c ∈ s.collections :=
  List.mem_of_find?_eq_some h

theorem get_spec_name (s : MemoryStore) (name : String) : (s.get name).spec.name = name := by
  unfold get
  cases h : s.find? name with
  | none => rfl
  | some c => simpa using List.find?_some h

theorem AllColl.get {P : MemCollection → Prop} {s : MemoryStore} (h : AllColl P s)
    (hnew : ∀ name, P { spec := { name } }) (name : String) : P (s.get name) := by
  unfold MemoryStore.get
  cases hf : s.find? name with
  | none => exact hnew name
  | some c => exact h.coll c (mem_of_find? hf)

theorem AllColl.put {P : MemCollection → Prop} {s : MemoryStore} (h : AllColl P s)
    {c : MemCollection} (hc : P c) : AllColl P (s.put c) := by
  unfold MemoryStore.put
  split
  · refine ⟨?_, ?_⟩
    · rw [List.map_map]
      convert h.names_nodup using 1
      apply List.map_congr_left
      intro c' _
      by_cases hn : c'.spec.name = c.spec.name <;> simp [hn]
    · intro c' hm
      obtain ⟨c'', hm'', rfl⟩ := List.mem_map.1 hm
      by_cases hn : c''.spec.name = c.spec.name
      · simp [hn, hc]
      · simp [hn, h.coll c'' hm'']
  · rename_i hnone
    refine ⟨?_, ?_⟩
    · simp only [List.map_append, List.map_cons, List.map_nil]
      refine h.names_nodup.append (List.nodup_singleton _) ?_
      simp only [List.disjoint_singleton, List.mem_map, not_exists, not_and]
      intro c' hm hn
      apply hnone
      unfold MemoryStore.find?
      rw [List.find?_isSome]
      exact ⟨c', hm, by simp [hn]⟩
    · intro c' hm
      rcases List.mem_append.1 hm with hm | hm
      · exact h.coll c' hm
      · rw [List.mem_singleton.1 hm]
        exact hc

theorem mem_put {s : MemoryStore} {c c' : MemCollection} (h : c' ∈ (s.put c).collections) :
    c' = c ∨ c' ∈ s.collections := by
  unfold MemoryStore.put at h
  split at h
  · obtain ⟨c'', hm, rfl⟩ := List.mem_map.1 h
    by_cases hn : c''.spec.name = c.spec.name
    · simp [hn]
    · simp [hn, hm]
  · rcases List.mem_append.1 h with hm | hm
    · exact Or.inr hm
    · exact Or.inl (List.mem_singleton.1 hm)

theorem mem_put_self (s : MemoryStore) (c : MemCollection) : c ∈ (s.put c).collections := by
  unfold MemoryStore.put
  split
  · rename_i hsome
    obtain ⟨c', hc'⟩ := Option.isSome_iff_exists.1 hsome
    have hm := mem_of_find? hc'
    have hn : c'.spec.name = c.spec.name := by simpa using List.find?_some hc'
    exact List.mem_map.2 ⟨c', hm, by simp [hn]⟩
  · simp

section Writes

variable {P : MemCollection → Prop} (hP : MemCollection.WriteClosed P)
include hP

theorem AllColl.get_of_closed {s : MemoryStore} (hs : AllColl P s) (name : String) :
    P (s.get name) :=
  hs.get (fun name => hP.empty { name }) name

theorem create_all {s : MemoryStore} (hs : AllColl P s) (h : Host) (name : String)
    (doc : Fields) : AllColl P (s.create h name doc).2.1 := by
  have hd := docId_prepare_ne_empty h doc
  unfold create
  generalize prepare h doc = p at hd ⊢
  obtain ⟨d, h'⟩ := p
  simp only
  split
  · rename_i c heq
    exact hs.put (hP.insert (hs.get_of_closed hP name) hd heq)
  · exact hs.put (hs.get_of_closed hP name)

omit hP in
theorem foldl_remove {Q : MemCollection → Prop} (l : List Fields)
    (hrem : ∀ {c : MemCollection} (d : Fields), d ∈ l → Q c → Q (c.remove (docId d))) :
    ∀ c : MemCollection, Q c → Q (l.foldl (fun c d => c.remove (docId d)) c) := by
  induction l with
  | nil => intro c hc; exact hc
  | cons d rest ih =>
    intro c hc
    exact ih (fun d' hd => hrem d' (List.mem_cons_of_mem d hd)) _
      (hrem d List.mem_cons_self hc)

omit hP in
def batchStep (acc : Except (Fault × MemCollection) (MemCollection × List Fields) × Host)
    (doc : Fields) : Except (Fault × MemCollection) (MemCollection × List Fields) × Host :=
  match acc with
  | (.error e, h) => (.error e, h)
  | (.ok (c, done), h) =>
    let (d, h) := prepare h doc
    match c.insert d with
    | .ok c => (.ok (c, done ++ [d]), h)
    | .error e => (.error (e, done.foldl (fun c d => c.remove (docId d)) c), h)

omit hP in
def batchCollection : Except (Fault × MemCollection) (MemCollection × List Fields) → MemCollection
  | .ok (c, _) => c
  | .error (_, c) => c

omit hP in
theorem createMany_eq (s : MemoryStore) (h : Host) (name : String) (docs : List Fields) :
    s.createMany h name docs =
      let (r, h) := docs.foldl batchStep (.ok (s.get name, []), h)
      match r with
      | .ok (c, done) => (.ok done, s.put c, h)
      | .error (e, c) => (.error e, s.put c, h) := rfl

omit hP in
theorem createMany_store (s : MemoryStore) (h : Host) (name : String) (docs : List Fields) :
    (s.createMany h name docs).2.1 =
      s.put (batchCollection (docs.foldl batchStep (.ok (s.get name, []), h)).1) := by
  rw [createMany_eq]
  generalize docs.foldl batchStep (.ok (s.get name, []), h) = res
  obtain ⟨r, h'⟩ := res
  rcases r with ⟨e, c⟩ | ⟨c, done⟩ <;> rfl

omit hP in
def BatchHolds (Q : MemCollection → List Fields → Prop) (R : MemCollection → Prop) :
    Except (Fault × MemCollection) (MemCollection × List Fields) → Prop
  | .ok (c, done) => Q c done
  | .error (_, c) => R c

omit hP in
theorem batchStep_induction {Q : MemCollection → List Fields → Prop} {R : MemCollection → Prop}
    (hins : ∀ {c c' : MemCollection} {done : List Fields} {d : Fields}, Q c done → docId d ≠ "" →
      c.insert d = .ok c' → Q c' (done ++ [d]))
    (hfail : ∀ {c : MemCollection} {done : List Fields}, Q c done →
      R (done.foldl (fun c d => c.remove (docId d)) c))
    (docs : List Fields) :
    ∀ acc : Except (Fault × MemCollection) (MemCollection × List Fields) × Host,
      BatchHolds Q R acc.1 → BatchHolds Q R (docs.foldl batchStep acc).1 := by
  induction docs with
  | nil => exact fun _ hacc => hacc
  | cons doc rest ih =>
    intro acc hacc
    apply ih
    obtain ⟨r, h⟩ := acc
    rcases r with ⟨e, c⟩ | ⟨c, done⟩
    · exact hacc
    · have hd := docId_prepare_ne_empty h doc
      simp only [batchStep]
      generalize prepare h doc = q at hd
      obtain ⟨d, h'⟩ := q
      dsimp only
      split
      · rename_i c₁ hins'
        exact hins hacc hd hins'
      · exact hfail hacc

omit hP in
theorem batchStep_fold {Q : MemCollection → Prop}
    (hins : ∀ {c c' : MemCollection} {d : Fields}, Q c → docId d ≠ "" → c.insert d = .ok c' → Q c')
    (hrem : ∀ {c : MemCollection} (id : String), Q c → Q (c.remove id)) (docs : List Fields)
    (acc : Except (Fault × MemCollection) (MemCollection × List Fields) × Host)
    (hacc : Q (batchCollection acc.1)) : Q (batchCollection (docs.foldl batchStep acc).1) := by
  have key := batchStep_induction (Q := fun c _ => Q c) (R := Q) (fun hc hd heq => hins hc hd heq)
    (fun hc => foldl_remove _ (fun _ _ hc => hrem _ hc) _ hc) docs acc
  obtain ⟨r, h⟩ := acc
  generalize (docs.foldl batchStep (r, h)).1 = r' at key ⊢
  rcases r with ⟨e, c⟩ | ⟨c, done⟩ <;> rcases r' with ⟨e', c'⟩ | ⟨c', done'⟩ <;> exact key hacc

theorem createMany_all {s : MemoryStore} (hs : AllColl P s) (h : Host) (name : String)
    (docs : List Fields) : AllColl P (s.createMany h name docs).2.1 := by
  rw [createMany_store]
  exact hs.put (batchStep_fold hP.insert hP.remove docs _ (hs.get_of_closed hP name))

theorem replaceFirst_all {s : MemoryStore} (hs : AllColl P s) (name : String) (f : Filter)
    {next : Fields → Fields} (hnext : ∀ d, docId (next d) = docId d) :
    AllColl P (s.replaceFirst name f next).2 := by
  have hc := hs.get_of_closed hP name
  unfold replaceFirst
  dsimp only
  split
  · exact hs.put hc
  · rename_i found hfound
    have hmem : (docId found, found) ∈ (s.get name).docs :=
      (hP.docsWf _ hc).mem_of_select (List.mem_of_mem_head? hfound)
    split
    · rename_i c' heq
      exact hs.put (hP.replace hc hmem (hnext found) heq)
    · exact hs.put hc

theorem findOneAndUpdate_all {s : MemoryStore} (hs : AllColl P s) (h : Host) (name : String)
    (f : Filter) (set : Fields) : AllColl P (s.findOneAndUpdate h name f set).2 :=
  replaceFirst_all hP hs name f fun d => docId_mergeChange h.now d set

theorem findOneAndReplace_all {s : MemoryStore} (hs : AllColl P s) (h : Host) (name : String)
    (f : Filter) (doc : Fields) : AllColl P (s.findOneAndReplace h name f doc).2 :=
  replaceFirst_all hP hs name f fun d => by simp

omit hP in
def updateStep (now : Time) (set : Fields) (acc : MemCollection × Option Fault × Nat)
    (d : Fields) : MemCollection × Option Fault × Nat :=
  match acc with
  | (c, some e, n) => (c, some e, n)
  | (c, none, n) =>
    match c.replace d (mergeChange now d set) with
    | .ok c => (c, none, n + 1)
    | .error e => (c, some e, n)

omit hP in
theorem update_eq (s : MemoryStore) (h : Host) (name : String) (f : Filter) (set : Fields)
    (limit : Nat) :
    s.update h name f set limit =
      let found := (s.get name).select f limit
      let (c, err, _) := found.foldl (updateStep h.now set) (s.get name, none, 0)
      match err with
      | some e => (.error e, s.put c)
      | none => (.ok { matched := found.length, modified := found.length }, s.put c) := rfl

omit hP in
theorem updateStep_fold {Q : MemCollection → Prop} (now : Time) (set : Fields) (F : List Fields)
    (hrep : ∀ {c c' : MemCollection} {d : Fields}, d ∈ F → Q c → (docId d, d) ∈ c.docs →
      c.replace d (mergeChange now d set) = .ok c' → Q c') :
    ∀ (c : MemCollection) (err : Option Fault) (n : Nat), Q c →
      (∀ d ∈ F, (docId d, d) ∈ c.docs) → (F.map docId).Nodup →
      Q (F.foldl (updateStep now set) (c, err, n)).1 := by
  induction F with
  | nil => intro c _ _ hc _ _; exact hc
  | cons d rest ih =>
    intro c err n hc hmem hnd
    have ih' := ih fun hd => hrep (List.mem_cons_of_mem d hd)
    have hrest : ∀ d' ∈ rest, (docId d', d') ∈ c.docs := fun d' h => hmem d' (by simp [h])
    have hnd' : (rest.map docId).Nodup := (List.nodup_cons.1 hnd).2
    simp only [List.foldl_cons]
    cases err with
    | some e => exact ih' c (some e) n hc hrest hnd'
    | none =>
      simp only [updateStep]
      split
      · rename_i c' heq
        refine ih' c' none (n + 1) ?_ ?_ hnd'
        · exact hrep List.mem_cons_self hc (hmem d (by simp)) heq
        · intro d' hd'
          obtain ⟨-, rfl⟩ := MemCollection.replace_eq_ok heq
          have hne : docId d' ≠ docId d := fun he =>
            (List.nodup_cons.1 hnd).1 (he ▸ List.mem_map_of_mem hd')
          exact MemCollection.mem_map_replace.2 (Or.inl ⟨hrest d' hd', hne⟩)
      · rename_i e heq
        exact ih' c (some e) n hc hrest hnd'

theorem update_all {s : MemoryStore} (hs : AllColl P s) (h : Host) (name : String) (f : Filter)
    (set : Fields) (limit : Nat) : AllColl P (s.update h name f set limit).2 := by
  have hc := hs.get_of_closed hP name
  have hw := hP.docsWf _ hc
  have hfold := updateStep_fold h.now set ((s.get name).select f limit)
    (fun _ hc hm heq => hP.replace hc hm (docId_mergeChange _ _ _) heq) (s.get name) none 0
    hc (fun d hd => hw.mem_of_select hd) (hw.nodup_select f limit)
  rw [update_eq]
  dsimp only
  generalize ((s.get name).select f limit).foldl (updateStep h.now set) (s.get name, none, 0) =
    res at hfold ⊢
  obtain ⟨c, err, n⟩ := res
  cases err with
  | some e => exact hs.put hfold
  | none => exact hs.put hfold

theorem delete_all {s : MemoryStore} (hs : AllColl P s) (name : String) (f : Filter)
    (limit : Nat) : AllColl P (s.delete name f limit).2 := by
  unfold delete
  split
  · exact hs
  · rename_i c hc
    exact hs.put (foldl_remove _ (fun _ _ hc => hP.remove _ hc) c (hs.coll c (mem_of_find? hc)))

end Writes

def cleared (s : MemoryStore) (spec : CollectionSpec) : MemCollection :=
  { s.get spec.name with spec, keys := [] }

theorem ensure_eq (s : MemoryStore) (spec : CollectionSpec) :
    s.ensure spec = (s.put ((s.cleared spec).reindexFrom (s.cleared spec).docs).1,
      ((s.cleared spec).reindexFrom (s.cleared spec).docs).2) := rfl

theorem cleared_exact (s : MemoryStore) (spec : CollectionSpec) :
    (s.cleared spec).ExactFor [] :=
  ⟨List.nodup_nil, by simp [cleared]⟩

theorem cleared_docsWf {s : MemoryStore} (hs : s.DocsWf) (spec : CollectionSpec) :
    (s.cleared spec).DocsWf :=
  (hs.get_of_closed MemCollection.writeClosed_docsWf spec.name).of_docs_eq rfl

theorem ensure_inv {s : MemoryStore} (hs : s.Inv) {spec : CollectionSpec}
    (hok : (s.ensure spec).2 = none) : (s.ensure spec).1.Inv := by
  rw [ensure_eq] at hok ⊢
  exact hs.put (MemCollection.reindexFrom_inv (cleared_docsWf hs.docsWf spec) rfl
    (s.cleared_exact spec) hok)

theorem ensure_not_inv {s : MemoryStore} (hs : s.DocsWf) {spec : CollectionSpec} {f : Fault}
    (herr : (s.ensure spec).2 = some f) : ¬ (s.ensure spec).1.Inv := by
  rw [ensure_eq] at herr ⊢
  intro hinv
  obtain ⟨i₁, d₁, i₂, d₂, k, h₁, h₂, hne, hk₁, hk₂⟩ :=
    MemCollection.reindexFrom_clash (cleared_docsWf hs spec) (List.nil_append _).symm
      (s.cleared_exact spec) herr
  obtain ⟨hdocs, hspec⟩ := MemCollection.reindexFrom_docs (s.cleared spec) (s.cleared spec).docs
  rw [← hdocs] at h₁ h₂
  rw [← hspec] at hk₁ hk₂
  exact MemCollection.not_inv_of_clash h₁ h₂ hne hk₁ hk₂ (hinv.coll _ (mem_put_self _ _))

theorem ensure_docsWf {s : MemoryStore} (hs : s.DocsWf) (spec : CollectionSpec) :
    (s.ensure spec).1.DocsWf := by
  rw [ensure_eq]
  exact hs.put ((cleared_docsWf hs spec).of_docs_eq
    (MemCollection.reindexFrom_docs (s.cleared spec) (s.cleared spec).docs).1)

end MemoryStore

namespace StoreCall

open MemCollection MemoryStore

theorem onMemory_all {P : MemCollection → Prop} (hP : WriteClosed P) {c : StoreCall}
    (hc : ∀ spec, c ≠ .ensureCollection spec) {m : MemoryStore} (hs : AllColl P m) (h : Host) :
    AllColl P (c.onMemory h m) := by
  cases c with
  | ensureCollection spec => exact absurd rfl (hc spec)
  | create name doc => exact create_all hP hs h name doc
  | createMany name docs => exact createMany_all hP hs h name docs
  | find | findOne | aggregate => exact hs
  | findOneAndUpdate name f change => exact findOneAndUpdate_all hP hs h name f change
  | findOneAndReplace name f doc => exact findOneAndReplace_all hP hs h name f doc
  | updateOne name f change => exact update_all hP hs h name f change 1
  | updateMany name f change => exact update_all hP hs h name f change 0
  | deleteOne name f => exact delete_all hP hs name f 1
  | deleteMany name f => exact delete_all hP hs name f 0

theorem memory_of_after {c : StoreCall} {s : Storage} {m' : MemoryStore}
    (h : (c.after s).backend = .memory m') :
    ∃ m, s.backend = .memory m ∧ (m' = m ∨ m' = c.onMemory s.host m) := by
  cases hb : s.backend with
  | memory m =>
    refine ⟨m, rfl, ?_⟩
    rcases c.after_memory hb with h₁ | h₁
    · exact Or.inl (Backend.memory.inj (h.symm.trans h₁))
    · exact Or.inr (Backend.memory.inj (h.symm.trans h₁))
  | sqlite q =>
    obtain ⟨q', hq⟩ := c.after_sqlite hb
    rw [hq] at h
    cases h

theorem run_ensureCollection {s : Storage} {m : MemoryStore} (hb : s.backend = .memory m)
    (spec : CollectionSpec) :
    (StoreCall.ensureCollection spec).run.run s =
      ((match (m.ensure spec).2 with | some e => .error e | none => .ok .prepared),
        { s with backend := .memory (m.ensure spec).1 }) := by
  simp only [run, StoreM.run_bind, Storage.ensureCollection_run, hb]
  cases (m.ensure spec).2 <;> rfl

end StoreCall

namespace Storage

open MemCollection MemoryStore

def AllMem (P : MemCollection → Prop) (s : Storage) : Prop :=
  ∀ m, s.backend = .memory m → AllColl P m

/-- The representation invariant of a storage running on memory. -/
abbrev MemInv (s : Storage) : Prop := AllMem MemCollection.Inv s

/-- The documents of a storage running on memory are well formed. -/
abbrev MemDocsWf (s : Storage) : Prop := AllMem MemCollection.DocsWf s

theorem allMem_iff {P : MemCollection → Prop} {s : Storage} {m : MemoryStore}
    (hb : s.backend = .memory m) : AllMem P s ↔ AllColl P m := by
  constructor
  · intro h
    exact h m hb
  · intro h m' hm'
    rw [hb] at hm'
    cases hm'
    exact h

theorem allMem_after {P : MemCollection → Prop} (hP : WriteClosed P) {c : StoreCall}
    (hc : ∀ spec, c ≠ .ensureCollection spec) {s : Storage} (hs : AllMem P s) :
    AllMem P (c.after s) := by
  intro m' hm'
  obtain ⟨m, hb, h | h⟩ := StoreCall.memory_of_after hm' <;> rw [h]
  · exact hs m hb
  · exact StoreCall.onMemory_all hP hc (hs m hb) s.host

theorem memDocsWf_after (c : StoreCall) {s : Storage} (hs : s.MemDocsWf) :
    (c.after s).MemDocsWf := by
  cases c with
  | ensureCollection spec =>
    intro m' hm'
    obtain ⟨m, hb, h | h⟩ := StoreCall.memory_of_after hm' <;> rw [h]
    · exact hs m hb
    · exact ensure_docsWf (hs m hb) spec
  | _ => exact allMem_after writeClosed_docsWf (fun _ h => by cases h) hs

theorem memInv_after_iff {s : Storage} {m : MemoryStore} (hb : s.backend = .memory m)
    (hs : s.MemInv) (c : StoreCall) : (c.after s).MemInv ↔ ¬ c.FailsPreparation s := by
  have hm : m.Inv := hs m hb
  cases c with
  | ensureCollection spec =>
    have hrun := StoreCall.run_ensureCollection hb spec
    have hafter : (StoreCall.ensureCollection spec).after s =
        { s with backend := .memory (m.ensure spec).1 } := by
      simp only [StoreCall.after, hrun]
    rw [hafter, MemInv, allMem_iff rfl]
    cases herr : (m.ensure spec).2 with
    | none => simp [StoreCall.FailsPreparation, hrun, herr, ensure_inv hm herr]
    | some f => simp [StoreCall.FailsPreparation, hrun, herr, ensure_not_inv hm.docsWf herr]
  | _ =>
    refine iff_of_true (allMem_after writeClosed_inv (fun _ h => by cases h) hs) ?_
    rintro ⟨spec, f, h, -⟩
    cases h

theorem memInv_after {s : Storage} (hs : s.MemInv) {c : StoreCall}
    (hc : ¬ c.FailsPreparation s) : (c.after s).MemInv := by
  intro m' hm'
  obtain ⟨m, hb, -⟩ := StoreCall.memory_of_after hm'
  exact (memInv_after_iff hb hs c).2 hc m' hm'

theorem memInv_of_reaches {s t : Storage} (hs : s.MemInv)
    (h : StoreCall.Reaches (fun c t => ¬ c.FailsPreparation t) s t) : t.MemInv := by
  induction h with
  | refl => exact hs
  | call c _ hc ih => exact memInv_after ih hc
  | env _ _ _ _ ih => exact fun m hm => ih m hm

theorem memDocsWf_of_reaches {allowed : StoreCall → Storage → Prop} {s t : Storage}
    (hs : s.MemDocsWf) (h : StoreCall.Reaches allowed s t) : t.MemDocsWf := by
  induction h with
  | refl => exact hs
  | call c _ _ ih => exact memDocsWf_after c ih
  | env _ _ _ _ ih => exact fun m hm => ih m hm

theorem memInv_new (h : Host) : ({ host := h, backend := .memory {} } : Storage).MemInv :=
  (allMem_iff rfl).2 MemoryStore.inv_empty

theorem memory_of_reaches {allowed : StoreCall → Storage → Prop} {s t : Storage} {m : MemoryStore}
    (hs : s.backend = .memory m) (h : StoreCall.Reaches allowed s t) :
    ∃ m', t.backend = .memory m' := by
  induction h with
  | refl => exact ⟨m, hs⟩
  | call c _ _ ih =>
    obtain ⟨m', hm'⟩ := ih
    rcases c.after_memory hm' with h' | h'
    · exact ⟨_, h'⟩
    · exact ⟨_, h'⟩
  | env _ _ _ _ ih => exact ih

/-- The representation invariant of the memory store holds in every state a new store reaches
by calls none of which is a failing preparation, and the next call keeps it exactly when it is
not a failing preparation. -/
theorem memoryIndex_exact_unless_preparation_fails (h : Host) {s : Storage}
    (hr : StoreCall.Reaches (fun c t => ¬ c.FailsPreparation t)
      { host := h, backend := .memory {} } s) (c : StoreCall) :
    s.MemInv ∧ ((c.after s).MemInv ↔ ¬ c.FailsPreparation s) := by
  have hs : s.MemInv := memInv_of_reaches (memInv_new h) hr
  obtain ⟨m, hb⟩ := memory_of_reaches rfl hr
  exact ⟨hs, memInv_after_iff hb hs c⟩

/-- Three documents, two agreeing on "x", stored while only "y" is unique: making "x" unique
too fails, and leaves the index inexact. -/
theorem memoryIndex_breaks_at_duplicate_preparation :
    let prep (keys : List (List String)) : StoreCall :=
      .ensureCollection { name := "things", uniqueKeys := keys }
    let s := (StoreCall.create "things" [("id", .str "c"), ("y", .str "two")]).after
      ((StoreCall.create "things" [("id", .str "b"), ("x", .str "one")]).after
      ((StoreCall.create "things" [("id", .str "a"), ("x", .str "one")]).after
      ((prep [["y"]]).after { host := { now := ⟨0, 0, 0⟩ }, backend := .memory {} })))
    s.MemInv ∧ (prep [["x"], ["y"]]).FailsPreparation s ∧
      ¬ ((prep [["x"], ["y"]]).after s).MemInv := by
  intro prep s
  have hreach : StoreCall.Reaches (fun c t => ¬ c.FailsPreparation t)
      { host := { now := ⟨0, 0, 0⟩ }, backend := .memory {} } s :=
    .call _ (.call _ (.call _ (.call _ .refl (by decide)) (by decide)) (by decide)) (by decide)
  have hfail : (prep [["x"], ["y"]]).FailsPreparation s := by decide
  have hthm := memoryIndex_exact_unless_preparation_fails _ hreach (prep [["x"], ["y"]])
  exact ⟨hthm.1, hfail, fun hi => hthm.2.1 hi hfail⟩

/-- After the failed preparation, a document holding the key "y" of an existing one is
accepted, since the preparation stopped before indexing it. -/
theorem duplicate_accepted_after_failed_preparation :
    let prep (keys : List (List String)) : StoreCall :=
      .ensureCollection { name := "things", uniqueKeys := keys }
    let s := (StoreCall.create "things" [("id", .str "c"), ("y", .str "two")]).after
      ((StoreCall.create "things" [("id", .str "b"), ("x", .str "one")]).after
      ((StoreCall.create "things" [("id", .str "a"), ("x", .str "one")]).after
      ((prep [["y"]]).after { host := { now := ⟨0, 0, 0⟩ }, backend := .memory {} })))
    (prep [["x"], ["y"]]).FailsPreparation s ∧
      ((StoreCall.create "things" [("id", .str "d"), ("y", .str "two")]).run.run
        ((prep [["x"], ["y"]]).after s)).1.toBool = true := by
  decide

end Storage

end CrudRoutes
