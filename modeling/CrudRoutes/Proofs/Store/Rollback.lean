import Mathlib
import CrudRoutes.Proofs.Store.MemoryIndex

/-!
Undoing a batch on the memory store. A batch is inserted one document at a time and, at the
first refusal, the documents inserted so far are removed again in order. Removal forgets only the
index entries a document owns, so whether the index comes back depends on what it held before.

An index is sound when it keeps each key once and names, for each, a stored document holding it
(`MemCollection.Sound`). Every call keeps soundness, failing preparations included, so it holds
in every state a run from a new store reaches (`Storage.memSound_of_reaches`). From a sound
collection, a refused batch gives the collection back exactly (`rollback_eq`); its documents and
patterns come back from any collection (`rollback_docs`).
-/

namespace CrudRoutes

namespace MemCollection

/-- An index that keeps each key once and names, for each, a stored document holding it. -/
structure Sound (c : MemCollection) : Prop extends DocsWf c where
  keys_nodup : (c.keys.map Prod.fst).Nodup
  sound : ∀ k o, (k, o) ∈ c.keys → ∃ d, (o, d) ∈ c.docs ∧ Holds c.spec.uniqueKeys d k

theorem Inv.sound {c : MemCollection} (h : c.Inv) : c.Sound :=
  ⟨h.toDocsWf, h.keys_nodup, fun k o hm => (h.mem_keys k o).1 hm⟩

theorem Sound.owner_ne {c : MemCollection} (h : c.Sound) (k : String × String) :
    (k, "") ∉ c.keys := fun hm => by
  obtain ⟨d, hd, -⟩ := h.sound k "" hm
  exact h.id_ne "" d hd rfl

theorem insert_sound {c c' : MemCollection} {d : Fields} (hc : c.Sound) (hid : docId d ≠ "")
    (h : c.insert d = .ok c') : c'.Sound := by
  have hw := insert_docsWf hc.toDocsWf hid h
  obtain ⟨-, -, rfl⟩ := insert_eq_ok h
  refine ⟨hw, nodup_indexList hc.keys_nodup, fun k o hm => ?_⟩
  rcases mem_indexList.1 hm with ⟨hm, -⟩ | ⟨hk, rfl⟩
  · obtain ⟨d', hd', hk⟩ := hc.sound k o hm
    exact ⟨d', List.mem_append_left _ hd', hk⟩
  · exact ⟨d, by simp, hk⟩

theorem replace_sound {c c' : MemCollection} {current next : Fields} (hc : c.Sound)
    (hcur : (docId current, current) ∈ c.docs) (hid : docId next = docId current)
    (h : c.replace current next = .ok c') : c'.Sound := by
  have hw := replace_docsWf hc.toDocsWf hcur hid h
  obtain ⟨-, rfl⟩ := replace_eq_ok h
  refine ⟨hw, nodup_indexList (hc.keys_nodup.sublist ((unindexList_sublist _ _ _).map Prod.fst)),
    fun k o hm => ?_⟩
  rcases mem_indexList.1 hm with ⟨hm, -⟩ | ⟨hk, rfl⟩
  · obtain ⟨hm, hnot⟩ := mem_unindexList.1 hm
    obtain ⟨d', hd', hk⟩ := hc.sound k o hm
    -- the current version's keys left the index, so the entry's owner is another document
    have ho : o ≠ docId current := by
      rintro rfl
      exact hnot ⟨hc.eq_of_mem hd' hcur ▸ hk, rfl⟩
    exact ⟨d', mem_map_replace.2 (.inl ⟨hd', ho⟩), hk⟩
  · exact ⟨next, mem_map_replace.2 (.inr ⟨hid, rfl, current, hcur⟩), hk⟩

theorem remove_sound {c : MemCollection} (hc : c.Sound) (id : String) : (c.remove id).Sound := by
  have hw := remove_docsWf hc.toDocsWf id
  cases hd : c.doc? id with
  | none => simpa [remove, hd] using hc
  | some d =>
    rw [remove_eq hd] at hw ⊢
    have hdm := mem_of_doc?_eq_some hd
    refine ⟨hw, hc.keys_nodup.sublist ((unindexList_sublist _ _ _).map Prod.fst),
      fun k o hm => ?_⟩
    obtain ⟨hm, hnot⟩ := mem_unindexList.1 hm
    obtain ⟨d', hd', hk⟩ := hc.sound k o hm
    have ho : o ≠ id := by
      rintro rfl
      exact hnot ⟨hc.eq_of_mem hd' hdm ▸ hk, (hc.docId_eq _ _ hdm).symm⟩
    exact ⟨d', List.mem_filter.2 ⟨hd', by simpa using ho⟩, hk⟩

theorem writeClosed_sound : WriteClosed Sound where
  docsWf _ h := h.toDocsWf
  empty spec := (inv_empty spec).sound
  insert := insert_sound
  replace := replace_sound
  remove id h := remove_sound h id

theorem reindexFrom_exactFor {c : MemCollection} {pre l : List (String × Fields)}
    (hw : c.DocsWf) (hdocs : c.docs = pre ++ l) (hx : c.ExactFor pre) :
    ∃ pre', pre' <+: c.docs ∧ (c.reindexFrom l).1.ExactFor pre' := by
  induction l generalizing pre c with
  | nil => exact ⟨pre, by simp [hdocs], hx⟩
  | cons e rest ih =>
    obtain ⟨id, d⟩ := e
    simp only [reindexFrom]
    cases hc : c.conflict? d id with
    | some _ => exact ⟨pre, ⟨_, hdocs.symm⟩, hx⟩
    | none =>
      have hw' : (c.indexKeys d).DocsWf := hw.of_docs_eq (by rw [indexKeys_eq])
      have hdocs' : (c.indexKeys d).docs = (pre ++ [(id, d)]) ++ rest := by
        rw [indexKeys_eq]
        simp [hdocs]
      obtain ⟨pre', hp, hx'⟩ := ih hw' hdocs' (hx.indexKeys hw hdocs hc)
      rw [indexKeys_eq] at hp
      exact ⟨pre', hp, hx'⟩

/-! The undo of a batch. -/

theorem unindexList_append (d : Fields) (ps : List (List String))
    (A B : List ((String × String) × String)) :
    unindexList d ps (A ++ B) = unindexList d ps A ++ unindexList d ps B := by
  induction ps generalizing A B with
  | nil => rfl
  | cons P rest ih =>
    simp only [unindexList, List.foldl_cons] at ih ⊢
    cases keyOf d P with
    | none => exact ih A B
    | some k =>
      dsimp only
      rw [List.filter_append, ih]

theorem unindexList_of_unheld {d : Fields} {ps : List (List String)}
    {A : List ((String × String) × String)} (h : ∀ e ∈ A, ¬ Holds ps d e.1) :
    unindexList d ps A = A := by
  induction ps with
  | nil => rfl
  | cons P rest ih =>
    simp only [unindexList, List.foldl_cons] at ih ⊢
    cases hP : keyOf d P with
    | none => exact ih fun e he hk => h e he (holds_cons.2 (.inr hk))
    | some k =>
      have hA : A.filter (fun e => !(e.1 == k && e.2 == docId d)) = A := by
        refine List.filter_eq_self.2 fun e he => ?_
        have hne : e.1 ≠ k := fun hek => h e he (holds_cons.2 (.inl (hek ▸ hP)))
        simp [hne]
      dsimp only
      rw [hA]
      exact ih fun e he hk => h e he (holds_cons.2 (.inr hk))

theorem indexList_append_of_unheld {d : Fields} {ps : List (List String)}
    {A : List ((String × String) × String)} (h : ∀ e ∈ A, ¬ Holds ps d e.1) :
    ∀ M, ∃ M', indexList d ps (A ++ M) = A ++ M' ∧
      ∀ e ∈ M', e ∈ M ∨ (e.2 = docId d ∧ Holds ps d e.1) := by
  induction ps with
  | nil => exact fun M => ⟨M, rfl, fun e he => .inl he⟩
  | cons P rest ih =>
    intro M
    have h' : ∀ e ∈ A, ¬ Holds rest d e.1 := fun e he hk => h e he (holds_cons.2 (.inr hk))
    simp only [indexList, List.foldl_cons] at ih ⊢
    cases hP : keyOf d P with
    | none =>
      obtain ⟨M', heq, hM'⟩ := ih h' M
      exact ⟨M', heq, fun e he => (hM' e he).imp id fun h =>
        ⟨h.1, holds_cons.2 (.inr h.2)⟩⟩
    | some k =>
      -- no entry in front holds the key, so the filter only touches the added entries
      have hA : A.filter (fun e => e.1 != k) = A := by
        refine List.filter_eq_self.2 fun e he => ?_
        have hne : e.1 ≠ k := fun hek => h e he (holds_cons.2 (.inl (hek ▸ hP)))
        simp [hne]
      obtain ⟨M', heq, hM'⟩ := ih h' (M.filter (fun e => e.1 != k) ++ [(k, docId d)])
      refine ⟨M', by dsimp only; rw [List.filter_append, hA, List.append_assoc, heq],
        fun e he => ?_⟩
      rcases hM' e he with hm | ⟨ho, hk⟩
      · rcases List.mem_append.1 hm with hm | hm
        · exact .inl (List.mem_filter.1 hm).1
        · rw [List.mem_singleton.1 hm]
          exact .inr ⟨rfl, holds_cons.2 (.inl hP)⟩
      · exact .inr ⟨ho, holds_cons.2 (.inr hk)⟩

/-- `c` is `c₀` with the documents `done` inserted in turn, each under a new identity. -/
structure Batched (c₀ c : MemCollection) (done : List Fields) : Prop where
  spec : c.spec = c₀.spec
  docs : c.docs = c₀.docs ++ done.map fun d => (docId d, d)
  fresh : ∀ d ∈ done, ∀ e, (docId d, e) ∉ c₀.docs
  distinct : (done.map docId).Nodup

/-- The index of `c` is that of `c₀` followed by entries of the keys of `done`, none of which
`c₀`'s entries hold. -/
structure BatchIndexed (c₀ c : MemCollection) (done : List Fields) : Prop where
  ids : ∀ d ∈ done, docId d ≠ ""
  keys_nodup : (c.keys.map Prod.fst).Nodup
  unheld : ∀ d ∈ done, ∀ e ∈ c₀.keys, ¬ Holds c₀.spec.uniqueKeys d e.1
  added : ∃ L, c.keys = c₀.keys ++ L ∧
    ∀ e ∈ L, ∃ d ∈ done, e.2 = docId d ∧ Holds c₀.spec.uniqueKeys d e.1

theorem batched_nil (c₀ : MemCollection) : Batched c₀ c₀ [] :=
  ⟨rfl, by simp, by simp, List.nodup_nil⟩

theorem batchIndexed_nil {c₀ : MemCollection} (hc : c₀.Sound) : BatchIndexed c₀ c₀ [] :=
  ⟨by simp, hc.keys_nodup, by simp, ⟨[], by simp, by simp⟩⟩

theorem Batched.insert {c₀ c c' : MemCollection} {done : List Fields} {d : Fields}
    (hb : Batched c₀ c done) (h : c.insert d = .ok c') : Batched c₀ c' (done ++ [d]) := by
  obtain ⟨hnew, -, rfl⟩ := insert_eq_ok h
  refine ⟨hb.spec, by simp [hb.docs], fun d' hd' e he => ?_, ?_⟩
  · rcases List.mem_append.1 hd' with hd' | hd'
    · exact hb.fresh d' hd' e he
    · rw [List.mem_singleton.1 hd'] at he
      exact hnew e (by rw [hb.docs]; exact List.mem_append_left _ he)
  · rw [List.map_append, List.nodup_append]
    refine ⟨hb.distinct, List.nodup_singleton _, fun i hi j hj hij => ?_⟩
    rw [List.mem_singleton.1 hj] at hij
    obtain ⟨d', hd', rfl⟩ := List.mem_map.1 hi
    exact hnew d' (by rw [hb.docs, ← hij]; simp [hd'])

theorem BatchIndexed.insert {c₀ c c' : MemCollection} {done : List Fields} {d : Fields}
    (hc₀ : c₀.Sound) (hb : Batched c₀ c done) (hx : BatchIndexed c₀ c done) (hid : docId d ≠ "")
    (h : c.insert d = .ok c') : BatchIndexed c₀ c' (done ++ [d]) := by
  obtain ⟨-, hfree, rfl⟩ := insert_eq_ok h
  have hfree' := (conflict?_eq_none_iff hx.keys_nodup).1 hfree
  obtain ⟨L, hL, hLd⟩ := hx.added
  rw [hb.spec] at hfree'
  -- every key of `d` is unowned: the owners in the index are the stored and inserted identities
  have hfront : ∀ e ∈ c₀.keys, ¬ Holds c₀.spec.uniqueKeys d e.1 := fun e he hk =>
    hc₀.owner_ne e.1 (hfree' e.1 e.2 hk (by rw [hL]; exact List.mem_append_left _ he) ▸ he)
  have hback : ∀ e ∈ L, ¬ Holds c₀.spec.uniqueKeys d e.1 := fun e he hk => by
    obtain ⟨d', hd', ho, -⟩ := hLd e he
    exact hx.ids d' hd' (ho ▸ hfree' e.1 e.2 hk (by rw [hL]; exact List.mem_append_right _ he))
  obtain ⟨M', heq, hM'⟩ := indexList_append_of_unheld hfront L
  refine ⟨?_, nodup_indexList hx.keys_nodup, ?_, ⟨M', ?_, fun e he => ?_⟩⟩
  · intro d' hd'
    rcases List.mem_append.1 hd' with hd' | hd'
    · exact hx.ids d' hd'
    · rw [List.mem_singleton.1 hd']
      exact hid
  · intro d' hd' e he
    rcases List.mem_append.1 hd' with hd' | hd'
    · exact hx.unheld d' hd' e he
    · rw [List.mem_singleton.1 hd']
      exact hfront e he
  · show indexList d c.spec.uniqueKeys c.keys = c₀.keys ++ M'
    rw [hb.spec, hL, heq]
  · rcases hM' e he with hm | ⟨ho, hk⟩
    · obtain ⟨d', hd', ho, hk⟩ := hLd e hm
      exact ⟨d', List.mem_append_left _ hd', ho, hk⟩
    · exact ⟨d, by simp, ho, hk⟩

theorem doc?_of_docs_eq {c : MemCollection} {A B : List (String × Fields)} {i : String}
    {d : Fields} (hdocs : c.docs = A ++ (i, d) :: B) (hA : ∀ e, (i, e) ∉ A) : c.doc? i = some d := by
  simp only [doc?, hdocs, List.find?_append]
  rw [List.find?_eq_none.2 ?_]
  · simp
  · -- no entry in front carries the identity
    intro p hp
    obtain ⟨j, e⟩ := p
    simp only [beq_iff_eq]
    rintro rfl
    exact hA e hp

theorem Batched.remove_head {c₀ c : MemCollection} {d : Fields} {rest : List Fields}
    (hb : Batched c₀ c (d :: rest)) :
    c.doc? (docId d) = some d ∧ Batched c₀ (c.remove (docId d)) rest := by
  have hdocs : c.docs = c₀.docs ++ (docId d, d) :: rest.map fun d => (docId d, d) := by
    rw [hb.docs]
    rfl
  have hdoc := doc?_of_docs_eq hdocs (hb.fresh d List.mem_cons_self)
  have hrest : docId d ∉ rest.map docId := (List.nodup_cons.1 hb.distinct).1
  rw [remove_eq hdoc]
  refine ⟨hdoc, hb.spec, ?_, fun d' hd' => hb.fresh d' (List.mem_cons_of_mem d hd'),
    (List.nodup_cons.1 hb.distinct).2⟩
  dsimp only
  rw [hdocs, List.filter_append, List.filter_cons]
  simp only [bne_self_eq_false, Bool.false_eq_true, if_false]
  congr 1
  · -- no stored document has the identity of an inserted one
    refine List.filter_eq_self.2 fun p hp => ?_
    obtain ⟨i, e⟩ := p
    simp only [bne_iff_ne, ne_eq]
    rintro rfl
    exact hb.fresh d List.mem_cons_self e hp
  · -- the later inserted documents have other identities
    refine List.filter_eq_self.2 fun p hp => ?_
    obtain ⟨d', hd', rfl⟩ := List.mem_map.1 hp
    simp only [bne_iff_ne, ne_eq]
    intro he
    exact hrest (he ▸ List.mem_map_of_mem hd')

theorem BatchIndexed.remove_head {c₀ c : MemCollection} {d : Fields} {rest : List Fields}
    (hb : Batched c₀ c (d :: rest)) (hx : BatchIndexed c₀ c (d :: rest)) :
    BatchIndexed c₀ (c.remove (docId d)) rest := by
  obtain ⟨L, hL, hLd⟩ := hx.added
  rw [remove_eq hb.remove_head.1]
  refine ⟨fun d' hd' => hx.ids d' (List.mem_cons_of_mem d hd'),
    hx.keys_nodup.sublist ((unindexList_sublist _ _ _).map Prod.fst),
    fun d' hd' => hx.unheld d' (List.mem_cons_of_mem d hd'),
    ⟨unindexList d c₀.spec.uniqueKeys L, ?_, fun e he => ?_⟩⟩
  · show unindexList d c.spec.uniqueKeys c.keys = _
    rw [hb.spec, hL, unindexList_append,
      unindexList_of_unheld (hx.unheld d List.mem_cons_self)]
  · -- the entries of `d` went, so each entry left belongs to a later document
    obtain ⟨he, hnot⟩ := mem_unindexList.1 (show (e.1, e.2) ∈ _ from he)
    obtain ⟨d', hd', ho, hk⟩ := hLd e he
    rcases List.mem_cons.1 hd' with rfl | hd'
    · exact absurd ⟨hk, ho⟩ hnot
    · exact ⟨d', hd', ho, hk⟩

/-- Removing the inserted documents in order gives back the documents and the patterns. -/
theorem Batched.rollback_docs {c₀ : MemCollection} :
    ∀ {c : MemCollection} {done : List Fields}, Batched c₀ c done →
      (done.foldl (fun c d => c.remove (docId d)) c).docs = c₀.docs ∧
        (done.foldl (fun c d => c.remove (docId d)) c).spec = c₀.spec := by
  intro c done
  induction done generalizing c with
  | nil => exact fun hb => ⟨by simpa using hb.docs, hb.spec⟩
  | cons d rest ih => exact fun hb => ih hb.remove_head.2

/-- From a sound collection, removing the inserted documents in order gives it back. -/
theorem rollback_eq {c₀ : MemCollection} :
    ∀ {c : MemCollection} {done : List Fields}, Batched c₀ c done → BatchIndexed c₀ c done →
      done.foldl (fun c d => c.remove (docId d)) c = c₀ := by
  intro c done
  induction done generalizing c with
  | nil =>
    intro hb hx
    obtain ⟨L, hL, hLd⟩ := hx.added
    have hL0 : L = [] := List.eq_nil_iff_forall_not_mem.2 fun e he => by
      obtain ⟨d, hd, -⟩ := hLd e he
      cases hd
    obtain ⟨spec, docs, keys⟩ := c
    have hdocs := hb.docs
    have hspec := hb.spec
    simp only [List.map_nil, List.append_nil] at hdocs hspec hL
    rw [hL0, List.append_nil] at hL
    subst hdocs hspec hL
    rfl
  | cons d rest ih => exact fun hb hx => ih hb.remove_head.2 (hx.remove_head hb)

end MemCollection

namespace MemoryStore

open MemCollection

theorem foldl_batchStep_rollback {c₀ : MemCollection} (hc : c₀.Sound) (docs : List Fields)
    (h : Host) :
    BatchHolds (fun c done => Batched c₀ c done ∧ BatchIndexed c₀ c done) (· = c₀)
      (docs.foldl batchStep (.ok (c₀, []), h)).1 := by
  refine batchStep_induction (Q := fun c done => Batched c₀ c done ∧ BatchIndexed c₀ c done)
    (R := (· = c₀)) ?_ ?_ docs _ ⟨batched_nil c₀, batchIndexed_nil hc⟩
  · intro c c' done d hb hid heq
    exact ⟨hb.1.insert heq, hb.2.insert hc hb.1 hid heq⟩
  · intro c done hb
    exact rollback_eq hb.1 hb.2

theorem foldl_batchStep_docs (c₀ : MemCollection) (docs : List Fields) (h : Host) :
    BatchHolds (fun c done => Batched c₀ c done) (fun c => c.docs = c₀.docs ∧ c.spec = c₀.spec)
      (docs.foldl batchStep (.ok (c₀, []), h)).1 :=
  batchStep_induction (fun hb _ heq => hb.insert heq) (fun hb => hb.rollback_docs) docs _
    (batched_nil c₀)

theorem ensure_sound {s : MemoryStore} (hs : AllColl Sound s) (spec : CollectionSpec) :
    AllColl Sound (s.ensure spec).1 := by
  rw [ensure_eq]
  have hw := cleared_docsWf (hs.mono fun _ h => h.toDocsWf) spec
  obtain ⟨pre, hp, hx⟩ := reindexFrom_exactFor hw (List.nil_append _).symm (s.cleared_exact spec)
  obtain ⟨hdocs, -⟩ := reindexFrom_docs (s.cleared spec) (s.cleared spec).docs
  refine hs.put ⟨hw.of_docs_eq hdocs, hx.keys_nodup, fun k o hm => ?_⟩
  obtain ⟨d, hd, hk⟩ := (hx.mem_keys k o).1 hm
  exact ⟨d, by rw [hdocs]; exact hp.subset hd, hk⟩

end MemoryStore

namespace Storage

/-- The index of every collection of a storage running on memory is sound. -/
abbrev MemSound (s : Storage) : Prop := AllMem MemCollection.Sound s

theorem memSound_after (c : StoreCall) {s : Storage} (hs : s.MemSound) : (c.after s).MemSound := by
  cases c with
  | ensureCollection spec =>
    intro m' hm'
    obtain ⟨m, hb, h | h⟩ := StoreCall.memory_of_after hm' <;> rw [h]
    · exact hs m hb
    · exact MemoryStore.ensure_sound (hs m hb) spec
  | _ => exact allMem_after MemCollection.writeClosed_sound (fun _ h => by cases h) hs

/-- Soundness holds along every run, failing preparations included. -/
theorem memSound_of_reaches {allowed : StoreCall → Storage → Prop} {s t : Storage}
    (hs : s.MemSound) (h : StoreCall.Reaches allowed s t) : t.MemSound := by
  induction h with
  | refl => exact hs
  | call c _ _ ih => exact memSound_after c ih
  | env _ _ _ _ ih => exact fun m hm => ih m hm

theorem memSound_of_memInv {s : Storage} (hs : s.MemInv) : s.MemSound :=
  fun m hm => (hs m hm).mono fun _ h => h.sound

theorem memSound_new {h : Host} {b : Backend} (hb : b = .memory {} ∨ b = .sqlite {}) :
    ({ host := h, backend := b } : Storage).MemSound := by
  rcases hb with rfl | rfl
  · exact memSound_of_memInv (memInv_new h)
  · intro m hm
    cases hm

end Storage

end CrudRoutes
