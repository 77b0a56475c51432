import Mathlib
import CrudRoutes.Proofs.Store.Mirror

/-!
Every call of the document-store interface, made on a memory store and on SQL tables that hold
every collection alike. Reads select the same documents, the tables answering their read-backs,
and a call that matches nothing fails alike. Writes of storable documents answer alike and keep
every collection held alike, with two exceptions, each after a refusal. An update of every
selected document that is refused keeps, in the memory store, the versions written before the
refusal, which the tables roll back. A preparation that finds two documents holding one key
keeps, in the memory store, the new patterns and the index built up to the clash, while the
tables keep their old patterns. The refusal itself is alike: re-reading the documents under
the new patterns stops at the same document, on the same first taken key, in both stores.
-/

namespace CrudRoutes

open MemCollection

theorem Fault.alike_wrapped {e f : Fault} (ctx : String) (h : e.Alike f) :
    e.Alike (.wrapped ctx f) := h

theorem MemCollection.ExactFor.inv_prefix {c : MemCollection} {pre l : List (String × Fields)}
    (hw : c.DocsWf) (hdocs : c.docs = pre ++ l) (hx : c.ExactFor pre) :
    ({ c with docs := pre } : MemCollection).Inv := by
  have hsub : ∀ i d, (i, d) ∈ pre → (i, d) ∈ c.docs := fun i d h => by
    rw [hdocs]
    exact List.mem_append_left l h
  have hnd : (pre.map Prod.fst).Nodup := by
    have := hw.nodup
    rw [hdocs, List.map_append] at this
    exact (List.nodup_append.1 this).1
  exact ⟨⟨hnd, fun i d h => hw.docId_eq i d (hsub i d h), fun i d h => hw.id_ne i d (hsub i d h)⟩,
    hx.keys_nodup, hx.mem_keys⟩

namespace SqliteStore

theorem foldlM_writeKeys_frame {spec : CollectionSpec} :
    ∀ (ds : List Fields) {q q' : SqliteStore},
      ds.foldlM (fun s d => s.writeKeys spec d) q = .ok q' →
      q'.rows = q.rows ∧ q'.specs = q.specs ∧ q'.closed = q.closed
  | [], _, _, h => by
    cases h
    exact ⟨rfl, rfl, rfl⟩
  | d :: rest, q, q', h => by
    simp only [List.foldlM_cons] at h
    obtain ⟨q₁, h₁, hrest⟩ := Except.bind_eq_ok h
    obtain ⟨hr, hs, hc⟩ := writeKeys_frame h₁
    obtain ⟨hr', hs', hc'⟩ := foldlM_writeKeys_frame rest hrest
    exact ⟨hr'.trans hr, hs'.trans hs, hc'.trans hc⟩

theorem KeysExact.writeKeys {q q₁ : SqliteStore} {spec : CollectionSpec}
    {P : List (String × Fields)} {i : String} {d : Fields} (hex : q.KeysExact spec P)
    (hw : q.writeKeys spec d = .ok q₁) (hid : ∀ i' d', (i', d') ∈ P ++ [(i, d)] → docId d' = i')
    (hnd : ((P ++ [(i, d)]).map Prod.fst).Nodup) : q₁.KeysExact spec (P ++ [(i, d)]) :=
  (writeKeys_fold [(i, d)] P q q₁ (by simpa using hw) hid hnd hex).1

theorem ensure_of_open {q : SqliteStore} (hq : q.closed = false) (spec : CollectionSpec) :
    q.ensure spec =
      match (q.load spec.name {} 0).foldlM (fun s d => s.writeKeys spec d)
          { q with keys := q.keys.filter (·.collection != spec.name) } with
      | .error e => .error (.wrapped ("ensure collection " ++ spec.name) e)
      | .ok s => .ok { s with specs := (s.specs.filter (·.name != spec.name)) ++ [spec] } := by
  unfold ensure
  rw [hq]
  rfl

end SqliteStore

theorem reindexStep_alike {spec : CollectionSpec} (hdist : (spec.uniqueKeys.map keyName).Nodup)
    {pre rest : List (String × Fields)} {c : MemCollection} {q : SqliteStore} {i : String}
    {d : Fields} (hspec : c.spec = spec) (hdocs : c.docs = pre ++ (i, d) :: rest)
    (hw : c.DocsWf) (hst : ∀ i d, (i, d) ∈ c.docs → Storable d) (hx : c.ExactFor pre)
    (hq : q.KeysExact spec (pre.map fun p => (p.1, storedDoc p.2))) :
    (c.conflict? d i = none ∧ ∃ q₁, q.writeKeys spec (storedDoc d) = .ok q₁ ∧
        q₁.KeysExact spec ((pre ++ [(i, d)]).map fun p => (p.1, storedDoc p.2))) ∨
      ∃ e e', c.conflict? d i = some e ∧
        q.writeKeys spec (storedDoc d) = .error (.duplicate e') ∧ e.Alike e' := by
  have hin : ∀ o e, (o, e) ∈ pre → (o, e) ∈ c.docs := fun o e h => by simp [hdocs, h]
  have hmem : (i, d) ∈ c.docs := by simp [hdocs]
  have hid : docId d = i := hw.docId_eq i d hmem
  have hd : Storable d := hst i d hmem
  -- the documents before `d` form a collection with an exact index, whose keys the tables hold
  have hheld : ∀ k, ({ c with docs := pre } : MemCollection).TakenBy (docId d) k ↔
      ∃ o, (k, o) ∈ (q.dropOwner spec.name (docId d)).keysOf spec.name := by
    intro k
    simp only [TakenBy, SqliteStore.keysOf_dropOwner, List.mem_filter, hq.2, List.mem_map,
      Prod.mk.injEq, bne_iff_ne, ne_eq, hspec]
    constructor
    · rintro ⟨o, e, hne, hm, hk⟩
      exact ⟨o, ⟨storedDoc e, ⟨(o, e), hm, rfl, rfl⟩,
        (holds_storedDoc (hst o e (hin o e hm)).steady).2 hk⟩, hne⟩
    · rintro ⟨o, ⟨_, ⟨⟨o', e⟩, hm, rfl, rfl⟩, hk⟩, hne⟩
      exact ⟨o', e, hne, hm, (holds_storedDoc (hst o' e (hin o' e hm)).steady).1 hk⟩
  rw [← hid]
  rcases keyCheck_alike (hx.inv_prefix hw hdocs) (by simp [hspec]) (by simp [hspec])
      (by simpa [hspec] using hdist) hd hheld with
    ⟨hnone, q₁, hw₁⟩ | ⟨e, e', hsome, hw₁, hal⟩
  · refine Or.inl ⟨hnone, q₁, hw₁, ?_⟩
    rw [List.map_append, List.map_singleton]
    refine hq.writeKeys hw₁ ?_ ?_
    · -- every read-back keeps the identity it is stored under
      intro o e' he
      rcases List.mem_append.1 he with he | he
      · obtain ⟨⟨o', e⟩, hm, he⟩ := List.mem_map.1 he
        obtain ⟨rfl, rfl⟩ := Prod.mk.inj he
        rw [docId_storedDoc_of_storable (hst o' e (hin o' e hm)), hw.docId_eq o' e (hin o' e hm)]
      · obtain ⟨rfl, rfl⟩ := Prod.mk.inj (List.mem_singleton.1 he)
        rw [docId_storedDoc_of_storable hd, hid]
    · -- the identities up to `d` are a prefix of the collection's
      have hnd := hw.nodup
      rw [hdocs] at hnd
      have hsub : ((pre ++ [(i, d)]).map Prod.fst).Sublist
          ((pre ++ (i, d) :: rest).map Prod.fst) :=
        List.Sublist.map _ (by simp)
      simpa [hid, List.map_map, Function.comp_def] using hnd.sublist hsub
  · exact Or.inr ⟨e, e', hsome, hw₁, hal⟩

theorem reindexFrom_alike {spec : CollectionSpec} (hdist : (spec.uniqueKeys.map keyName).Nodup) :
    ∀ (l pre : List (String × Fields)) (c : MemCollection) (q : SqliteStore),
      c.spec = spec → c.docs = pre ++ l → c.DocsWf → (∀ i d, (i, d) ∈ c.docs → Storable d) →
      c.ExactFor pre → q.KeysExact spec (pre.map fun p => (p.1, storedDoc p.2)) →
      ((c.reindexFrom l).2 = none ∧
          ∃ q', (l.map fun p => storedDoc p.2).foldlM (fun s d => s.writeKeys spec d) q = .ok q') ∨
        ∃ e e', (c.reindexFrom l).2 = some (.duplicate e) ∧
          (l.map fun p => storedDoc p.2).foldlM (fun s d => s.writeKeys spec d) q =
            .error (.duplicate e') ∧ e.Alike e' := by
  intro l
  induction l with
  | nil => exact fun _ _ q _ _ _ _ _ _ => Or.inl ⟨rfl, q, rfl⟩
  | cons e rest ih =>
    intro pre c q hspec hdocs hw hst hx hq
    obtain ⟨i, d⟩ := e
    simp only [reindexFrom, List.map_cons, List.foldlM_cons]
    rcases reindexStep_alike hdist hspec hdocs hw hst hx hq with
      ⟨hc, q₁, hw₁, hq₁⟩ | ⟨e, e', hc, hw₁, hal⟩
    · -- `d`'s keys are free in both: index them, and go on with the rest
      simp only [hc, hw₁, bind, Except.bind]
      refine ih (pre ++ [(i, d)]) (c.indexKeys d) q₁ ?_ ?_ ?_ ?_ (hx.indexKeys hw hdocs hc) hq₁
      · rw [indexKeys_eq]
        exact hspec
      · rw [indexKeys_eq]
        simp [hdocs]
      · exact hw.of_docs_eq (by rw [indexKeys_eq])
      · rw [indexKeys_eq]
        exact hst
    · -- `d` holds a key of a document before it, found alike
      simp only [hc, hw₁, bind, Except.bind]
      exact Or.inr ⟨e, e', rfl, rfl, hal⟩

namespace StoreMirror

variable {m : MemoryStore} {q : SqliteStore}

theorem ensure (hm : StoreMirror m q) {spec : CollectionSpec}
    (hdist : (spec.uniqueKeys.map keyName).Nodup) :
    ((m.ensure spec).2 = none ∧ ∃ q', q.ensure spec = .ok q' ∧ StoreMirror (m.ensure spec).1 q') ∨
      ∃ e e', (m.ensure spec).2 = some e ∧ q.ensure spec = .error e' ∧ e.Alike e' := by
  have hc := hm.coll spec.name
  have hw : (m.cleared spec).DocsWf := hc.inv.toDocsWf.of_docs_eq rfl
  -- the tables re-read the read-backs of the collection's documents, from no key rows
  have hload : q.load spec.name {} 0 = (m.cleared spec).docs.map fun p => storedDoc p.2 := by
    rw [SqliteStore.load_empty, hc.docs, List.map_map]
    rfl
  have hnil : ({ q with keys := q.keys.filter (·.collection != spec.name) } : SqliteStore).keysOf
      spec.name = [] := by
    simp only [SqliteStore.keysOf, List.filter_filter, List.map_eq_nil_iff, List.filter_eq_nil_iff]
    intro k _
    by_cases h : k.collection = spec.name <;> simp [h]
  have hex : ({ q with keys := q.keys.filter (·.collection != spec.name) } : SqliteStore).KeysExact
      spec (([] : List (String × Fields)).map fun p => (p.1, storedDoc p.2)) :=
    ⟨by simp [hnil], by simp [hnil]⟩
  rw [MemoryStore.ensure_eq, SqliteStore.ensure_of_open hm.opened, hload]
  rcases reindexFrom_alike hdist (m.cleared spec).docs [] (m.cleared spec) _ rfl rfl hw hc.storable
      (m.cleared_exact spec) hex with ⟨hnone, q₁, hfold⟩ | ⟨e, e', herr, hfold, hal⟩
  · -- both re-read every document: the collection gets the new patterns and an exact index
    rw [hfold]
    refine Or.inl ⟨hnone, _, rfl, ?_⟩
    obtain ⟨hdocs, hspec⟩ := (m.cleared spec).reindexFrom_docs (m.cleared spec).docs
    obtain ⟨hrows, hspecs, hclosed⟩ := SqliteStore.foldlM_writeKeys_frame _ hfold
    have hok : q.ensure spec =
        .ok { q₁ with specs := q₁.specs.filter (·.name != spec.name) ++ [spec] } := by
      rw [SqliteStore.ensure_of_open hm.opened, hload, hfold]
    have hspecn : ∀ n, ({ q₁ with specs := q₁.specs.filter (·.name != spec.name) ++ [spec] } :
        SqliteStore).spec n = if n = spec.name then spec else q.spec n := by
      intro n
      rw [SqliteStore.spec_ensure, SqliteStore.spec_congr (q := q) hspecs]
    have hdocsn : ∀ n, ({ q₁ with specs := q₁.specs.filter (·.name != spec.name) ++ [spec] } :
        SqliteStore).docsOf n = q.docsOf n := fun n => by
      simp only [SqliteStore.docsOf, hrows]
    refine hm.put ⟨?_, ?_, ?_, ?_, ?_, ?_⟩ (SqliteStore.ensure_inv hm.inv hok)
      ⟨hclosed, fun n _ => hdocsn n, fun n hn => by rw [hspecn, if_neg hn]⟩
    · rw [hspec]
      rfl
    · rw [hspecn, if_pos rfl, hspec]
      rfl
    · rw [hdocsn, hdocs, hc.docs]
      rfl
    · intro i d hd
      rw [hdocs] at hd
      exact hc.storable i d hd
    · rw [hspec]
      exact hdist
    · exact MemCollection.reindexFrom_inv hw rfl (m.cleared_exact spec) hnone
  · -- both stop at the same document, the tables wrapping the fault
    rw [hfold]
    exact Or.inr ⟨_, _, herr, rfl, Fault.alike_wrapped _ (Fault.alike_duplicate hal)⟩

theorem findAll (hm : StoreMirror m q) (name : String) (f : Filter) :
    q.findAll name f = .ok ((m.findAll name f).map storedDoc) := by
  simp only [SqliteStore.findAll, hm.opened, Bool.false_eq_true, if_false, (hm.coll name).load,
    MemoryStore.findAll_eq, MemCollection.select_zero]

theorem findOne (hm : StoreMirror m q) (name : String) (f : Filter) :
    q.findOne name f = (m.findOne name f).map storedDoc := by
  simp only [SqliteStore.findOne, hm.opened, Bool.false_eq_true, if_false, (hm.coll name).load,
    List.head?_map, MemCollection.head?_select_one, MemoryStore.findOne, MemoryStore.findAll_eq,
    MemCollection.select_zero]
  cases (((m.get name).docs.map Prod.snd).filter f.selects).head? <;> rfl

theorem replaceFirst (hm : StoreMirror m q) (name : String) (f : Filter)
    (next next' : Fields → Fields)
    (hnext : ∀ d, (docId d, d) ∈ (m.get name).docs → Storable (next d) ∧
      docId (next d) = docId d ∧ Json.unwritableFields? (next' (storedDoc d)) = none ∧
        storedDoc (next' (storedDoc d)) = storedDoc (next d)) :
    Except.Alike (fun a b => storedDoc a = storedDoc b) (m.replaceFirst name f next).1
        (q.replaceFirst name f next').1 ∧
      StoreMirror (m.replaceFirst name f next).2 (q.replaceFirst name f next').2 := by
  have hc := hm.coll name
  unfold MemoryStore.replaceFirst SqliteStore.replaceFirst
  simp only [hm.opened, Bool.false_eq_true, if_false, hc.load, List.head?_map]
  cases hfound : ((m.get name).select f 1).head? with
  | none => exact ⟨Fault.alike_refl _, hm.put_get name⟩
  | some found =>
    have hmem : (docId found, found) ∈ (m.get name).docs :=
      hc.inv.mem_of_select (List.mem_of_mem_head? hfound)
    obtain ⟨hst, hid, hw', hsd⟩ := hnext found hmem
    simp only [Option.map_some, SqliteStore.save_congr q _ hw' hst.encodable.writable hsd]
    rcases hc.replace hm.inv hmem hst hid with
      ⟨c', q', hmr, hsr, hcm, hqi, ht⟩ | ⟨e, e', hmr, hsr, hal⟩
    · simp only [hmr, hsr]
      exact ⟨(storedDoc_storedDoc _).symm, hm.put hcm hqi ht⟩
    · simp only [hmr, hsr]
      exact ⟨hal, hm.put_get name⟩

theorem update (hm : StoreMirror m q) {hst : Host} (hh : hst.now.Encodable) (name : String)
    (f : Filter) {set : Fields} (hset : set.Encodable) (limit : Nat) :
    Except.Alike Eq (m.update hst name f set limit).1 (q.update hst name f set limit).1 ∧
      (StoreMirror (m.update hst name f set limit).2 (q.update hst name f set limit).2 ∨
        limit ≠ 1 ∧ (m.update hst name f set limit).1.toBool = false) := by
  have hc := hm.coll name
  have hw := hc.inv.toDocsWf
  have hfold := CollMirror.updates hst.now hh set hset (q.spec name) ((m.get name).select f limit)
    (m.get name) q q 0 hc hm.inv rfl (SqliteStore.Touches.refl name q)
    (fun d hd => hw.mem_of_select hd) (hw.nodup_select f limit)
  rw [MemoryStore.update_eq]
  simp only [SqliteStore.update, hm.opened, Bool.false_eq_true, if_false, hc.load]
  generalize ((m.get name).select f limit).foldl (MemoryStore.updateStep hst.now set)
    (m.get name, none, 0) = R at hfold ⊢
  obtain ⟨c', err, k⟩ := R
  simp only at hfold
  rcases hfold with ⟨rfl, q', hq', hcm, hqi, ht⟩ | ⟨e, e', rfl, hq', hal, hone⟩
  · simp only [hq', List.length_map]
    exact ⟨rfl, Or.inl (hm.put hcm hqi ht)⟩
  · simp only [hq']
    refine ⟨hal, ?_⟩
    by_cases hl : limit = 1
    · -- an update of one document refused leaves the collection as it was
      subst hl
      obtain rfl := hone (MemCollection.length_select_one _ _)
      exact Or.inl (hm.put_get name)
    · exact Or.inr ⟨hl, rfl⟩

theorem delete (hm : StoreMirror m q) (name : String) (f : Filter) (limit : Nat) :
    (q.delete name f limit).1 = .ok (m.delete name f limit).1 ∧
      StoreMirror (m.delete name f limit).2 (q.delete name f limit).2 := by
  have hc := hm.coll name
  have hw := hc.inv.toDocsWf
  have hids : (q.load name f limit).map docId = ((m.get name).select f limit).map docId := by
    rw [hc.load, List.map_map]
    apply List.map_congr_left
    intro d hd
    exact docId_storedDoc_of_storable (hc.storable _ _ (hw.mem_of_select hd))
  unfold MemoryStore.delete SqliteStore.delete
  rw [if_neg (by simp [hm.opened])]
  simp only [hids, List.length_map]
  cases hfind : m.find? name with
  | none =>
    -- a collection that does not exist selects nothing
    have hsel : (m.get name).select f limit = [] := by
      rw [MemoryStore.get_of_find?_none hfind]
      simp [MemCollection.select]
    simp only [hsel, List.map_nil, List.contains_nil, Bool.and_false, Bool.not_false,
      List.filter_true]
    exact ⟨rfl, hm⟩
  | some c =>
    have hget := MemoryStore.get_of_find? hfind
    have hrem := hc.removeIds hm.inv ((m.get name).select f limit)
    rw [hget] at hrem ⊢
    exact ⟨rfl, hm.put hrem.1 hrem.2.1 hrem.2.2⟩

theorem aggregate (hm : StoreMirror m q) (name : String) (p : Pipeline) :
    ∃ b, q.aggregate name p = .ok b ∧
      ((m.aggregate name p).getD []).map storedDoc = (b.getD []).map storedDoc := by
  have hc := hm.coll name
  have hsel : ∀ d ∈ (m.get name).select {} 0, Storable d := fun d hd =>
    hc.storable _ _ (hc.inv.mem_of_select hd)
  have hrun := (BatchAlike.some (DocsAlike.of_storable hsel)).run p
  refine ⟨p.run (some (((m.get name).select {} 0).map storedDoc)), ?_, ?_⟩
  · simp only [SqliteStore.aggregate, hm.opened, Bool.false_eq_true, if_false, hc.load]
  rw [← hrun.docs.stored]
  unfold MemoryStore.aggregate
  cases hfind : m.find? name with
  | none =>
    have hnone : (m.get name).select {} 0 = [] := by
      rw [MemoryStore.get_of_find?_none hfind]
      rfl
    rw [hnone, Pipeline.getD_run_none]
  | some c =>
    rw [MemoryStore.get_of_find? hfind]
    rfl

end StoreMirror

end CrudRoutes
