import Mathlib
import CrudRoutes.Proofs.UniqueKeys
import CrudRoutes.Proofs.Store.Rollback

/-!
Calls act on the documents their filter selects. A call that changes or removes documents chooses
them by a filter within one collection, so a stored document that the filter does not select is
still stored, unchanged, after the call, on either backend; inserting only adds documents, and
preparing a collection leaves them alone. What the reading and writing calls answer is likewise
made of selected documents only.
-/

namespace CrudRoutes

namespace MemCollection

theorem insert_spec_docs {c c' : MemCollection} {d : Fields} (h : c.insert d = .ok c') :
    c'.spec = c.spec ∧ ∀ x ∈ c.docs, x ∈ c'.docs := by
  obtain ⟨-, -, rfl⟩ := insert_eq_ok h
  exact ⟨rfl, fun x hx => List.mem_append_left _ hx⟩

theorem replace_spec_docs {c c' : MemCollection} {current next : Fields}
    (h : c.replace current next = .ok c') :
    c'.spec = c.spec ∧ ∀ i T, (i, T) ∈ c.docs → i ≠ docId current → (i, T) ∈ c'.docs := by
  obtain ⟨-, rfl⟩ := replace_eq_ok h
  exact ⟨rfl, fun i T hm hi => mem_map_replace.2 (Or.inl ⟨hm, hi⟩)⟩

theorem remove_spec_docs (c : MemCollection) (id : String) :
    (c.remove id).spec = c.spec ∧ ∀ i T, (i, T) ∈ c.docs → i ≠ id → (i, T) ∈ (c.remove id).docs := by
  cases hd : c.doc? id with
  | none =>
    have hc : c.remove id = c := by simp [remove, hd]
    rw [hc]
    exact ⟨rfl, fun _ _ hm _ => hm⟩
  | some d =>
    rw [remove_eq hd]
    exact ⟨rfl, fun i T hm hi => List.mem_filter.2 ⟨hm, by simpa using hi⟩⟩

theorem selects_of_mem_select {c : MemCollection} {f : Filter} {limit : Nat} {d : Fields}
    (h : d ∈ c.select f limit) : f.selects d = true := by
  unfold select at h
  split at h
  · exact (List.mem_filter.1 (List.mem_of_mem_take h)).2
  · exact (List.mem_filter.1 h).2

theorem DocsWf.ne_of_select {c : MemCollection} (hw : c.DocsWf) {i : String} {T d : Fields}
    {f : Filter} {limit : Nat} (hm : (i, T) ∈ c.docs) (hT : f.selects T = false)
    (hd : d ∈ c.select f limit) : i ≠ docId d := by
  rintro rfl
  have := hw.eq_of_mem hm (hw.mem_of_select hd)
  subst this
  rw [selects_of_mem_select hd] at hT
  cases hT

end MemCollection

namespace MemoryStore

theorem get_put (s : MemoryStore) (c : MemCollection) (n : String) :
    (s.put c).get n = if c.spec.name = n then c else s.get n := by
  unfold put get find?
  split
  · rename_i hsome
    rw [List.find?_map]
    by_cases hn : c.spec.name = n
    · subst hn
      obtain ⟨c₀, hc₀⟩ := Option.isSome_iff_exists.1 hsome
      have hp : ((fun c' => c'.spec.name == c.spec.name) ∘ fun c' =>
          if c'.spec.name == c.spec.name then c else c') =
          fun c' => c'.spec.name == c.spec.name := by
        funext c'
        by_cases h : c'.spec.name = c.spec.name <;> simp [h]
      rw [hp, hc₀]
      have : c₀.spec.name = c.spec.name := by simpa using List.find?_some hc₀
      simp [this]
    · -- the collections renamed by the update are exactly those named like `c`, not `n`
      have hp : ((fun c' => c'.spec.name == n) ∘ fun c' =>
          if c'.spec.name == c.spec.name then c else c') = fun c' => c'.spec.name == n := by
        funext c'
        by_cases h : c'.spec.name = c.spec.name <;> simp [h]
      rw [hp, if_neg hn]
      cases hf : s.collections.find? (·.spec.name == n) with
      | none => rfl
      | some c₁ =>
        have : c₁.spec.name = n := by simpa using List.find?_some hf
        simp [this, Ne.symm hn]
  · rename_i hnone
    rw [List.find?_append]
    by_cases hn : c.spec.name = n
    · subst hn
      simp only [Bool.not_eq_true, Option.isSome_eq_false_iff, Option.isNone_iff_eq_none] at hnone
      simp [hnone]
    · simp [hn]

theorem mem_get_put {m : MemoryStore} {c : MemCollection} {n name : String}
    {x : String × Fields} (hn : c.spec.name = n) (hkeep : n = name → x ∈ c.docs)
    (hx : x ∈ (m.get name).docs) : x ∈ ((m.put c).get name).docs := by
  rw [get_put]
  split
  · rename_i h
    exact hkeep (hn ▸ h)
  · exact hx

section Keep

variable {m : MemoryStore} {name i : String} {T : Fields}

theorem mem_ensure (spec : CollectionSpec) (hT : (i, T) ∈ (m.get name).docs) :
    (i, T) ∈ ((m.ensure spec).1.get name).docs := by
  obtain ⟨hdocs, hspec⟩ := MemCollection.reindexFrom_docs (m.cleared spec) (m.cleared spec).docs
  rw [ensure_eq]
  refine mem_get_put (n := spec.name) (by rw [hspec]; rfl) (fun hn => ?_) hT
  subst hn
  rw [hdocs]
  exact hT

theorem mem_create (h : Host) (n : String) (doc : Fields) (hT : (i, T) ∈ (m.get name).docs) :
    (i, T) ∈ ((m.create h n doc).2.1.get name).docs := by
  unfold create
  generalize prepare h doc = p
  obtain ⟨d, h'⟩ := p
  dsimp only
  split
  · rename_i c heq
    obtain ⟨hs, hd⟩ := MemCollection.insert_spec_docs heq
    refine mem_get_put (by rw [hs, get_spec_name]) (fun hn => ?_) hT
    subst hn
    exact hd _ hT
  · exact mem_get_put (get_spec_name m n) (fun hn => by subst hn; exact hT) hT

theorem mem_createMany (h : Host) (n : String) (docs : List Fields)
    (hT : (i, T) ∈ (m.get name).docs) : (i, T) ∈ ((m.createMany h n docs).2.1.get name).docs := by
  have hb := foldl_batchStep_docs (m.get n) docs h
  rw [createMany_store]
  generalize (docs.foldl batchStep (.ok (m.get n, []), h)).1 = r at hb
  -- inserted or rolled back, the collection keeps its spec and every earlier document
  have hkeep : ∀ c : MemCollection, c.spec = (m.get n).spec →
      (∀ x ∈ (m.get n).docs, x ∈ c.docs) → (i, T) ∈ ((m.put c).get name).docs :=
    fun c hs hd => mem_get_put (by rw [hs, get_spec_name]) (fun hn => by subst hn; exact hd _ hT) hT
  rcases r with ⟨e, c⟩ | ⟨c, done⟩
  · exact hkeep c hb.2 fun x hx => hb.1 ▸ hx
  · exact hkeep c hb.spec fun x hx => by rw [hb.docs]; exact List.mem_append_left _ hx

theorem mem_replaceFirst (hw : m.DocsWf) (n : String) (f : Filter) (next : Fields → Fields)
    (hT : (i, T) ∈ (m.get name).docs) (hsel : n = name → f.selects T = false) :
    (i, T) ∈ ((m.replaceFirst n f next).2.get name).docs := by
  have hc := hw.get_of_closed MemCollection.writeClosed_docsWf n
  unfold replaceFirst
  dsimp only
  split
  · exact mem_get_put (get_spec_name m n) (fun hn => by subst hn; exact hT) hT
  · rename_i found hfound
    split
    · rename_i c' heq
      obtain ⟨hs, hd⟩ := MemCollection.replace_spec_docs heq
      refine mem_get_put (by rw [hs, get_spec_name]) (fun hn => ?_) hT
      subst hn
      exact hd i T hT (hc.ne_of_select hT (hsel rfl) (List.mem_of_mem_head? hfound))
    · exact mem_get_put (get_spec_name m n) (fun hn => by subst hn; exact hT) hT

theorem mem_update (hw : m.DocsWf) (h : Host) (n : String) (f : Filter) (set : Fields)
    (limit : Nat) (hT : (i, T) ∈ (m.get name).docs) (hsel : n = name → f.selects T = false) :
    (i, T) ∈ ((m.update h n f set limit).2.get name).docs := by
  have hc := hw.get_of_closed MemCollection.writeClosed_docsWf n
  -- every document the loop changes is selected in the collection it starts from
  have hfold := updateStep_fold (Q := fun c => c.spec.name = n ∧ (n = name → (i, T) ∈ c.docs))
    h.now set ((m.get n).select f limit)
    (fun hd ⟨hn, hk⟩ _ heq => by
      obtain ⟨hs, hdocs⟩ := MemCollection.replace_spec_docs heq
      refine ⟨hs ▸ hn, fun he => hdocs i T (hk he) ?_⟩
      subst he
      exact hc.ne_of_select hT (hsel rfl) hd)
    (m.get n) none 0 ⟨get_spec_name m n, fun hn => by subst hn; exact hT⟩
    (fun d hd => hc.mem_of_select hd) (hc.nodup_select f limit)
  rw [update_eq]
  dsimp only
  generalize ((m.get n).select f limit).foldl (updateStep h.now set) (m.get n, none, 0) =
    res at hfold ⊢
  obtain ⟨c, err, k⟩ := res
  cases err with
  | some e => exact mem_get_put hfold.1 hfold.2 hT
  | none => exact mem_get_put hfold.1 hfold.2 hT

theorem mem_delete (hw : m.DocsWf) (n : String) (f : Filter) (limit : Nat)
    (hT : (i, T) ∈ (m.get name).docs) (hsel : n = name → f.selects T = false) :
    (i, T) ∈ ((m.delete n f limit).2.get name).docs := by
  unfold delete
  split
  · exact hT
  · rename_i c hfind
    have hget : m.get n = c := by simp [get, hfind]
    have hc : c.DocsWf := hget ▸ hw.get_of_closed MemCollection.writeClosed_docsWf n
    have hfold := foldl_remove (Q := fun c' => c'.spec.name = n ∧ (n = name → (i, T) ∈ c'.docs))
      (c.select f limit)
      (by
        intro c' d hd ⟨hn, hk⟩
        obtain ⟨hs, hdocs⟩ := MemCollection.remove_spec_docs c' (docId d)
        refine ⟨hs ▸ hn, fun he => hdocs i T (hk he) ?_⟩
        subst he
        exact hc.ne_of_select (hget ▸ hT) (hsel rfl) hd)
      c ⟨hget ▸ get_spec_name m n, fun hn => by subst hn; exact hget ▸ hT⟩
    exact mem_get_put hfold.1 hfold.2 hT

end Keep

end MemoryStore

namespace SqliteStore

theorem selects_of_mem_load {q : SqliteStore} {name : String} {f : Filter} {limit : Nat}
    {d : Fields} (h : d ∈ q.load name f limit) : f.selects d = true := by
  unfold load at h
  split at h
  · exact (List.mem_filter.1 (List.mem_of_mem_take h)).2
  · exact (List.mem_filter.1 h).2

theorem Inv.ne_of_load {q : SqliteStore} (hq : q.Inv) {name i : String} {T d : Fields}
    {f : Filter} {limit : Nat} (hm : (i, T) ∈ q.docsOf name) (hT : f.selects T = false)
    (hd : d ∈ q.load name f limit) : i ≠ docId d := by
  rintro rfl
  have := List.inj_on_of_nodup_map (hq.nodup name) hm (mem_docsOf_of_mem_load hq hd).1 rfl
  simp only [Prod.mk.injEq, true_and] at this
  subst this
  rw [selects_of_mem_load hd] at hT
  cases hT

theorem foldlM_writeKeys_rows {spec : CollectionSpec} (l : List Fields) :
    ∀ q q' : SqliteStore, l.foldlM (fun s d => s.writeKeys spec d) q = .ok q' →
      q'.rows = q.rows := by
  induction l with
  | nil =>
    intro q q' h
    cases h
    rfl
  | cons d rest ih =>
    intro q q' h
    simp only [List.foldlM_cons] at h
    obtain ⟨q₁, h₁, hrest⟩ := Except.bind_eq_ok h
    rw [ih q₁ q' hrest, (writeKeys_frame h₁).1]

theorem ensure_rows {q q' : SqliteStore} {spec : CollectionSpec} (h : q.ensure spec = .ok q') :
    q'.rows = q.rows := by
  unfold ensure at h
  split at h
  · cases h
  · dsimp only at h
    split at h
    · cases h
    · rename_i q₁ hfold
      cases h
      exact (foldlM_writeKeys_rows _ _ _ hfold).trans rfl

section Keep

variable {q : SqliteStore} {name i : String} {T : Fields}

theorem mem_insert {q' : SqliteStore} {h : Host} {spec : CollectionSpec} {doc d : Fields}
    {x : String × Fields} (hi : (q.insert h spec doc).1 = .ok (d, q'))
    (hx : x ∈ q.docsOf name) : x ∈ q'.docsOf name := by
  obtain ⟨-, -, q₁, hw, rfl⟩ := insert_eq_ok hi
  rw [docsOf_append, docsOf_writeKeys hw]
  exact List.mem_append_left _ hx

theorem mem_create (h : Host) (n : String) (doc : Fields) (hT : (i, T) ∈ q.docsOf name) :
    (i, T) ∈ (q.create h n doc).2.1.docsOf name := by
  unfold create
  split
  · exact hT
  · split
    · rename_i d q' h' hi
      exact mem_insert (congrArg Prod.fst hi) hT
    · exact hT

theorem mem_createMany (h : Host) (n : String) (docs : List Fields)
    (hT : (i, T) ∈ q.docsOf name) : (i, T) ∈ (q.createMany h n docs).2.1.docsOf name := by
  rw [createMany_eq]
  split
  · exact hT
  · have hfold : ∀ q' done, (docs.foldl (insertStep (q.spec n)) (.ok (q, []), h)).1 =
        .ok (q', done) → (i, T) ∈ q'.docsOf name :=
      insertStep_fold (Q := fun q' => (i, T) ∈ q'.docsOf name)
      (fun hx hi => mem_insert hi hx) docs (.ok (q, []), h) (by
        intro q' done hq'
        simp only [Except.ok.injEq, Prod.mk.injEq] at hq'
        obtain ⟨rfl, -⟩ := hq'
        exact hT)
    generalize docs.foldl (insertStep (q.spec n)) (.ok (q, []), h) = res at hfold ⊢
    obtain ⟨r, h'⟩ := res
    cases r with
    | ok p => exact hfold p.1 p.2 rfl
    | error e => exact hT

theorem mem_save {q' : SqliteStore} {spec : CollectionSpec} {next d : Fields}
    (hs : q.save spec next = .ok (d, q')) (hT : (i, T) ∈ q.docsOf name)
    (hi : name = spec.name → i ≠ docId (storedDoc next)) : (i, T) ∈ q'.docsOf name := by
  obtain ⟨rfl, q₁, hw, rfl⟩ := save_eq_ok hs
  rw [docsOf_map_rows, docsOf_writeKeys hw]
  split
  · rename_i hn
    exact MemCollection.mem_map_replace.2 (Or.inl ⟨hT, hi hn⟩)
  · exact hT

theorem mem_replaceFirst (hq : q.Inv) (n : String) (f : Filter) {next : Fields → Fields}
    (hnext : ∀ found, storedDoc found = found → docId (storedDoc (next found)) = docId found)
    (hT : (i, T) ∈ q.docsOf name) (hsel : n = name → f.selects T = false) :
    (i, T) ∈ (q.replaceFirst n f next).2.docsOf name := by
  unfold replaceFirst
  split
  · exact hT
  · split
    · exact hT
    · rename_i found hfound
      split
      · rename_i d q' hs
        refine mem_save hs hT fun hn => ?_
        have hload := List.mem_of_mem_head? hfound
        rw [hnext found (mem_docsOf_of_mem_load hq hload).2]
        rw [spec_name] at hn
        subst hn
        exact hq.ne_of_load hT (hsel rfl) hload
      · exact hT

theorem mem_update (hq : q.Inv) (h : Host) (n : String) (f : Filter) (set : Fields)
    (limit : Nat) (hT : (i, T) ∈ q.docsOf name) (hsel : n = name → f.selects T = false) :
    (i, T) ∈ (q.update h n f set limit).2.docsOf name := by
  unfold update
  split
  · exact hT
  · dsimp only
    split
    · rename_i q' hfold
      -- every document the loop saves was loaded from the tables it starts from
      refine saves_fold (Q := fun q' => (i, T) ∈ q'.docsOf name) _ ?_ q q' hT hfold
      intro q₀ q₁ d x hd hT₀ hs
      refine mem_save hs hT₀ fun hn => ?_
      obtain ⟨-, hst⟩ := mem_docsOf_of_mem_load hq hd
      rw [docId_storedDoc_of (Fields.get?_mergeChange_id h.now d set) hst]
      rw [spec_name] at hn
      subst hn
      exact hq.ne_of_load hT (hsel rfl) hd
    · exact hT

theorem mem_delete (hq : q.Inv) (n : String) (f : Filter) (limit : Nat)
    (hT : (i, T) ∈ q.docsOf name) (hsel : n = name → f.selects T = false) :
    (i, T) ∈ (q.delete n f limit).2.docsOf name := by
  unfold delete
  split
  · exact hT
  · rw [docsOf_filter_rows _ rfl]
    split
    · rename_i hn
      subst hn
      refine List.mem_filter.2 ⟨hT, ?_⟩
      simpa using fun d hd h => hq.ne_of_load hT (hsel rfl) hd h.symm
    · exact hT

end Keep

end SqliteStore

namespace StoreCall

def target : StoreCall → Option (String × Filter)
  | .findOneAndUpdate name f _ | .findOneAndReplace name f _ | .updateOne name f _
  | .updateMany name f _ | .deleteOne name f | .deleteMany name f => some (name, f)
  | _ => none

def Avoids (c : StoreCall) (name : String) (d : Fields) : Prop :=
  ∀ f, c.target = some (name, f) → f.selects d = false

section Keep

variable {name i : String} {T : Fields}

theorem Avoids.selects {c : StoreCall} (hc : c.Avoids name T) {n : String} {f : Filter}
    (ht : c.target = some (n, f)) (hn : n = name) : f.selects T = false :=
  hc f (hn ▸ ht)

theorem mem_onMemory (c : StoreCall) {m : MemoryStore} (hm : m.DocsWf) (h : Host)
    (hT : (i, T) ∈ (m.get name).docs) (hc : c.Avoids name T) :
    (i, T) ∈ ((c.onMemory h m).get name).docs := by
  cases c with
  | ensureCollection spec => exact MemoryStore.mem_ensure spec hT
  | create n doc => exact MemoryStore.mem_create h n doc hT
  | createMany n docs => exact MemoryStore.mem_createMany h n docs hT
  | find | findOne | aggregate => exact hT
  | findOneAndUpdate n f change => exact MemoryStore.mem_replaceFirst hm n f _ hT (hc.selects rfl)
  | findOneAndReplace n f doc => exact MemoryStore.mem_replaceFirst hm n f _ hT (hc.selects rfl)
  | updateOne n f change => exact MemoryStore.mem_update hm h n f change 1 hT (hc.selects rfl)
  | updateMany n f change => exact MemoryStore.mem_update hm h n f change 0 hT (hc.selects rfl)
  | deleteOne n f => exact MemoryStore.mem_delete hm n f 1 hT (hc.selects rfl)
  | deleteMany n f => exact MemoryStore.mem_delete hm n f 0 hT (hc.selects rfl)

theorem mem_onSqlite (c : StoreCall) {q : SqliteStore} (hq : q.Inv) (h : Host)
    (hT : (i, T) ∈ q.docsOf name) (hc : c.Avoids name T) :
    (i, T) ∈ (c.onSqlite h q).docsOf name := by
  cases c with
  | ensureCollection spec =>
    simp only [onSqlite]
    split
    · rename_i q' he
      rw [SqliteStore.docsOf_of_rows (SqliteStore.ensure_rows he)]
      exact hT
    · exact hT
  | create n doc => exact SqliteStore.mem_create h n doc hT
  | createMany n docs => exact SqliteStore.mem_createMany h n docs hT
  | find | findOne | aggregate => exact hT
  | findOneAndUpdate n f change =>
    exact SqliteStore.mem_replaceFirst hq n f
      (fun found hst => docId_storedDoc_of (Fields.get?_mergeChange_id h.now found change) hst)
      hT (hc.selects rfl)
  | findOneAndReplace n f doc =>
    refine SqliteStore.mem_replaceFirst hq n f (fun found _ => ?_) hT (hc.selects rfl)
    apply docId_storedDoc_of_get
    rw [Fields.get?_set_of_ne _ _ (Ne.symm fieldUpdatedAt_ne_fieldId),
      Fields.get?_set_of_ne _ _ (Ne.symm fieldCreatedAt_ne_fieldId), Fields.get?_set_self]
  | updateOne n f change => exact SqliteStore.mem_update hq h n f change 1 hT (hc.selects rfl)
  | updateMany n f change => exact SqliteStore.mem_update hq h n f change 0 hT (hc.selects rfl)
  | deleteOne n f => exact SqliteStore.mem_delete hq n f 1 hT (hc.selects rfl)
  | deleteMany n f => exact SqliteStore.mem_delete hq n f 0 hT (hc.selects rfl)

theorem mem_stored_after (c : StoreCall) {s : Storage} (hm : s.MemDocsWf) (hq : s.SqlInv)
    (hT : (i, T) ∈ s.stored name) (hc : c.Avoids name T) : (i, T) ∈ (c.after s).stored name := by
  unfold Storage.stored at hT ⊢
  cases hb : s.backend with
  | memory m =>
    simp only [hb] at hT
    rcases c.after_memory hb with h | h <;> simp only [h]
    · exact hT
    · exact c.mem_onMemory (hm m hb) s.host hT hc
  | sqlite q =>
    simp only [hb] at hT
    rcases c.after_sqlite_eq hb with h | h <;> simp only [h]
    · exact hT
    · exact c.mem_onSqlite (hq q hb) s.host hT hc

end Keep

end StoreCall

namespace Storage

def Holding (name i : String) (T : Fields) (s : Storage) : Prop :=
  s.MemDocsWf ∧ s.SqlInv ∧ (i, T) ∈ s.stored name

theorem keeps_holding_of_call {name i : String} {T : Fields} {α : Type} {x : StoreM α}
    (c : StoreCall) (hx : ∀ s, (x.run s).2 = c.after s) (hc : c.Avoids name T) :
    StoreM.Keeps (Holding name i T) x := by
  rintro s ⟨hm, hq, hT⟩
  rw [hx]
  exact ⟨memDocsWf_after c hm, sqlInv_after c hq, c.mem_stored_after hm hq hT hc⟩

end Storage

/-! What the calls answer: documents the filter selects, or versions of them. -/

namespace MemCollection

theorem select_zero (c : MemCollection) (f : Filter) :
    c.select f 0 = (c.docs.map Prod.snd).filter f.selects := rfl

theorem select_empty (c : MemCollection) : c.select {} 0 = c.docs.map Prod.snd := by
  simp [select, Filter.selects]

theorem mem_select_zero {c : MemCollection} {f : Filter} {limit : Nat} {d : Fields}
    (h : d ∈ c.select f limit) : d ∈ c.select f 0 := by
  unfold select at h
  split at h
  · exact List.mem_of_mem_take h
  · exact h

end MemCollection

namespace MemoryStore

theorem findAll_eq (m : MemoryStore) (name : String) (f : Filter) :
    m.findAll name f = ((m.get name).docs.map Prod.snd).filter f.selects := by
  unfold findAll get
  cases m.find? name <;> rfl

theorem replaceFirst_ok {m : MemoryStore} {name : String} {f : Filter} {next : Fields → Fields}
    {n : Fields} (h : (m.replaceFirst name f next).1 = .ok n) :
    ∃ found ∈ ((m.get name).docs.map Prod.snd).filter f.selects, n = next found := by
  unfold replaceFirst at h
  dsimp only at h
  split at h
  · cases h
  · rename_i found hfound
    split at h
    · cases h
      exact ⟨found, MemCollection.mem_select_zero (List.mem_of_mem_head? hfound), rfl⟩
    · cases h

theorem batchStep_done {P : Fields → Prop} (docs : List Fields)
    (hP : ∀ h doc, doc ∈ docs → P (prepare h doc).1) :
    ∀ acc : Except (Fault × MemCollection) (MemCollection × List Fields) × Host,
      (∀ c done, acc.1 = .ok (c, done) → ∀ x ∈ done, P x) →
      ∀ c done, (docs.foldl batchStep acc).1 = .ok (c, done) → ∀ x ∈ done, P x := by
  induction docs with
  | nil => exact fun acc hacc => hacc
  | cons doc rest ih =>
    intro acc hacc
    apply ih (fun h d hd => hP h d (List.mem_cons_of_mem doc hd))
    intro c done hstep
    obtain ⟨r, h⟩ := acc
    cases r with
    | error e => simp [batchStep] at hstep
    | ok p =>
      obtain ⟨c₀, done₀⟩ := p
      have hd := hP h doc List.mem_cons_self
      simp only [batchStep] at hstep
      generalize prepare h doc = q at hd hstep
      obtain ⟨d, h'⟩ := q
      simp only at hstep
      split at hstep
      · simp only [Except.ok.injEq, Prod.mk.injEq] at hstep
        obtain ⟨-, rfl⟩ := hstep
        intro x hx
        rcases List.mem_append.1 hx with hx | hx
        · exact hacc c₀ done₀ rfl x hx
        · rw [List.mem_singleton.1 hx]
          exact hd
      · simp at hstep

end MemoryStore

namespace SqliteStore

theorem insertStep_done {spec : CollectionSpec} {P : Fields → Prop} (docs : List Fields)
    (hP : ∀ h doc, doc ∈ docs → P (storedDoc (MemoryStore.prepare h doc).1)) :
    ∀ acc : Except Fault (SqliteStore × List Fields) × Host,
      (∀ q done, acc.1 = .ok (q, done) → ∀ x ∈ done, P x) →
      ∀ q done, (docs.foldl (insertStep spec) acc).1 = .ok (q, done) → ∀ x ∈ done, P x := by
  induction docs with
  | nil => exact fun acc hacc => hacc
  | cons doc rest ih =>
    intro acc hacc
    apply ih (fun h d hd => hP h d (List.mem_cons_of_mem doc hd))
    intro q done hstep
    obtain ⟨r, h⟩ := acc
    cases r with
    | error e => simp [insertStep] at hstep
    | ok p =>
      obtain ⟨q₀, done₀⟩ := p
      simp only [insertStep] at hstep
      split at hstep
      · rename_i d q₁ h₁ hi
        simp only [Except.ok.injEq, Prod.mk.injEq] at hstep
        obtain ⟨-, rfl⟩ := hstep
        intro x hx
        rcases List.mem_append.1 hx with hx | hx
        · exact hacc q₀ done₀ rfl x hx
        · rw [List.mem_singleton.1 hx, (insert_eq_ok (congrArg Prod.fst hi)).1]
          exact hP h doc List.mem_cons_self
      · cases hstep

theorem load_zero (q : SqliteStore) (name : String) (f : Filter) :
    q.load name f 0 = ((q.docsOf name).map Prod.snd).filter f.selects := by
  simp [load, docsOf, List.map_map, Function.comp_def]

theorem mem_load_zero {q : SqliteStore} {name : String} {f : Filter} {limit : Nat} {d : Fields}
    (h : d ∈ q.load name f limit) : d ∈ q.load name f 0 := by
  unfold load at h ⊢
  split at h
  · exact List.mem_of_mem_take h
  · exact h

theorem replaceFirst_ok {q : SqliteStore} {name : String} {f : Filter} {next : Fields → Fields}
    {n : Fields} (h : (q.replaceFirst name f next).1 = .ok n) :
    ∃ found ∈ ((q.docsOf name).map Prod.snd).filter f.selects, n = storedDoc (next found) := by
  unfold replaceFirst at h
  split at h
  · cases h
  · split at h
    · cases h
    · rename_i found hfound
      split at h
      · rename_i d q' hs
        cases h
        rw [← load_zero]
        exact ⟨found, mem_load_zero (List.mem_of_mem_head? hfound), (save_eq_ok hs).1⟩
      · cases h

end SqliteStore

def replacement (now : Time) (doc found : Fields) : Fields :=
  let next := withoutFields doc [fieldId, fieldCreatedAt, fieldUpdatedAt]
  let next := Fields.set next fieldId (.str (docId found))
  let next := Fields.set next fieldCreatedAt ((Fields.get? found fieldCreatedAt).getD .null)
  Fields.set next fieldUpdatedAt (.time now)

theorem MemoryStore.findOneAndReplace_eq (m : MemoryStore) (h : Host) (name : String)
    (f : Filter) (doc : Fields) :
    m.findOneAndReplace h name f doc = m.replaceFirst name f (replacement h.now doc) := rfl

theorem SqliteStore.findOneAndReplace_eq (q : SqliteStore) (h : Host) (name : String)
    (f : Filter) (doc : Fields) :
    q.findOneAndReplace h name f doc = q.replaceFirst name f (replacement h.now doc) := rfl

theorem Stage.apply_filter {g : Filter} (hg : g.isEmpty = false) (batch : Option (List Fields)) :
    ({ filter := g } : Stage).apply batch = some ((batch.getD []).filter g.selects) := by
  simp [Stage.apply, hg]

namespace Storage

open StoreM

/-- The documents of a collection that a filter selects, in insertion order. -/
def selected (s : Storage) (name : String) (f : Filter) : List Fields :=
  ((s.stored name).map Prod.snd).filter f.selects

section Answers

variable {s : Storage} {name : String} {f : Filter}

theorem find_ok {ds : List Fields} (h : ((find name f).run s).1 = .ok ds) :
    ds = s.selected name f := by
  rw [find_run] at h
  unfold selected stored
  split at h
  · cases h
  · cases hb : s.backend with
    | memory m =>
      simp only [hb, Except.ok.injEq] at h
      rw [← h, MemoryStore.findAll_eq]
    | sqlite q =>
      simp only [hb, SqliteStore.findAll] at h
      split at h
      · cases h
      · cases h
        exact SqliteStore.load_zero q name f

theorem findOne_ok {d : Fields} (h : ((findOne name f).run s).1 = .ok d) :
    d ∈ s.selected name f := by
  rw [findOne_run] at h
  unfold selected stored
  split at h
  · cases h
  · cases hb : s.backend with
    | memory m =>
      simp only [hb, MemoryStore.findOne] at h
      split at h
      · rename_i d' hd
        cases h
        rw [← MemoryStore.findAll_eq]
        exact List.mem_of_mem_head? hd
      · cases h
    | sqlite q =>
      simp only [hb, SqliteStore.findOne] at h
      split at h
      · cases h
      · split at h
        · rename_i d' hd
          cases h
          rw [← SqliteStore.load_zero]
          exact SqliteStore.mem_load_zero (List.mem_of_mem_head? hd)
        · cases h

theorem findOneAndUpdate_ok {change n : Fields}
    (h : ((findOneAndUpdate name f change).run s).1 = .ok n) :
    ∃ found ∈ s.selected name f, n = mergeChange s.host.now found change ∨
      n = storedDoc (mergeChange s.host.now found change) := by
  rw [findOneAndUpdate_run] at h
  unfold selected stored
  split at h
  · cases h
  · cases hb : s.backend with
    | memory m =>
      simp only [hb] at h
      obtain ⟨found, hf, rfl⟩ := MemoryStore.replaceFirst_ok h
      exact ⟨found, hf, Or.inl rfl⟩
    | sqlite q =>
      simp only [hb] at h
      obtain ⟨found, hf, rfl⟩ := SqliteStore.replaceFirst_ok h
      exact ⟨found, hf, Or.inr rfl⟩

theorem findOneAndReplace_ok {doc n : Fields}
    (h : ((findOneAndReplace name f doc).run s).1 = .ok n) :
    ∃ found ∈ s.selected name f, n = replacement s.host.now doc found ∨
      n = storedDoc (replacement s.host.now doc found) := by
  rw [findOneAndReplace_run] at h
  unfold selected stored
  split at h
  · cases h
  · cases hb : s.backend with
    | memory m =>
      simp only [hb, MemoryStore.findOneAndReplace_eq] at h
      obtain ⟨found, hf, rfl⟩ := MemoryStore.replaceFirst_ok h
      exact ⟨found, hf, Or.inl rfl⟩
    | sqlite q =>
      simp only [hb, SqliteStore.findOneAndReplace_eq] at h
      obtain ⟨found, hf, rfl⟩ := SqliteStore.replaceFirst_ok h
      exact ⟨found, hf, Or.inr rfl⟩

theorem updateMany_ok {change : Fields} {r : UpdateResult}
    (h : ((updateMany name f change).run s).1 = .ok r) :
    r.modified = (s.selected name f).length := by
  rw [Storage.updateMany, update_run] at h
  unfold selected stored
  split at h
  · cases h
  · cases hb : s.backend with
    | memory m =>
      simp only [hb, MemoryStore.update_eq] at h
      generalize ((m.get name).select f 0).foldl (MemoryStore.updateStep s.host.now change)
        (m.get name, none, 0) = res at h
      obtain ⟨c, err, k⟩ := res
      cases err with
      | some e => cases h
      | none =>
        cases h
        rfl
    | sqlite q =>
      simp only [hb, SqliteStore.update] at h
      split at h
      · cases h
      · split at h
        · cases h
          rw [SqliteStore.load_zero]
        · cases h

theorem create_ok {doc n : Fields} (h : ((create name doc).run s).1 = .ok n) :
    n = (MemoryStore.prepare s.host doc).1 ∨ n = storedDoc (MemoryStore.prepare s.host doc).1 := by
  rw [create_run] at h
  split at h
  · cases h
  · cases hb : s.backend with
    | memory m =>
      simp only [hb, MemoryStore.create] at h
      split at h
      · cases h
        exact Or.inl rfl
      · cases h
    | sqlite q =>
      simp only [hb, SqliteStore.create] at h
      split at h
      · cases h
      · split at h
        · rename_i d q' h' hi
          cases h
          exact Or.inr (SqliteStore.insert_eq_ok (congrArg Prod.fst hi)).1
        · cases h

theorem createMany_ok {docs ns : List Fields} {P : Fields → Prop}
    (hP : ∀ h doc, doc ∈ docs → P (MemoryStore.prepare h doc).1 ∧
      P (storedDoc (MemoryStore.prepare h doc).1))
    (h : ((createMany name docs).run s).1 = .ok ns) : ∀ n ∈ ns, P n := by
  rw [createMany_run] at h
  split at h
  · cases h
  · cases hb : s.backend with
    | memory m =>
      simp only [hb, MemoryStore.createMany_eq] at h
      have hdone := MemoryStore.batchStep_done docs (fun h doc hd => (hP h doc hd).1)
        (.ok (m.get name, []), s.host) (by
          intro c done hc
          simp only [Except.ok.injEq, Prod.mk.injEq] at hc
          obtain ⟨-, rfl⟩ := hc
          simp)
      generalize docs.foldl MemoryStore.batchStep (.ok (m.get name, []), s.host) = res at h hdone
      obtain ⟨r, h'⟩ := res
      cases r with
      | ok p =>
        cases h
        exact hdone p.1 p.2 rfl
      | error e => cases h
    | sqlite q =>
      simp only [hb, SqliteStore.createMany_eq] at h
      split at h
      · cases h
      · have hdone : ∀ q' done, (docs.foldl (SqliteStore.insertStep (q.spec name))
            (.ok (q, []), s.host)).1 = .ok (q', done) → ∀ x ∈ done, P x :=
          SqliteStore.insertStep_done docs (fun h doc hd => (hP h doc hd).2) (.ok (q, []), s.host) (by
            intro c done hc
            simp only [Except.ok.injEq, Prod.mk.injEq] at hc
            obtain ⟨-, rfl⟩ := hc
            simp)
        generalize docs.foldl (SqliteStore.insertStep (q.spec name)) (.ok (q, []), s.host) =
          res at h hdone
        obtain ⟨r, h'⟩ := res
        cases r with
        | ok p =>
          cases h
          exact hdone p.1 p.2 rfl
        | error e => cases h

theorem aggregate_ok {g : Filter} (hg : g.isEmpty = false) {p : Pipeline}
    {b : Option (List Fields)} (h : ((aggregate name ({ filter := g } :: p)).run s).1 = .ok b) :
    b = p.run (some (s.selected name g)) ∨ b = some ((p.run (some (s.selected name g))).getD []) := by
  rw [aggregate_run] at h
  unfold selected stored
  split at h
  · cases h
  · cases hb : s.backend with
    | memory m =>
      simp only [hb, MemoryStore.aggregate, Except.ok.injEq] at h
      unfold MemoryStore.get
      split at h
      · rename_i hf
        simp only [hf, Option.getD_none, List.map_nil, List.filter_nil]
        left
        rw [← h, Pipeline.run, List.foldl_cons, Stage.apply_filter hg]
        rfl
      · rename_i c hf
        simp only [hf, Option.getD_some]
        right
        rw [← h, MemCollection.select_empty, Pipeline.run, List.foldl_cons, Stage.apply_filter hg]
        rfl
    | sqlite q =>
      simp only [hb, SqliteStore.aggregate] at h
      split at h
      · cases h
      · cases h
        left
        rw [Pipeline.run, List.foldl_cons, Stage.apply_filter hg, SqliteStore.load_empty]
        rfl

end Answers

end Storage

end CrudRoutes
