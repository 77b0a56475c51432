import Mathlib
import CrudRoutes.Proofs.Store.Mirror

/-!
Where stored documents come from. After a call, a collection holds the documents it held before
and the documents the call wrote there: new documents, each prepared from a document the call
inserts by a host with the store's clock that draws after it, and next versions of stored
documents the call's filter selects, under the identity they had. The SQL backend keeps each of
them read back.

This is the converse of the frame lemmas of `Selection`: those keep what a call does not choose,
these bound what a call can add. Properties of every document a route writes follow from it by
looking at the documents the route hands to the store.
-/

namespace CrudRoutes

def Host.Advances (h h' : Host) : Prop :=
  h'.now = h.now ∧ h.drawn ≤ h'.drawn

namespace Host

theorem Advances.refl (h : Host) : h.Advances h :=
  ⟨rfl, le_rfl⟩

theorem Advances.trans {h₁ h₂ h₃ : Host} (h₁₂ : h₁.Advances h₂) (h₂₃ : h₂.Advances h₃) :
    h₁.Advances h₃ :=
  ⟨h₂₃.1.trans h₁₂.1, h₁₂.2.trans h₂₃.2⟩

end Host

namespace MemoryStore

theorem advances_prepare (h : Host) (doc : Fields) : h.Advances (prepare h doc).2 := by
  unfold prepare
  dsimp only
  split
  · exact ⟨rfl, Nat.le_succ _⟩
  · exact Host.Advances.refl h

end MemoryStore

def Prepared (h : Host) (keep : Fields → Fields) (doc d : Fields) : Prop :=
  ∃ h', h.Advances h' ∧ d = keep (MemoryStore.prepare h' doc).1

def Storage.keep (s : Storage) (d : Fields) : Fields :=
  match s.backend with
  | .memory _ => d
  | .sqlite _ => storedDoc d

namespace MemoryStore

variable {m : MemoryStore} {name i : String} {d : Fields}

theorem get_put_of_name {c : MemCollection} {n : String} (hn : c.spec.name = n) :
    (m.put c).get name = if n = name then c else m.get name := by
  rw [get_put, hn]

theorem get_put_get (n : String) : (m.put (m.get n)).get name = m.get name := by
  rw [get_put_of_name (get_spec_name m n)]
  split
  · rename_i hn
    rw [hn]
  · rfl

theorem mem_create_cases (h : Host) (n : String) (doc : Fields)
    (hd : (i, d) ∈ ((m.create h n doc).2.1.get name).docs) :
    (i, d) ∈ (m.get name).docs ∨ (n = name ∧ d = (prepare h doc).1 ∧ i = docId d) := by
  rw [create_eq] at hd
  split at hd <;> dsimp only at hd
  · rename_i c heq
    have hn : c.spec.name = n := by rw [(MemCollection.insert_spec_docs heq).1, get_spec_name]
    rw [get_put_of_name hn] at hd
    obtain ⟨-, -, rfl⟩ := MemCollection.insert_eq_ok heq
    split at hd
    · rename_i hn
      subst hn
      rcases List.mem_append.1 hd with hd | hd
      · exact Or.inl hd
      · obtain ⟨rfl, rfl⟩ := Prod.mk.inj (List.mem_singleton.1 hd)
        exact Or.inr ⟨rfl, rfl, rfl⟩
    · exact Or.inl hd
  · rw [get_put_get] at hd
    exact Or.inl hd

theorem batchStep_cases (c₀ : MemCollection) (h₀ : Host) (D docs : List Fields)
    (hD : ∀ doc ∈ docs, doc ∈ D)
    (acc : Except (Fault × MemCollection) (MemCollection × List Fields) × Host)
    (hacc : ∀ c done, acc.1 = .ok (c, done) → h₀.Advances acc.2 ∧ c.spec = c₀.spec ∧
      ∀ x ∈ c.docs, x ∈ c₀.docs ∨ ∃ doc ∈ D, Prepared h₀ id doc x.2 ∧ x.1 = docId x.2) :
    ∀ c done, (docs.foldl batchStep acc).1 = .ok (c, done) →
      h₀.Advances (docs.foldl batchStep acc).2 ∧ c.spec = c₀.spec ∧
        ∀ x ∈ c.docs, x ∈ c₀.docs ∨ ∃ doc ∈ D, Prepared h₀ id doc x.2 ∧ x.1 = docId x.2 := by
  induction docs generalizing acc with
  | nil => exact hacc
  | cons doc rest ih =>
    apply ih (fun x hx => hD x (List.mem_cons_of_mem doc hx))
    intro c done hstep
    obtain ⟨r, h⟩ := acc
    cases r with
    | error e => simp [batchStep] at hstep
    | ok p =>
      obtain ⟨c₁, done₁⟩ := p
      obtain ⟨hh, hs, hx⟩ := hacc c₁ done₁ rfl
      simp only [batchStep] at hstep ⊢
      split at hstep
      · rename_i c' heq
        simp only [Except.ok.injEq, Prod.mk.injEq] at hstep
        obtain ⟨rfl, -⟩ := hstep
        obtain ⟨-, -, rfl⟩ := MemCollection.insert_eq_ok heq
        refine ⟨hh.trans (advances_prepare h doc), hs, fun x hm => ?_⟩
        rcases List.mem_append.1 hm with hm | hm
        · exact hx x hm
        · rw [List.mem_singleton.1 hm]
          exact Or.inr ⟨doc, hD doc List.mem_cons_self, ⟨h, hh, rfl⟩, rfl⟩
      · cases hstep

theorem mem_createMany_cases (h : Host) (n : String) (docs : List Fields)
    (hd : (i, d) ∈ ((m.createMany h n docs).2.1.get name).docs) :
    (i, d) ∈ (m.get name).docs ∨ (n = name ∧ ∃ doc ∈ docs, Prepared h id doc d ∧ i = docId d) := by
  rw [createMany_eq] at hd
  have hfold := batchStep_cases (m.get n) h docs docs (fun _ hx => hx) (.ok (m.get n, []), h) (by
    intro c done hc
    simp only [Except.ok.injEq, Prod.mk.injEq] at hc
    obtain ⟨rfl, -⟩ := hc
    exact ⟨Host.Advances.refl h, rfl, fun x hx => Or.inl hx⟩)
  have hroll := foldl_batchStep_docs (m.get n) docs h
  generalize docs.foldl batchStep (.ok (m.get n, []), h) = res at hfold hd hroll
  obtain ⟨r, h'⟩ := res
  cases r with
  | ok p =>
    obtain ⟨c, done⟩ := p
    obtain ⟨-, hs, hx⟩ := hfold c done rfl
    dsimp only at hd
    rw [get_put_of_name (by rw [hs, get_spec_name])] at hd
    split at hd
    · rename_i hn
      subst hn
      rcases hx _ hd with hold | ⟨doc, hdoc, hp, hi⟩
      · exact Or.inl hold
      · exact Or.inr ⟨rfl, doc, hdoc, hp, hi⟩
    · exact Or.inl hd
  | error p =>
    -- a refused batch gives the collection its documents back
    obtain ⟨e, c⟩ := p
    obtain ⟨hdocs, hs⟩ : c.docs = (m.get n).docs ∧ c.spec = (m.get n).spec := hroll
    dsimp only at hd
    rw [get_put_of_name (by rw [hs, get_spec_name])] at hd
    split at hd
    · rename_i hn
      subst hn
      exact Or.inl (hdocs ▸ hd)
    · exact Or.inl hd

theorem mem_replaceFirst_cases (hw : m.DocsWf) (n : String) (f : Filter) (next : Fields → Fields)
    (hd : (i, d) ∈ ((m.replaceFirst n f next).2.get name).docs) :
    (i, d) ∈ (m.get name).docs ∨
      (n = name ∧ ∃ d₀, (i, d₀) ∈ (m.get name).docs ∧ f.selects d₀ = true ∧ d = next d₀) := by
  have hc := hw.get_of_closed MemCollection.writeClosed_docsWf n
  unfold replaceFirst at hd
  dsimp only at hd
  split at hd
  · rw [get_put_get] at hd
    exact Or.inl hd
  · rename_i found hfound
    have hsel := List.mem_of_mem_head? hfound
    split at hd <;> dsimp only at hd
    · rename_i c' heq
      have hn : c'.spec.name = n := by rw [(MemCollection.replace_spec_docs heq).1, get_spec_name]
      rw [get_put_of_name hn] at hd
      obtain ⟨-, rfl⟩ := MemCollection.replace_eq_ok heq
      split at hd
      · rename_i hname
        subst hname
        rcases MemCollection.mem_map_replace.1 hd with ⟨hold, -⟩ | ⟨rfl, rfl, -⟩
        · exact Or.inl hold
        · exact Or.inr ⟨rfl, found, hc.mem_of_select hsel,
            MemCollection.selects_of_mem_select hsel, rfl⟩
      · exact Or.inl hd
    · rw [get_put_get] at hd
      exact Or.inl hd

theorem mem_update_cases (hw : m.DocsWf) (h : Host) (n : String) (f : Filter) (set : Fields)
    (limit : Nat) (hd : (i, d) ∈ ((m.update h n f set limit).2.get name).docs) :
    (i, d) ∈ (m.get name).docs ∨ (n = name ∧ ∃ d₀, (i, d₀) ∈ (m.get name).docs ∧
      f.selects d₀ = true ∧ d = mergeChange h.now d₀ set) := by
  have hc := hw.get_of_closed MemCollection.writeClosed_docsWf n
  -- every document the loop writes is the change merged into a document it selected
  have hfold := updateStep_fold (Q := fun c => c.spec.name = n ∧ ∀ x ∈ c.docs,
      x ∈ (m.get n).docs ∨ ∃ d₀ ∈ (m.get n).select f limit, x = (docId d₀, mergeChange h.now d₀ set))
    h.now set ((m.get n).select f limit)
    (fun {c c' d₁} hd₁ ⟨hn, hk⟩ _ heq => by
      have hs := (MemCollection.replace_spec_docs heq).1
      obtain ⟨-, rfl⟩ := MemCollection.replace_eq_ok heq
      refine ⟨hs ▸ hn, fun ⟨j, e⟩ hx => ?_⟩
      rcases MemCollection.mem_map_replace.1 hx with ⟨hold, -⟩ | ⟨rfl, rfl, -⟩
      · exact hk _ hold
      · exact Or.inr ⟨d₁, hd₁, rfl⟩)
    (m.get n) none 0 ⟨get_spec_name m n, fun x hx => Or.inl hx⟩
    (fun d hd => hc.mem_of_select hd) (hc.nodup_select f limit)
  rw [update_eq] at hd
  dsimp only at hd
  generalize ((m.get n).select f limit).foldl (updateStep h.now set) (m.get n, none, 0) =
    res at hfold hd
  obtain ⟨c, err, k⟩ := res
  obtain ⟨hn, hk⟩ := hfold
  have hget : ((m.put c).get name).docs = if n = name then c.docs else (m.get name).docs := by
    rw [get_put_of_name hn]
    split <;> rfl
  replace hd : (i, d) ∈ ((m.put c).get name).docs := by
    cases err <;> exact hd
  rw [hget] at hd
  split at hd
  · rename_i hname
    subst hname
    rcases hk _ hd with hold | ⟨d₀, hsel, he⟩
    · exact Or.inl hold
    · obtain ⟨rfl, rfl⟩ := Prod.mk.inj he
      exact Or.inr ⟨rfl, d₀, hc.mem_of_select hsel, MemCollection.selects_of_mem_select hsel, rfl⟩
  · exact Or.inl hd

theorem mem_of_mem_delete (n : String) (f : Filter) (limit : Nat)
    (hd : (i, d) ∈ ((m.delete n f limit).2.get name).docs) : (i, d) ∈ (m.get name).docs := by
  unfold delete at hd
  split at hd
  · exact hd
  · rename_i c hfind
    have hget : m.get n = c := by simp [get, hfind]
    dsimp only at hd
    have hs := foldl_remove (Q := fun c' => c'.spec = c.spec) (c.select f limit)
      (fun d _ hc' => (MemCollection.remove_spec_docs _ (docId d)).1.trans hc') c rfl
    rw [get_put_of_name (by rw [hs, ← hget, get_spec_name])] at hd
    split at hd
    · rename_i hname
      subst hname
      rw [MemCollection.foldl_remove_docs] at hd
      rw [hget]
      exact (List.mem_filter.1 hd).1
    · exact hd

theorem mem_of_mem_ensure (spec : CollectionSpec)
    (hd : (i, d) ∈ ((m.ensure spec).1.get name).docs) : (i, d) ∈ (m.get name).docs := by
  obtain ⟨hdocs, hspec⟩ := MemCollection.reindexFrom_docs (m.cleared spec) (m.cleared spec).docs
  rw [ensure_eq] at hd
  dsimp only at hd
  rw [get_put_of_name (by rw [hspec])] at hd
  split at hd
  · rename_i hname
    subst hname
    rw [hdocs] at hd
    exact hd
  · exact hd

end MemoryStore

namespace SqliteStore

variable {q : SqliteStore} {name i : String} {d : Fields}

theorem mem_insert_cases {q' : SqliteStore} {h : Host} {spec : CollectionSpec} {doc d' : Fields}
    (hi : (q.insert h spec doc).1 = .ok (d', q')) (hd : (i, d) ∈ q'.docsOf name) :
    (i, d) ∈ q.docsOf name ∨
      (spec.name = name ∧ d = storedDoc (MemoryStore.prepare h doc).1 ∧ i = docId d) := by
  obtain ⟨rfl, -, q₁, hw, rfl⟩ := insert_eq_ok hi
  rw [docsOf_append, docsOf_writeKeys hw] at hd
  rcases List.mem_append.1 hd with hd | hd
  · exact Or.inl hd
  · split at hd
    · rename_i hn
      obtain ⟨rfl, rfl⟩ := Prod.mk.inj (List.mem_singleton.1 hd)
      exact Or.inr ⟨hn, rfl, rfl⟩
    · cases hd

theorem mem_create_cases (h : Host) (n : String) (doc : Fields)
    (hd : (i, d) ∈ (q.create h n doc).2.1.docsOf name) :
    (i, d) ∈ q.docsOf name ∨
      (n = name ∧ d = storedDoc (MemoryStore.prepare h doc).1 ∧ i = docId d) := by
  unfold create at hd
  split at hd
  · exact Or.inl hd
  · split at hd
    · rename_i d' q' h' hi
      rcases mem_insert_cases (congrArg Prod.fst hi) hd with hold | ⟨hn, hnew⟩
      · exact Or.inl hold
      · exact Or.inr ⟨spec_name q n ▸ hn, hnew⟩
    · exact Or.inl hd

theorem insertStep_cases (q₀ : SqliteStore) (h₀ : Host) (spec : CollectionSpec) (coll : String)
    (D docs : List Fields) (hD : ∀ doc ∈ docs, doc ∈ D)
    (acc : Except Fault (SqliteStore × List Fields) × Host)
    (hacc : ∀ q' done, acc.1 = .ok (q', done) → h₀.Advances acc.2 ∧ ∀ x ∈ q'.docsOf coll,
      x ∈ q₀.docsOf coll ∨ (spec.name = coll ∧ ∃ doc ∈ D, Prepared h₀ storedDoc doc x.2 ∧ x.1 = docId x.2)) :
    ∀ q' done, (docs.foldl (insertStep spec) acc).1 = .ok (q', done) →
      h₀.Advances (docs.foldl (insertStep spec) acc).2 ∧ ∀ x ∈ q'.docsOf coll,
        x ∈ q₀.docsOf coll ∨ (spec.name = coll ∧ ∃ doc ∈ D, Prepared h₀ storedDoc doc x.2 ∧ x.1 = docId x.2) := by
  induction docs generalizing acc with
  | nil => exact hacc
  | cons doc rest ih =>
    apply ih (fun x hx => hD x (List.mem_cons_of_mem doc hx))
    intro q' done hstep
    obtain ⟨r, h⟩ := acc
    cases r with
    | error e => simp [insertStep] at hstep
    | ok p =>
      obtain ⟨q₁, done₁⟩ := p
      obtain ⟨hh, hx⟩ := hacc q₁ done₁ rfl
      simp only [insertStep] at hstep ⊢
      split at hstep
      · rename_i d' q₂ h' hi
        simp only [Except.ok.injEq, Prod.mk.injEq] at hstep
        obtain ⟨rfl, -⟩ := hstep
        have hh' : h' = (MemoryStore.prepare h doc).2 := by
          rw [← insert_host q₁ h spec doc, hi]
        refine ⟨hh' ▸ hh.trans (MemoryStore.advances_prepare h doc), fun x hm => ?_⟩
        obtain ⟨j, e⟩ := x
        rcases mem_insert_cases (congrArg Prod.fst hi) hm with hold | ⟨hn, rfl, rfl⟩
        · exact hx _ hold
        · exact Or.inr ⟨hn, doc, hD doc List.mem_cons_self, ⟨h, hh, rfl⟩, rfl⟩
      · cases hstep

theorem mem_createMany_cases (h : Host) (n : String) (docs : List Fields)
    (hd : (i, d) ∈ (q.createMany h n docs).2.1.docsOf name) :
    (i, d) ∈ q.docsOf name ∨ (n = name ∧ ∃ doc ∈ docs, Prepared h storedDoc doc d ∧ i = docId d) := by
  rw [createMany_eq] at hd
  split at hd
  · exact Or.inl hd
  · have hfold := insertStep_cases q h (q.spec n) name docs docs (fun _ hx => hx)
      (.ok (q, []), h) (by
        intro q' done hq'
        simp only [Except.ok.injEq, Prod.mk.injEq] at hq'
        obtain ⟨rfl, -⟩ := hq'
        exact ⟨Host.Advances.refl h, fun x hx => Or.inl hx⟩)
    generalize docs.foldl (insertStep (q.spec n)) (.ok (q, []), h) = res at hfold hd
    obtain ⟨r, h'⟩ := res
    cases r with
    | ok p =>
      obtain ⟨q', done⟩ := p
      rcases (hfold q' done rfl).2 _ hd with hold | ⟨hn, hnew⟩
      · exact Or.inl hold
      · exact Or.inr ⟨spec_name q n ▸ hn, hnew⟩
    | error e => exact Or.inl hd

theorem mem_replaceFirst_cases (hq : q.Inv) (n : String) (f : Filter) {next : Fields → Fields}
    (hnext : ∀ found, storedDoc found = found → docId (storedDoc (next found)) = docId found)
    (hd : (i, d) ∈ (q.replaceFirst n f next).2.docsOf name) :
    (i, d) ∈ q.docsOf name ∨ (n = name ∧ ∃ d₀, (i, d₀) ∈ q.docsOf name ∧ f.selects d₀ = true ∧
      d = storedDoc (next d₀)) := by
  unfold replaceFirst at hd
  split at hd
  · exact Or.inl hd
  · split at hd
    · exact Or.inl hd
    · rename_i found hfound
      have hload := List.mem_of_mem_head? hfound
      obtain ⟨hmem, hst⟩ := mem_docsOf_of_mem_load hq hload
      split at hd
      · rename_i d' q' hs
        obtain ⟨rfl, q₁, hw, rfl⟩ := save_eq_ok hs
        rw [docsOf_map_rows, docsOf_writeKeys hw, spec_name] at hd
        split at hd
        · rename_i hname
          subst hname
          rcases MemCollection.mem_map_replace.1 hd with ⟨hold, -⟩ | ⟨rfl, rfl, -⟩
          · exact Or.inl hold
          · refine Or.inr ⟨rfl, found, ?_, selects_of_mem_load hload, rfl⟩
            rw [hnext found hst]
            exact hmem
        · exact Or.inl hd
      · exact Or.inl hd

theorem mem_update_cases (hq : q.Inv) (h : Host) (n : String) (f : Filter) (set : Fields)
    (limit : Nat) (hd : (i, d) ∈ (q.update h n f set limit).2.docsOf name) :
    (i, d) ∈ q.docsOf name ∨ (n = name ∧ ∃ d₀, (i, d₀) ∈ q.docsOf name ∧ f.selects d₀ = true ∧
      d = storedDoc (mergeChange h.now d₀ set)) := by
  unfold update at hd
  split at hd
  · exact Or.inl hd
  · dsimp only at hd
    split at hd
    · rename_i q' hfold
      -- every row the loop saves holds the change merged into a document it loaded
      have hsaves := saves_fold (Q := fun q' => ∀ x ∈ q'.docsOf name, x ∈ q.docsOf name ∨
          (n = name ∧ ∃ d₀ ∈ q.load n f limit, x = (docId d₀, storedDoc (mergeChange h.now d₀ set))))
        _ (fun {q₀ q₁ d₁ x} hd₁ hQ hs => by
          obtain ⟨rfl, q₂, hw, rfl⟩ := save_eq_ok hs
          obtain ⟨-, hst⟩ := mem_docsOf_of_mem_load hq hd₁
          have hid : docId (storedDoc (mergeChange h.now d₁ set)) = docId d₁ :=
            docId_storedDoc_of (Fields.get?_mergeChange_id h.now d₁ set) hst
          intro ⟨j, e⟩ hm
          rw [docsOf_map_rows, docsOf_writeKeys hw, spec_name] at hm
          split at hm
          · rename_i hname
            rcases MemCollection.mem_map_replace.1 hm with ⟨hold, -⟩ | ⟨rfl, rfl, -⟩
            · exact hQ _ hold
            · exact Or.inr ⟨hname.symm, d₁, hd₁, by rw [hid]⟩
          · exact hQ _ hm)
        q q' (fun x hx => Or.inl hx) hfold
      rcases hsaves _ hd with hold | ⟨hn, d₀, hload, he⟩
      · exact Or.inl hold
      · obtain ⟨rfl, rfl⟩ := Prod.mk.inj he
        subst hn
        exact Or.inr ⟨rfl, d₀, (mem_docsOf_of_mem_load hq hload).1, selects_of_mem_load hload, rfl⟩
    · exact Or.inl hd

theorem mem_of_mem_delete (n : String) (f : Filter) (limit : Nat)
    (hd : (i, d) ∈ (q.delete n f limit).2.docsOf name) : (i, d) ∈ q.docsOf name := by
  unfold delete at hd
  split at hd
  · exact hd
  · rw [docsOf_filter_rows _ rfl] at hd
    split at hd
    · exact (List.mem_filter.1 hd).1
    · exact hd

theorem mem_of_mem_ensure {q' : SqliteStore} {spec : CollectionSpec} (he : q.ensure spec = .ok q')
    (hd : (i, d) ∈ q'.docsOf name) : (i, d) ∈ q.docsOf name := by
  rwa [docsOf_of_rows (ensure_rows he)] at hd

end SqliteStore

namespace StoreCall

def inserts (name : String) : StoreCall → List Fields
  | .create n doc => if n = name then [doc] else []
  | .createMany n docs => if n = name then docs else []
  | _ => []

/-- The collection and the filter of the documents a call revises, with the next version it
writes of each, by the clock `now`. -/
def revision (now : Time) : StoreCall → Option (String × Filter × (Fields → Fields))
  | .findOneAndUpdate n f change | .updateOne n f change | .updateMany n f change =>
    some (n, f, fun d => mergeChange now d change)
  | .findOneAndReplace n f doc => some (n, f, replacement now doc)
  | _ => none

/-- A document that a call run by host `h` writes under identity `i` into collection `name`,
which held `docs`, on a backend that keeps documents by `keep`: a document it inserts, prepared
by a host that advances `h`, or the next version of a stored document its filter selects, under
that document's identity. -/
inductive Writes (c : StoreCall) (h : Host) (name : String) (docs : List (String × Fields))
    (keep : Fields → Fields) : String → Fields → Prop
  | insert {doc d : Fields} : doc ∈ c.inserts name → Prepared h keep doc d →
      Writes c h name docs keep (docId d) d
  | revise {f : Filter} {next : Fields → Fields} {i : String} {d₀ d : Fields} :
      c.revision h.now = some (name, f, next) → (i, d₀) ∈ docs → f.selects d₀ = true →
      d = keep (next d₀) → Writes c h name docs keep i d

variable {name i : String} {d : Fields}

theorem mem_onMemory_cases (c : StoreCall) {m : MemoryStore} (hm : m.DocsWf) (h : Host)
    (hd : (i, d) ∈ ((c.onMemory h m).get name).docs) :
    (i, d) ∈ (m.get name).docs ∨ c.Writes h name (m.get name).docs id i d := by
  cases c with
  | ensureCollection spec => exact Or.inl (MemoryStore.mem_of_mem_ensure spec hd)
  | create n doc =>
    rcases MemoryStore.mem_create_cases h n doc hd with hold | ⟨rfl, rfl, rfl⟩
    · exact Or.inl hold
    · exact Or.inr (.insert (by simp [inserts]) ⟨h, .refl h, rfl⟩)
  | createMany n docs =>
    rcases MemoryStore.mem_createMany_cases h n docs hd with hold | ⟨rfl, doc, hdoc, hp, rfl⟩
    · exact Or.inl hold
    · exact Or.inr (.insert (by simpa [inserts] using hdoc) hp)
  | find | findOne | aggregate => exact Or.inl hd
  | findOneAndUpdate n f change =>
    rcases MemoryStore.mem_replaceFirst_cases hm n f _ hd with hold | ⟨rfl, d₀, h₀, hs, rfl⟩
    · exact Or.inl hold
    · exact Or.inr (.revise rfl h₀ hs rfl)
  | findOneAndReplace n f doc =>
    rcases MemoryStore.mem_replaceFirst_cases hm n f _ hd with hold | ⟨rfl, d₀, h₀, hs, rfl⟩
    · exact Or.inl hold
    · exact Or.inr (.revise rfl h₀ hs rfl)
  | updateOne n f change =>
    rcases MemoryStore.mem_update_cases hm h n f change 1 hd with hold | ⟨rfl, d₀, h₀, hs, rfl⟩
    · exact Or.inl hold
    · exact Or.inr (.revise rfl h₀ hs rfl)
  | updateMany n f change =>
    rcases MemoryStore.mem_update_cases hm h n f change 0 hd with hold | ⟨rfl, d₀, h₀, hs, rfl⟩
    · exact Or.inl hold
    · exact Or.inr (.revise rfl h₀ hs rfl)
  | deleteOne n f => exact Or.inl (MemoryStore.mem_of_mem_delete n f 1 hd)
  | deleteMany n f => exact Or.inl (MemoryStore.mem_of_mem_delete n f 0 hd)

theorem mem_onSqlite_cases (c : StoreCall) {q : SqliteStore} (hq : q.Inv) (h : Host)
    (hd : (i, d) ∈ (c.onSqlite h q).docsOf name) :
    (i, d) ∈ q.docsOf name ∨ c.Writes h name (q.docsOf name) storedDoc i d := by
  cases c with
  | ensureCollection spec =>
    simp only [onSqlite] at hd
    split at hd
    · rename_i q' he
      exact Or.inl (SqliteStore.mem_of_mem_ensure he hd)
    · exact Or.inl hd
  | create n doc =>
    rcases SqliteStore.mem_create_cases h n doc hd with hold | ⟨rfl, rfl, rfl⟩
    · exact Or.inl hold
    · exact Or.inr (.insert (by simp [inserts]) ⟨h, .refl h, rfl⟩)
  | createMany n docs =>
    rcases SqliteStore.mem_createMany_cases h n docs hd with hold | ⟨rfl, doc, hdoc, hp, rfl⟩
    · exact Or.inl hold
    · exact Or.inr (.insert (by simpa [inserts] using hdoc) hp)
  | find | findOne | aggregate => exact Or.inl hd
  | findOneAndUpdate n f change =>
    rcases SqliteStore.mem_replaceFirst_cases hq n f
        (fun found hst => docId_storedDoc_of (Fields.get?_mergeChange_id h.now found change) hst)
        hd with hold | ⟨rfl, d₀, h₀, hs, rfl⟩
    · exact Or.inl hold
    · exact Or.inr (.revise rfl h₀ hs rfl)
  | findOneAndReplace n f doc =>
    have hnext : ∀ found : Fields, storedDoc found = found →
        docId (storedDoc (replacement h.now doc found)) = docId found := fun found _ => by
      apply docId_storedDoc_of_get
      rw [replacement, Fields.get?_set_of_ne _ _ (Ne.symm fieldUpdatedAt_ne_fieldId),
        Fields.get?_set_of_ne _ _ (Ne.symm fieldCreatedAt_ne_fieldId), Fields.get?_set_self]
    rcases SqliteStore.mem_replaceFirst_cases hq n f hnext hd with hold | ⟨rfl, d₀, h₀, hs, rfl⟩
    · exact Or.inl hold
    · exact Or.inr (.revise rfl h₀ hs rfl)
  | updateOne n f change =>
    rcases SqliteStore.mem_update_cases hq h n f change 1 hd with hold | ⟨rfl, d₀, h₀, hs, rfl⟩
    · exact Or.inl hold
    · exact Or.inr (.revise rfl h₀ hs rfl)
  | updateMany n f change =>
    rcases SqliteStore.mem_update_cases hq h n f change 0 hd with hold | ⟨rfl, d₀, h₀, hs, rfl⟩
    · exact Or.inl hold
    · exact Or.inr (.revise rfl h₀ hs rfl)
  | deleteOne n f => exact Or.inl (SqliteStore.mem_of_mem_delete n f 1 hd)
  | deleteMany n f => exact Or.inl (SqliteStore.mem_of_mem_delete n f 0 hd)

theorem mem_stored_after_cases (c : StoreCall) {s : Storage} (hm : s.MemDocsWf) (hq : s.SqlInv)
    (hd : (i, d) ∈ (c.after s).stored name) :
    (i, d) ∈ s.stored name ∨ c.Writes s.host name (s.stored name) s.keep i d := by
  unfold Storage.stored at hd ⊢
  cases hb : s.backend with
  | memory m =>
    rcases c.after_memory hb with h | h <;> simp only [h] at hd
    · exact Or.inl hd
    · have hkeep : s.keep = id := by
        funext d
        simp [Storage.keep, hb]
      exact hkeep ▸ c.mem_onMemory_cases (hm m hb) s.host hd
  | sqlite q =>
    rcases c.after_sqlite_eq hb with h | h <;> simp only [h] at hd
    · exact Or.inl hd
    · have hkeep : s.keep = storedDoc := by
        funext d
        simp [Storage.keep, hb]
      exact hkeep ▸ c.mem_onSqlite_cases (hq q hb) s.host hd

theorem keep_after (c : StoreCall) (s : Storage) : (c.after s).keep = s.keep := by
  funext d
  unfold Storage.keep
  cases hb : s.backend with
  | memory m => rcases c.after_memory hb with h | h <;> rw [h]
  | sqlite q => rcases c.after_sqlite_eq hb with h | h <;> rw [h]

end StoreCall

namespace Storage

/-- The documents of collection `name` in `s` are those `s₀` holds, or are good for their
identity; the stores' invariants hold in `s`, which runs on the backend of `s₀`. -/
structure Confined (s₀ : Storage) (name : String) (Good : String → Fields → Prop)
    (s : Storage) : Prop where
  memDocsWf : s.MemDocsWf
  sqlInv : s.SqlInv
  keep : s.keep = s₀.keep
  docs : ∀ i d, (i, d) ∈ s.stored name → (i, d) ∈ s₀.stored name ∨ Good i d

variable {s₀ : Storage} {name : String} {Good : String → Fields → Prop}

theorem confined_self (hm : s₀.MemDocsWf) (hq : s₀.SqlInv) : Confined s₀ name Good s₀ :=
  ⟨hm, hq, rfl, fun _ _ hd => Or.inl hd⟩

theorem Confined.mono {Good' : String → Fields → Prop} {s : Storage}
    (hs : Confined s₀ name Good s) (hG : ∀ i d, Good i d → Good' i d) : Confined s₀ name Good' s :=
  ⟨hs.memDocsWf, hs.sqlInv, hs.keep, fun i d hd => (hs.docs i d hd).imp_right (hG i d)⟩

theorem keep_of_mem_stored {s : Storage} (hq : s.SqlInv) {i : String} {d : Fields}
    (h : (i, d) ∈ s.stored name) : s.keep d = d := by
  unfold Storage.keep
  unfold Storage.stored at h
  split
  · rfl
  · rename_i q hb
    rw [hb] at h
    obtain ⟨r, hr, hrd⟩ := List.mem_map.1 h
    obtain ⟨-, rfl⟩ := Prod.mk.inj hrd
    exact (hq q hb).stored r (List.mem_filter.1 hr).1

theorem Confined.after (c : StoreCall) {s : Storage} (hs : Confined s₀ name Good s)
    (hins : ∀ doc ∈ c.inserts name, ∀ h, s.host.Advances h →
      Good (docId (s.keep (MemoryStore.prepare h doc).1)) (s.keep (MemoryStore.prepare h doc).1))
    (hrev : ∀ f next, c.revision s.host.now = some (name, f, next) → ∀ i d₀,
      (i, d₀) ∈ s.stored name → f.selects d₀ = true → ((i, d₀) ∈ s₀.stored name ∨ Good i d₀) →
      Good i (s.keep (next d₀))) :
    Confined s₀ name Good (c.after s) := by
  refine ⟨memDocsWf_after c hs.memDocsWf, sqlInv_after c hs.sqlInv,
    (c.keep_after s).trans hs.keep, fun i d hd => ?_⟩
  rcases c.mem_stored_after_cases hs.memDocsWf hs.sqlInv hd with hold | hw
  · exact hs.docs i d hold
  · right
    cases hw with
    | insert hdoc hp =>
      obtain ⟨h', hh', rfl⟩ := hp
      exact hins _ hdoc h' hh'
    | revise hr hm₀ hsel hd' =>
      subst hd'
      exact hrev _ _ hr _ _ hm₀ hsel (hs.docs _ _ hm₀)

end Storage

end CrudRoutes
