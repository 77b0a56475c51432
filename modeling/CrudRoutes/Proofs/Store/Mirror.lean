import Mathlib
import CrudRoutes.Proofs.Store.ReadBack
import CrudRoutes.Proofs.UniqueKeys

/-!
The two document stores side by side. A memory collection and the SQL tables hold a collection
alike when the tables have, under the same key patterns, the collection's documents in the same
order, each read back, and no two of the patterns share a key name. On a collection held alike
the two stores select the same documents, and checking the keys of a storable document finds
the same first taken key in both: the key table never refuses a document's own key, since no
two patterns of the collection give it one key. So inserting, replacing and removing documents
answer alike and keep the collection held alike.
-/

namespace CrudRoutes

open MemCollection

/-- Two duplicate keys that report the same collection and pattern, and the same values once
read back. -/
def DuplicateKey.Alike (k k' : DuplicateKey) : Prop :=
  k.collection = k'.collection ∧ k.keyPattern = k'.keyPattern ∧
    storedDoc k.keyValue = storedDoc k'.keyValue

/-- Two faults of one class: both a lookup that matched nothing, both a duplicate key reported
alike, or neither. -/
def Fault.Alike (e e' : Fault) : Prop :=
  e.isNoDocument = e'.isNoDocument ∧
    match e.duplicate?, e'.duplicate? with
    | some k, some k' => k.Alike k'
    | none, none => True
    | _, _ => False

theorem Fault.alike_refl (e : Fault) : e.Alike e := by
  refine ⟨rfl, ?_⟩
  cases e.duplicate? with
  | none => trivial
  | some k => exact ⟨rfl, rfl, rfl⟩

theorem Fault.alike_duplicate {k k' : DuplicateKey} (h : k.Alike k') :
    (Fault.duplicate k).Alike (.duplicate k') :=
  ⟨rfl, h⟩

/-- Two results that both succeed with related values, or both fail alike. -/
def Except.Alike {α : Type} (R : α → α → Prop) : Except Fault α → Except Fault α → Prop
  | .ok a, .ok b => R a b
  | .error e, .error e' => e.Alike e'
  | _, _ => False

@[simp] theorem Except.alike_ok {α : Type} {R : α → α → Prop} {a b : α} :
    Except.Alike R (.ok a) (.ok b) ↔ R a b := Iff.rfl

@[simp] theorem Except.alike_error {α : Type} {R : α → α → Prop} {e e' : Fault} :
    Except.Alike R (.error e : Except Fault α) (.error e') ↔ e.Alike e' := Iff.rfl

@[simp] theorem map_storedDoc_map_storedDoc (ds : List Fields) :
    (ds.map storedDoc).map storedDoc = ds.map storedDoc := by
  simp [Function.comp_def]

namespace SqliteStore

/-- The tables after a write to collection `name`: the connection as it was, and every other
collection with the same documents and key patterns. -/
structure Touches (name : String) (q q' : SqliteStore) : Prop where
  closed : q'.closed = q.closed
  docsOf : ∀ n, n ≠ name → q'.docsOf n = q.docsOf n
  spec : ∀ n, n ≠ name → q'.spec n = q.spec n

theorem Touches.refl (name : String) (q : SqliteStore) : Touches name q q :=
  ⟨rfl, fun _ _ => rfl, fun _ _ => rfl⟩

theorem Touches.trans {name : String} {q₁ q₂ q₃ : SqliteStore} (h₁ : Touches name q₁ q₂)
    (h₂ : Touches name q₂ q₃) : Touches name q₁ q₃ :=
  ⟨h₂.closed.trans h₁.closed, fun n hn => (h₂.docsOf n hn).trans (h₁.docsOf n hn),
    fun n hn => (h₂.spec n hn).trans (h₁.spec n hn)⟩

theorem load_eq (q : SqliteStore) (name : String) (f : Filter) (limit : Nat) :
    q.load name f limit =
      if limit > 0 then (((q.docsOf name).map Prod.snd).filter f.selects).take limit
      else ((q.docsOf name).map Prod.snd).filter f.selects := by
  simp [load, docsOf, List.map_map, Function.comp_def]

theorem any_row_iff (q : SqliteStore) (name i : String) :
    (q.rows.any fun r => r.collection == name && r.id == i) = true ↔
      ∃ e, (i, e) ∈ q.docsOf name := by
  simp only [List.any_eq_true, Bool.and_eq_true, beq_iff_eq, docsOf, List.mem_map,
    List.mem_filter, Prod.mk.injEq]
  constructor
  · rintro ⟨r, hr, hc, rfl⟩
    exact ⟨r.data, r, ⟨hr, by simp [hc]⟩, rfl, rfl⟩
  · rintro ⟨e, r, ⟨hr, hc⟩, rfl, -⟩
    exact ⟨r, hr, by simpa using hc, rfl⟩

theorem save_eq (q : SqliteStore) (spec : CollectionSpec) (next : Fields) :
    q.save spec next = match encode next with
      | .error e => .error e
      | .ok d => match q.writeKeys spec d with
        | .ok q₁ => .ok (d, { q₁ with rows := q₁.rows.map fun r =>
            if r.collection == spec.name && r.id == docId d then { r with data := d } else r })
        | .error e => .error e := by
  unfold save
  cases encode next with
  | error e => rfl
  | ok d =>
    dsimp only [bind, Except.bind]
    cases q.writeKeys spec d <;> rfl

theorem save_eq_of_writable (q : SqliteStore) (spec : CollectionSpec) {next : Fields}
    (hw : Json.unwritableFields? next = none) :
    q.save spec next = match q.writeKeys spec (storedDoc next) with
      | .ok q₁ => .ok (storedDoc next, { q₁ with rows := q₁.rows.map fun r =>
          if r.collection == spec.name && r.id == docId (storedDoc next) then
            { r with data := storedDoc next } else r })
      | .error e => .error e := by
  rw [save_eq, encode_of_writable hw]

theorem touches_writeKeys {q q₁ : SqliteStore} {spec : CollectionSpec} {d : Fields}
    (hw : q.writeKeys spec d = .ok q₁) (name : String) : Touches name q q₁ := by
  exact ⟨(writeKeys_frame hw).2.2, fun n _ => docsOf_writeKeys hw n, fun n _ => spec_writeKeys hw n⟩

theorem save_congr (q : SqliteStore) (spec : CollectionSpec) {a b : Fields}
    (ha : Json.unwritableFields? a = none) (hb : Json.unwritableFields? b = none)
    (h : storedDoc a = storedDoc b) : q.save spec a = q.save spec b := by
  rw [save_eq_of_writable q spec ha, save_eq_of_writable q spec hb, h]

end SqliteStore

namespace MemCollection

variable {c : MemCollection}

theorem doc?_isSome_iff {i : String} : (c.doc? i).isSome ↔ ∃ e, (i, e) ∈ c.docs := by
  rw [← not_iff_not, Bool.not_eq_true, Option.isSome_eq_false_iff, Option.isNone_iff_eq_none,
    doc?_eq_none_iff]
  simp

theorem remove_docs (c : MemCollection) (i : String) :
    (c.remove i).docs = c.docs.filter fun p => p.1 != i := by
  cases hd : c.doc? i with
  | none =>
    simp only [remove, hd]
    symm
    refine List.filter_eq_self.2 fun p hp => ?_
    have := doc?_eq_none_iff.1 hd p.2
    simp only [bne_iff_ne, ne_eq]
    rintro rfl
    exact this hp
  | some d => rw [remove_eq hd]

theorem foldl_remove_docs (found : List Fields) (c : MemCollection) :
    (found.foldl (fun c d => c.remove (docId d)) c).docs =
      c.docs.filter fun p => !(found.map docId).contains p.1 := by
  induction found generalizing c with
  | nil => simp
  | cons d rest ih =>
    rw [List.foldl_cons, ih, remove_docs, List.filter_filter]
    apply List.filter_congr
    intro p _
    by_cases hp : p.1 = docId d <;> simp [hp]

theorem conflict?_eq_none_iff_taken (hc : c.Inv) {d : Fields} {self : String} :
    c.conflict? d self = none ↔ ∀ k, Holds c.spec.uniqueKeys d k → ¬ c.TakenBy self k := by
  rw [conflict?_eq_none_iff hc.keys_nodup]
  constructor
  · rintro hall k hk ⟨o, e, hne, hm, hke⟩
    exact hne (hall k o hk ((hc.mem_keys k o).2 ⟨e, hm, hke⟩))
  · intro hall k o hk hm
    by_contra hne
    obtain ⟨e, he, hke⟩ := (hc.mem_keys k o).1 hm
    exact hall k hk ⟨o, e, hne, he, hke⟩

theorem conflict?_fresh (hc : c.Inv) {d : Fields} (hfresh : ∀ e, (docId d, e) ∉ c.docs) :
    c.conflict? d "" = c.conflict? d (docId d) := by
  have ht : c.TakenBy "" = c.TakenBy (docId d) := by
    funext k
    apply propext
    constructor
    · rintro ⟨o, e, -, hm, hk⟩
      exact ⟨o, e, fun ho => hfresh e (ho ▸ hm), hm, hk⟩
    · rintro ⟨o, e, -, hm, hk⟩
      exact ⟨o, e, hc.id_ne o e hm, hm, hk⟩
  apply Option.ext
  intro e
  rw [conflict?_eq_some_iff hc, conflict?_eq_some_iff hc, ht]

end MemCollection

theorem FirstClaimFails.firstTaken {held taken : String × String → Prop}
    (hiff : ∀ k, taken k ↔ held k) {n : Fields} (hn : n.Steady) {ps : List (List String)}
    {P : List String} {v : String} {fields : Fields}
    (hf : FirstClaimFails held (storedDoc n) ps P v fields) (hP : held (keyName P, v)) :
    ∃ fields₀, FirstTaken taken n ps P v fields₀ ∧ fields = storedDoc fields₀ := by
  obtain ⟨pre, post, hps, hu, -, hpre, -⟩ := hf
  rw [uniqueKey_storedDoc hn] at hu
  obtain ⟨⟨v', f₀⟩, hu₀, he⟩ := Option.map_eq_some_iff.1 hu
  simp only [Prod.mk.injEq] at he
  obtain ⟨rfl, rfl⟩ := he
  refine ⟨f₀, ⟨pre, post, hps, hu₀, (hiff _).2 hP, fun k hk ht => ?_⟩, rfl⟩
  exact hpre k ((holds_storedDoc hn).2 hk) ((hiff k).1 ht)

theorem FirstClaimFails.held_of_distinct {held : String × String → Prop} {d : Fields}
    {ps : List (List String)} {P : List String} {v : String} {fields : Fields}
    (hdist : (ps.map keyName).Nodup) (hf : FirstClaimFails held d ps P v fields) :
    held (keyName P, v) := by
  obtain ⟨pre, post, rfl, -, -, -, hh | ⟨P', hP', hk⟩⟩ := hf
  · exact hh
  · -- an earlier pattern gave the same key, so it has the same name
    exfalso
    have hname : keyName P' = keyName P := by
      unfold keyOf at hk
      obtain ⟨r, -, he⟩ := Option.map_eq_some_iff.1 hk
      exact (Prod.mk.inj he).1
    rw [List.map_append, List.map_cons] at hdist
    exact List.disjoint_of_nodup_append hdist (List.mem_map_of_mem hP') (hname ▸ List.mem_cons_self)

theorem keyCheck_alike {c : MemCollection} (hc : c.Inv) {q : SqliteStore} {spec : CollectionSpec}
    (hname : spec.name = c.spec.name) (hpat : spec.uniqueKeys = c.spec.uniqueKeys)
    (hdist : (c.spec.uniqueKeys.map keyName).Nodup) {n : Fields} (hn : Storable n)
    (hheld : ∀ k, c.TakenBy (docId n) k ↔
      ∃ o, (k, o) ∈ (q.dropOwner spec.name (docId n)).keysOf spec.name) :
    (c.conflict? n (docId n) = none ∧ ∃ q', q.writeKeys spec (storedDoc n) = .ok q') ∨
      ∃ e e', c.conflict? n (docId n) = some e ∧
        q.writeKeys spec (storedDoc n) = .error (.duplicate e') ∧ e.Alike e' := by
  have hid : docId (storedDoc n) = docId n := docId_storedDoc_of_storable hn
  have hheld' : ∀ k, c.TakenBy (docId n) k ↔
      ∃ o, (k, o) ∈ (q.dropOwner spec.name (docId (storedDoc n))).keysOf spec.name := by
    rw [hid]
    exact hheld
  have hown : ∀ k o, (k, o) ∈ (q.dropOwner spec.name (docId (storedDoc n))).keysOf spec.name →
      o ≠ docId (storedDoc n) := by
    intro k o hm
    rw [SqliteStore.keysOf_dropOwner] at hm
    simpa using (List.mem_filter.1 hm).2
  rw [SqliteStore.writeKeys_eq_claims]
  rcases SqliteStore.claims_result hheld' hown spec.uniqueKeys with
    ⟨⟨q', hq'⟩, hfree, -⟩ | ⟨P, v, fields, hf, hP, herr⟩ | ⟨P, v, fields, hf, hP, -⟩
  · -- no key of the document is taken
    refine Or.inl ⟨(conflict?_eq_none_iff_taken hc).2 fun k hk => hfree k ?_, q', hq'⟩
    rw [hpat]
    exact (holds_storedDoc hn.steady).2 hk
  · -- the first taken key, reported alike
    rw [hpat] at hf
    obtain ⟨f₀, hft, rfl⟩ := hf.firstTaken (fun _ => Iff.rfl) hn.steady hP
    refine Or.inr ⟨_, _, (conflict?_eq_some_iff hc).2 ⟨P, v, f₀, hft, rfl⟩, herr, ?_⟩
    exact ⟨hname.symm, rfl, (storedDoc_storedDoc f₀).symm⟩
  · -- a key claimed twice would need two patterns of one name
    rw [hpat] at hf
    exact absurd (hf.held_of_distinct hdist) hP

/-- A memory collection and the SQL tables hold collection `name` alike: the same key
patterns, of distinct key names, and the same documents in the same order, each storable and
read back in the tables; the collection keeps its own invariant. -/
structure CollMirror (name : String) (c : MemCollection) (q : SqliteStore) : Prop where
  spec_name : c.spec.name = name
  patterns : (q.spec name).uniqueKeys = c.spec.uniqueKeys
  docs : q.docsOf name = c.docs.map fun p => (p.1, storedDoc p.2)
  storable : ∀ i d, (i, d) ∈ c.docs → Storable d
  distinct : (c.spec.uniqueKeys.map keyName).Nodup
  inv : c.Inv

namespace CollMirror

variable {name : String} {c : MemCollection} {q : SqliteStore}

theorem frame (h : CollMirror name c q) {q' : SqliteStore} (hd : q'.docsOf name = q.docsOf name)
    (hs : q'.spec name = q.spec name) : CollMirror name c q' :=
  { h with patterns := hs ▸ h.patterns, docs := hd ▸ h.docs }

theorem rewrite (h : CollMirror name c q) {c' : MemCollection} {q' : SqliteStore}
    (hspec : c'.spec = c.spec) (hsp : q'.spec name = q.spec name)
    (hdocs : q'.docsOf name = c'.docs.map fun p => (p.1, storedDoc p.2))
    (hst : ∀ i d, (i, d) ∈ c'.docs → Storable d) (hinv : c'.Inv) : CollMirror name c' q' where
  spec_name := hspec ▸ h.spec_name
  patterns := by rw [hsp, hspec]; exact h.patterns
  docs := hdocs
  storable := hst
  distinct := hspec ▸ h.distinct
  inv := hinv

theorem steady_docs (h : CollMirror name c q) : ∀ d ∈ c.docs.map Prod.snd, d.Steady := by
  intro d hd
  obtain ⟨⟨i, d⟩, hm, rfl⟩ := List.mem_map.1 hd
  exact (h.storable i d hm).steady

theorem load (h : CollMirror name c q) (f : Filter) (limit : Nat) :
    q.load name f limit = (c.select f limit).map storedDoc := by
  have hall : ((q.docsOf name).map Prod.snd).filter f.selects =
      ((c.docs.map Prod.snd).filter f.selects).map storedDoc := by
    rw [map_storedDoc_filter h.steady_docs, h.docs, List.map_map, List.map_map]
    rfl
  rw [SqliteStore.load_eq, hall]
  unfold select
  split <;> simp [List.map_take]

theorem mem_docsOf_iff (h : CollMirror name c q) (i : String) :
    (∃ e, (i, e) ∈ q.docsOf name) ↔ ∃ e, (i, e) ∈ c.docs := by
  rw [h.docs]
  constructor
  · rintro ⟨e, he⟩
    obtain ⟨⟨i', e'⟩, hm, he'⟩ := List.mem_map.1 he
    simp only [Prod.mk.injEq] at he'
    exact ⟨e', he'.1 ▸ hm⟩
  · rintro ⟨e, he⟩
    exact ⟨storedDoc e, List.mem_map.2 ⟨(i, e), he, rfl⟩⟩

theorem held_iff (h : CollMirror name c q) (hq : q.Inv) (self : String) (k : String × String) :
    c.TakenBy self k ↔ ∃ o, (k, o) ∈ (q.dropOwner name self).keysOf name := by
  simp only [SqliteStore.keysOf_dropOwner, List.mem_filter, bne_iff_ne, ne_eq]
  constructor
  · rintro ⟨o, e, hne, hm, hk⟩
    refine ⟨o, (hq.mem_keys name k o).2 ⟨storedDoc e, ?_, ?_⟩, hne⟩
    · rw [h.docs]
      exact List.mem_map.2 ⟨(o, e), hm, rfl⟩
    · rw [h.patterns]
      exact (holds_storedDoc (h.storable o e hm).steady).2 hk
  · rintro ⟨o, hm, hne⟩
    obtain ⟨d, hd, hk⟩ := (hq.mem_keys name k o).1 hm
    rw [h.docs] at hd
    obtain ⟨⟨i, e⟩, he, hie⟩ := List.mem_map.1 hd
    simp only [Prod.mk.injEq] at hie
    obtain ⟨rfl, rfl⟩ := hie
    rw [h.patterns] at hk
    exact ⟨i, e, hne, he, (holds_storedDoc (h.storable i e he).steady).1 hk⟩

theorem check (h : CollMirror name c q) (hq : q.Inv) {n : Fields} (hn : Storable n) :
    (c.conflict? n (docId n) = none ∧ ∃ q', q.writeKeys (q.spec name) (storedDoc n) = .ok q') ∨
      ∃ e e', c.conflict? n (docId n) = some e ∧
        q.writeKeys (q.spec name) (storedDoc n) = .error (.duplicate e') ∧ e.Alike e' := by
  have hsn : (q.spec name).name = name := SqliteStore.spec_name q name
  refine keyCheck_alike h.inv (hsn.trans h.spec_name.symm) h.patterns h.distinct hn fun k => ?_
  rw [hsn]
  exact h.held_iff hq _ k

theorem insert (h : CollMirror name c q) (hq : q.Inv) (hst : Host) {doc : Fields}
    (hd : Storable (MemoryStore.prepare hst doc).1) :
    (∃ c' q', c.insert (MemoryStore.prepare hst doc).1 = .ok c' ∧
        (q.insert hst (q.spec name) doc).1 = .ok (storedDoc (MemoryStore.prepare hst doc).1, q') ∧
        CollMirror name c' q' ∧ q'.Inv ∧ SqliteStore.Touches name q q') ∨
      ∃ e e', c.insert (MemoryStore.prepare hst doc).1 = .error e ∧
        (q.insert hst (q.spec name) doc).1 = .error e' ∧ e.Alike e' := by
  have hne := docId_prepare_ne_empty hst doc
  have hins := SqliteStore.insert_eq q hst (q.spec name) doc
  generalize (MemoryStore.prepare hst doc).1 = d at hd hne hins ⊢
  rw [SqliteStore.encode_of_writable hd.encodable.writable] at hins
  have hid : docId (storedDoc d) = docId d := docId_storedDoc_of_storable hd
  have hsn : (q.spec name).name = name := SqliteStore.spec_name q name
  -- the identity is taken in both stores or in neither
  have htaken : (q.rows.any fun r => r.collection == (q.spec name).name &&
      r.id == docId (storedDoc d)) = (c.doc? (docId d)).isSome := by
    rw [Bool.eq_iff_iff, SqliteStore.any_row_iff, hsn, hid, h.mem_docsOf_iff, doc?_isSome_iff]
  by_cases hdup : (c.doc? (docId d)).isSome = true
  · have hm : c.insert d = .error (.duplicate
        { collection := c.spec.name, keyPattern := [fieldId],
          keyValue := [(fieldId, .str (docId d))] }) := by
      simp [MemCollection.insert, hdup]
    have hs : (q.insert hst (q.spec name) doc).1 = .error (.duplicate
        { collection := (q.spec name).name, keyPattern := [fieldId],
          keyValue := [(fieldId, .str (docId (storedDoc d)))] }) := by
      rw [hins]
      simp [htaken, hdup]
    exact Or.inr ⟨_, _, hm, hs, Fault.alike_duplicate ⟨h.spec_name.trans hsn.symm, rfl, by rw [hid]⟩⟩
  · have hfresh : ∀ e, (docId d, e) ∉ c.docs := fun e he => hdup (doc?_isSome_iff.2 ⟨e, he⟩)
    have hcheck := conflict?_fresh h.inv hfresh
    rcases h.check hq hd with ⟨hnone, q₁, hw⟩ | ⟨e, e', hsome, hw, hal⟩
    · have hm : c.insert d = .ok ({ c with docs := c.docs ++ [(docId d, d)] }.indexKeys d) := by
        simp [MemCollection.insert, hdup, hcheck, hnone]
      have hs : (q.insert hst (q.spec name) doc).1 = .ok (storedDoc d, { q₁ with
          rows := q₁.rows ++ [⟨(q.spec name).name, docId (storedDoc d), storedDoc d⟩] }) := by
        rw [hins]
        simp [htaken, hdup, hw]
      obtain ⟨-, -, hc'⟩ := insert_eq_ok hm
      have ht := SqliteStore.touches_writeKeys hw name
      have hq₁ := SqliteStore.docsOf_writeKeys hw
      have hsp : ∀ r n', ({ q₁ with rows := r } : SqliteStore).spec n' = q.spec n' :=
        fun _ n' => SqliteStore.spec_writeKeys hw n'
      refine Or.inl ⟨_, _, hm, hs, ?_, SqliteStore.insert_inv hq (by rw [hsn]) hs, ?_⟩
      · refine h.rewrite (by rw [hc']) (hsp _ name) ?_ ?_ (insert_inv h.inv hne hm)
        · rw [hc', SqliteStore.docsOf_append, if_pos hsn, hid, hq₁, h.docs, List.map_append]
          rfl
        · rw [hc']
          intro i e he
          rcases List.mem_append.1 he with he | he
          · exact h.storable i e he
          · obtain ⟨-, rfl⟩ := Prod.mk.inj (List.mem_singleton.1 he)
            exact hd
      · refine ⟨ht.closed, fun n hn => ?_, fun n _ => hsp _ n⟩
        rw [SqliteStore.docsOf_append, if_neg (by rw [hsn]; exact Ne.symm hn), List.append_nil]
        exact hq₁ n
    · have hm : c.insert d = .error (.duplicate e) := by
        simp [MemCollection.insert, hdup, hcheck, hsome]
      have hs : (q.insert hst (q.spec name) doc).1 = .error (.duplicate e') := by
        rw [hins]
        simp [htaken, hdup, hw]
      exact Or.inr ⟨_, _, hm, hs, Fault.alike_duplicate hal⟩

theorem replace (h : CollMirror name c q) (hq : q.Inv) {cur n : Fields}
    (hcur : (docId cur, cur) ∈ c.docs) (hn : Storable n) (hid : docId n = docId cur) :
    (∃ c' q', c.replace cur n = .ok c' ∧ q.save (q.spec name) n = .ok (storedDoc n, q') ∧
        CollMirror name c' q' ∧ q'.Inv ∧ SqliteStore.Touches name q q') ∨
      ∃ e e', c.replace cur n = .error e ∧ q.save (q.spec name) n = .error e' ∧ e.Alike e' := by
  have hsid : docId (storedDoc n) = docId n := docId_storedDoc_of_storable hn
  have hsn : (q.spec name).name = name := SqliteStore.spec_name q name
  have hcheck : c.conflict? n (docId cur) = c.conflict? n (docId n) := by rw [hid]
  rcases h.check hq hn with ⟨hnone, q₁, hw⟩ | ⟨e, e', hsome, hw, hal⟩
  · obtain ⟨c', hm⟩ : ∃ c', c.replace cur n = .ok c' := by
      unfold MemCollection.replace
      dsimp only
      rw [hcheck, hnone]
      exact ⟨_, rfl⟩
    obtain ⟨q', hs⟩ : ∃ q', q.save (q.spec name) n = .ok (storedDoc n, q') :=
      ⟨_, by rw [SqliteStore.save_eq_of_writable _ _ hn.encodable.writable, hw]⟩
    obtain ⟨-, q₂, hw₂, rfl⟩ := SqliteStore.save_eq_ok hs
    rw [hw] at hw₂
    cases hw₂
    obtain ⟨-, hc'⟩ := replace_eq_ok hm
    have ht := SqliteStore.touches_writeKeys hw name
    have hq₁ := SqliteStore.docsOf_writeKeys hw
    have hsp : ∀ r n', ({ q₁ with rows := r } : SqliteStore).spec n' = q.spec n' :=
      fun _ n' => SqliteStore.spec_writeKeys hw n'
    refine Or.inl ⟨_, _, hm, hs, ?_, ?_, ?_⟩
    · refine h.rewrite (by rw [hc']) (hsp _ name) ?_ ?_ (replace_inv h.inv hcur hid hm)
      · rw [hc', SqliteStore.docsOf_map_rows, hsn, if_pos rfl, hq₁, h.docs, hsid, hid,
          List.map_map, List.map_map]
        apply List.map_congr_left
        intro p _
        by_cases hp : p.1 = docId cur <;> simp [hp]
      · rw [hc']
        intro i e he
        rcases mem_map_replace.1 he with ⟨he, -⟩ | ⟨-, rfl, -⟩
        · exact h.storable i e he
        · exact hn
    · refine SqliteStore.save_inv hq (by rw [hsn]) ?_ hs
      rw [hsn, hsid, hid]
      exact (h.mem_docsOf_iff _).2 ⟨cur, hcur⟩
    · refine ⟨ht.closed, fun n' hn' => ?_, fun n' _ => hsp _ n'⟩
      rw [SqliteStore.docsOf_map_rows, if_neg (by rw [hsn]; exact hn')]
      exact hq₁ n'
  · have hm : c.replace cur n = .error (.duplicate e) := by
      simp [MemCollection.replace, hcheck, hsome]
    have hs : q.save (q.spec name) n = .error (.duplicate e') := by
      rw [SqliteStore.save_eq_of_writable _ _ hn.encodable.writable, hw]
    exact Or.inr ⟨_, _, hm, hs, Fault.alike_duplicate hal⟩

end CollMirror

theorem MemoryStore.create_eq (m : MemoryStore) (h : Host) (name : String) (doc : Fields) :
    m.create h name doc = match (m.get name).insert (MemoryStore.prepare h doc).1 with
      | .ok c => (.ok (MemoryStore.prepare h doc).1, m.put c, (MemoryStore.prepare h doc).2)
      | .error e => (.error e, m.put (m.get name), (MemoryStore.prepare h doc).2) := rfl

theorem SqliteStore.insert_host (q : SqliteStore) (h : Host) (spec : CollectionSpec)
    (doc : Fields) : (q.insert h spec doc).2 = (MemoryStore.prepare h doc).2 := by
  rw [insert_eq]
  dsimp only
  split
  · rfl
  · split
    · rfl
    · split <;> rfl

theorem SqliteStore.insertStep_of_insert {q : SqliteStore} {h : Host} {spec : CollectionSpec}
    {doc : Fields} {r : Except Fault (Fields × SqliteStore)} (hi : (q.insert h spec doc).1 = r)
    (done : List Fields) :
    insertStep spec (.ok (q, done), h) doc =
      (r.map fun p => (p.2, done ++ [p.1]), (MemoryStore.prepare h doc).2) := by
  subst hi
  rw [← insert_host q h spec doc]
  simp only [insertStep]
  generalize q.insert h spec doc = I
  obtain ⟨r, h'⟩ := I
  rcases r with e | ⟨d, q'⟩ <;> rfl

theorem SqliteStore.create_eq {q : SqliteStore} (hq : q.closed = false) (h : Host) (name : String)
    (doc : Fields) : q.create h name doc = match (q.insert h (q.spec name) doc).1 with
      | .ok (d, q') => (.ok d, q', (MemoryStore.prepare h doc).2)
      | .error e => (.error e, q, (MemoryStore.prepare h doc).2) := by
  rw [← insert_host q h (q.spec name) doc]
  simp only [create, hq, Bool.false_eq_true, if_false]
  obtain ⟨r, h'⟩ := q.insert h (q.spec name) doc
  rcases r with e | ⟨d, q'⟩ <;> rfl

theorem MemoryStore.foldl_batchStep_error (docs : List Fields) (e : Fault × MemCollection)
    (h : Host) :
    docs.foldl MemoryStore.batchStep (.error e, h) = (.error e, h) := by
  induction docs with
  | nil => rfl
  | cons doc rest ih => exact ih

theorem SqliteStore.foldl_insertStep_error (spec : CollectionSpec) (docs : List Fields)
    (e : Fault) (h : Host) : docs.foldl (insertStep spec) (.error e, h) = (.error e, h) := by
  induction docs with
  | nil => rfl
  | cons doc rest ih => exact ih

namespace CollMirror

variable {name : String}

theorem batch (spec : CollectionSpec) (docs : List Fields) (hdocs : ∀ doc ∈ docs, Storable doc) :
    ∀ (c : MemCollection) (q₀ q : SqliteStore) (done : List Fields) (hst : Host),
      CollMirror name c q → q.Inv → q.spec name = spec → SqliteStore.Touches name q₀ q →
      hst.now.Encodable →
      (docs.foldl (SqliteStore.insertStep spec) (.ok (q, done.map storedDoc), hst)).2 =
          (docs.foldl MemoryStore.batchStep (.ok (c, done), hst)).2 ∧
        ((∃ c' q' done', (docs.foldl MemoryStore.batchStep (.ok (c, done), hst)).1 = .ok (c', done') ∧
          (docs.foldl (SqliteStore.insertStep spec) (.ok (q, done.map storedDoc), hst)).1 =
            .ok (q', done'.map storedDoc) ∧
          CollMirror name c' q' ∧ q'.Inv ∧ SqliteStore.Touches name q₀ q') ∨
        ∃ e c' e', (docs.foldl MemoryStore.batchStep (.ok (c, done), hst)).1 = .error (e, c') ∧
          (docs.foldl (SqliteStore.insertStep spec) (.ok (q, done.map storedDoc), hst)).1 =
            .error e' ∧ e.Alike e') := by
  induction docs with
  | nil =>
    intro c q₀ q done hst hc hq _ ht _
    exact ⟨rfl, Or.inl ⟨c, q, done, rfl, rfl, hc, hq, ht⟩⟩
  | cons doc rest ih =>
    intro c q₀ q done hst hc hq hspec ht hh
    have hrest := fun d hd => hdocs d (List.mem_cons_of_mem doc hd)
    have hnow : (MemoryStore.prepare hst doc).2.now.Encodable := by rw [prepare_now]; exact hh
    rw [List.foldl_cons, List.foldl_cons]
    rcases hc.insert hq hst (storable_prepare (hdocs doc List.mem_cons_self) hh) with
      ⟨c', q', hmi, hsi, hcm, hqi, ht'⟩ | ⟨e, e', hmi, hsi, hal⟩
    · -- both take the document and go on with the rest
      have hstep : MemoryStore.batchStep (.ok (c, done), hst) doc =
          (.ok (c', done ++ [(MemoryStore.prepare hst doc).1]), (MemoryStore.prepare hst doc).2) := by
        simp [MemoryStore.batchStep, hmi]
      have hstep' : SqliteStore.insertStep spec (.ok (q, done.map storedDoc), hst) doc =
          (.ok (q', (done ++ [(MemoryStore.prepare hst doc).1]).map storedDoc),
            (MemoryStore.prepare hst doc).2) := by
        rw [← hspec, SqliteStore.insertStep_of_insert hsi]
        simp [Except.map]
      rw [hstep, hstep']
      have hspec' : q'.spec name = spec := by
        obtain ⟨-, -, q₁, hw, rfl⟩ := SqliteStore.insert_eq_ok hsi
        rw [← hspec]
        exact SqliteStore.spec_writeKeys hw name
      exact ih hrest c' q₀ q' _ _ hcm hqi hspec' (ht.trans ht') hnow
    · -- both refuse the document and stop
      have hstep : MemoryStore.batchStep (.ok (c, done), hst) doc =
          (.error (e, done.foldl (fun c d => c.remove (docId d)) c),
            (MemoryStore.prepare hst doc).2) := by
        simp [MemoryStore.batchStep, hmi]
      have hstep' : SqliteStore.insertStep spec (.ok (q, done.map storedDoc), hst) doc =
          (.error e', (MemoryStore.prepare hst doc).2) := by
        rw [← hspec, SqliteStore.insertStep_of_insert hsi]
        rfl
      rw [hstep, hstep', MemoryStore.foldl_batchStep_error, SqliteStore.foldl_insertStep_error]
      exact ⟨rfl, Or.inr ⟨e, _, e', rfl, rfl, hal⟩⟩

end CollMirror

theorem MemoryStore.get_of_find? {m : MemoryStore} {name : String} {c : MemCollection}
    (h : m.find? name = some c) : m.get name = c := by
  simp [MemoryStore.get, h]

theorem MemoryStore.get_of_find?_none {m : MemoryStore} {name : String} (h : m.find? name = none) :
    m.get name = { spec := { name } } := by
  simp [MemoryStore.get, h]

theorem MemCollection.head?_select_one (c : MemCollection) (f : Filter) :
    (c.select f 1).head? = (c.select f 0).head? := by
  simp [select, List.head?_take]

theorem MemCollection.length_select_one (c : MemCollection) (f : Filter) :
    (c.select f 1).length ≤ 1 := by
  simp only [select, gt_iff_lt, Nat.lt_one_iff, if_true]
  exact List.length_take_le _ _

theorem MemoryStore.foldl_updateStep_error (now : Time) (set : Fields) (R : List Fields)
    (c : MemCollection) (e : Fault) (k : Nat) :
    R.foldl (MemoryStore.updateStep now set) (c, some e, k) = (c, some e, k) := by
  induction R with
  | nil => rfl
  | cons d rest ih => exact ih

@[simp] theorem docId_replacement (now : Time) (doc found : Fields) :
    docId (replacement now doc found) = docId found := by
  simp [replacement]

namespace CollMirror

variable {name : String} {c : MemCollection} {q : SqliteStore}

theorem removeIds (h : CollMirror name c q) (hq : q.Inv) (found : List Fields) :
    CollMirror name (found.foldl (fun c d => c.remove (docId d)) c)
        { q with
          keys := q.keys.filter fun k => !(k.collection == name && (found.map docId).contains k.documentId)
          rows := q.rows.filter fun r => !(r.collection == name && (found.map docId).contains r.id) } ∧
      SqliteStore.Inv { q with
          keys := q.keys.filter fun k => !(k.collection == name && (found.map docId).contains k.documentId)
          rows := q.rows.filter fun r => !(r.collection == name && (found.map docId).contains r.id) } ∧
      SqliteStore.Touches name q { q with
          keys := q.keys.filter fun k => !(k.collection == name && (found.map docId).contains k.documentId)
          rows := q.rows.filter fun r => !(r.collection == name && (found.map docId).contains r.id) } := by
  have hdocs := @SqliteStore.docsOf_filter_rows q name (found.map docId)
    { q with
      keys := q.keys.filter fun k => !(k.collection == name && (found.map docId).contains k.documentId)
      rows := q.rows.filter fun r => !(r.collection == name && (found.map docId).contains r.id) } rfl
  have hkeep := MemoryStore.foldl_remove found (Q := fun c' => c'.spec = c.spec ∧ c'.Inv)
    (fun d _ ⟨hs, hi⟩ => ⟨(remove_spec_docs _ _).1.trans hs, remove_inv hi _⟩) c ⟨rfl, h.inv⟩
  refine ⟨h.rewrite hkeep.1 rfl ?_ ?_ hkeep.2,
    SqliteStore.removeIds_inv hq name _, ⟨rfl, fun n hn => by rw [hdocs, if_neg hn],
      fun n _ => rfl⟩⟩
  · rw [hdocs, if_pos rfl, h.docs, foldl_remove_docs, List.filter_map]
    rfl
  · intro i d hd
    rw [foldl_remove_docs] at hd
    exact h.storable i d (List.mem_filter.1 hd).1

theorem updates (now : Time) (hnow : now.Encodable) (set : Fields) (hset : set.Encodable)
    (spec : CollectionSpec) :
    ∀ (R : List Fields) (c : MemCollection) (q₀ q : SqliteStore) (k : Nat),
      CollMirror name c q → q.Inv → q.spec name = spec → SqliteStore.Touches name q₀ q →
      (∀ d ∈ R, (docId d, d) ∈ c.docs) → (R.map docId).Nodup →
      ((R.foldl (MemoryStore.updateStep now set) (c, none, k)).2.1 = none ∧
        ∃ q', (R.map storedDoc).foldlM
            (fun s d => (s.save spec (mergeChange now d set)).map Prod.snd) q = .ok q' ∧
          CollMirror name (R.foldl (MemoryStore.updateStep now set) (c, none, k)).1 q' ∧
          q'.Inv ∧ SqliteStore.Touches name q₀ q') ∨
      ∃ e e', (R.foldl (MemoryStore.updateStep now set) (c, none, k)).2.1 = some e ∧
        (R.map storedDoc).foldlM
            (fun s d => (s.save spec (mergeChange now d set)).map Prod.snd) q = .error e' ∧
        e.Alike e' ∧ (R.length ≤ 1 → (R.foldl (MemoryStore.updateStep now set) (c, none, k)).1 = c) := by
  intro R
  induction R with
  | nil =>
    intro c q₀ q k hc hq _ ht _ _
    exact Or.inl ⟨rfl, q, rfl, hc, hq, ht⟩
  | cons d rest ih =>
    intro c q₀ q k hc hq hspec ht hR hnd
    have hd := hR d List.mem_cons_self
    have hn := storable_mergeChange (hc.storable _ _ hd) hset hnow (d := d)
    have hn' := storable_mergeChange (hc.storable _ _ hd).storedDoc hset hnow
    have hsave : q.save spec (mergeChange now (storedDoc d) set) =
        q.save (q.spec name) (mergeChange now d set) := by
      rw [hspec]
      exact SqliteStore.save_congr q spec hn'.encodable.writable hn.encodable.writable
        (storedDoc_mergeChange_storedDoc now d set)
    simp only [List.foldl_cons, List.map_cons, List.foldlM_cons]
    rcases hc.replace hq hd hn (docId_mergeChange now d set) with
      ⟨c', q', hmr, hsr, hcm, hqi, ht'⟩ | ⟨e, e', hmr, hsr, hal⟩
    · -- the document is written in both; the rest goes on from the new states
      have hstep : MemoryStore.updateStep now set (c, none, k) d = (c', none, k + 1) := by
        simp [MemoryStore.updateStep, hmr]
      have hspec' : q'.spec name = spec := by
        rw [← hspec]
        exact SqliteStore.spec_congr (SqliteStore.save_frame hsr).1 name
      have hrest : ∀ d' ∈ rest, (docId d', d') ∈ c'.docs := by
        intro d' hd'
        have hne : docId d' ≠ docId d := fun he =>
          (List.nodup_cons.1 hnd).1 (he ▸ List.mem_map_of_mem hd')
        exact (replace_spec_docs hmr).2 _ _ (hR d' (List.mem_cons_of_mem d hd')) hne
      rw [hstep, hsave, hsr]
      simp only [Except.map, bind, Except.bind]
      rcases ih c' q₀ q' (k + 1) hcm hqi hspec' (ht.trans ht') hrest (List.nodup_cons.1 hnd).2 with
        hl | ⟨e, e', he, he', hal, -⟩
      · exact Or.inl hl
      · refine Or.inr ⟨e, e', he, he', hal, fun hlen => ?_⟩
        -- a single document that was written cannot have failed
        have hnil : rest = [] := List.eq_nil_of_length_eq_zero (by simpa using hlen)
        subst hnil
        cases he
    · -- the document is refused in both: the memory store keeps what it wrote, the tables stop
      have hstep : MemoryStore.updateStep now set (c, none, k) d = (c, some e, k) := by
        simp [MemoryStore.updateStep, hmr]
      rw [hstep, hsave, hsr, MemoryStore.foldl_updateStep_error]
      exact Or.inr ⟨e, e', rfl, rfl, hal, fun _ => rfl⟩

end CollMirror

/-- A memory store and SQL tables that hold every collection alike, over an open connection. -/
structure StoreMirror (m : MemoryStore) (q : SqliteStore) : Prop where
  coll : ∀ name, CollMirror name (m.get name) q
  inv : q.Inv
  opened : q.closed = false

namespace StoreMirror

variable {m : MemoryStore} {q : SqliteStore}

theorem put (hm : StoreMirror m q) {name : String} {c : MemCollection} {q' : SqliteStore}
    (hc : CollMirror name c q') (hq : q'.Inv) (ht : SqliteStore.Touches name q q') :
    StoreMirror (m.put c) q' where
  coll n := by
    rw [MemoryStore.get_put, hc.spec_name]
    split
    · rename_i hn
      exact hn ▸ hc
    · rename_i hn
      exact (hm.coll n).frame (ht.docsOf n (Ne.symm hn)) (ht.spec n (Ne.symm hn))
  inv := hq
  opened := ht.closed.trans hm.opened

theorem put_get (hm : StoreMirror m q) (name : String) : StoreMirror (m.put (m.get name)) q :=
  hm.put (hm.coll name) hm.inv (SqliteStore.Touches.refl name q)

theorem create (hm : StoreMirror m q) {hst : Host} (hh : hst.now.Encodable) (name : String)
    {doc : Fields} (hdoc : Storable doc) :
    Except.Alike (fun a b => storedDoc a = storedDoc b) (m.create hst name doc).1
        (q.create hst name doc).1 ∧
      StoreMirror (m.create hst name doc).2.1 (q.create hst name doc).2.1 ∧
      (q.create hst name doc).2.2 = (m.create hst name doc).2.2 := by
  rw [MemoryStore.create_eq, SqliteStore.create_eq hm.opened]
  rcases (hm.coll name).insert hm.inv hst (storable_prepare hdoc hh) with
    ⟨c', q', hmi, hsi, hcm, hqi, ht⟩ | ⟨e, e', hmi, hsi, hal⟩
  · rw [hmi, hsi]
    exact ⟨(storedDoc_storedDoc _).symm, hm.put hcm hqi ht, rfl⟩
  · rw [hmi, hsi]
    exact ⟨hal, hm.put_get name, rfl⟩

theorem createMany (hm : StoreMirror m q) {hst : Host} (hh : hst.now.Encodable) (name : String)
    {docs : List Fields} (hdocs : ∀ doc ∈ docs, Storable doc) :
    Except.Alike (fun as bs => as.map storedDoc = bs.map storedDoc)
        (m.createMany hst name docs).1 (q.createMany hst name docs).1 ∧
      StoreMirror (m.createMany hst name docs).2.1 (q.createMany hst name docs).2.1 ∧
      (q.createMany hst name docs).2.2 = (m.createMany hst name docs).2.2 := by
  rw [MemoryStore.createMany_eq, SqliteStore.createMany_eq]
  simp only [hm.opened, Bool.false_eq_true, if_false]
  have hfold := CollMirror.batch (q.spec name) docs hdocs (m.get name) q q [] hst (hm.coll name)
    hm.inv rfl (SqliteStore.Touches.refl name q) hh
  simp only [List.map_nil] at hfold
  -- a refused batch is rolled back to the collection it started from
  have hroll := MemoryStore.foldl_batchStep_rollback (hm.coll name).inv.sound docs hst
  generalize docs.foldl MemoryStore.batchStep (.ok (m.get name, []), hst) = R at hfold hroll ⊢
  generalize docs.foldl (SqliteStore.insertStep (q.spec name)) (.ok (q, []), hst) = R' at hfold ⊢
  obtain ⟨r, h₁⟩ := R
  obtain ⟨r', h₂⟩ := R'
  obtain ⟨hhost, hres⟩ := hfold
  simp only at hhost hres
  rcases hres with ⟨c', q', done', rfl, rfl, hcm, hqi, ht⟩ | ⟨e, c', e', rfl, rfl, hal⟩
  · exact ⟨by simp, hm.put hcm hqi ht, hhost⟩
  · have hc' : c' = m.get name := hroll
    subst hc'
    exact ⟨hal, hm.put_get name, hhost⟩

end StoreMirror

end CrudRoutes
