import Mathlib
import CrudRoutes.Proofs.Store.MemoryIndex

/-!
The representation invariant of the SQL store.

A collection of the tables is read as the memory store holds one: its rows as identities with
documents, its key rows as keys with their owners, under the patterns the store serves for it.
The invariant asks of every collection so read what the memory store's invariant asks, except
that identities may be empty, and that every stored document reads back as itself. Writing a document's keys drops the keys
its identity owns and claims the document's keys in pattern order, so a successful write leaves
the index exact again.

Every write runs in a transaction: a failing one leaves the tables as they were. So, unlike the
memory store, the tables keep the invariant through every call, a failing preparation included.
-/

namespace CrudRoutes

theorem Except.bind_eq_ok {ε α β : Type} {x : Except ε α} {f : α → Except ε β} {b : β}
    (h : x >>= f = .ok b) : ∃ a, x = .ok a ∧ f a = .ok b := by
  cases x with
  | error e => cases h
  | ok a => exact ⟨a, rfl, h⟩

namespace SqliteStore

open MemCollection

def docsOf (q : SqliteStore) (name : String) : List (String × Fields) :=
  (q.rows.filter (·.collection == name)).map fun r => (r.id, r.data)

def keysOf (q : SqliteStore) (name : String) : List ((String × String) × String) :=
  (q.keys.filter (·.collection == name)).map fun k => ((k.keyName, k.keyValue), k.documentId)

/-- The representation invariant of the tables: in every collection identities are unique and
those of their documents, the key rows are exactly the keys the documents hold under the
collection's patterns with their owners, none twice, and every document reads back as itself. -/
structure Inv (q : SqliteStore) : Prop where
  nodup : ∀ name, ((q.docsOf name).map Prod.fst).Nodup
  docId_eq : ∀ r ∈ q.rows, docId r.data = r.id
  keys_nodup : ∀ name, ((q.keysOf name).map Prod.fst).Nodup
  mem_keys : ∀ name k o, (k, o) ∈ q.keysOf name ↔
    ∃ d, (o, d) ∈ q.docsOf name ∧ Holds (q.spec name).uniqueKeys d k
  stored : ∀ r ∈ q.rows, storedDoc r.data = r.data

def claimed (spec : CollectionSpec) (id : String) (d : Fields) (ps : List (List String)) :
    List KeyRow :=
  ps.filterMap fun P => (keyOf d P).map fun k => ⟨spec.name, k.1, k.2, id⟩

theorem spec_name (q : SqliteStore) (name : String) : (q.spec name).name = name := by
  unfold spec
  cases h : q.specs.find? (·.name == name) with
  | none => rfl
  | some sp => simpa using List.find?_some h

theorem keysOf_append (q : SqliteStore) (rows : List KeyRow) (name : String) :
    ({ q with keys := q.keys ++ rows } : SqliteStore).keysOf name =
      q.keysOf name ++ (rows.filter (·.collection == name)).map
        fun k => ((k.keyName, k.keyValue), k.documentId) := by
  simp [keysOf, List.filter_append]

theorem claim_eq_ok {spec : CollectionSpec} {id : String} {d : Fields} {q q' : SqliteStore}
    {P : List String} (h : claim spec id d q P = .ok q') :
    (keyOf d P = none ∧ q' = q) ∨
      ∃ k, keyOf d P = some k ∧ (∀ o, (k, o) ∉ q.keysOf spec.name) ∧
        q' = { q with keys := q.keys ++ [⟨spec.name, k.1, k.2, id⟩] } := by
  unfold claim at h
  unfold keyOf
  cases hu : uniqueKey d P with
  | none =>
    simp only [hu, Except.ok.injEq] at h
    exact Or.inl ⟨rfl, h.symm⟩
  | some r =>
    obtain ⟨value, fields⟩ := r
    simp only [hu] at h
    cases hf : q.keys.find? (fun k =>
        k.collection == spec.name && k.keyName == keyName P && k.keyValue == value) with
    | some k => simp only [hf] at h; split at h <;> cases h
    | none =>
      simp only [hf, Except.ok.injEq] at h
      refine Or.inr ⟨(keyName P, value), rfl, ?_, h.symm⟩
      intro o hm
      simp only [keysOf, List.mem_map, List.mem_filter, Prod.mk.injEq] at hm
      obtain ⟨k, ⟨hk, hc⟩, ⟨hn, hv⟩, -⟩ := hm
      rw [List.find?_eq_none] at hf
      exact hf k hk (by simp_all)

theorem claims_eq_ok {spec : CollectionSpec} {id : String} {d : Fields}
    {ps : List (List String)} {q q' : SqliteStore}
    (h : ps.foldlM (claim spec id d) q = .ok q') :
    q' = { q with keys := q.keys ++ claimed spec id d ps } ∧
      (∀ k o, Holds ps d k → (k, o) ∉ q.keysOf spec.name) ∧
      ((ps.filterMap (keyOf d)).Nodup) := by
  induction ps generalizing q with
  | nil =>
    simp only [List.foldlM_nil, pure, Except.pure, Except.ok.injEq] at h
    subst h
    simp [claimed]
  | cons P rest ih =>
    simp only [List.foldlM_cons] at h
    obtain ⟨q₁, h₁, hrest⟩ := Except.bind_eq_ok h
    obtain ⟨rfl, hfree, hnd⟩ := ih hrest
    rcases claim_eq_ok h₁ with ⟨hk, rfl⟩ | ⟨k, hk, hnew, rfl⟩
    · refine ⟨by simp [claimed, hk], ?_, by simpa [List.filterMap_cons, hk] using hnd⟩
      intro k' o hh
      rw [holds_cons, hk] at hh
      exact hfree k' o (hh.resolve_left (by simp))
    · refine ⟨by simp [claimed, hk], ?_, ?_⟩
      · intro k' o hh hm
        rw [holds_cons] at hh
        rcases hh with hh | hh
        · rw [hk] at hh
          cases hh
          exact hnew o hm
        · exact hfree k' o hh (by rw [keysOf_append]; exact List.mem_append_left _ hm)
      · rw [List.filterMap_cons, hk]
        refine List.nodup_cons.2 ⟨fun hm => ?_, hnd⟩
        obtain ⟨P', hP', hk'⟩ := List.mem_filterMap.1 hm
        refine hfree k id ⟨P', hP', hk'⟩ ?_
        rw [keysOf_append]
        simp

theorem writeKeys_eq_ok {q q' : SqliteStore} {spec : CollectionSpec} {d : Fields}
    (h : q.writeKeys spec d = .ok q') :
    q' = { q with keys := q.keys.filter (fun k => !(k.collection == spec.name &&
        k.documentId == docId d)) ++ claimed spec (docId d) d spec.uniqueKeys } ∧
      (∀ k o, Holds spec.uniqueKeys d k → (k, o) ∈ q.keysOf spec.name → o = docId d) ∧
      (spec.uniqueKeys.filterMap (keyOf d)).Nodup := by
  unfold writeKeys at h
  obtain ⟨rfl, hfree, hnd⟩ := claims_eq_ok h
  refine ⟨rfl, ?_, hnd⟩
  intro k o hk hm
  by_contra ho
  refine hfree k o hk ?_
  simp only [keysOf, List.mem_map, List.mem_filter] at hm ⊢
  obtain ⟨r, ⟨hr, hc⟩, he⟩ := hm
  simp only [Prod.mk.injEq] at he
  refine ⟨r, ⟨⟨hr, ?_⟩, hc⟩, by simp [he]⟩
  simp only [beq_iff_eq] at hc
  simp [hc, he.2, ho]

theorem filter_claimed (spec : CollectionSpec) (id : String) (d : Fields)
    (ps : List (List String)) (name : String) :
    (claimed spec id d ps).filter (·.collection == name) =
      if name = spec.name then claimed spec id d ps else [] := by
  split
  · rename_i hn
    subst hn
    apply List.filter_eq_self.2
    intro r hr
    obtain ⟨P, -, hP⟩ := List.mem_filterMap.1 hr
    obtain ⟨k, -, rfl⟩ := Option.map_eq_some_iff.1 hP
    simp
  · rename_i hn
    apply List.filter_eq_nil_iff.2
    intro r hr
    obtain ⟨P, -, hP⟩ := List.mem_filterMap.1 hr
    obtain ⟨k, -, rfl⟩ := Option.map_eq_some_iff.1 hP
    simp [Ne.symm hn]

theorem map_claimed (spec : CollectionSpec) (id : String) (d : Fields)
    (ps : List (List String)) :
    (claimed spec id d ps).map (fun k => ((k.keyName, k.keyValue), k.documentId)) =
      (ps.filterMap (keyOf d)).map (·, id) := by
  simp [claimed, List.map_filterMap, Option.map_map, Function.comp_def]

theorem keysOf_writeKeys {q q' : SqliteStore} {spec : CollectionSpec} {d : Fields}
    (h : q.writeKeys spec d = .ok q') (name : String) :
    q'.keysOf name = if name = spec.name then
        (q.keysOf name).filter (·.2 != docId d) ++
          (spec.uniqueKeys.filterMap (keyOf d)).map (·, docId d)
      else q.keysOf name := by
  obtain ⟨rfl, -, -⟩ := writeKeys_eq_ok h
  simp only [keysOf, List.filter_append, List.map_append, filter_claimed, List.filter_filter]
  split
  · rename_i hn
    subst hn
    rw [map_claimed, List.filter_map, List.filter_filter]
    congr 2
    apply List.filter_congr
    intro r _
    cases r.collection == spec.name <;> cases h : r.documentId == docId d <;> simp [h, bne]
  · rename_i hn
    rw [List.map_nil, List.append_nil]
    congr 1
    apply List.filter_congr
    intro r _
    by_cases hr : r.collection = name
    · simp [hr, hn]
    · simp [hr]

section Rekey

variable {keys : List ((String × String) × String)} {L : List (String × String)} {i : String}

theorem mem_rekey {k : String × String} {o : String} :
    (k, o) ∈ keys.filter (·.2 != i) ++ L.map (·, i) ↔
      ((k, o) ∈ keys ∧ o ≠ i) ∨ (k ∈ L ∧ o = i) := by
  simp only [List.mem_append, List.mem_filter, List.mem_map, Prod.mk.injEq, bne_iff_ne, ne_eq]
  constructor
  · rintro (h | ⟨k', hk', rfl, rfl⟩)
    · exact Or.inl h
    · exact Or.inr ⟨hk', rfl⟩
  · rintro (h | ⟨hk, rfl⟩)
    · exact Or.inl h
    · exact Or.inr ⟨k, hk, rfl, rfl⟩

theorem nodup_rekey (hk : (keys.map Prod.fst).Nodup) (hL : L.Nodup)
    (hfree : ∀ k ∈ L, ∀ o, (k, o) ∈ keys → o = i) :
    ((keys.filter (·.2 != i) ++ L.map (·, i)).map Prod.fst).Nodup := by
  rw [List.map_append, List.map_map]
  have hL' : (L.map (Prod.fst ∘ fun k => (k, i))).Nodup := by
    simpa [Function.comp_def] using hL
  refine (hk.sublist (List.filter_sublist.map Prod.fst)).append hL' ?_
  intro k hk₁ hk₂
  obtain ⟨⟨k', o⟩, hm, rfl⟩ := List.mem_map.1 hk₁
  obtain ⟨hm, ho⟩ := List.mem_filter.1 hm
  obtain ⟨k'', hk'', he⟩ := List.mem_map.1 hk₂
  simp only [Function.comp_apply] at he
  subst he
  simp only [bne_iff_ne, ne_eq] at ho
  exact ho (hfree _ hk'' o hm)

end Rekey

theorem docsOf_append (q : SqliteStore) (r : SqlRow) (name : String) :
    ({ q with rows := q.rows ++ [r] } : SqliteStore).docsOf name =
      q.docsOf name ++ if r.collection = name then [(r.id, r.data)] else [] := by
  by_cases h : r.collection = name <;> simp [docsOf, List.filter_append, h]

theorem writeKeys_frame {q q' : SqliteStore} {spec : CollectionSpec} {d : Fields}
    (h : q.writeKeys spec d = .ok q') :
    q'.rows = q.rows ∧ q'.specs = q.specs ∧ q'.closed = q.closed := by
  obtain ⟨rfl, -, -⟩ := writeKeys_eq_ok h
  exact ⟨rfl, rfl, rfl⟩

theorem docsOf_of_rows {q q' : SqliteStore} (h : q'.rows = q.rows) (name : String) :
    q'.docsOf name = q.docsOf name := by
  simp only [docsOf, h]

theorem spec_congr {q q' : SqliteStore} (h : q'.specs = q.specs) (name : String) :
    q'.spec name = q.spec name := by
  simp only [spec, h]

theorem docsOf_writeKeys {q q' : SqliteStore} {spec : CollectionSpec} {d : Fields}
    (h : q.writeKeys spec d = .ok q') (name : String) : q'.docsOf name = q.docsOf name :=
  docsOf_of_rows (writeKeys_frame h).1 name

theorem spec_writeKeys {q q' : SqliteStore} {spec : CollectionSpec} {d : Fields}
    (h : q.writeKeys spec d = .ok q') (name : String) : q'.spec name = q.spec name :=
  spec_congr (writeKeys_frame h).2.1 name

theorem mem_filterMap_keyOf {ps : List (List String)} {d : Fields} {k : String × String} :
    k ∈ ps.filterMap (keyOf d) ↔ Holds ps d k :=
  List.mem_filterMap

theorem mem_keysOf_writeKeys {q q' : SqliteStore} {spec : CollectionSpec} {d : Fields}
    (h : q.writeKeys spec d = .ok q') {k : String × String} {o : String} :
    (k, o) ∈ q'.keysOf spec.name ↔
      ((k, o) ∈ q.keysOf spec.name ∧ o ≠ docId d) ∨ (Holds spec.uniqueKeys d k ∧ o = docId d) := by
  rw [keysOf_writeKeys h, if_pos rfl, mem_rekey, mem_filterMap_keyOf]

theorem nodup_keysOf_writeKeys {q q' : SqliteStore} {spec : CollectionSpec} {d : Fields}
    (h : q.writeKeys spec d = .ok q') (hk : ((q.keysOf spec.name).map Prod.fst).Nodup) :
    ((q'.keysOf spec.name).map Prod.fst).Nodup := by
  obtain ⟨-, hfree, hnd⟩ := writeKeys_eq_ok h
  rw [keysOf_writeKeys h, if_pos rfl]
  exact nodup_rekey hk hnd fun k hk' o hm => hfree k o (mem_filterMap_keyOf.1 hk') hm

theorem keys_nodup_writeKeys {q q' : SqliteStore} {spec : CollectionSpec} {d : Fields}
    (h : q.writeKeys spec d = .ok q') (hk : ∀ n, ((q.keysOf n).map Prod.fst).Nodup)
    (n : String) : ((q'.keysOf n).map Prod.fst).Nodup := by
  by_cases hn : n = spec.name
  · subst hn
    exact nodup_keysOf_writeKeys h (hk _)
  · rw [keysOf_writeKeys h, if_neg hn]
    exact hk n

theorem encode_of_writable {d : Fields} (hw : Json.unwritableFields? d = none) :
    encode d = .ok (storedDoc d) := by
  simp [encode, hw]

theorem encode_eq_ok {d d' : Fields} (h : encode d = .ok d') :
    Json.unwritableFields? d = none ∧ d' = storedDoc d := by
  unfold encode at h
  split at h
  · cases h
  · rename_i hw
    cases h
    exact ⟨hw, rfl⟩

theorem encode_eq_error {d : Fields} {f : Fault} (h : encode d = .error f) :
    ∃ u, Json.unwritableFields? d = some u ∧ f = .wrapped "encode document" (.plain u.message) := by
  unfold encode at h
  split at h
  · rename_i u hu
    cases h
    exact ⟨u, hu, rfl⟩
  · cases h

theorem insert_eq (q : SqliteStore) (h : Host) (spec : CollectionSpec) (doc : Fields) :
    q.insert h spec doc =
      let h' := (MemoryStore.prepare h doc).2
      match encode (MemoryStore.prepare h doc).1 with
      | .error e => (.error e, h')
      | .ok d =>
        if q.rows.any fun r => r.collection == spec.name && r.id == docId d then
          (.error (.duplicate
            { collection := spec.name
              keyPattern := [fieldId]
              keyValue := [(fieldId, .str (docId d))] }), h')
        else
          match q.writeKeys spec d with
          | .error e => (.error e, h')
          | .ok q' => (.ok (d, { q' with rows := q'.rows ++ [⟨spec.name, docId d, d⟩] }), h') :=
  rfl

theorem insert_eq_ok {q q' : SqliteStore} {h : Host} {spec : CollectionSpec} {doc d : Fields}
    (hi : (q.insert h spec doc).1 = .ok (d, q')) :
    d = storedDoc (MemoryStore.prepare h doc).1 ∧
      (∀ r ∈ q.rows, r.collection = spec.name → r.id ≠ docId d) ∧
      ∃ q₁, q.writeKeys spec d = .ok q₁ ∧
        q' = { q₁ with rows := q₁.rows ++ [⟨spec.name, docId d, d⟩] } := by
  rw [insert_eq] at hi
  dsimp only at hi
  split at hi
  · cases hi
  rename_i d₀ he
  obtain ⟨-, rfl⟩ := encode_eq_ok he
  split at hi
  · cases hi
  · rename_i hany
    cases hw : q.writeKeys spec (storedDoc (MemoryStore.prepare h doc).1) with
    | error e => simp [hw] at hi
    | ok q₁ =>
      simp only [hw, Except.ok.injEq, Prod.mk.injEq] at hi
      obtain ⟨rfl, rfl⟩ := hi
      refine ⟨rfl, ?_, q₁, hw, rfl⟩
      intro r hr hc hid
      simp only [List.any_eq_true, Bool.and_eq_true, beq_iff_eq, not_exists, not_and] at hany
      exact hany r hr hc hid

theorem insert_inv {q q' : SqliteStore} (hq : q.Inv) {h : Host} {spec : CollectionSpec}
    {doc d : Fields} (hspec : q.spec spec.name = spec)
    (hi : (q.insert h spec doc).1 = .ok (d, q')) : q'.Inv := by
  obtain ⟨hd, hnew, q₁, hw, rfl⟩ := insert_eq_ok hi
  obtain ⟨hrows, hspecs, -⟩ := writeKeys_frame hw
  have hdocs : ∀ n, ({ q₁ with rows := q₁.rows ++ [⟨spec.name, docId d, d⟩] } :
      SqliteStore).docsOf n =
      q.docsOf n ++ if spec.name = n then [(docId d, d)] else [] := by
    intro n
    rw [docsOf_append, docsOf_writeKeys hw]
  have hfresh : ∀ d', (docId d, d') ∉ q.docsOf spec.name := by
    intro d' hm
    simp only [docsOf, List.mem_map, List.mem_filter, beq_iff_eq, Prod.mk.injEq] at hm
    obtain ⟨r, ⟨hr, hc⟩, hid, -⟩ := hm
    exact hnew r hr hc hid
  constructor
  · intro n
    rw [hdocs]
    split
    · rename_i hn
      subst hn
      rw [List.map_append]
      refine (hq.nodup _).append (by simp) ?_
      simp only [List.map_cons, List.map_nil, List.disjoint_singleton, List.mem_map,
        not_exists, not_and]
      rintro ⟨i, d'⟩ hm rfl
      exact hfresh d' hm
    · simpa using hq.nodup n
  · intro r hr
    rcases List.mem_append.1 hr with hr | hr
    · exact hq.docId_eq r (hrows ▸ hr)
    · rw [List.mem_singleton.1 hr]
  · have hk := keys_nodup_writeKeys hw hq.keys_nodup
    exact hk
  · intro n k o
    show (k, o) ∈ q₁.keysOf n ↔ _
    rw [hdocs, spec_congr (q := q) (by simp [hspecs])]
    by_cases hn : n = spec.name
    · subst hn
      have hold := hq.mem_keys spec.name k o
      rw [hspec] at hold
      rw [mem_keysOf_writeKeys hw, hspec, if_pos rfl]
      refine owners_append_iff hold fun d' hm _ ho => ?_
      subst ho
      exact hfresh d' hm
    · rw [keysOf_writeKeys hw, if_neg hn, hq.mem_keys, if_neg (Ne.symm hn), List.append_nil]
  · intro r hr
    rcases List.mem_append.1 hr with hr | hr
    · exact hq.stored r (hrows ▸ hr)
    · rw [List.mem_singleton.1 hr, hd, storedDoc_storedDoc]

theorem save_eq_ok {q q' : SqliteStore} {spec : CollectionSpec} {next d : Fields}
    (h : q.save spec next = .ok (d, q')) :
    d = storedDoc next ∧ ∃ q₁, q.writeKeys spec d = .ok q₁ ∧
      q' = { q₁ with rows := q₁.rows.map fun r =>
        if r.collection == spec.name && r.id == docId d then { r with data := d } else r } := by
  unfold save at h
  obtain ⟨d₀, he, h⟩ := Except.bind_eq_ok h
  obtain ⟨-, rfl⟩ := encode_eq_ok he
  obtain ⟨q₁, hw, hp⟩ := Except.bind_eq_ok h
  simp only [pure, Except.pure, Except.ok.injEq, Prod.mk.injEq] at hp
  obtain ⟨rfl, rfl⟩ := hp
  exact ⟨rfl, q₁, hw, rfl⟩

theorem docsOf_map_rows (q : SqliteStore) (name : String) (i : String) (d : Fields)
    (n : String) :
    ({ q with rows := q.rows.map fun r =>
        if r.collection == name && r.id == i then { r with data := d } else r } :
        SqliteStore).docsOf n =
      if n = name then (q.docsOf n).map fun (j, e) => if j == i then (j, d) else (j, e)
      else q.docsOf n := by
  simp only [docsOf, List.filter_map, List.map_map]
  have hf : ((fun r : SqlRow => r.collection == n) ∘ fun r =>
      if r.collection == name && r.id == i then { r with data := d } else r) =
      fun r => r.collection == n := by
    funext r
    simp only [Function.comp_apply]
    split <;> rfl
  rw [hf]
  split
  · rename_i hn
    subst hn
    apply List.map_congr_left
    intro r hr
    have hc : r.collection = n := by simpa using (List.mem_filter.1 hr).2
    by_cases hi : r.id = i <;> simp [hc, hi]
  · rename_i hn
    apply List.map_congr_left
    intro r hr
    have hc : r.collection = n := by simpa using (List.mem_filter.1 hr).2
    simp [hc, hn]

theorem save_inv {q q' : SqliteStore} (hq : q.Inv) {spec : CollectionSpec} {next d : Fields}
    (hspec : q.spec spec.name = spec)
    (hcur : ∃ e, (docId (storedDoc next), e) ∈ q.docsOf spec.name)
    (h : q.save spec next = .ok (d, q')) : q'.Inv := by
  obtain ⟨rfl, q₁, hw, rfl⟩ := save_eq_ok h
  obtain ⟨hrows, hspecs, -⟩ := writeKeys_frame hw
  have hdocs := fun n => (docsOf_map_rows q₁ spec.name (docId (storedDoc next))
    (storedDoc next) n)
  simp only [docsOf_writeKeys hw] at hdocs
  constructor
  · intro n
    rw [hdocs]
    split
    · rw [map_replace_fst]
      exact hq.nodup n
    · exact hq.nodup n
  · intro r hr
    obtain ⟨r₀, hr₀, rfl⟩ := List.mem_map.1 hr
    split
    · rename_i hc
      simp only [Bool.and_eq_true, beq_iff_eq] at hc
      exact hc.2.symm
    · exact hq.docId_eq r₀ (hrows ▸ hr₀)
  · have hk := keys_nodup_writeKeys hw hq.keys_nodup
    exact hk
  · intro n k o
    show (k, o) ∈ q₁.keysOf n ↔ _
    rw [hdocs, spec_congr (q := q) (by simp [hspecs])]
    by_cases hn : n = spec.name
    · subst hn
      rw [mem_keysOf_writeKeys hw, hq.mem_keys, hspec, if_pos rfl]
      simp only [mem_map_replace]
      constructor
      · rintro (⟨⟨e, hm, hk⟩, ho⟩ | ⟨hk, rfl⟩)
        · exact ⟨e, Or.inl ⟨hm, ho⟩, hk⟩
        · exact ⟨storedDoc next, Or.inr ⟨rfl, rfl, hcur⟩, hk⟩
      · rintro ⟨e, ⟨hm, ho⟩ | ⟨rfl, rfl, -⟩, hk⟩
        · exact Or.inl ⟨⟨e, hm, hk⟩, ho⟩
        · exact Or.inr ⟨hk, rfl⟩
    · rw [keysOf_writeKeys hw, if_neg hn, hq.mem_keys, if_neg hn]
  · intro r hr
    obtain ⟨r₀, hr₀, rfl⟩ := List.mem_map.1 hr
    split
    · exact storedDoc_storedDoc next
    · exact hq.stored r₀ (hrows ▸ hr₀)

theorem mem_docsOf_of_mem_load {q : SqliteStore} (hq : q.Inv) {name : String} {f : Filter}
    {limit : Nat} {d : Fields} (h : d ∈ q.load name f limit) :
    (docId d, d) ∈ q.docsOf name ∧ storedDoc d = d := by
  have hall : d ∈ ((q.rows.filter (·.collection == name)).map (·.data)).filter f.selects := by
    unfold load at h
    split at h
    · exact List.mem_of_mem_take h
    · exact h
  obtain ⟨r, hr, rfl⟩ := List.mem_map.1 (List.mem_filter.1 hall).1
  refine ⟨?_, hq.stored r (List.mem_filter.1 hr).1⟩
  rw [hq.docId_eq r (List.mem_filter.1 hr).1]
  exact List.mem_map.2 ⟨r, hr, rfl⟩

theorem replaceFirst_inv {q : SqliteStore} (hq : q.Inv) (name : String) (f : Filter)
    {next : Fields → Fields}
    (hnext : ∀ found, storedDoc found = found → docId (storedDoc (next found)) = docId found) :
    (q.replaceFirst name f next).2.Inv := by
  unfold replaceFirst
  split
  · exact hq
  · split
    · exact hq
    · rename_i found hfound
      obtain ⟨hmem, hst⟩ := mem_docsOf_of_mem_load hq (List.mem_of_mem_head? hfound)
      split
      · rename_i d q' hs
        refine save_inv hq (by rw [spec_name]) ⟨found, ?_⟩ hs
        rw [hnext found hst, spec_name]
        exact hmem
      · exact hq

theorem findOneAndUpdate_inv {q : SqliteStore} (hq : q.Inv) (h : Host) (name : String)
    (f : Filter) (set : Fields) : (q.findOneAndUpdate h name f set).2.Inv :=
  replaceFirst_inv hq name f fun found hst =>
    docId_storedDoc_of (Fields.get?_mergeChange_id h.now found set) hst

theorem findOneAndReplace_inv {q : SqliteStore} (hq : q.Inv) (h : Host) (name : String)
    (f : Filter) (doc : Fields) : (q.findOneAndReplace h name f doc).2.Inv :=
  replaceFirst_inv hq name f fun found _ => by
    apply docId_storedDoc_of_get
    rw [Fields.get?_set_of_ne _ _ (Ne.symm fieldUpdatedAt_ne_fieldId),
      Fields.get?_set_of_ne _ _ (Ne.symm fieldCreatedAt_ne_fieldId), Fields.get?_set_self]

theorem save_frame {q q' : SqliteStore} {spec : CollectionSpec} {next d : Fields}
    (h : q.save spec next = .ok (d, q')) :
    q'.specs = q.specs ∧ ∀ n, (q'.docsOf n).map Prod.fst = (q.docsOf n).map Prod.fst := by
  obtain ⟨rfl, q₁, hw, rfl⟩ := save_eq_ok h
  refine ⟨(writeKeys_frame hw).2.1, fun n => ?_⟩
  rw [docsOf_map_rows, docsOf_writeKeys hw]
  split
  · rw [map_replace_fst]
  · rfl

theorem map_snd_eq_ok {α β ε : Type} {r : Except ε (α × β)} {b : β}
    (h : r.map Prod.snd = .ok b) : ∃ a, r = .ok (a, b) := by
  cases r with
  | error e => cases h
  | ok p => exact ⟨p.1, by cases h; rfl⟩

theorem saves_fold {spec : CollectionSpec} {now : Time} {set : Fields} {Q : SqliteStore → Prop}
    (F : List Fields)
    (hsave : ∀ {q q' : SqliteStore} {d x : Fields}, d ∈ F → Q q →
      q.save spec (mergeChange now d set) = .ok (x, q') → Q q') :
    ∀ q q' : SqliteStore, Q q →
      F.foldlM (fun s d => (s.save spec (mergeChange now d set)).map Prod.snd) q = .ok q' →
      Q q' := by
  induction F with
  | nil =>
    intro q q' hq h
    cases h
    exact hq
  | cons d rest ih =>
    intro q q' hq h
    simp only [List.foldlM_cons] at h
    obtain ⟨q₁, h₁, hrest⟩ := Except.bind_eq_ok h
    obtain ⟨x, hs⟩ := map_snd_eq_ok h₁
    exact ih (fun hd => hsave (List.mem_cons_of_mem d hd)) q₁ q'
      (hsave List.mem_cons_self hq hs) hrest

theorem saves_inv {spec : CollectionSpec} {now : Time} {set : Fields} (F : List Fields) :
    ∀ q q' : SqliteStore, q.Inv → q.spec spec.name = spec →
      (∀ d ∈ F, storedDoc d = d ∧ docId d ∈ (q.docsOf spec.name).map Prod.fst) →
      F.foldlM (fun s d => (s.save spec (mergeChange now d set)).map Prod.snd) q = .ok q' →
      q'.Inv := by
  intro q q' hq hspec hF h
  refine (saves_fold (Q := fun q => q.Inv ∧ q.spec spec.name = spec ∧
      ∀ d ∈ F, storedDoc d = d ∧ docId d ∈ (q.docsOf spec.name).map Prod.fst) F ?_ q q'
    ⟨hq, hspec, hF⟩ h).1
  rintro q₀ q₁ d x hd ⟨hq₀, hspec₀, hF₀⟩ hs
  obtain ⟨hst, hid⟩ := hF₀ d hd
  have hcur : ∃ e, (docId (storedDoc (mergeChange now d set)), e) ∈ q₀.docsOf spec.name := by
    rw [docId_storedDoc_of (Fields.get?_mergeChange_id now d set) hst]
    obtain ⟨⟨i, e⟩, hm, rfl⟩ := List.mem_map.1 hid
    exact ⟨e, hm⟩
  obtain ⟨hspecs, hids⟩ := save_frame hs
  refine ⟨save_inv hq₀ hspec₀ hcur hs, by rw [spec_congr hspecs, hspec₀], ?_⟩
  intro d' hd'
  rw [hids]
  exact hF₀ d' hd'

theorem update_inv {q : SqliteStore} (hq : q.Inv) (h : Host) (name : String) (f : Filter)
    (set : Fields) (limit : Nat) : (q.update h name f set limit).2.Inv := by
  unfold update
  split
  · exact hq
  · dsimp only
    split
    · rename_i q' hfold
      refine saves_inv _ q q' hq (by rw [spec_name]) ?_ hfold
      intro d hd
      obtain ⟨hm, hst⟩ := mem_docsOf_of_mem_load hq hd
      rw [spec_name]
      exact ⟨hst, List.mem_map.2 ⟨_, hm, rfl⟩⟩
    · exact hq

theorem docsOf_filter_rows {q : SqliteStore} {name : String} {ids : List String}
    (q' : SqliteStore) (h : q'.rows = q.rows.filter fun r => !(r.collection == name && ids.contains r.id))
    (n : String) :
    q'.docsOf n = if n = name then (q.docsOf n).filter fun e => !ids.contains e.1
      else q.docsOf n := by
  simp only [docsOf, h, List.filter_filter]
  split
  · rename_i hn
    subst hn
    rw [List.filter_map, List.filter_filter]
    congr 1
    apply List.filter_congr
    intro r _
    cases r.collection == n <;> simp
  · rename_i hn
    congr 1
    apply List.filter_congr
    intro r _
    by_cases hc : r.collection = n
    · simp [hc, hn]
    · simp [hc]

theorem keysOf_filter_keys {q : SqliteStore} {name : String} {ids : List String}
    (q' : SqliteStore) (h : q'.keys = q.keys.filter fun k => !(k.collection == name && ids.contains k.documentId))
    (n : String) :
    q'.keysOf n = if n = name then (q.keysOf n).filter fun e => !ids.contains e.2
      else q.keysOf n := by
  simp only [keysOf, h, List.filter_filter]
  split
  · rename_i hn
    subst hn
    rw [List.filter_map, List.filter_filter]
    congr 1
    apply List.filter_congr
    intro k _
    cases k.collection == n <;> simp
  · rename_i hn
    congr 1
    apply List.filter_congr
    intro k _
    by_cases hc : k.collection = n
    · simp [hc, hn]
    · simp [hc]

theorem removeIds_inv {q : SqliteStore} (hq : q.Inv) (name : String) (ids : List String) :
    ({ q with
        keys := q.keys.filter fun k => !(k.collection == name && ids.contains k.documentId)
        rows := q.rows.filter fun r => !(r.collection == name && ids.contains r.id) } :
        SqliteStore).Inv := by
  have hdocs := docsOf_filter_rows { q with
    keys := q.keys.filter fun k => !(k.collection == name && ids.contains k.documentId)
    rows := q.rows.filter fun r => !(r.collection == name && ids.contains r.id) } rfl
  have hkeys := keysOf_filter_keys { q with
    keys := q.keys.filter fun k => !(k.collection == name && ids.contains k.documentId)
    rows := q.rows.filter fun r => !(r.collection == name && ids.contains r.id) } rfl
  constructor
  · intro n
    rw [hdocs]
    split
    · exact (hq.nodup n).sublist (List.filter_sublist.map Prod.fst)
    · exact hq.nodup n
  · intro r hr
    exact hq.docId_eq r (List.mem_filter.1 hr).1
  · intro n
    rw [hkeys]
    split
    · exact (hq.keys_nodup n).sublist (List.filter_sublist.map Prod.fst)
    · exact hq.keys_nodup n
  · intro n k o
    rw [hkeys, hdocs, spec_congr (q := q) (by simp)]
    split
    · simp only [List.mem_filter, hq.mem_keys]
      constructor
      · rintro ⟨⟨e, hm, hk⟩, ho⟩
        exact ⟨e, ⟨hm, ho⟩, hk⟩
      · rintro ⟨e, ⟨hm, ho⟩, hk⟩
        exact ⟨⟨e, hm, hk⟩, ho⟩
    · exact hq.mem_keys n k o
  · intro r hr
    exact hq.stored r (List.mem_filter.1 hr).1

theorem delete_inv {q : SqliteStore} (hq : q.Inv) (name : String) (f : Filter) (limit : Nat) :
    (q.delete name f limit).2.Inv := by
  unfold delete
  split
  · exact hq
  · exact removeIds_inv hq name _

theorem load_empty (q : SqliteStore) (name : String) :
    q.load name {} 0 = (q.docsOf name).map Prod.snd := by
  simp [load, docsOf, Filter.selects, List.map_map, Function.comp_def]

def KeysExact (q : SqliteStore) (spec : CollectionSpec) (docs : List (String × Fields)) :
    Prop :=
  ((q.keysOf spec.name).map Prod.fst).Nodup ∧
    ∀ k o, (k, o) ∈ q.keysOf spec.name ↔ ∃ d, (o, d) ∈ docs ∧ Holds spec.uniqueKeys d k

theorem writeKeys_fold {spec : CollectionSpec} (E : List (String × Fields)) :
    ∀ (P : List (String × Fields)) (q q' : SqliteStore),
      (E.map Prod.snd).foldlM (fun s d => s.writeKeys spec d) q = .ok q' →
      (∀ i d, (i, d) ∈ P ++ E → docId d = i) → ((P ++ E).map Prod.fst).Nodup →
      q.KeysExact spec P →
      q'.KeysExact spec (P ++ E) ∧ q'.rows = q.rows ∧ q'.specs = q.specs ∧
        ∀ n, n ≠ spec.name → q'.keysOf n = q.keysOf n := by
  induction E with
  | nil =>
    intro P q q' h _ _ hex
    cases h
    simpa using hex
  | cons e rest ih =>
    intro P q q' h hid hnd hex
    obtain ⟨i, d⟩ := e
    simp only [List.map_cons, List.foldlM_cons] at h
    obtain ⟨q₁, h₁, hrest⟩ := Except.bind_eq_ok h
    have hdi : docId d = i := hid i d (by simp)
    -- no key row belongs to `d` yet: its identity is not among those before it
    have hfresh : ∀ k, (k, docId d) ∉ q.keysOf spec.name := by
      intro k hm
      obtain ⟨d', hm', -⟩ := (hex.2 k _).1 hm
      rw [hdi] at hm'
      have := List.nodup_append.1 (by simpa only [List.map_append] using hnd)
      exact this.2.2 i (List.mem_map.2 ⟨_, hm', rfl⟩) i (by simp) rfl
    obtain ⟨hrows, hspecs, -⟩ := writeKeys_frame h₁
    have hex₁ : q₁.KeysExact spec (P ++ [(i, d)]) := by
      refine ⟨nodup_keysOf_writeKeys h₁ hex.1, fun k o => ?_⟩
      rw [mem_keysOf_writeKeys h₁, ← hdi]
      refine owners_append_iff (hex.2 k o) fun d' hm hk ho => ?_
      subst ho
      exact hfresh k ((hex.2 k _).2 ⟨d', hm, hk⟩)
    have := ih (P ++ [(i, d)]) q₁ q' hrest (by simpa using hid) (by simpa using hnd) hex₁
    refine ⟨by simpa using this.1, this.2.1.trans hrows, this.2.2.1.trans hspecs, ?_⟩
    intro n hn
    rw [this.2.2.2 n hn, keysOf_writeKeys h₁, if_neg hn]

theorem spec_ensure (q : SqliteStore) (spec : CollectionSpec) (n : String) :
    ({ q with specs := q.specs.filter (·.name != spec.name) ++ [spec] } : SqliteStore).spec n =
      if n = spec.name then spec else q.spec n := by
  simp only [SqliteStore.spec]
  split
  · rename_i hn
    subst hn
    rw [List.find?_append]
    have : (q.specs.filter (·.name != spec.name)).find? (·.name == spec.name) = none := by
      rw [List.find?_eq_none]
      intro sp hsp
      simp only [List.mem_filter, bne_iff_ne, ne_eq] at hsp
      simpa using hsp.2
    simp [this]
  · rename_i hn
    rw [List.find?_append]
    have : (q.specs.filter (·.name != spec.name)).find? (·.name == n) =
        q.specs.find? (·.name == n) := by
      rw [List.find?_filter]
      congr 1
      funext sp
      by_cases h : sp.name = n
      · simp [h, hn]
      · simp [h]
    rw [this]
    cases q.specs.find? (·.name == n) with
    | some sp => rfl
    | none => simp [Ne.symm hn]

theorem keysOf_clearKeys (q : SqliteStore) (name n : String) :
    ({ q with keys := q.keys.filter (·.collection != name) } : SqliteStore).keysOf n =
      if n = name then [] else q.keysOf n := by
  simp only [keysOf, List.filter_filter]
  split
  · rename_i hn
    subst hn
    simp
  · rename_i hn
    congr 1
    apply List.filter_congr
    intro k _
    by_cases hc : k.collection = n
    · simp [hc, hn]
    · simp [hc]

theorem ensure_inv {q q' : SqliteStore} (hq : q.Inv) {spec : CollectionSpec}
    (h : q.ensure spec = .ok q') : q'.Inv := by
  unfold ensure at h
  split at h
  · cases h
  · dsimp only at h
    split at h
    · cases h
    · rename_i q₁ hfold
      cases h
      let cleared : SqliteStore :=
        { q with keys := q.keys.filter (·.collection != spec.name) }
      have hcl : ∀ n, cleared.keysOf n = if n = spec.name then [] else q.keysOf n :=
        keysOf_clearKeys q spec.name
      rw [load_empty] at hfold
      have hid : ∀ i d, (i, d) ∈ [] ++ q.docsOf spec.name → docId d = i := by
        intro i d hm
        simp only [List.nil_append, docsOf, List.mem_map, List.mem_filter] at hm
        obtain ⟨r, ⟨hr, -⟩, he⟩ := hm
        simp only [Prod.mk.injEq] at he
        rw [← he.1, ← he.2]
        exact hq.docId_eq r hr
      obtain ⟨hex, hrows, hspecs, hother⟩ := writeKeys_fold (q.docsOf spec.name) []
        cleared q₁ hfold hid (by simpa using hq.nodup spec.name)
        ⟨by simp [hcl], by simp [hcl]⟩
      have hdocs : ∀ n, q₁.docsOf n = q.docsOf n := docsOf_of_rows hrows
      constructor
      · intro n
        show ((q₁.docsOf n).map Prod.fst).Nodup
        rw [hdocs]
        exact hq.nodup n
      · intro r hr
        exact hq.docId_eq r (by simpa [hrows, cleared] using hr)
      · intro n
        show ((q₁.keysOf n).map Prod.fst).Nodup
        by_cases hn : n = spec.name
        · subst hn
          exact hex.1
        · rw [hother n hn, hcl, if_neg hn]
          exact hq.keys_nodup n
      · intro n k o
        show (k, o) ∈ q₁.keysOf n ↔ ∃ d, (o, d) ∈ q₁.docsOf n ∧ Holds _ d k
        rw [hdocs, spec_ensure, spec_congr (q := q) (by simp [hspecs, cleared])]
        by_cases hn : n = spec.name
        · subst hn
          rw [if_pos rfl]
          simpa using hex.2 k o
        · rw [if_neg hn, hother n hn, hcl, if_neg hn]
          exact hq.mem_keys n k o
      · intro r hr
        exact hq.stored r (by simpa [hrows, cleared] using hr)

theorem insert_specs {q q' : SqliteStore} {h : Host} {spec : CollectionSpec} {doc d : Fields}
    (hi : (q.insert h spec doc).1 = .ok (d, q')) : q'.specs = q.specs := by
  obtain ⟨-, -, q₁, hw, rfl⟩ := insert_eq_ok hi
  exact (writeKeys_frame hw).2.1

theorem create_inv {q : SqliteStore} (hq : q.Inv) (h : Host) (name : String) (doc : Fields) :
    (q.create h name doc).2.1.Inv := by
  unfold create
  split
  · exact hq
  · split
    · rename_i d q' h' hi
      exact insert_inv hq (by rw [spec_name]) (congrArg Prod.fst hi)
    · exact hq

def insertStep (spec : CollectionSpec) (acc : Except Fault (SqliteStore × List Fields) × Host)
    (doc : Fields) : Except Fault (SqliteStore × List Fields) × Host :=
  match acc with
  | (.error e, h) => (.error e, h)
  | (.ok (s, done), h) =>
    match s.insert h spec doc with
    | (.ok (d, s), h) => (.ok (s, done ++ [d]), h)
    | (.error e, h) => (.error e, h)

theorem createMany_eq (q : SqliteStore) (h : Host) (name : String) (docs : List Fields) :
    q.createMany h name docs =
      if q.closed then (.error closedFault, q, h) else
      match docs.foldl (insertStep (q.spec name)) (.ok (q, []), h) with
      | (.ok (s', done), h) => (.ok done, s', h)
      | (.error e, h) => (.error e, q, h) := rfl

theorem insertStep_fold {spec : CollectionSpec} {Q : SqliteStore → Prop}
    (hins : ∀ {q₀ q₁ : SqliteStore} {h : Host} {doc d : Fields}, Q q₀ →
      (q₀.insert h spec doc).1 = .ok (d, q₁) → Q q₁) (docs : List Fields) :
    ∀ acc : Except Fault (SqliteStore × List Fields) × Host,
      (∀ q' done, acc.1 = .ok (q', done) → Q q') →
      ∀ q' done, (docs.foldl (insertStep spec) acc).1 = .ok (q', done) → Q q' := by
  induction docs with
  | nil => exact fun acc hacc => hacc
  | cons doc rest ih =>
    intro acc hacc
    apply ih
    intro q' done hstep
    obtain ⟨r, h⟩ := acc
    cases r with
    | error e => simp [insertStep] at hstep
    | ok p =>
      obtain ⟨q₀, done₀⟩ := p
      simp only [insertStep] at hstep
      split at hstep
      · rename_i d q₁ h₁ hi
        simp only [Except.ok.injEq, Prod.mk.injEq] at hstep
        obtain ⟨rfl, -⟩ := hstep
        exact hins (hacc q₀ done₀ rfl) (congrArg Prod.fst hi)
      · cases hstep

theorem createMany_inv {q : SqliteStore} (hq : q.Inv) (h : Host) (name : String)
    (docs : List Fields) : (q.createMany h name docs).2.1.Inv := by
  rw [createMany_eq]
  split
  · exact hq
  · have hspec : q.spec (q.spec name).name = q.spec name := by rw [spec_name]
    have hfold := insertStep_fold (Q := fun q' => q'.Inv ∧ q'.specs = q.specs)
      (fun ⟨hinv, hspecs⟩ hi =>
        ⟨insert_inv hinv (by rw [spec_congr hspecs, hspec]) hi, (insert_specs hi).trans hspecs⟩)
      docs (.ok (q, []), h) (by
        intro q' done hq'
        simp only [Except.ok.injEq, Prod.mk.injEq] at hq'
        obtain ⟨rfl, -⟩ := hq'
        exact ⟨hq, rfl⟩)
    generalize docs.foldl (insertStep (q.spec name)) (.ok (q, []), h) = res at hfold ⊢
    obtain ⟨r, h'⟩ := res
    cases r with
    | ok p => exact (hfold p.1 p.2 rfl).1
    | error e => exact hq

theorem inv_empty : ({} : SqliteStore).Inv where
  nodup := by simp [docsOf]
  docId_eq := by simp
  keys_nodup := by simp [keysOf]
  mem_keys := by simp [keysOf, docsOf]
  stored := by simp

theorem Inv.unique {q : SqliteStore} (hq : q.Inv) {name i₁ i₂ : String} {d₁ d₂ : Fields}
    {k : String × String} (h₁ : (i₁, d₁) ∈ q.docsOf name) (h₂ : (i₂, d₂) ∈ q.docsOf name)
    (hk₁ : Holds (q.spec name).uniqueKeys d₁ k) (hk₂ : Holds (q.spec name).uniqueKeys d₂ k) :
    i₁ = i₂ := by
  have m₁ := (hq.mem_keys name k i₁).2 ⟨d₁, h₁, hk₁⟩
  have m₂ := (hq.mem_keys name k i₂).2 ⟨d₂, h₂, hk₂⟩
  simpa using List.inj_on_of_nodup_map (hq.keys_nodup name) m₁ m₂ rfl

end SqliteStore

namespace StoreCall

theorem onSqlite_inv (c : StoreCall) {q : SqliteStore} (hq : q.Inv) (h : Host) :
    (c.onSqlite h q).Inv := by
  cases c with
  | ensureCollection spec =>
    simp only [onSqlite]
    split
    · rename_i q' he
      exact SqliteStore.ensure_inv hq he
    · exact hq
  | create name doc => exact SqliteStore.create_inv hq h name doc
  | createMany name docs => exact SqliteStore.createMany_inv hq h name docs
  | find | findOne | aggregate => exact hq
  | findOneAndUpdate name f change => exact SqliteStore.findOneAndUpdate_inv hq h name f change
  | findOneAndReplace name f doc => exact SqliteStore.findOneAndReplace_inv hq h name f doc
  | updateOne name f change => exact SqliteStore.update_inv hq h name f change 1
  | updateMany name f change => exact SqliteStore.update_inv hq h name f change 0
  | deleteOne name f => exact SqliteStore.delete_inv hq name f 1
  | deleteMany name f => exact SqliteStore.delete_inv hq name f 0

end StoreCall

namespace Storage

/-- The representation invariant of a storage running on SQL tables. -/
def SqlInv (s : Storage) : Prop :=
  ∀ q, s.backend = .sqlite q → q.Inv

theorem sqlInv_after (c : StoreCall) {s : Storage} (hs : s.SqlInv) : (c.after s).SqlInv := by
  intro q' hq'
  cases hb : s.backend with
  | memory m =>
    rcases c.after_memory hb with h | h <;> rw [h] at hq' <;> cases hq'
  | sqlite q =>
    rcases c.after_sqlite_eq hb with h | h <;> rw [Backend.sqlite.inj (hq'.symm.trans h)]
    · exact hs q hb
    · exact c.onSqlite_inv (hs q hb) s.host

theorem sqlInv_of_reaches {allowed : StoreCall → Storage → Prop} {s t : Storage}
    (hs : s.SqlInv) (h : StoreCall.Reaches allowed s t) : t.SqlInv := by
  induction h with
  | refl => exact hs
  | call c _ _ ih => exact sqlInv_after c ih
  | env _ _ _ _ ih => exact fun q hq => ih q hq

theorem sqlInv_new (h : Host) : ({ host := h, backend := .sqlite {} } : Storage).SqlInv := by
  intro q hq
  cases hq
  exact SqliteStore.inv_empty

end Storage

end CrudRoutes
