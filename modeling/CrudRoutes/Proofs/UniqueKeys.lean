import Mathlib
import CrudRoutes.Proofs.Store.SqliteIndex
import CrudRoutes.Persist

/-!
Unique keys as both stores enforce them. A collection's documents and key patterns are read the
same way on either backend. Two documents clash when they hold one key: a key name with the JSON
text of the normalised values, not values that compare equal as filters compare them. The stores
keep clashing documents apart along every run without a failing preparation, and a write is
refused as a duplicate by the first pattern under which the new document's key is taken.
-/

namespace CrudRoutes

open MemCollection

def FirstTaken (taken : String × String → Prop) (d : Fields) (ps : List (List String))
    (P : List String) (v : String) (fields : Fields) : Prop :=
  ∃ pre post, ps = pre ++ P :: post ∧ uniqueKey d P = some (v, fields) ∧
    taken (keyName P, v) ∧ ∀ k, Holds pre d k → ¬ taken k

namespace MemCollection

theorem owner?_eq_some_iff_docs {c : MemCollection} (hc : c.Inv) {k : String × String}
    {o : String} :
    c.owner? k.1 k.2 = some o ↔ ∃ e, (o, e) ∈ c.docs ∧ Holds c.spec.uniqueKeys e k :=
  (owner?_eq_some_iff hc.keys_nodup).trans (hc.mem_keys k o)

def TakenBy (c : MemCollection) (self : String) (k : String × String) : Prop :=
  ∃ o e, o ≠ self ∧ (o, e) ∈ c.docs ∧ Holds c.spec.uniqueKeys e k

theorem conflictStep_eq_none_iff {c : MemCollection} (hc : c.Inv) {d : Fields} {self : String}
    {P : List String} :
    (match uniqueKey d P with
      | none => none
      | some (value, fields) =>
        match c.owner? (keyName P) value with
        | some o => if o != self then
            some ({ collection := c.spec.name, keyPattern := P, keyValue := fields } : DuplicateKey)
          else none
        | none => none) = none ↔ ∀ k, keyOf d P = some k → ¬ c.TakenBy self k := by
  cases hu : uniqueKey d P with
  | none => simp [keyOf, hu]
  | some r =>
    obtain ⟨v, fields⟩ := r
    simp only [keyOf, hu, Option.map_some, Option.some.injEq, forall_eq']
    cases ho : c.owner? (keyName P) v with
    | none =>
      simp only [TakenBy, true_iff, not_exists, not_and]
      intro o e _ hm hk
      have := (owner?_eq_some_iff_docs hc (k := (keyName P, v))).2 ⟨e, hm, hk⟩
      simp [ho] at this
    | some o =>
      have hm := (owner?_eq_some_iff_docs hc (k := (keyName P, v))).1 ho
      simp only [bne_iff_ne, ne_eq, ite_eq_right_iff, reduceCtorEq, imp_false, not_not, TakenBy,
        not_exists, not_and]
      constructor
      · rintro rfl o' e hne hm' hk
        obtain ⟨e₀, hm₀, hk₀⟩ := hm
        exact hne ((hc.unique hm' hm₀ hk hk₀).1)
      · intro h
        by_contra hne
        obtain ⟨e₀, hm₀, hk₀⟩ := hm
        exact h o e₀ hne hm₀ hk₀

theorem conflict?_eq_some_iff {c : MemCollection} (hc : c.Inv) {d : Fields} {self : String}
    {e : DuplicateKey} :
    c.conflict? d self = some e ↔ ∃ P v fields,
      FirstTaken (c.TakenBy self) d c.spec.uniqueKeys P v fields ∧
        e = { collection := c.spec.name, keyPattern := P, keyValue := fields } := by
  unfold conflict?
  rw [List.findSome?_eq_some_iff]
  constructor
  · rintro ⟨pre, P, post, hps, hP, hpre⟩
    cases hu : uniqueKey d P with
    | none => simp [hu] at hP
    | some r =>
      obtain ⟨v, fields⟩ := r
      simp only [hu] at hP
      cases ho : c.owner? (keyName P) v with
      | none => simp [ho] at hP
      | some o =>
        simp only [ho, bne_iff_ne, ne_eq, ite_not, Option.ite_none_left_eq_some,
          Option.some.injEq] at hP
        obtain ⟨hne, rfl⟩ := hP
        obtain ⟨e₀, hm₀, hk₀⟩ := (owner?_eq_some_iff_docs hc (k := (keyName P, v))).1 ho
        refine ⟨P, v, fields, ⟨pre, post, hps, hu, ⟨o, e₀, hne, hm₀, hk₀⟩, ?_⟩, rfl⟩
        rintro k ⟨P', hP', hk⟩
        exact (conflictStep_eq_none_iff hc).1 (hpre P' hP') k hk
  · rintro ⟨P, v, fields, ⟨pre, post, hps, hu, ⟨o, e₀, hne, hm₀, hk₀⟩, hpre⟩, rfl⟩
    refine ⟨pre, P, post, hps, ?_, ?_⟩
    · have ho := (owner?_eq_some_iff_docs hc (k := (keyName P, v))).2 ⟨e₀, hm₀, hk₀⟩
      simp only [hu, ho]
      simp [hne]
    · intro P' hP'
      exact (conflictStep_eq_none_iff hc).2 fun k hk => hpre k ⟨P', hP', hk⟩

end MemCollection

def FirstClaimFails (held : String × String → Prop) (d : Fields) (ps : List (List String))
    (P : List String) (v : String) (fields : Fields) : Prop :=
  ∃ pre post, ps = pre ++ P :: post ∧ uniqueKey d P = some (v, fields) ∧
    (pre.filterMap (keyOf d)).Nodup ∧ (∀ k, Holds pre d k → ¬ held k) ∧
    (held (keyName P, v) ∨ Holds pre d (keyName P, v))

namespace SqliteStore

theorem claim_eq_error {spec : CollectionSpec} {id : String} {d : Fields} {q : SqliteStore}
    {P : List String} {f : Fault} (h : claim spec id d q P = .error f) :
    ∃ v fields o, uniqueKey d P = some (v, fields) ∧
      ((keyName P, v), o) ∈ q.keysOf spec.name ∧
      f = if o != id then .duplicate { collection := spec.name, keyPattern := P, keyValue := fields }
        else keyTableFault := by
  unfold claim at h
  cases hu : uniqueKey d P with
  | none => simp [hu] at h
  | some r =>
    obtain ⟨v, fields⟩ := r
    simp only [hu] at h
    cases hf : q.keys.find? (fun k =>
        k.collection == spec.name && k.keyName == keyName P && k.keyValue == v) with
    | none => simp [hf] at h
    | some k =>
      simp only [hf] at h
      have hk := List.find?_some hf
      simp only [Bool.and_eq_true, beq_iff_eq] at hk
      obtain ⟨⟨hc, hn⟩, hv⟩ := hk
      refine ⟨v, fields, k.documentId, rfl, ?_, ?_⟩
      · simp only [keysOf, List.mem_map, List.mem_filter]
        exact ⟨k, ⟨List.mem_of_find?_eq_some hf, by simp [hc]⟩, by simp [hn, hv]⟩
      · split at h <;> cases h <;> simp_all

theorem claims_eq_error {spec : CollectionSpec} {id : String} {d : Fields} :
    ∀ {ps : List (List String)} {q : SqliteStore} {f : Fault},
      ps.foldlM (claim spec id d) q = .error f →
      ∃ pre P post q₁, ps = pre ++ P :: post ∧ pre.foldlM (claim spec id d) q = .ok q₁ ∧
        claim spec id d q₁ P = .error f
  | [], _, _, h => by cases h
  | P :: rest, q, f, h => by
    simp only [List.foldlM_cons] at h
    cases h₁ : claim spec id d q P with
    | error e =>
      rw [h₁] at h
      cases h
      exact ⟨[], P, rest, q, rfl, rfl, h₁⟩
    | ok q₁ =>
      rw [h₁] at h
      obtain ⟨pre, P', post, q₂, rfl, hpre, hP'⟩ := claims_eq_error h
      refine ⟨P :: pre, P', post, q₂, rfl, ?_, hP'⟩
      simp only [List.foldlM_cons, h₁]
      exact hpre

theorem claims_result {spec : CollectionSpec} {id : String} {d : Fields} {q : SqliteStore}
    {held : String × String → Prop} (hheld : ∀ k, held k ↔ ∃ o, (k, o) ∈ q.keysOf spec.name)
    (hown : ∀ k o, (k, o) ∈ q.keysOf spec.name → o ≠ id) (ps : List (List String)) :
    let r := ps.foldlM (claim spec id d) q
    ((∃ q', r = .ok q') ∧ (∀ k, Holds ps d k → ¬ held k) ∧ (ps.filterMap (keyOf d)).Nodup) ∨
      (∃ P v fields, FirstClaimFails held d ps P v fields ∧ held (keyName P, v) ∧
        r = .error (.duplicate { collection := spec.name, keyPattern := P, keyValue := fields })) ∨
      (∃ P v fields, FirstClaimFails held d ps P v fields ∧ ¬ held (keyName P, v) ∧
        r = .error keyTableFault) := by
  intro r
  cases hr : r with
  | ok q' =>
    obtain ⟨-, hfree, hnd⟩ := claims_eq_ok hr
    refine Or.inl ⟨⟨q', rfl⟩, fun k hk hh => ?_, hnd⟩
    obtain ⟨o, hm⟩ := (hheld k).1 hh
    exact hfree k o hk hm
  | error f =>
    obtain ⟨pre, P, post, q₁, hps, hpre, hP⟩ := claims_eq_error hr
    obtain ⟨rfl, hfree, hnd⟩ := claims_eq_ok hpre
    obtain ⟨v, fields, o, hu, hm, rfl⟩ := claim_eq_error hP
    have hpre_free : ∀ k, Holds pre d k → ¬ held k := fun k hk hh => by
      obtain ⟨o, hm⟩ := (hheld k).1 hh
      exact hfree k o hk hm
    rw [keysOf_append, filter_claimed, if_pos rfl, map_claimed, List.mem_append] at hm
    rcases hm with hm | hm
    -- the key is another document's
    · have hh := (hheld _).2 ⟨o, hm⟩
      refine Or.inr (Or.inl ⟨P, v, fields, ⟨pre, post, hps, hu, hnd, hpre_free, Or.inl hh⟩, hh, ?_⟩)
      simp [hown _ _ hm]
    -- the key was claimed under an earlier pattern
    · obtain ⟨k, hk, he⟩ := List.mem_map.1 hm
      simp only [Prod.mk.injEq] at he
      obtain ⟨rfl, rfl⟩ := he
      have hh : Holds pre d (keyName P, v) := mem_filterMap_keyOf.1 hk
      refine Or.inr (Or.inr ⟨P, v, fields, ⟨pre, post, hps, hu, hnd, hpre_free, Or.inr hh⟩,
        hpre_free _ hh, ?_⟩)
      simp

def dropOwner (q : SqliteStore) (name id : String) : SqliteStore :=
  { q with keys := q.keys.filter fun k => !(k.collection == name && k.documentId == id) }

theorem writeKeys_eq_claims (q : SqliteStore) (spec : CollectionSpec) (d : Fields) :
    q.writeKeys spec d =
      spec.uniqueKeys.foldlM (claim spec (docId d) d) (q.dropOwner spec.name (docId d)) :=
  rfl

theorem keysOf_dropOwner (q : SqliteStore) (name id : String) :
    (q.dropOwner name id).keysOf name = (q.keysOf name).filter (·.2 != id) := by
  simp only [dropOwner, keysOf, List.filter_filter, List.filter_map]
  congr 1
  apply List.filter_congr
  intro k _
  by_cases h : k.documentId = id <;> cases k.collection == name <;> simp [h, bne]

end SqliteStore

namespace Storage

/-- The documents of a collection by identity, in insertion order. -/
def stored (s : Storage) (name : String) : List (String × Fields) :=
  match s.backend with
  | .memory m => (m.get name).docs
  | .sqlite q => q.docsOf name

/-- The key patterns a collection is served under. -/
def patterns (s : Storage) (name : String) : List (List String) :=
  match s.backend with
  | .memory m => (m.get name).spec.uniqueKeys
  | .sqlite q => (q.spec name).uniqueKeys

def Held (s : Storage) (name : String) (k : String × String) : Prop :=
  ∃ i e, (i, e) ∈ s.stored name ∧ Holds (s.patterns name) e k

def idDuplicate (name : String) (d : Fields) : DuplicateKey :=
  { collection := name, keyPattern := [fieldId], keyValue := [(fieldId, .str (docId d))] }

theorem keys_unique {s : Storage} (hm : s.MemInv) (hq : s.SqlInv) {name i₁ i₂ : String}
    {d₁ d₂ : Fields} {k : String × String} (h₁ : (i₁, d₁) ∈ s.stored name)
    (h₂ : (i₂, d₂) ∈ s.stored name) (hk₁ : Holds (s.patterns name) d₁ k)
    (hk₂ : Holds (s.patterns name) d₂ k) : i₁ = i₂ := by
  unfold stored at h₁ h₂
  unfold patterns at hk₁ hk₂
  cases hb : s.backend with
  | memory m =>
    simp only [hb] at h₁ h₂ hk₁ hk₂
    have hc := (hm m hb).get_of_closed writeClosed_inv name
    exact (hc.unique h₁ h₂ hk₁ hk₂).1
  | sqlite q =>
    simp only [hb] at h₁ h₂ hk₁ hk₂
    exact (hq q hb).unique h₁ h₂ hk₁ hk₂

theorem invs_of_reaches {h : Host} {b : Backend} (hb : b = .memory {} ∨ b = .sqlite {})
    {t : Storage}
    (hr : StoreCall.Reaches (fun c t => ¬ c.FailsPreparation t) { host := h, backend := b } t) :
    t.MemInv ∧ t.SqlInv := by
  rcases hb with rfl | rfl
  · exact ⟨memInv_of_reaches (memInv_new h) hr,
      sqlInv_of_reaches (fun q hq => by cases hq) hr⟩
  · exact ⟨memInv_of_reaches (fun m hm => by cases hm) hr, sqlInv_of_reaches (sqlInv_new h) hr⟩

theorem memory_create_eq {s : Storage} {m : MemoryStore} (hb : s.backend = .memory m)
    (hw : s.failWrites = none) (name : String) (doc : Fields) :
    ((Storage.create name doc).run s).1 =
      match (m.get name).insert (MemoryStore.prepare s.host doc).1 with
      | .ok _ => .ok (MemoryStore.prepare s.host doc).1
      | .error e => .error e := by
  rw [create_run, hw]
  simp only [hb, MemoryStore.create]
  cases (m.get name).insert (MemoryStore.prepare s.host doc).1 <;> rfl

theorem sqlite_create_eq {s : Storage} {q : SqliteStore} (hb : s.backend = .sqlite q)
    (hw : s.failWrites = none) (hc : q.closed = false) (name : String) (doc : Fields) :
    ((Storage.create name doc).run s).1 =
      match SqliteStore.encode (MemoryStore.prepare s.host doc).1 with
      | .error e => .error e
      | .ok d =>
        if q.rows.any fun r => r.collection == name && r.id == docId d then
          .error (.duplicate (idDuplicate name d))
        else
          match q.writeKeys (q.spec name) d with
          | .error e => .error e
          | .ok _ => .ok d := by
  rw [create_run, hw]
  simp only [hb, SqliteStore.create, hc, Bool.false_eq_true, if_false, SqliteStore.insert_eq,
    SqliteStore.spec_name]
  cases SqliteStore.encode (MemoryStore.prepare s.host doc).1 with
  | error e => rfl
  | ok d =>
    by_cases hany : (q.rows.any fun r => r.collection == name && r.id == docId d) = true
    · simp only [hany, if_true]
      rfl
    · simp only [hany]
      cases q.writeKeys (q.spec name) d <;> rfl

/-- The answers of a create on the memory store, each with the state it is given in: the
prepared document is stored when neither its identity nor any of its keys is taken; its identity
is reported as a duplicate when that is stored; otherwise the first pattern under which its key
is taken is reported. -/
def MemoryCreateOutcome (s : Storage) (name : String) (doc : Fields) : Prop :=
  let d := (MemoryStore.prepare s.host doc).1
  let r := ((Storage.create name doc).run s).1
  (r = .ok d ∧ (∀ e, (docId d, e) ∉ s.stored name) ∧
      ∀ k, Holds (s.patterns name) d k → ¬ s.Held name k) ∨
    ((∃ e, (docId d, e) ∈ s.stored name) ∧ r = .error (.duplicate (idDuplicate name d))) ∨
    ((∀ e, (docId d, e) ∉ s.stored name) ∧ ∃ P v fields,
      FirstTaken (s.Held name) d (s.patterns name) P v fields ∧
        r = .error (.duplicate { collection := name, keyPattern := P, keyValue := fields }))

/-- The answers of a create on the SQLite store: a prepared document JSON cannot write fails
with the first value it cannot write; otherwise the document read back is stored when neither its
identity nor any of its keys is taken and it holds no key twice; its identity is reported as a
duplicate when that is stored; otherwise the claims stop at the first pattern whose key cannot be
claimed, reported as a duplicate when another document holds it and failing on the key table's
own constraint when the document claimed it under an earlier pattern. -/
def SqliteCreateOutcome (s : Storage) (name : String) (doc : Fields) : Prop :=
  let p := (MemoryStore.prepare s.host doc).1
  let d := storedDoc p
  let r := ((Storage.create name doc).run s).1
  (∃ u, Json.unwritableFields? p = some u ∧
      r = .error (.wrapped "encode document" (.plain u.message))) ∨
  Json.unwritableFields? p = none ∧
  ((r = .ok d ∧ (∀ e, (docId d, e) ∉ s.stored name) ∧
      (∀ k, Holds (s.patterns name) d k → ¬ s.Held name k) ∧
      ((s.patterns name).filterMap (keyOf d)).Nodup) ∨
    ((∃ e, (docId d, e) ∈ s.stored name) ∧ r = .error (.duplicate (idDuplicate name d))) ∨
    ((∀ e, (docId d, e) ∉ s.stored name) ∧ ∃ P v fields,
      FirstClaimFails (s.Held name) d (s.patterns name) P v fields ∧ s.Held name (keyName P, v) ∧
        r = .error (.duplicate { collection := name, keyPattern := P, keyValue := fields })) ∨
    ((∀ e, (docId d, e) ∉ s.stored name) ∧ ∃ P v fields,
      FirstClaimFails (s.Held name) d (s.patterns name) P v fields ∧
        ¬ s.Held name (keyName P, v) ∧ r = .error SqliteStore.keyTableFault))

theorem memory_create_exact {s : Storage} {m : MemoryStore} (hb : s.backend = .memory m)
    (hs : s.MemInv) (hw : s.failWrites = none) (name : String) (doc : Fields) :
    s.MemoryCreateOutcome name doc := by
  unfold MemoryCreateOutcome
  intro d r
  have hc : (m.get name).Inv := (hs m hb).get_of_closed writeClosed_inv name
  have hstored : s.stored name = (m.get name).docs := by simp [stored, hb]
  have hpat : s.patterns name = (m.get name).spec.uniqueKeys := by simp [patterns, hb]
  have htaken : (m.get name).TakenBy "" = s.Held name := by
    funext k
    simp only [TakenBy, Held, hstored, hpat, eq_iff_iff]
    constructor
    · rintro ⟨o, e, -, hm, hk⟩
      exact ⟨o, e, hm, hk⟩
    · rintro ⟨o, e, hm, hk⟩
      exact ⟨o, e, hc.id_ne o e hm, hm, hk⟩
  have hr : r = match (m.get name).insert d with
      | .ok _ => .ok d
      | .error e => .error e := memory_create_eq hb hw name doc
  rw [hstored, hpat, ← htaken]
  unfold MemCollection.insert at hr
  by_cases hid : ∃ e, (docId d, e) ∈ (m.get name).docs
  · have hsome : ((m.get name).doc? (docId d)).isSome := by
      cases hd : (m.get name).doc? (docId d) with
      | none =>
        obtain ⟨e, he⟩ := hid
        exact absurd he (doc?_eq_none_iff.1 hd e)
      | some _ => rfl
    simp only [hsome, if_true] at hr
    refine Or.inr (Or.inl ⟨hid, ?_⟩)
    rw [hr, MemoryStore.get_spec_name]
    rfl
  · have hnone : ((m.get name).doc? (docId d)).isSome = false := by
      cases hd : (m.get name).doc? (docId d) with
      | none => rfl
      | some e => exact absurd ⟨e, mem_of_doc?_eq_some hd⟩ hid
    push Not at hid
    simp only [hnone, Bool.false_eq_true, if_false] at hr
    cases hcf : (m.get name).conflict? d "" with
    | none =>
      simp only [hcf] at hr
      refine Or.inl ⟨hr, hid, ?_⟩
      intro k hk ht
      obtain ⟨o, e, hne, hm, hk'⟩ := ht
      have := (conflict?_eq_none_iff hc.keys_nodup).1 hcf k o hk ((hc.mem_keys k o).2 ⟨e, hm, hk'⟩)
      exact hne this
    | some e =>
      simp only [hcf] at hr
      obtain ⟨P, v, fields, hfirst, rfl⟩ := (conflict?_eq_some_iff hc).1 hcf
      refine Or.inr (Or.inr ⟨hid, P, v, fields, hfirst, ?_⟩)
      rw [hr, MemoryStore.get_spec_name]

theorem sqlite_create_exact {s : Storage} {q : SqliteStore} (hb : s.backend = .sqlite q)
    (hs : s.SqlInv) (hw : s.failWrites = none) (hc : q.closed = false) (name : String)
    (doc : Fields) : s.SqliteCreateOutcome name doc := by
  unfold SqliteCreateOutcome
  intro p d r
  have hq := hs q hb
  have hstored : s.stored name = q.docsOf name := by simp [stored, hb]
  have hpat : s.patterns name = (q.spec name).uniqueKeys := by simp [patterns, hb]
  have hr : r = _ := sqlite_create_eq hb hw hc name doc
  -- a document JSON cannot write fails before its identity and keys are looked at
  cases hu : Json.unwritableFields? p with
  | some u =>
    refine Or.inl ⟨u, rfl, ?_⟩
    rw [hr]
    simp [SqliteStore.encode, p, hu]
  | none =>
  refine Or.inr ⟨rfl, ?_⟩
  rw [SqliteStore.encode_of_writable hu] at hr
  dsimp only at hr
  have hany : (q.rows.any fun r => r.collection == name && r.id == docId d) = true ↔
      ∃ e, (docId d, e) ∈ q.docsOf name := by
    simp only [List.any_eq_true, Bool.and_eq_true, beq_iff_eq, SqliteStore.docsOf, List.mem_map,
      List.mem_filter, Prod.mk.injEq]
    constructor
    · rintro ⟨x, hx, hc, hi⟩
      exact ⟨x.data, x, ⟨hx, by simp [hc]⟩, hi, rfl⟩
    · rintro ⟨e, x, ⟨hx, hc⟩, hi, -⟩
      exact ⟨x, hx, by simpa using hc, hi⟩
  rw [hstored, hpat]
  by_cases hid : ∃ e, (docId d, e) ∈ q.docsOf name
  · rw [if_pos (hany.2 hid)] at hr
    exact Or.inr (Or.inl ⟨hid, hr⟩)
  rw [if_neg (mt hany.1 hid), SqliteStore.writeKeys_eq_claims] at hr
  push Not at hid
  -- a fresh identity owns no key row, so the key write starts from the collection's rows
  have hown : ∀ k o, (k, o) ∈ q.keysOf name → o ≠ docId d := by
    rintro k o hm rfl
    obtain ⟨e, he, -⟩ := (hq.mem_keys name k _).1 hm
    exact hid e he
  have hkeys : (q.dropOwner name (docId d)).keysOf name = q.keysOf name :=
    (SqliteStore.keysOf_dropOwner q name (docId d)).trans
      (List.filter_eq_self.2 fun x hx => by simpa using hown x.1 x.2 hx)
  have hheld : ∀ k, s.Held name k ↔
      ∃ o, (k, o) ∈ (q.dropOwner (q.spec name).name (docId d)).keysOf (q.spec name).name := by
    intro k
    rw [SqliteStore.spec_name, hkeys, Held, hstored, hpat]
    simp only [hq.mem_keys]
  have hown' : ∀ k o,
      (k, o) ∈ (q.dropOwner (q.spec name).name (docId d)).keysOf (q.spec name).name →
        o ≠ docId d := by
    rw [SqliteStore.spec_name, hkeys]
    exact hown
  rcases SqliteStore.claims_result (d := d) hheld hown' (q.spec name).uniqueKeys with
    ⟨⟨q', hok⟩, hfree, hnd⟩ | ⟨P, v, fields, hf, hh, herr⟩ | ⟨P, v, fields, hf, hh, herr⟩
  · rw [hok] at hr
    exact Or.inl ⟨hr, hid, hfree, hnd⟩
  · rw [herr, SqliteStore.spec_name] at hr
    exact Or.inr (Or.inr (Or.inl ⟨hid, P, v, fields, hf, hh, hr⟩))
  · rw [herr] at hr
    exact Or.inr (Or.inr (Or.inr ⟨hid, P, v, fields, hf, hh, hr⟩))

end Storage

end CrudRoutes
