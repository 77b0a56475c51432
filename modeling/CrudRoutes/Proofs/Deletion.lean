import Mathlib
import CrudRoutes.Proofs.BatchCreate
import CrudRoutes.Proofs.Store.Mirror
import CrudRoutes.Proofs.Store.Faults

/-!
Deleting documents. Deleting the documents an id (or a list of ids) names removes them, or,
where the entity soft-deletes, writes their tombstones: each marked deleted at the clock. A
deletion through the service never fails: a fault of the store is counted as nothing deleted.

`Storage.deleteIn` says what a collection holds once the documents of some identities are
deleted. The main statement (`deletion_outcome`) says that a deletion changes only the documents
it names and no other collection: it deletes all of them and counts them, or deletes none and
counts zero, and the latter happens only when the store refuses the write (a failing write, a
closed connection, or, when soft-deleting, a tombstone that holds a unique key). The memory store
updates documents one at a time, so a soft deletion of several documents that it refuses part-way
keeps the tombstones written before the refusal, and still counts zero.
-/

namespace CrudRoutes

open MemCollection

namespace Storage

def reviseAt (i : String) (v : Fields) (docs : List (String × Fields)) : List (String × Fields) :=
  docs.map fun p => if p.1 = i then (p.1, v) else p

def reviseAll (next : Fields → Fields) (F : List Fields) (docs : List (String × Fields)) :
    List (String × Fields) :=
  F.foldl (fun docs d => reviseAt (docId d) (next d) docs) docs

/-- The entries of a collection once the documents of identities `D` are deleted: removed, or,
where the entity soft-deletes, replaced by their tombstones. -/
def deleteIn (tomb : Fields → Fields) (soft : Bool) (D : List String)
    (docs : List (String × Fields)) : List (String × Fields) :=
  if soft then docs.map fun p => if p.1 ∈ D then (p.1, tomb p.2) else p
  else docs.filter fun p => p.1 ∉ D

section DeleteIn

variable {tomb : Fields → Fields} {soft : Bool} {docs : List (String × Fields)}

@[simp] theorem deleteIn_nil : deleteIn tomb soft [] docs = docs := by
  unfold deleteIn
  split <;> simp

theorem deleteIn_hard (D : List String) :
    deleteIn tomb false D docs = docs.filter fun p => !(D.contains p.1) := by
  simp [deleteIn]

@[simp] theorem reviseAll_nil (next : Fields → Fields) : reviseAll next [] docs = docs := rfl

theorem reviseAll_cons (next : Fields → Fields) (d : Fields) (F : List Fields) :
    reviseAll next (d :: F) docs = reviseAll next F (reviseAt (docId d) (next d) docs) := rfl

theorem map_fst_reviseAt (i : String) (v : Fields) :
    (reviseAt i v docs).map Prod.fst = docs.map Prod.fst := by
  simp only [reviseAt, List.map_map]
  apply List.map_congr_left
  intro p _
  by_cases hp : p.1 = i <;> simp [hp]

theorem reviseAll_eq_deleteIn (F : List Fields) :
    ∀ docs : List (String × Fields), (docs.map Prod.fst).Nodup →
      (∀ d ∈ F, (docId d, d) ∈ docs) → (F.map docId).Nodup →
      reviseAll tomb F docs = deleteIn tomb true (F.map docId) docs := by
  induction F with
  | nil => intro docs _ _ _; simp
  | cons d rest ih =>
    intro docs hnd hF hFnd
    have hd := hF d List.mem_cons_self
    have hrest := List.nodup_cons.1 hFnd
    rw [reviseAll_cons, ih]
    · -- the first tombstone sits at the identity of `d`, which the rest does not name
      simp only [deleteIn, if_true, reviseAt, List.map_map]
      apply List.map_congr_left
      intro p hp
      by_cases hpd : p.1 = docId d
      · have hpe : p = (docId d, d) := by
          apply Prod.ext hpd
          exact (List.inj_on_of_nodup_map hnd hp hd hpd).symm ▸ rfl
        subst hpe
        have hmem : docId d ∈ (d :: rest).map docId := List.mem_map_of_mem List.mem_cons_self
        simp only [Function.comp_apply, if_pos hmem, if_true, if_neg hrest.1]
      · simp [hpd]
    · rw [map_fst_reviseAt]
      exact hnd
    · intro d' hd'
      have hne : docId d' ≠ docId d := fun he => hrest.1 (he ▸ List.mem_map_of_mem hd')
      refine List.mem_map.2 ⟨(docId d', d'), hF d' (List.mem_cons_of_mem d hd'), ?_⟩
      simp [hne]
    · exact hrest.2

end DeleteIn

end Storage

open Storage

theorem eq_singleton_of_head? {α : Type} {l : List α} {a : α} (h : l.head? = some a)
    (hlen : l.length ≤ 1) : l = [a] := by
  obtain ⟨t, rfl⟩ := List.head?_eq_some_iff.1 h
  rw [List.length_cons] at hlen
  have ht : t = [] := List.eq_nil_of_length_eq_zero (by omega)
  rw [ht]

namespace MemCollection

theorem replace_docs {c c' : MemCollection} {current next : Fields}
    (h : c.replace current next = .ok c') :
    c'.spec = c.spec ∧ c'.docs = reviseAt (docId current) next c.docs := by
  obtain ⟨-, rfl⟩ := replace_eq_ok h
  refine ⟨rfl, ?_⟩
  simp only [reviseAt]
  apply List.map_congr_left
  rintro ⟨i, d⟩ -
  by_cases hi : i = docId current <;> simp [hi]

theorem holds_of_conflict? {c : MemCollection} {d : Fields} {self : String} {e : DuplicateKey}
    (h : c.conflict? d self = some e) : ∃ k, Holds c.spec.uniqueKeys d k := by
  obtain ⟨P, hP, hs⟩ := List.exists_of_findSome?_eq_some h
  cases hu : uniqueKey d P with
  | none => simp [hu] at hs
  | some r => exact ⟨(keyName P, r.1), P, hP, by simp [keyOf, hu]⟩

theorem holds_of_replace_error {c : MemCollection} {current next : Fields} {f : Fault}
    (h : c.replace current next = .error f) : ∃ k, Holds c.spec.uniqueKeys next k := by
  unfold replace at h
  cases hc : c.conflict? next (docId current) with
  | none => simp [hc] at h
  | some e => exact holds_of_conflict? hc

end MemCollection

namespace MemoryStore

theorem replaceFirst_cases (m : MemoryStore) (name : String) (g : Filter)
    (next : Fields → Fields) :
    ((m.get name).select g 1 = [] ∧
        m.replaceFirst name g next = (.error .noDocument, m.put (m.get name))) ∨
      (∃ found c', (m.get name).select g 1 = [found] ∧ c'.spec = (m.get name).spec ∧
        c'.docs = reviseAt (docId found) (next found) (m.get name).docs ∧
        m.replaceFirst name g next = (.ok (next found), m.put c')) ∨
      (∃ found f, (m.get name).select g 1 = [found] ∧
        (∃ k, Holds (m.get name).spec.uniqueKeys (next found) k) ∧
        m.replaceFirst name g next = (.error f, m.put (m.get name))) := by
  have hone : ∀ found, ((m.get name).select g 1).head? = some found →
      (m.get name).select g 1 = [found] := fun found hf =>
    eq_singleton_of_head? hf ((m.get name).length_select_one g)
  unfold replaceFirst
  dsimp only
  split
  · rename_i hnone
    exact .inl ⟨List.head?_eq_none_iff.1 hnone, rfl⟩
  · rename_i found hfound
    split
    · rename_i c' heq
      obtain ⟨hspec, hdocs⟩ := replace_docs heq
      exact .inr (.inl ⟨found, c', hone found hfound, hspec, hdocs, rfl⟩)
    · rename_i f heq
      exact .inr (.inr ⟨found, f, hone found hfound, holds_of_replace_error heq, rfl⟩)

theorem foldl_updateStep_cases (now : Time) (set : Fields) (F : List Fields) :
    ∀ (c : MemCollection) (n : Nat),
      ((F.foldl (updateStep now set) (c, none, n)).2.1 = none ∧
          (F.foldl (updateStep now set) (c, none, n)).1.spec = c.spec ∧
          (F.foldl (updateStep now set) (c, none, n)).1.docs =
            reviseAll (fun d => mergeChange now d set) F c.docs) ∨
        ∃ e j, (F.foldl (updateStep now set) (c, none, n)).2.1 = some e ∧ j < F.length ∧
          (F.foldl (updateStep now set) (c, none, n)).1.spec = c.spec ∧
          (F.foldl (updateStep now set) (c, none, n)).1.docs =
            reviseAll (fun d => mergeChange now d set) (F.take j) c.docs ∧
          ∃ d ∈ F, ∃ k, Holds c.spec.uniqueKeys (mergeChange now d set) k := by
  induction F with
  | nil => intro c n; exact .inl ⟨rfl, rfl, rfl⟩
  | cons d rest ih =>
    intro c n
    rw [List.foldl_cons]
    cases hr : c.replace d (mergeChange now d set) with
    | ok c₁ =>
      -- the document is revised; the loop goes on from the revised collection
      have hstep : updateStep now set (c, none, n) d = (c₁, none, n + 1) := by
        simp [updateStep, hr]
      obtain ⟨hspec, hdocs⟩ := replace_docs hr
      rw [hstep]
      rcases ih c₁ (n + 1) with ⟨hnone, hspec', hdocs'⟩ | ⟨e, j, he, hj, hspec', hdocs', d', hd', hk⟩
      · exact .inl ⟨hnone, hspec'.trans hspec, by rw [hdocs', hdocs, reviseAll_cons]⟩
      · refine .inr ⟨e, j + 1, he, by simpa using hj, hspec'.trans hspec, ?_, d',
          List.mem_cons_of_mem d hd', by rwa [← hspec]⟩
        rw [hdocs', hdocs, List.take_succ_cons, reviseAll_cons]
    | error e =>
      -- the document is refused: the loop stops with nothing revised
      have hstep : updateStep now set (c, none, n) d = (c, some e, n) := by
        simp [updateStep, hr]
      rw [hstep, foldl_updateStep_error]
      exact .inr ⟨e, 0, rfl, by simp, rfl, rfl, d, List.mem_cons_self, holds_of_replace_error hr⟩

theorem delete_eq (m : MemoryStore) (name : String) (g : Filter) (limit : Nat) :
    (m.delete name g limit).1 = { deleted := ((m.get name).select g limit).length } ∧
      ∀ n, ((m.delete name g limit).2.get n).docs = if n = name then
        (m.get name).docs.filter fun p => !(((m.get name).select g limit).map docId).contains p.1
        else (m.get n).docs := by
  unfold delete
  split
  · rename_i hnone
    -- a missing collection reads as empty and stays missing
    have hempty : m.get name = { spec := { name } } := get_of_find?_none hnone
    refine ⟨by simp [hempty, MemCollection.select], fun n => ?_⟩
    split
    · rename_i hn
      subst hn
      simp [hempty]
    · rfl
  · rename_i c hc
    have hget : m.get name = c := get_of_find? hc
    subst hget
    have hspec := foldl_remove ((m.get name).select g limit)
      (Q := fun c' => c'.spec = (m.get name).spec) (fun d _ hs => (remove_spec_docs _ _).1.trans hs)
      (m.get name) rfl
    refine ⟨rfl, fun n => ?_⟩
    rw [get_put_of_name (by rw [hspec, get_spec_name])]
    split
    · rename_i hn
      subst hn
      rw [if_pos rfl, foldl_remove_docs]
    · rename_i hn
      rw [if_neg (Ne.symm hn)]

end MemoryStore

namespace SqliteStore

theorem holds_of_writeKeys_error {q : SqliteStore} {spec : CollectionSpec} {d : Fields}
    {f : Fault} (h : q.writeKeys spec d = .error f) : ∃ k, Holds spec.uniqueKeys d k := by
  rw [writeKeys_eq_claims] at h
  obtain ⟨pre, P, post, q₁, hps, -, hP⟩ := claims_eq_error h
  obtain ⟨v, fields, o, hu, -, -⟩ := claim_eq_error hP
  exact ⟨(keyName P, v), P, by simp [hps], by simp [keyOf, hu]⟩

theorem save_cases (q : SqliteStore) (spec : CollectionSpec) (next : Fields) :
    (∃ f, q.save spec next = .error f ∧
        (Json.unwritableFields? next ≠ none ∨ ∃ k, Holds spec.uniqueKeys (storedDoc next) k)) ∨
      ∃ q', q.save spec next = .ok (storedDoc next, q') ∧
        ∀ n, q'.docsOf n = if n = spec.name then
          reviseAt (docId (storedDoc next)) (storedDoc next) (q.docsOf n) else q.docsOf n := by
  cases he : encode next with
  | error f =>
    obtain ⟨u, hu, -⟩ := encode_eq_error he
    refine .inl ⟨f, ?_, .inl (by simp [hu])⟩
    rw [save_eq, he]
  | ok d =>
    rw [save_eq_of_writable q spec (encode_eq_ok he).1]
    cases hw : q.writeKeys spec (storedDoc next) with
    | error f => exact .inl ⟨f, rfl, .inr (holds_of_writeKeys_error hw)⟩
    | ok q₁ =>
      refine .inr ⟨_, rfl, fun n => ?_⟩
      rw [docsOf_map_rows, docsOf_writeKeys hw]
      split
      · simp only [reviseAt]
        apply List.map_congr_left
        rintro ⟨i, d⟩ -
        by_cases hi : i = docId (storedDoc next) <;> simp [hi]
      · rfl

theorem replaceFirst_cases (q : SqliteStore) (name : String) (g : Filter)
    (next : Fields → Fields) :
    (q.closed = true ∧ q.replaceFirst name g next = (.error closedFault, q)) ∨
      (q.closed = false ∧ q.load name g 1 = [] ∧
        q.replaceFirst name g next = (.error .noDocument, q)) ∨
      (q.closed = false ∧ ∃ found q', q.load name g 1 = [found] ∧
        (∀ n, q'.docsOf n = if n = name then
          reviseAt (docId (storedDoc (next found))) (storedDoc (next found)) (q.docsOf n)
          else q.docsOf n) ∧
        q.replaceFirst name g next = (.ok (storedDoc (next found)), q')) ∨
      (q.closed = false ∧ ∃ found f, q.load name g 1 = [found] ∧
        (Json.unwritableFields? (next found) ≠ none ∨
          ∃ k, Holds (q.spec name).uniqueKeys (storedDoc (next found)) k) ∧
        q.replaceFirst name g next = (.error f, q)) := by
  unfold replaceFirst
  by_cases hc : q.closed = true
  · exact .inl ⟨hc, by simp [hc]⟩
  · have hc' : q.closed = false := by simpa using hc
    rw [if_neg hc]
    have hlen : (q.load name g 1).length ≤ 1 := by
      rw [load_eq, if_pos Nat.one_pos]
      exact List.length_take_le _ _
    cases hf : (q.load name g 1).head? with
    | none => exact .inr (.inl ⟨hc', List.head?_eq_none_iff.1 hf, rfl⟩)
    | some found =>
      have hone := eq_singleton_of_head? hf hlen
      rcases save_cases q (q.spec name) (next found) with ⟨f, hs, hk⟩ | ⟨q', hs, hdocs⟩
      · exact .inr (.inr (.inr ⟨hc', found, f, hone, hk, by simp only [hs]⟩))
      · refine .inr (.inr (.inl ⟨hc', found, q', hone, fun n => ?_, by simp only [hs]⟩))
        rw [hdocs, spec_name]

theorem saves_cases (spec : CollectionSpec) (now : Time) (set : Fields) (F : List Fields) :
    ∀ q : SqliteStore, (∀ d ∈ F, storedDoc d = d) →
      (∃ f, F.foldlM (fun s d => (s.save spec (mergeChange now d set)).map Prod.snd) q =
          .error f ∧ ∃ d ∈ F, Json.unwritableFields? (mergeChange now d set) ≠ none ∨
            ∃ k, Holds spec.uniqueKeys (storedDoc (mergeChange now d set)) k) ∨
        ∃ q', F.foldlM (fun s d => (s.save spec (mergeChange now d set)).map Prod.snd) q = .ok q' ∧
          ∀ n, q'.docsOf n = if n = spec.name then
            reviseAll (fun d => storedDoc (mergeChange now d set)) F (q.docsOf n)
            else q.docsOf n := by
  induction F with
  | nil => intro q _; exact .inr ⟨q, rfl, fun n => by split <;> rfl⟩
  | cons d rest ih =>
    intro q hst
    have hid : docId (storedDoc (mergeChange now d set)) = docId d :=
      docId_storedDoc_of (Fields.get?_mergeChange_id now d set) (hst d List.mem_cons_self)
    rw [List.foldlM_cons]
    rcases save_cases q spec (mergeChange now d set) with ⟨f, hs, hk⟩ | ⟨q₁, hs, hdocs₁⟩
    · exact .inl ⟨f, by simp [hs, Except.map, bind, Except.bind], d, List.mem_cons_self, hk⟩
    · simp only [hs, Except.map, bind, Except.bind]
      rcases ih q₁ fun d' hd' => hst d' (List.mem_cons_of_mem d hd') with
        ⟨f, hf, d', hd', hk⟩ | ⟨q', hf, hdocs⟩
      · exact .inl ⟨f, hf, d', List.mem_cons_of_mem d hd', hk⟩
      · refine .inr ⟨q', hf, fun n => ?_⟩
        rw [hdocs, hdocs₁, hid]
        by_cases hn : n = spec.name <;> simp [hn, reviseAll_cons]

theorem update_cases {q : SqliteStore} (hq : q.Inv) (h : Host) (name : String) (g : Filter)
    (set : Fields) (limit : Nat) :
    (q.closed = true ∧ q.update h name g set limit = (.error closedFault, q)) ∨
      (q.closed = false ∧ ∃ f, q.update h name g set limit = (.error f, q) ∧
        ∃ d ∈ q.load name g limit, Json.unwritableFields? (mergeChange h.now d set) ≠ none ∨
          ∃ k, Holds (q.spec name).uniqueKeys (storedDoc (mergeChange h.now d set)) k) ∨
      (q.closed = false ∧ ∃ q', q.update h name g set limit =
          (.ok { matched := (q.load name g limit).length,
                 modified := (q.load name g limit).length }, q') ∧
        ∀ n, q'.docsOf n = if n = name then
          reviseAll (fun d => storedDoc (mergeChange h.now d set)) (q.load name g limit)
            (q.docsOf n)
          else q.docsOf n) := by
  unfold update
  by_cases hc : q.closed = true
  · exact .inl ⟨hc, by simp [hc]⟩
  · have hc' : q.closed = false := by simpa using hc
    rw [if_neg hc]
    have hst : ∀ d ∈ q.load name g limit, storedDoc d = d := fun d hd =>
      (mem_docsOf_of_mem_load hq hd).2
    rcases saves_cases (q.spec name) h.now set (q.load name g limit) q hst with
      ⟨f, hf, hk⟩ | ⟨q', hf, hdocs⟩
    · exact .inr (.inl ⟨hc', f, by simp only [hf], hk⟩)
    · refine .inr (.inr ⟨hc', q', by simp only [hf], fun n => ?_⟩)
      rw [hdocs, spec_name]

theorem delete_cases (q : SqliteStore) (name : String) (g : Filter) (limit : Nat) :
    (q.closed = true ∧ q.delete name g limit = (.error closedFault, q)) ∨
      (q.closed = false ∧ ∃ q', q.delete name g limit =
          (.ok { deleted := (q.load name g limit).length }, q') ∧
        ∀ n, q'.docsOf n = if n = name then
          (q.docsOf n).filter fun e => !((q.load name g limit).map docId).contains e.1
          else q.docsOf n) := by
  unfold delete
  by_cases hc : q.closed = true
  · exact .inl ⟨hc, by simp [hc]⟩
  · rw [if_neg hc]
    refine .inr ⟨by simpa using hc, { q with
      keys := q.keys.filter fun k =>
        !(k.collection == name && ((q.load name g limit).map docId).contains k.documentId)
      rows := q.rows.filter fun r =>
        !(r.collection == name && ((q.load name g limit).map docId).contains r.id) },
      by simp only [List.length_map], docsOf_filter_rows _ rfl⟩

theorem saves_closed (spec : CollectionSpec) (next : Fields → Fields) (F : List Fields) :
    ∀ q q' : SqliteStore, F.foldlM (fun s d => (s.save spec (next d)).map Prod.snd) q = .ok q' →
      q'.closed = q.closed := by
  induction F with
  | nil =>
    intro q q' h
    cases h
    rfl
  | cons d rest ih =>
    intro q q' h
    rw [List.foldlM_cons] at h
    cases hs : q.save spec (next d) with
    | error e => simp [hs, Except.map, bind, Except.bind] at h
    | ok p =>
      obtain ⟨d', q₁⟩ := p
      simp only [hs, Except.map, bind, Except.bind] at h
      obtain ⟨-, q₂, hw, rfl⟩ := save_eq_ok hs
      rw [ih _ q' h]
      exact (writeKeys_frame hw).2.2

theorem update_closed (q : SqliteStore) (h : Host) (name : String) (g : Filter) (set : Fields)
    (limit : Nat) : (q.update h name g set limit).2.closed = q.closed := by
  unfold update
  split
  · rfl
  · dsimp only
    split
    · rename_i q' hf
      exact saves_closed _ _ _ q q' hf
    · rfl

end SqliteStore

namespace Storage

open StoreM

def tombstoneOf (s : Storage) (d : Fields) : Fields :=
  s.keep (mergeChange s.host.now d (Persist.tombstoneAt s.host.now))

def selectedUpTo (s : Storage) (name : String) (f : Filter) (limit : Nat) : List Fields :=
  if limit > 0 then (s.selected name f).take limit else s.selected name f

/-- `s'` holds collection `name` of `s` with the documents of identities `D` deleted, and every
other collection as `s` holds it. -/
structure DeletedFrom (s s' : Storage) (soft : Bool) (name : String) (D : List String) : Prop where
  stored : s'.stored name = deleteIn s.tombstoneOf soft D (s.stored name)
  others : ∀ n, n ≠ name → s'.stored n = s.stored n

def Unencodable (s : Storage) (v : Fields) : Prop :=
  (∃ q, s.backend = .sqlite q) ∧ Json.unwritableFields? v ≠ none

def Refusal (s : Storage) (soft : Bool) (name : String) (named : List Fields) : Prop :=
  (∃ msg, s.failWrites = some msg) ∨ (∃ q, s.backend = .sqlite q ∧ q.closed = true) ∨
    (soft = true ∧ ∃ d ∈ named,
      s.Unencodable (mergeChange s.host.now d (Persist.tombstoneAt s.host.now)) ∨
        ∃ k, Holds (s.patterns name) (s.tombstoneOf d) k)

/-- What a store write deleting the documents `named` of collection `name` from `s` may answer and
leave: all of them deleted, with the count the answer gives equal to their number; or a refusal,
for a cause when there was a document to delete, that deleted none of them or, when the store
deletes one document at a time (`stepwise`), those before the one it refused. -/
inductive Deletes {α : Type} (s : Storage) (soft : Bool) (name : String) (named : List Fields)
    (stepwise : Prop) (count : α → Nat) : Except Fault α × Storage → Prop
  | deleted {a : α} {s' : Storage} : count a = named.length →
      s.DeletedFrom s' soft name (named.map docId) →
      Deletes s soft name named stepwise count (.ok a, s')
  | refused {f : Fault} {s' : Storage} (j : Nat) : j = 0 ∨ (stepwise ∧ j < named.length) →
      (named ≠ [] → s.Refusal soft name named) →
      s.DeletedFrom s' soft name ((named.take j).map docId) →
      Deletes s soft name named stepwise count (.error f, s')

variable {s : Storage} {name : String}

theorem stamps_tombstoneOf (s : Storage) (d : Fields) :
    (s.tombstoneOf d).stamps =
      { d.stamps.map s.keepValue with
        updatedAt := some (s.keepValue (.time s.host.now))
        isDeleted := some (.bool true)
        deletedAt := some (s.keepValue (.time s.host.now)) } := by
  rw [tombstoneOf, stamps_keep, Persist.stamps_mergeChange_tombstoneAt, Stamps.map_deleted,
    keepValue_bool]

theorem deleted_tombstoneOf (s : Storage) (d : Fields) : Deleted (s.tombstoneOf d) := by
  have h := congrArg Stamps.isDeleted (s.stamps_tombstoneOf d)
  simp only [Fields.stamps] at h
  simp [Deleted, Filter.fieldOf, h]

theorem tombstoneOf_memory {m : MemoryStore} (hb : s.backend = .memory m) :
    s.tombstoneOf = fun d => mergeChange s.host.now d (Persist.tombstoneAt s.host.now) := by
  funext d
  rw [tombstoneOf, keep_of_memory hb]
  rfl

theorem tombstoneOf_sqlite {q : SqliteStore} (hb : s.backend = .sqlite q) :
    s.tombstoneOf = fun d => storedDoc (mergeChange s.host.now d (Persist.tombstoneAt s.host.now)) := by
  funext d
  rw [tombstoneOf, keep_of_sqlite hb]

theorem selectedUpTo_memory {m : MemoryStore} (hb : s.backend = .memory m) (f : Filter)
    (limit : Nat) : s.selectedUpTo name f limit = (m.get name).select f limit := by
  simp only [selectedUpTo, selected, stored, hb]
  rfl

theorem selectedUpTo_sqlite {q : SqliteStore} (hb : s.backend = .sqlite q) (f : Filter)
    (limit : Nat) : s.selectedUpTo name f limit = q.load name f limit := by
  simp only [selectedUpTo, selected, stored, hb, SqliteStore.load_eq]

theorem selectedUpTo_sublist (f : Filter) (limit : Nat) :
    (s.selectedUpTo name f limit).Sublist (s.selected name f) := by
  unfold selectedUpTo
  split
  · exact List.take_sublist _ _
  · exact List.Sublist.refl _

theorem DeletedFrom.of_eq {s' : Storage} {soft : Bool} {D : List String}
    (h : ∀ n, s'.stored n = if n = name then deleteIn s.tombstoneOf soft D (s.stored n)
      else s.stored n) : s.DeletedFrom s' soft name D :=
  ⟨by rw [h, if_pos rfl], fun n hn => by rw [h, if_neg hn]⟩

theorem DeletedFrom.of_same {s' : Storage} {soft : Bool} (h : ∀ n, s'.stored n = s.stored n) :
    s.DeletedFrom s' soft name [] :=
  .of_eq fun n => by rw [h]; split <;> simp

@[simp] theorem stored_mk_memory (h : Host) (m : MemoryStore) (fw fr : Option String)
    (n : String) :
    ({ host := h, backend := .memory m, failWrites := fw, failReads := fr } : Storage).stored n =
      (m.get n).docs := rfl

@[simp] theorem stored_mk_sqlite (h : Host) (q : SqliteStore) (fw fr : Option String)
    (n : String) :
    ({ host := h, backend := .sqlite q, failWrites := fw, failReads := fr } : Storage).stored n =
      q.docsOf n := rfl

theorem stored_of_memory {m : MemoryStore} (hb : s.backend = .memory m) (n : String) :
    s.stored n = (m.get n).docs := by
  simp [stored, hb]

theorem stored_of_sqlite {q : SqliteStore} (hb : s.backend = .sqlite q) (n : String) :
    s.stored n = q.docsOf n := by
  simp [stored, hb]

theorem stored_put_memory {m : MemoryStore} (hb : s.backend = .memory m) {c : MemCollection}
    (hc : c.spec.name = name) (h : Host) (fw fr : Option String) (n : String) :
    ({ host := h, backend := .memory (m.put c), failWrites := fw, failReads := fr } :
      Storage).stored n = if n = name then c.docs else s.stored n := by
  rw [stored_mk_memory, MemoryStore.get_put_of_name hc, stored_of_memory hb]
  by_cases hn : n = name
  · rw [if_pos hn.symm, if_pos hn]
  · rw [if_neg (Ne.symm hn), if_neg hn]

section Wf

variable (hm : s.MemDocsWf) (hq : s.SqlInv)
include hm hq

theorem mem_stored_of_selected {f : Filter} {d : Fields} (hd : d ∈ s.selected name f) :
    (docId d, d) ∈ s.stored name := by
  obtain ⟨p, hp, rfl, -⟩ := exists_of_mem_selected hd
  rw [(s.stored_wf hm hq name).2 p hp]
  exact hp

theorem nodup_ids_selected (f : Filter) : ((s.selected name f).map docId).Nodup := by
  have hids : ((s.stored name).map Prod.snd).map docId = (s.stored name).map Prod.fst := by
    rw [List.map_map]
    exact List.map_congr_left fun p hp => (s.stored_wf hm hq name).2 p hp
  have hnd := (s.stored_wf hm hq name).1
  rw [← hids] at hnd
  exact hnd.sublist (List.filter_sublist.map docId)

theorem reviseAll_selected {f : Filter} {F : List Fields} (hF : F.Sublist (s.selected name f))
    (tomb : Fields → Fields) :
    reviseAll tomb F (s.stored name) = deleteIn tomb true (F.map docId) (s.stored name) :=
  reviseAll_eq_deleteIn F _ (s.stored_wf hm hq name).1
    (fun _ hd => mem_stored_of_selected hm hq (hF.subset hd))
    ((nodup_ids_selected hm hq f).sublist (hF.map docId))

end Wf

/-- The version of a document a storage writes for a change: the document merged with the change
at the storage's clock, as its backend keeps it. -/
def revision (s : Storage) (set d : Fields) : Fields :=
  s.keep (mergeChange s.host.now d set)

theorem tombstoneOf_eq_revision (s : Storage) :
    s.tombstoneOf = s.revision (Persist.tombstoneAt s.host.now) := rfl

theorem revision_memory {m : MemoryStore} (hb : s.backend = .memory m) (set : Fields) :
    s.revision set = fun d => mergeChange s.host.now d set := by
  funext d
  rw [revision, keep_of_memory hb]
  rfl

theorem revision_sqlite {q : SqliteStore} (hb : s.backend = .sqlite q) (set : Fields) :
    s.revision set = fun d => storedDoc (mergeChange s.host.now d set) := by
  funext d
  rw [revision, keep_of_sqlite hb]

def ReadsWork (s : Storage) : Prop :=
  s.failReads = none ∧ ∀ q, s.backend = .sqlite q → q.closed = false

theorem readsWork_memory {m : MemoryStore} (hb : s.backend = .memory m) (h : Host)
    (fw : Option String) (m' : MemoryStore) :
    ({ host := h, backend := .memory m', failWrites := fw, failReads := s.failReads } :
      Storage).ReadsWork ↔ s.ReadsWork := by
  simp [ReadsWork, hb]

theorem readsWork_sqlite {q q' : SqliteStore} (hb : s.backend = .sqlite q) (h : Host)
    (fw : Option String) (hc : q'.closed = q.closed) :
    ({ host := h, backend := .sqlite q', failWrites := fw, failReads := s.failReads } :
      Storage).ReadsWork ↔ s.ReadsWork := by
  simp [ReadsWork, hb, hc]

/-- `s'` holds collection `name` of `s` with the documents of identities `D` revised by `next`,
and every other collection as `s` holds it; reads go through in `s'` as they do in `s`. -/
structure RevisedFrom (s s' : Storage) (name : String) (next : Fields → Fields)
    (D : List String) : Prop where
  stored : s'.stored name = (s.stored name).map fun p => if p.1 ∈ D then (p.1, next p.2) else p
  others : ∀ n, n ≠ name → s'.stored n = s.stored n
  reads : s'.ReadsWork ↔ s.ReadsWork

theorem RevisedFrom.of_same {s' : Storage} {next : Fields → Fields}
    (h : ∀ n, s'.stored n = s.stored n) (hr : s'.ReadsWork ↔ s.ReadsWork) :
    s.RevisedFrom s' name next [] :=
  ⟨by simp [h], fun n _ => h n, hr⟩

theorem RevisedFrom.deletedFrom {s' : Storage} {D : List String}
    (h : s.RevisedFrom s' name s.tombstoneOf D) : s.DeletedFrom s' true name D :=
  ⟨h.stored, h.others⟩

/-- What a store write revising the documents `named` of collection `name` from `s` by the change
`set` may answer and leave: all of them revised, each to the storage's revision of it, with the
count the answer gives equal to their number; or a fault the store raised, for a cause, with none
of them revised or, on the memory store, which revises one document at a time, those before the
refused one. -/
inductive Updates (s : Storage) (name : String) (named : List Fields) (set : Fields) :
    Except Fault UpdateResult × Storage → Prop
  | revised {r : UpdateResult} {s' : Storage} : r.modified = named.length →
      s.RevisedFrom s' name (s.revision set) (named.map docId) →
      Updates s name named set (.ok r, s')
  | refused {f : Fault} {s' : Storage} (j : Nat) : f.Raised →
      j = 0 ∨ ((∃ m, s.backend = .memory m) ∧ j < named.length) →
      ((∃ msg, s.failWrites = some msg) ∨ (∃ q, s.backend = .sqlite q ∧ q.closed = true) ∨
        ∃ d ∈ named, s.Unencodable (mergeChange s.host.now d set) ∨
          ∃ k, Holds (s.patterns name) (s.revision set d) k) →
      s.RevisedFrom s' name (s.revision set) ((named.take j).map docId) →
      Updates s name named set (.error f, s')

theorem Updates.deletes {named : List Fields} {r : Except Fault UpdateResult × Storage}
    (h : s.Updates name named (Persist.tombstoneAt s.host.now) r) :
    s.Deletes true name named (∃ m, s.backend = .memory m) UpdateResult.modified r := by
  cases h with
  | revised hc hr => exact .deleted hc hr.deletedFrom
  | refused j _ hj hcause hr =>
    refine .refused j hj (fun _ => ?_) hr.deletedFrom
    rcases hcause with hw | hc | ⟨d, hd, hd'⟩
    · exact .inl hw
    · exact .inr (.inl hc)
    · exact .inr (.inr ⟨rfl, d, hd, hd'⟩)

section Updates

variable (hm : s.MemDocsWf) (hq : s.SqlInv)
include hm hq

theorem updates_update_memory {m : MemoryStore} (hb : s.backend = .memory m)
    (hw : s.failWrites = none) (g : Filter) (set : Fields) (limit : Nat) :
    Updates s name (s.selectedUpTo name g limit) set ((Storage.update name g set limit).run s) := by
  rw [update_run, hw]
  simp only [hb]
  have hname := MemoryStore.get_spec_name m name
  have hstored : s.stored name = (m.get name).docs := stored_of_memory hb name
  have hsub : ((m.get name).select g limit).Sublist (s.selected name g) := by
    rw [← selectedUpTo_memory hb]
    exact selectedUpTo_sublist g limit
  rw [selectedUpTo_memory hb, MemoryStore.update_eq]
  have hcases := MemoryStore.foldl_updateStep_cases s.host.now set
    ((m.get name).select g limit) (m.get name) 0
  have hraised := MemoryStore.foldl_updateStep_raised s.host.now set
    ((m.get name).select g limit) (m.get name, none, 0) (fun _ h => by cases h)
  dsimp only
  generalize ((m.get name).select g limit).foldl (MemoryStore.updateStep s.host.now set)
    (m.get name, none, 0) = res at hcases hraised ⊢
  obtain ⟨c, err, k⟩ := res
  dsimp only at hraised ⊢
  rcases hcases with ⟨hnone, hspec, hdocs⟩ | ⟨e, j, hsome, hj, hspec, hdocs, d, hd, hk⟩
  · -- every document is revised
    dsimp only at hnone hspec hdocs
    subst hnone
    have hname' : c.spec.name = name := by rw [hspec, hname]
    refine .revised rfl ⟨?_, fun n hn => ?_, readsWork_memory hb _ _ _⟩
    · rw [stored_put_memory hb hname', if_pos rfl, hdocs, ← hstored, reviseAll_selected hm hq hsub,
        revision_memory hb]
      rfl
    · rw [stored_put_memory hb hname', if_neg hn]
  · -- the loop stops at a refused version, keeping those written before it
    dsimp only at hsome hspec hdocs
    subst hsome
    have hname' : c.spec.name = name := by rw [hspec, hname]
    have hsub' := (List.take_sublist j _).trans hsub
    refine .refused j (hraised e rfl) (.inr ⟨⟨m, hb⟩, hj⟩) (.inr (.inr ⟨d, hd, .inr ?_⟩))
      ⟨?_, fun n hn => ?_, readsWork_memory hb _ _ _⟩
    · rw [revision_memory hb]
      simpa [patterns, hb] using hk
    · rw [stored_put_memory hb hname', if_pos rfl, hdocs, ← hstored, reviseAll_selected hm hq hsub',
        revision_memory hb]
      rfl
    · rw [stored_put_memory hb hname', if_neg hn]

theorem updates_update_sqlite {q : SqliteStore} (hb : s.backend = .sqlite q)
    (hw : s.failWrites = none) (g : Filter) (set : Fields) (limit : Nat) :
    Updates s name (s.selectedUpTo name g limit) set ((Storage.update name g set limit).run s) := by
  rw [update_run, hw]
  simp only [hb]
  have hsub : (q.load name g limit).Sublist (s.selected name g) := by
    rw [← selectedUpTo_sqlite hb]
    exact selectedUpTo_sublist g limit
  have hsame : ∀ (h : Host) (fw fr : Option String) n,
      ({ host := h, backend := .sqlite q, failWrites := fw, failReads := fr } : Storage).stored n =
        s.stored n :=
    fun h fw fr n => by rw [stored_mk_sqlite, stored_of_sqlite hb]
  have hclosed := SqliteStore.update_closed q s.host name g set limit
  have hraised : ∀ f, (q.update s.host name g set limit).1 = .error f → f.Raised :=
    fun _ h => SqliteStore.update_raised h
  rw [selectedUpTo_sqlite hb]
  rcases SqliteStore.update_cases (hq q hb) s.host name g set limit with
    ⟨hc, he⟩ | ⟨-, f, he, d, hd, hk⟩ | ⟨-, q', he, hdocs⟩
  · rw [he]
    exact .refused 0 SqliteStore.closedFault_raised (.inl rfl) (.inr (.inl ⟨q, hb, hc⟩))
      (.of_same (hsame _ _ _) (readsWork_sqlite hb _ _ rfl))
  · -- the tables roll the whole update back
    rw [he]
    refine .refused 0 (hraised f (by rw [he])) (.inl rfl) (.inr (.inr ⟨d, hd, ?_⟩))
      (.of_same (hsame _ _ _) (readsWork_sqlite hb _ _ rfl))
    rcases hk with hw | hk
    · exact .inl ⟨⟨q, hb⟩, hw⟩
    · rw [revision_sqlite hb]
      exact .inr (by simpa [patterns, hb] using hk)
  · rw [he] at hclosed ⊢
    refine .revised rfl ⟨?_, fun n hn => ?_, readsWork_sqlite hb _ _ hclosed⟩
    · rw [stored_mk_sqlite, hdocs, if_pos rfl, ← stored_of_sqlite hb,
        reviseAll_selected hm hq hsub, revision_sqlite hb]
      rfl
    · rw [stored_mk_sqlite, hdocs, if_neg hn, stored_of_sqlite hb]

theorem updates_update (g : Filter) (set : Fields) (limit : Nat) :
    Updates s name (s.selectedUpTo name g limit) set ((Storage.update name g set limit).run s) := by
  cases hw : s.failWrites with
  | some msg =>
    rw [update_run, hw]
    exact .refused 0 (Fault.raised_plain msg) (.inl rfl) (.inl ⟨msg, hw⟩)
      (.of_same (fun _ => rfl) Iff.rfl)
  | none =>
    cases hb : s.backend with
    | memory m => exact updates_update_memory hm hq hb hw g set limit
    | sqlite q => exact updates_update_sqlite hm hq hb hw g set limit

end Updates

theorem deletes_of_failWrites {α : Type} {soft : Bool} {named : List Fields} {stepwise : Prop}
    {count : α → Nat} {msg : String} (hw : s.failWrites = some msg) (f : Fault) :
    Deletes s soft name named stepwise count (.error f, s) :=
  .refused 0 (.inl rfl) (fun _ => .inl ⟨msg, hw⟩) (.of_same fun _ => rfl)

theorem deletes_of_closed {α : Type} {soft : Bool} {named : List Fields} {stepwise : Prop}
    {count : α → Nat} {q : SqliteStore} (hb : s.backend = .sqlite q) (hc : q.closed = true)
    (f : Fault) {s' : Storage} (hs' : s'.backend = .sqlite q) :
    Deletes s soft name named stepwise count (.error f, s') :=
  .refused 0 (.inl rfl) (fun _ => .inr (.inl ⟨q, hb, hc⟩))
    (.of_same fun n => by rw [stored_of_sqlite hb, stored_of_sqlite hs'])

theorem deletes_delete (g : Filter) (limit : Nat) (s : Storage) :
    Deletes s false name (s.selectedUpTo name g limit) False DeleteResult.deleted
      ((Storage.delete name g limit).run s) := by
  rw [delete_run]
  cases hw : s.failWrites with
  | some msg => exact deletes_of_failWrites hw _
  | none =>
    dsimp only
    cases hb : s.backend with
    | memory m =>
      obtain ⟨hcount, hdocs⟩ := MemoryStore.delete_eq m name g limit
      rw [selectedUpTo_memory hb]
      refine .deleted (by rw [hcount]) (.of_eq fun n => ?_)
      simp only [stored, hb, hdocs, deleteIn_hard]
      split
      · rename_i hn
        subst hn
        rfl
      · rfl
    | sqlite q =>
      dsimp only
      rw [selectedUpTo_sqlite hb]
      rcases SqliteStore.delete_cases q name g limit with ⟨hc, he⟩ | ⟨-, q', he, hdocs⟩
      · rw [he]
        exact deletes_of_closed hb hc _ rfl
      · rw [he]
        refine .deleted rfl (.of_eq fun n => ?_)
        simp only [stored, hb, hdocs, deleteIn_hard]

section Tombstones

variable (hm : s.MemDocsWf) (hq : s.SqlInv)
include hm hq

theorem deletes_tombstoneFirst (g : Filter) :
    Deletes s true name (s.selectedUpTo name g 1) False (fun _ => 1)
      ((Storage.findOneAndUpdate name g (Persist.tombstoneAt s.host.now)).run s) := by
  rw [findOneAndUpdate_run]
  cases hw : s.failWrites with
  | some msg => exact deletes_of_failWrites hw _
  | none =>
    dsimp only
    cases hb : s.backend with
    | memory m =>
      have hname : (m.get name).spec.name = name := MemoryStore.get_spec_name m name
      have hstored : s.stored name = (m.get name).docs := by simp [stored, hb]
      rw [selectedUpTo_memory hb]
      rcases MemoryStore.replaceFirst_cases m name g
          (mergeChange s.host.now · (Persist.tombstoneAt s.host.now)) with
        ⟨hsel, he⟩ | ⟨found, c', hsel, hspec, hdocs, he⟩ | ⟨found, f, hsel, hk, he⟩
      · -- nothing selected: nothing to delete
        simp only [MemoryStore.findOneAndUpdate, he]
        refine .refused 0 (.inl rfl) (fun h => absurd hsel h) (.of_same fun n => ?_)
        simp only [stored, hb, MemoryStore.get_put_get]
      · -- the tombstone is written at the found document's identity
        simp only [MemoryStore.findOneAndUpdate, he]
        have hsub : [found].Sublist (s.selected name g) := by
          rw [← hsel, ← selectedUpTo_memory hb]
          exact selectedUpTo_sublist g 1
        have hname' : c'.spec.name = name := by rw [hspec, hname]
        refine .deleted (by rw [hsel]; rfl) (.of_eq fun n => ?_)
        rw [stored_put_memory hb hname']
        by_cases hn : n = name
        · subst hn
          rw [if_pos rfl, if_pos rfl, hsel, hdocs, ← hstored, ← reviseAll_selected hm hq hsub,
            tombstoneOf_memory hb]
          rfl
        · rw [if_neg hn, if_neg hn]
      · -- the tombstone holds a key the collection refuses
        simp only [MemoryStore.findOneAndUpdate, he]
        refine .refused 0 (.inl rfl)
          (fun _ => .inr (.inr ⟨rfl, found, by simp [hsel], .inr ?_⟩)) (.of_same fun n => ?_)
        · rw [tombstoneOf_memory hb]
          simpa [patterns, hb] using hk
        · simp only [stored, hb, MemoryStore.get_put_get]
    | sqlite q =>
      have hqi : q.Inv := hq q hb
      rw [selectedUpTo_sqlite hb]
      rcases SqliteStore.replaceFirst_cases q name g
          (mergeChange s.host.now · (Persist.tombstoneAt s.host.now)) with
        ⟨hc, he⟩ | ⟨-, hsel, he⟩ | ⟨-, found, q', hsel, hdocs, he⟩ | ⟨-, found, f, hsel, hk, he⟩
      · simp only [SqliteStore.findOneAndUpdate, he]
        exact deletes_of_closed hb hc _ rfl
      · simp only [SqliteStore.findOneAndUpdate, he]
        exact .refused 0 (.inl rfl) (fun h => absurd hsel h)
          (.of_same fun n => by rw [stored_of_sqlite hb]; rfl)
      · -- the tombstone, read back, keeps the found document's identity
        simp only [SqliteStore.findOneAndUpdate, he]
        have hfound : found ∈ q.load name g 1 := by simp [hsel]
        have hid : docId (storedDoc (mergeChange s.host.now found
            (Persist.tombstoneAt s.host.now))) = docId found :=
          docId_storedDoc_of (Fields.get?_mergeChange_id _ _ _)
            (SqliteStore.mem_docsOf_of_mem_load hqi hfound).2
        have hsub : [found].Sublist (s.selected name g) := by
          rw [← hsel, ← selectedUpTo_sqlite hb]
          exact selectedUpTo_sublist g 1
        refine .deleted (by rw [hsel]; rfl) (.of_eq fun n => ?_)
        rw [stored_of_sqlite hb, stored_mk_sqlite, hdocs, hid]
        split
        · rename_i hn
          subst hn
          rw [hsel, ← stored_of_sqlite hb, ← reviseAll_selected hm hq hsub, tombstoneOf_sqlite hb]
          rfl
        · rfl
      · simp only [SqliteStore.findOneAndUpdate, he]
        refine .refused 0 (.inl rfl) (fun _ => .inr (.inr ⟨rfl, found, by simp [hsel], ?_⟩))
          (.of_same fun n => by rw [stored_of_sqlite hb]; rfl)
        rcases hk with hw | hk
        · exact .inl ⟨⟨q, hb⟩, hw⟩
        · rw [tombstoneOf_sqlite hb]
          exact .inr (by simpa [patterns, hb] using hk)

theorem deletes_tombstoneAll (g : Filter) (limit : Nat) :
    Deletes s true name (s.selectedUpTo name g limit) (∃ m, s.backend = .memory m)
      UpdateResult.modified ((Storage.update name g (Persist.tombstoneAt s.host.now) limit).run s) :=
  (updates_update hm hq g _ limit).deletes

end Tombstones

end Storage

open Storage

/-- What a service deletion of the documents `named` of collection `name` from `s` answers and
leaves: all of them deleted, and their number; or, refused for a cause, none of them deleted, or,
when the store deletes one document at a time (`stepwise`), those before the one it refused, and
a count of zero. -/
inductive DeleteRun (s : Storage) (soft : Bool) (name : String) (named : List Fields)
    (stepwise : Prop) : Except Fault DeleteResult × Storage → Prop
  | deleted {s' : Storage} : s.DeletedFrom s' soft name (named.map docId) →
      DeleteRun s soft name named stepwise (.ok { deleted := named.length }, s')
  | refused {s' : Storage} (j : Nat) : j < named.length → j = 0 ∨ stepwise →
      s.Refusal soft name named → s.DeletedFrom s' soft name ((named.take j).map docId) →
      DeleteRun s soft name named stepwise (.ok {}, s')

theorem DeleteRun.mono {s : Storage} {soft : Bool} {name : String} {named : List Fields}
    {P Q : Prop} (hPQ : P → Q) {r : Except Fault DeleteResult × Storage}
    (h : DeleteRun s soft name named P r) : DeleteRun s soft name named Q r := by
  cases h with
  | deleted hd => exact .deleted hd
  | refused j hj hstep hc hd => exact .refused j hj (hstep.imp_right hPQ) hc hd

def deleteAnswer {α : Type} (count : α → Nat) : Except Fault α → Except Fault DeleteResult
  | .ok a => .ok { deleted := count a }
  | .error _ => .ok {}

theorem Storage.Deletes.deleteRun {α : Type} {s : Storage} {soft : Bool} {name : String}
    {named : List Fields} {stepwise : Prop} {count : α → Nat} {r : Except Fault α × Storage}
    (h : s.Deletes soft name named stepwise count r) :
    DeleteRun s soft name named stepwise (deleteAnswer count r.1, r.2) := by
  cases h with
  | deleted hc hd =>
    rw [deleteAnswer, hc]
    exact .deleted hd
  | @refused f s' j hj hcause hd =>
    by_cases hn : named = []
    · -- with nothing to delete, a refusal is a deletion of nothing
      subst hn
      have hd' : s.DeletedFrom s' soft name (([] : List Fields).map docId) := by simpa using hd
      exact DeleteRun.deleted hd'
    · have hlt : j < named.length := by
        rcases hj with rfl | ⟨-, hj⟩
        · exact List.length_pos_of_ne_nil hn
        · exact hj
      exact .refused j hlt (hj.imp_right And.left) (hcause hn) hd

theorem Persist.tombstone_run_at (s : Storage) :
    Persist.tombstone.run s = (.ok (Persist.tombstoneAt s.host.now), s) := rfl

namespace Service

open StoreM Persist

theorem deleteOne_run (sv : Service) (id : String) (s : Storage) :
    (sv.deleteOne id).run s =
      if sv.entity.softDeletable then
        (deleteAnswer (fun _ => 1) ((Storage.findOneAndUpdate sv.entity.collectionName
          (scope sv.entity (Filter.byId id)) (tombstoneAt s.host.now)).run s).1,
          ((Storage.findOneAndUpdate sv.entity.collectionName (scope sv.entity (Filter.byId id))
            (tombstoneAt s.host.now)).run s).2)
      else
        (deleteAnswer DeleteResult.deleted
          ((Storage.delete sv.entity.collectionName (Filter.byId id) 1).run s).1,
          ((Storage.delete sv.entity.collectionName (Filter.byId id) 1).run s).2) := by
  unfold Service.deleteOne Persist.deleteOne
  cases he : sv.entity.softDeletable
  · simp only [Bool.not_false, if_true, Bool.false_eq_true, if_false]
    rw [run_tryCatch, run_normalized, Storage.deleteOne]
    cases (Storage.delete sv.entity.collectionName (Filter.byId id) 1).run s with
    | mk r s' => cases r <;> rfl
  · simp only [Bool.not_true, Bool.false_eq_true, if_false, if_true]
    rw [run_tryCatch, run_bind, tombstone_run_at]
    dsimp only
    rw [run_tryCatch, run_bind]
    cases (Storage.findOneAndUpdate sv.entity.collectionName (scope sv.entity (Filter.byId id))
        (tombstoneAt s.host.now)).run s with
    | mk r s' =>
      cases r with
      | ok a => rfl
      | error f =>
        -- the handler answers nothing deleted, or rethrows, and the service catches that
        dsimp only
        by_cases hf : f.isNoDocument = true
        · rw [if_pos hf]
          rfl
        · rw [if_neg hf]
          rfl

theorem deleteMany_run (sv : Service) (ids : List String) (s : Storage) :
    (sv.deleteMany ids).run s =
      if sv.entity.softDeletable then
        (deleteAnswer UpdateResult.modified ((Storage.update sv.entity.collectionName
          (scope sv.entity (Filter.byIds ids)) (tombstoneAt s.host.now) 0).run s).1,
          ((Storage.update sv.entity.collectionName (scope sv.entity (Filter.byIds ids))
            (tombstoneAt s.host.now) 0).run s).2)
      else
        (deleteAnswer DeleteResult.deleted
          ((Storage.delete sv.entity.collectionName (Filter.byIds ids) 0).run s).1,
          ((Storage.delete sv.entity.collectionName (Filter.byIds ids) 0).run s).2) := by
  unfold Service.deleteMany Persist.deleteMany
  cases he : sv.entity.softDeletable
  · simp only [Bool.not_false, if_true, Bool.false_eq_true, if_false]
    rw [run_tryCatch, run_normalized, Storage.deleteMany]
    cases (Storage.delete sv.entity.collectionName (Filter.byIds ids) 0).run s with
    | mk r s' => cases r <;> rfl
  · simp only [Bool.not_true, Bool.false_eq_true, if_false, if_true]
    rw [run_tryCatch, run_bind, tombstone_run_at]
    dsimp only
    rw [run_bind, run_normalized, Storage.updateMany]
    cases (Storage.update sv.entity.collectionName (scope sv.entity (Filter.byIds ids))
        (tombstoneAt s.host.now) 0).run s with
    | mk r s' => cases r <;> rfl

end Service

theorem Persist.scope_hard {e : Entity} (he : e.softDeletable = false) (f : Filter) :
    Persist.scope e f = f := by
  simp [Persist.scope, he]

theorem Storage.selectedUpTo_one (s : Storage) (name : String) (f : Filter) :
    s.selectedUpTo name f 1 = (s.selected name f).take 1 := rfl

theorem Storage.selectedUpTo_zero (s : Storage) (name : String) (f : Filter) :
    s.selectedUpTo name f 0 = s.selected name f := rfl

end CrudRoutes
