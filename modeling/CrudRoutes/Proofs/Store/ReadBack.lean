import Mathlib
import CrudRoutes.Proofs.Store.Selection

/-!
Documents as they read back from JSON. The SQLite store keeps each document as JSON text, so
what it holds and answers is the memory store's document read back (`storedDoc`). A value is
steady when reading it back changes nothing that filters, keys and sorts look at: values JSON
keeps as they are, and integers, instants in UTC and held documents whose fields JSON keeps,
which filters see as the double, the text and the object they read back as. A document is storable when its values are steady and its identifier
reads back as itself. For such documents, filters, keys, identities and pipelines agree on the
document and on its read-back, and the versions the stores write agree once read back.
-/

namespace CrudRoutes

open MemCollection

/-- A value that reads back as itself, or an integer, an instant in UTC or a held document
whose fields read back as themselves, which filters and sorts see as the double, the text and
the object they read back as. -/
def Value.Steady (v : Value) : Prop :=
  v.stored = v ∨ (∃ t : Time, v = .time t ∧ t.offset = 0) ∨ (∃ n : Int, v = .int n) ∨
    ∃ fs, v = .doc fs ∧ Value.storedFields fs = fs

/-- A document whose values are all steady. -/
def Fields.Steady (d : Fields) : Prop :=
  ∀ k v, (k, v) ∈ d → v.Steady

/-- A value both stores write alike: steady, and JSON can write it and what it reads back as. -/
structure Value.Encodable (v : Value) : Prop where
  steady : v.Steady
  writable : Json.unwritable? v = none
  readable : Json.unwritable? v.stored = none

/-- A document both stores write alike: each of its values is encodable. -/
def Fields.Encodable (d : Fields) : Prop :=
  ∀ k v, (k, v) ∈ d → v.Encodable

/-- A document the two stores keep alike: it is encodable and its identifier reads back as
itself. -/
structure Storable (d : Fields) : Prop where
  encodable : d.Encodable
  id : ∀ v, (fieldId, v) ∈ d → v.stored = v

/-- An instant both stores stamp alike: shown in UTC, in a year JSON can write. -/
structure Time.Encodable (t : Time) : Prop where
  utc : t.offset = 0
  writable : Json.timeUnwritable? t = none

namespace Value

theorem steady_of_stored {v : Value} (h : v.stored = v) : v.Steady := Or.inl h

theorem steady_time {t : Time} (ht : t.offset = 0) : (Value.time t).Steady :=
  Or.inr (Or.inl ⟨t, rfl, ht⟩)

theorem steady_int (n : Int) : (Value.int n).Steady := Or.inr (Or.inr (Or.inl ⟨n, rfl⟩))

theorem steady_doc {fs : Fields} (h : storedFields fs = fs) : (Value.doc fs).Steady :=
  Or.inr (Or.inr (Or.inr ⟨fs, rfl, h⟩))

theorem encodable_str (s : String) : (Value.str s).Encodable := ⟨steady_of_stored rfl, rfl, rfl⟩

theorem encodable_null : Value.null.Encodable := ⟨steady_of_stored rfl, rfl, rfl⟩

theorem encodable_time {t : Time} (ht : t.Encodable) : (Value.time t).Encodable :=
  ⟨steady_time ht.utc, ht.writable, rfl⟩

theorem Steady.normalize_stored {v : Value} (h : v.Steady) : v.stored.normalize = v.normalize := by
  rcases h with h | ⟨⟨u, n, o⟩, rfl, ht⟩ | ⟨n, rfl⟩ | ⟨fs, rfl, hfs⟩
  · rw [h]
  · simp only at ht
    subst ht
    rfl
  · rfl
  · simp only [stored, hfs, normalize]

theorem Steady.looseEq_stored {v : Value} (h : v.Steady) (w : Value) :
    looseEq v.stored w = looseEq v w := by
  simp only [looseEq, h.normalize_stored]

theorem Steady.order_stored {v : Value} (h : v.Steady) (w : Value) :
    order v.stored w = order v w ∧ order w v.stored = order w v := by
  simp only [order, h.normalize_stored, and_self]

theorem steady_stored (v : Value) : v.stored.Steady :=
  steady_of_stored (stored_stored v)

end Value

theorem Filter.accepts_stored {v : Value} (h : v.Steady) (want : Value) :
    Filter.accepts want v.stored = Filter.accepts want v := by
  unfold Filter.accepts
  split <;> simp only [h.looseEq_stored]

theorem Filter.fieldOf_storedDoc (d : Fields) (k : String) :
    Filter.fieldOf (storedDoc d) k = (Filter.fieldOf d k).stored := by
  unfold Filter.fieldOf
  rw [get?_storedDoc]
  cases Fields.get? d k <;> rfl

namespace Fields.Steady

variable {d : Fields}

theorem fieldOf (hd : d.Steady) (k : String) : (Filter.fieldOf d k).Steady := by
  unfold Filter.fieldOf
  cases h : Fields.get? d k with
  | none => exact Value.steady_of_stored rfl
  | some v => exact hd k v (Fields.mem_of_get? h)

theorem selects_storedDoc (hd : d.Steady) (f : Filter) :
    f.selects (storedDoc d) = f.selects d := by
  unfold Filter.selects
  refine List.all_congr rfl fun ⟨k, want⟩ => ?_
  show Filter.accepts want (Filter.fieldOf (storedDoc d) k) = Filter.accepts want (Filter.fieldOf d k)
  rw [Filter.fieldOf_storedDoc, Filter.accepts_stored (hd.fieldOf k)]

end Fields.Steady

/-! Reading back commutes with setting a field and with building a document from pairs. -/

theorem storedDoc_set (d : Fields) (k : String) (v : Value) :
    storedDoc (Fields.set d k v) = Fields.set (storedDoc d) k v.stored := by
  induction d with
  | nil => rfl
  | cons p rest ih =>
    obtain ⟨k', v'⟩ := p
    simp only [storedDoc] at ih ⊢
    by_cases h₁ : k = k'
    · simp [Fields.set, Value.storedFields, h₁]
    · by_cases h₂ : k < k'
      · simp [Fields.set, Value.storedFields, h₁, h₂]
      · simp [Fields.set, Value.storedFields, h₁, h₂, ih]

theorem storedDoc_foldl_set (acc : Fields) (ps : List (String × Value)) :
    storedDoc (ps.foldl (fun acc p => Fields.set acc p.1 p.2) acc) =
      (ps.map fun p => (p.1, p.2.stored)).foldl (fun acc p => Fields.set acc p.1 p.2)
        (storedDoc acc) := by
  induction ps generalizing acc with
  | nil => rfl
  | cons p rest ih =>
    simp only [List.foldl_cons, List.map_cons]
    rw [ih, storedDoc_set]

theorem storedDoc_ofPairs (ps : List (String × Value)) :
    storedDoc (Fields.ofPairs ps) = Fields.ofPairs (ps.map fun p => (p.1, p.2.stored)) :=
  storedDoc_foldl_set [] ps

/-! Keys and identities of a steady document and of its read-back. -/

section Keys

variable {d : Fields}

theorem uniqueKey_storedDoc (hd : d.Steady) (P : List String) :
    uniqueKey (storedDoc d) P = (uniqueKey d P).map fun r => (r.1, storedDoc r.2) := by
  have hraw : (P.map fun n => (n, Filter.fieldOf (storedDoc d) n)) =
      (P.map fun n => (n, Filter.fieldOf d n)).map fun p => (p.1, p.2.stored) := by
    simp [Filter.fieldOf_storedDoc]
  have hnorm : ∀ n, (Filter.fieldOf d n).stored.normalize = (Filter.fieldOf d n).normalize :=
    fun n => (hd.fieldOf n).normalize_stored
  unfold uniqueKey
  simp only [Filter.fieldOf_storedDoc, List.map_map, Function.comp_def, hnorm, List.any_map]
  split <;> simp [storedDoc_ofPairs, Function.comp_def]

theorem keyOf_storedDoc (hd : d.Steady) (P : List String) : keyOf (storedDoc d) P = keyOf d P := by
  simp only [keyOf, uniqueKey_storedDoc hd, Option.map_map]
  rfl

theorem holds_storedDoc (hd : d.Steady) {ps : List (List String)} {k : String × String} :
    Holds ps (storedDoc d) k ↔ Holds ps d k := by
  simp only [Holds, keyOf_storedDoc hd]

theorem docId_storedDoc_of_storable (hd : Storable d) : docId (storedDoc d) = docId d := by
  apply docId_congr
  rw [get?_storedDoc]
  cases h : Fields.get? d fieldId with
  | none => rfl
  | some v => rw [Option.map_some, hd.id v (Fields.mem_of_get? h)]

end Keys

/-! The versions of a document that the stores write are steady when what they are built from
is, and read back alike whether they are built from a document or from its read-back. -/

theorem Fields.mem_set {fs : Fields} {k k' : String} {v v' : Value}
    (h : (k', v') ∈ Fields.set fs k v) : (k' = k ∧ v' = v) ∨ (k', v') ∈ fs := by
  induction fs with
  | nil =>
    simp only [Fields.set, List.mem_singleton, Prod.mk.injEq] at h
    exact Or.inl h
  | cons p rest ih =>
    obtain ⟨k₀, v₀⟩ := p
    simp only [Fields.set] at h
    split at h
    · rcases List.mem_cons.1 h with h | h
      · exact Or.inl (Prod.mk.inj h)
      · exact Or.inr (List.mem_cons_of_mem _ h)
    · split at h
      · rcases List.mem_cons.1 h with h | h
        · exact Or.inl (Prod.mk.inj h)
        · exact Or.inr h
      · rcases List.mem_cons.1 h with h | h
        · exact Or.inr (h ▸ List.mem_cons_self)
        · exact (ih h).imp id (List.mem_cons_of_mem _)

theorem Fields.Steady.set {d : Fields} (hd : d.Steady) {k : String} {v : Value} (hv : v.Steady) :
    (Fields.set d k v).Steady := by
  intro k' v' h
  rcases Fields.mem_set h with ⟨-, rfl⟩ | h
  · exact hv
  · exact hd k' v' h

namespace Fields.Encodable

variable {d : Fields}

theorem steady (hd : d.Encodable) : d.Steady := fun k v h => (hd k v h).steady

theorem writable (hd : d.Encodable) : Json.unwritableFields? d = none :=
  Json.unwritableFields?_eq_none_iff.2 fun p hp => (hd p.1 p.2 hp).writable

theorem fieldOf (hd : d.Encodable) (k : String) : (Filter.fieldOf d k).Encodable := by
  unfold Filter.fieldOf
  cases h : Fields.get? d k with
  | none => exact Value.encodable_null
  | some v => exact hd k v (Fields.mem_of_get? h)

theorem set (hd : d.Encodable) {k : String} {v : Value} (hv : v.Encodable) :
    (Fields.set d k v).Encodable := by
  intro k' v' h
  rcases Fields.mem_set h with ⟨-, rfl⟩ | h
  · exact hv
  · exact hd k' v' h

theorem filter (hd : d.Encodable) (p : String × Value → Bool) :
    Fields.Encodable (d.filter p) :=
  fun k v h => hd k v (List.mem_filter.1 h).1

end Fields.Encodable

namespace Storable

variable {d : Fields}

theorem steady (hd : Storable d) : d.Steady := hd.encodable.steady

theorem set (hd : Storable d) {k : String} {v : Value} (hv : v.Encodable)
    (hid : k = fieldId → v.stored = v) : Storable (Fields.set d k v) where
  encodable := hd.encodable.set hv
  id w h := by
    rcases Fields.mem_set h with ⟨hk, rfl⟩ | h
    · exact hid hk.symm
    · exact hd.id w h

theorem withoutFields (hd : Storable d) (names : List String) :
    Storable (CrudRoutes.withoutFields d names) where
  encodable := hd.encodable.filter _
  id v h := hd.id v (List.mem_filter.1 h).1

theorem set_time (hd : Storable d) {k : String} {t : Time} (hk : k ≠ fieldId)
    (ht : t.Encodable) : Storable (Fields.set d k (.time t)) :=
  hd.set (Value.encodable_time ht) fun h => absurd h hk

theorem set_str (hd : Storable d) (k s : String) : Storable (Fields.set d k (.str s)) :=
  hd.set (Value.encodable_str s) fun _ => rfl

end Storable

theorem prepare_now (h : Host) (doc : Fields) : (MemoryStore.prepare h doc).2.now = h.now := by
  unfold MemoryStore.prepare
  by_cases hid : (docId (withoutFields doc [fieldCreatedAt, fieldUpdatedAt]) == "") = true
  · simp only [hid, if_true]
    rfl
  · simp only [hid, if_false, Bool.false_eq_true]

theorem storable_prepare {h : Host} {doc : Fields} (hdoc : Storable doc) (hh : h.now.Encodable) :
    Storable (MemoryStore.prepare h doc).1 := by
  have hd := hdoc.withoutFields [fieldCreatedAt, fieldUpdatedAt]
  unfold MemoryStore.prepare
  by_cases hid : (docId (withoutFields doc [fieldCreatedAt, fieldUpdatedAt]) == "") = true
  · simp only [hid, if_true]
    exact ((hd.set_str _ _).set_time (by decide) hh).set_time (by decide) hh
  · simp only [hid, if_false, Bool.false_eq_true]
    exact (hd.set_time (by decide) hh).set_time (by decide) hh

theorem storable_mergeChange {now : Time} {d set : Fields} (hd : Storable d) (hs : set.Encodable)
    (hn : now.Encodable) : Storable (mergeChange now d set) := by
  unfold mergeChange
  refine Storable.set_time ?_ (by decide) hn
  -- the fold sets the fields of the change one by one, skipping `id` and `createdAt`
  suffices h : ∀ (l : Fields) (acc : Fields), l.Encodable → Storable acc →
      Storable (l.foldl (fun acc (kv : String × Value) =>
        if kv.1 == fieldId || kv.1 == fieldCreatedAt then acc else Fields.set acc kv.1 kv.2) acc) from
    h set d hs hd
  intro l
  induction l with
  | nil => exact fun acc _ hacc => hacc
  | cons kv rest ih =>
    intro acc hl hacc
    obtain ⟨k, v⟩ := kv
    refine ih _ (fun k' v' h => hl k' v' (List.mem_cons_of_mem _ h)) ?_
    dsimp only
    split
    · exact hacc
    · rename_i hk
      refine hacc.set (hl k v List.mem_cons_self) fun he => ?_
      simp [he] at hk

theorem storable_replacement {now : Time} {doc found : Fields} (hdoc : doc.Encodable)
    (hfound : Storable found) (hn : now.Encodable) : Storable (replacement now doc found) := by
  unfold replacement
  have hc : ((Fields.get? found fieldCreatedAt).getD .null).Encodable :=
    hfound.encodable.fieldOf fieldCreatedAt
  have hw : Storable (withoutFields doc [fieldId, fieldCreatedAt, fieldUpdatedAt]) :=
    ⟨hdoc.filter _, fun v h => by simp [withoutFields] at h⟩
  refine Storable.set_time ?_ (by decide) hn
  exact (hw.set_str _ _).set hc fun h => absurd h (by decide)

theorem storedDoc_mergeChange_storedDoc (now : Time) (d set : Fields) :
    storedDoc (mergeChange now (storedDoc d) set) = storedDoc (mergeChange now d set) := by
  unfold mergeChange
  rw [storedDoc_set, storedDoc_set]
  congr 1
  -- the fold reads back alike from any two starts that read back alike
  suffices h : ∀ (l : Fields) (a b : Fields), storedDoc a = storedDoc b →
      storedDoc (l.foldl (fun acc (kv : String × Value) =>
        if kv.1 == fieldId || kv.1 == fieldCreatedAt then acc else Fields.set acc kv.1 kv.2) a) =
      storedDoc (l.foldl (fun acc (kv : String × Value) =>
        if kv.1 == fieldId || kv.1 == fieldCreatedAt then acc else Fields.set acc kv.1 kv.2) b) from
    h set _ _ (storedDoc_storedDoc d)
  intro l
  induction l with
  | nil => exact fun a b h => h
  | cons kv rest ih =>
    intro a b hab
    refine ih _ _ ?_
    dsimp only
    split
    · exact hab
    · rw [storedDoc_set, storedDoc_set, hab]

theorem storedDoc_replacement_storedDoc (now : Time) (doc : Fields) {found : Fields}
    (hfound : Storable found) :
    storedDoc (replacement now doc (storedDoc found)) = storedDoc (replacement now doc found) := by
  unfold replacement
  simp only [storedDoc_set, docId_storedDoc_of_storable hfound, get?_storedDoc]
  cases Fields.get? found fieldCreatedAt <;> simp

/-! Pipelines. A stage applies its parts one after another; each part reads only the documents
of the batch, and keeps, orders, cuts and projects them by what filters and sorts see, which
reading back does not change. So a pipeline answers the same documents for a batch and for its
read-back, and an absent batch and an empty one give the same documents. -/

namespace Stage

def filterPart (st : Stage) (b : Option (List Fields)) : Option (List Fields) :=
  if st.filter.isEmpty then b else some ((b.getD []).filter st.filter.selects)

def sortPart (st : Stage) (b : Option (List Fields)) : Option (List Fields) :=
  if st.sort.isEmpty then b
  else if (b.getD []).isEmpty then none
  else some ((b.getD []).mergeSort fun a c => !before st.sort c a)

def skipPart (st : Stage) (b : Option (List Fields)) : Option (List Fields) :=
  if st.skip > 0 then
    if st.skip ≥ (b.getD []).length then none else some ((b.getD []).drop st.skip.toNat)
  else b

def limitPart (st : Stage) (b : Option (List Fields)) : Option (List Fields) :=
  if st.limit > 0 && st.limit < (b.getD []).length then some ((b.getD []).take st.limit.toNat)
  else b

def projectPart (st : Stage) (b : Option (List Fields)) : Option (List Fields) :=
  if st.project.isEmpty then b else some ((b.getD []).map (projectDoc st.project))

def countPart (st : Stage) (b : Option (List Fields)) : Option (List Fields) :=
  if st.count.isEmpty then b else some [[(st.count, .int (b.getD []).length)]]

theorem apply_eq (st : Stage) (b : Option (List Fields)) :
    st.apply b = st.countPart (st.projectPart (st.limitPart (st.skipPart (st.sortPart
      (st.filterPart b))))) := rfl

section Congr

variable (st : Stage) {x y : Option (List Fields)} (h : x.getD [] = y.getD [])
include h

theorem getD_filterPart : (st.filterPart x).getD [] = (st.filterPart y).getD [] := by
  unfold filterPart
  split <;> simp [h]

theorem getD_sortPart : (st.sortPart x).getD [] = (st.sortPart y).getD [] := by
  unfold sortPart
  split <;> simp [h]

theorem getD_skipPart : (st.skipPart x).getD [] = (st.skipPart y).getD [] := by
  unfold skipPart
  split <;> simp [h]

theorem getD_limitPart : (st.limitPart x).getD [] = (st.limitPart y).getD [] := by
  unfold limitPart
  rw [h]
  split <;> simp [h]

theorem getD_projectPart : (st.projectPart x).getD [] = (st.projectPart y).getD [] := by
  unfold projectPart
  split <;> simp [h]

theorem getD_countPart : (st.countPart x).getD [] = (st.countPart y).getD [] := by
  unfold countPart
  split <;> simp [h]

theorem getD_apply_congr : (st.apply x).getD [] = (st.apply y).getD [] := by
  rw [apply_eq, apply_eq]
  exact st.getD_countPart (st.getD_projectPart (st.getD_limitPart (st.getD_skipPart
    (st.getD_sortPart (st.getD_filterPart h)))))

end Congr

end Stage

theorem Pipeline.getD_run_congr (p : Pipeline) {x y : Option (List Fields)}
    (h : x.getD [] = y.getD []) : (p.run x).getD [] = (p.run y).getD [] := by
  induction p generalizing x y with
  | nil => exact h
  | cons st rest ih => exact ih (st.getD_apply_congr h)

theorem Pipeline.getD_run_none (p : Pipeline) : (p.run none).getD [] = (p.run (some [])).getD [] :=
  p.getD_run_congr rfl

theorem mem_storedDoc {d : Fields} {k : String} {v : Value} (h : (k, v) ∈ storedDoc d) :
    ∃ w, (k, w) ∈ d ∧ v = w.stored := by
  induction d with
  | nil => cases h
  | cons p rest ih =>
    obtain ⟨k', w⟩ := p
    simp only [storedDoc, Value.storedFields, List.mem_cons, Prod.mk.injEq] at h ih
    rcases h with ⟨rfl, rfl⟩ | h
    · exact ⟨w, List.mem_cons_self, rfl⟩
    · obtain ⟨w', hw', rfl⟩ := ih h
      exact ⟨w', List.mem_cons_of_mem _ hw', rfl⟩

theorem steady_storedDoc (d : Fields) : (storedDoc d).Steady := by
  intro k v h
  obtain ⟨w, -, rfl⟩ := mem_storedDoc h
  exact Value.steady_stored w

theorem Value.Encodable.stored {v : Value} (hv : v.Encodable) : v.stored.Encodable :=
  ⟨Value.steady_stored v, hv.readable, by rw [Value.stored_stored]; exact hv.readable⟩

theorem Fields.Encodable.storedDoc {d : Fields} (hd : d.Encodable) :
    Fields.Encodable (CrudRoutes.storedDoc d) := by
  intro k v h
  obtain ⟨w, hw, rfl⟩ := mem_storedDoc h
  exact (hd k w hw).stored

/-- A storable document reads back as a storable one. -/
theorem Storable.storedDoc {d : Fields} (hd : Storable d) : Storable (CrudRoutes.storedDoc d) := by
  refine ⟨hd.encodable.storedDoc, fun v h => ?_⟩
  obtain ⟨w, -, rfl⟩ := mem_storedDoc h
  exact Value.stored_stored w

theorem Fields.Steady.before_storedDoc {a b : Fields} (ha : a.Steady) (hb : b.Steady)
    (keys : List SortKey) : Stage.before keys (storedDoc a) (storedDoc b) = Stage.before keys a b := by
  induction keys with
  | nil => rfl
  | cons k rest ih =>
    have ho : Value.order (Filter.fieldOf (storedDoc a) k.field) (Filter.fieldOf (storedDoc b) k.field) =
        Value.order (Filter.fieldOf a k.field) (Filter.fieldOf b k.field) := by
      rw [Filter.fieldOf_storedDoc, Filter.fieldOf_storedDoc,
        ((ha.fieldOf k.field).order_stored _).1, ((hb.fieldOf k.field).order_stored _).2]
    simp only [Stage.before, ho, ih]

theorem storedDoc_projectDoc (names : List String) (d : Fields) :
    storedDoc (Stage.projectDoc names d) = Stage.projectDoc names (storedDoc d) := by
  unfold Stage.projectDoc
  -- each step sets a field on an accumulator read back alike
  refine (List.foldl_hom storedDoc fun acc n => ?_).symm
  rw [get?_storedDoc]
  cases Fields.get? d n <;> simp [storedDoc_set]

theorem Fields.Steady.projectDoc {d : Fields} (hd : d.Steady) (names : List String) :
    (Stage.projectDoc names d).Steady := by
  unfold Stage.projectDoc
  have h0 : Fields.Steady [] := by simp [Fields.Steady]
  generalize ([] : Fields) = acc at h0 ⊢
  induction names generalizing acc with
  | nil => exact h0
  | cons n rest ih =>
    refine ih _ ?_
    dsimp only
    split
    · rename_i v hv
      exact h0.set (hd n v (Fields.mem_of_get? hv))
    · exact h0

theorem map_storedDoc_filter {xs : List Fields} (h : ∀ d ∈ xs, d.Steady) (g : Filter) :
    (xs.filter g.selects).map storedDoc = (xs.map storedDoc).filter g.selects := by
  rw [List.filter_map]
  exact congrArg _ (List.filter_congr fun d hd => ((h d hd).selects_storedDoc g).symm)

/-- Two lists of steady documents that read back alike, in order. -/
structure DocsAlike (xs ys : List Fields) : Prop where
  stored : xs.map storedDoc = ys.map storedDoc
  left : ∀ d ∈ xs, d.Steady
  right : ∀ d ∈ ys, d.Steady

namespace DocsAlike

variable {xs ys : List Fields}

theorem of_storable (h : ∀ d ∈ xs, Storable d) : DocsAlike xs (xs.map storedDoc) where
  stored := by simp [List.map_map, Function.comp_def]
  left d hd := (h d hd).steady
  right d hd := by
    obtain ⟨d', -, rfl⟩ := List.mem_map.1 hd
    exact steady_storedDoc d'

theorem length_eq (h : DocsAlike xs ys) : xs.length = ys.length := by
  simpa using congrArg List.length h.stored

theorem filter (h : DocsAlike xs ys) (g : Filter) :
    DocsAlike (xs.filter g.selects) (ys.filter g.selects) where
  stored := by rw [map_storedDoc_filter h.left, map_storedDoc_filter h.right, h.stored]
  left d hd := h.left d (List.mem_filter.1 hd).1
  right d hd := h.right d (List.mem_filter.1 hd).1

theorem mergeSort (h : DocsAlike xs ys) (keys : List SortKey) :
    DocsAlike (xs.mergeSort fun a c => !Stage.before keys c a)
      (ys.mergeSort fun a c => !Stage.before keys c a) where
  stored := by
    rw [List.map_mergeSort (s := fun a c => !Stage.before keys c a)
        fun a ha b hb => by rw [(h.left b hb).before_storedDoc (h.left a ha)],
      List.map_mergeSort (s := fun a c => !Stage.before keys c a)
        fun a ha b hb => by rw [(h.right b hb).before_storedDoc (h.right a ha)],
      h.stored]
  left d hd := h.left d (List.mem_mergeSort.1 hd)
  right d hd := h.right d (List.mem_mergeSort.1 hd)

theorem drop (h : DocsAlike xs ys) (n : Nat) : DocsAlike (xs.drop n) (ys.drop n) where
  stored := by rw [List.map_drop, List.map_drop, h.stored]
  left d hd := h.left d (List.mem_of_mem_drop hd)
  right d hd := h.right d (List.mem_of_mem_drop hd)

theorem take (h : DocsAlike xs ys) (n : Nat) : DocsAlike (xs.take n) (ys.take n) where
  stored := by rw [List.map_take, List.map_take, h.stored]
  left d hd := h.left d (List.mem_of_mem_take hd)
  right d hd := h.right d (List.mem_of_mem_take hd)

theorem project (h : DocsAlike xs ys) (names : List String) :
    DocsAlike (xs.map (Stage.projectDoc names)) (ys.map (Stage.projectDoc names)) where
  stored := by
    have hp : storedDoc ∘ Stage.projectDoc names = Stage.projectDoc names ∘ storedDoc :=
      funext (storedDoc_projectDoc names)
    rw [List.map_map, List.map_map, hp, ← List.map_map, ← List.map_map, h.stored]
  left d hd := by
    obtain ⟨d', hd', rfl⟩ := List.mem_map.1 hd
    exact (h.left d' hd').projectDoc names
  right d hd := by
    obtain ⟨d', hd', rfl⟩ := List.mem_map.1 hd
    exact (h.right d' hd').projectDoc names

theorem single {d : Fields} (hd : d.Steady) : DocsAlike [d] [d] where
  stored := rfl
  left _ h := List.mem_singleton.1 h ▸ hd
  right _ h := List.mem_singleton.1 h ▸ hd

end DocsAlike

/-- Two batches, both absent or both present, whose documents read back alike. -/
structure BatchAlike (x y : Option (List Fields)) : Prop where
  isSome : x.isSome = y.isSome
  docs : DocsAlike (x.getD []) (y.getD [])

namespace BatchAlike

variable {x y : Option (List Fields)}

theorem some {xs ys : List Fields} (h : DocsAlike xs ys) : BatchAlike (some xs) (some ys) :=
  ⟨rfl, h⟩

theorem filterPart (h : BatchAlike x y) (st : Stage) :
    BatchAlike (st.filterPart x) (st.filterPart y) := by
  unfold Stage.filterPart
  split
  · exact h
  · exact some (h.docs.filter _)

theorem sortPart (h : BatchAlike x y) (st : Stage) : BatchAlike (st.sortPart x) (st.sortPart y) := by
  have he : (x.getD []).isEmpty = (y.getD []).isEmpty := by
    rw [Bool.eq_iff_iff, List.isEmpty_iff_length_eq_zero, List.isEmpty_iff_length_eq_zero,
      h.docs.length_eq]
  unfold Stage.sortPart
  rw [he]
  split
  · exact h
  · split
    · exact ⟨rfl, ⟨rfl, by simp, by simp⟩⟩
    · exact some (h.docs.mergeSort _)

theorem skipPart (h : BatchAlike x y) (st : Stage) : BatchAlike (st.skipPart x) (st.skipPart y) := by
  unfold Stage.skipPart
  rw [h.docs.length_eq]
  split
  · split
    · exact ⟨rfl, ⟨rfl, by simp, by simp⟩⟩
    · exact some (h.docs.drop _)
  · exact h

theorem limitPart (h : BatchAlike x y) (st : Stage) :
    BatchAlike (st.limitPart x) (st.limitPart y) := by
  unfold Stage.limitPart
  rw [h.docs.length_eq]
  split
  · exact some (h.docs.take _)
  · exact h

theorem projectPart (h : BatchAlike x y) (st : Stage) :
    BatchAlike (st.projectPart x) (st.projectPart y) := by
  unfold Stage.projectPart
  split
  · exact h
  · exact some (h.docs.project _)

theorem countPart (h : BatchAlike x y) (st : Stage) :
    BatchAlike (st.countPart x) (st.countPart y) := by
  unfold Stage.countPart
  rw [h.docs.length_eq]
  split
  · exact h
  · refine some (DocsAlike.single ?_)
    intro k v hkv
    obtain ⟨-, rfl⟩ := Prod.mk.inj (List.mem_singleton.1 hkv)
    exact Value.steady_int _

theorem apply (h : BatchAlike x y) (st : Stage) : BatchAlike (st.apply x) (st.apply y) := by
  rw [Stage.apply_eq, Stage.apply_eq]
  exact (((((h.filterPart st).sortPart st).skipPart st).limitPart st).projectPart st).countPart st

theorem run (h : BatchAlike x y) (p : Pipeline) : BatchAlike (p.run x) (p.run y) := by
  induction p generalizing x y with
  | nil => exact h
  | cons st rest ih => exact ih (h.apply st)

end BatchAlike

end CrudRoutes
