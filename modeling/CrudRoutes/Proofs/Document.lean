import CrudRoutes.Store.Memory

/-!
Laws of documents as field lists: reading a field after setting, erasing or filtering fields,
the identity of a document through the changes the stores make to it, and the key a document
holds under a unique-key pattern.
-/

namespace CrudRoutes

namespace Fields

@[simp] theorem get?_set_self (fs : Fields) (k : String) (v : Value) :
    Fields.get? (Fields.set fs k v) k = some v := by
  induction fs with
  | nil => simp [Fields.set, Fields.get?]
  | cons p rest ih =>
    obtain ⟨k', v'⟩ := p
    simp only [Fields.set]
    split
    · simp [Fields.get?]
    · rename_i hne
      rw [beq_iff_eq] at hne
      split
      · simp [Fields.get?]
      · simp [Fields.get?, Ne.symm hne, ih]

theorem get?_set_of_ne (fs : Fields) {k k' : String} (v : Value) (h : k' ≠ k) :
    Fields.get? (Fields.set fs k v) k' = Fields.get? fs k' := by
  induction fs with
  | nil => simp [Fields.set, Fields.get?, Ne.symm h]
  | cons p rest ih =>
    obtain ⟨k₀, v₀⟩ := p
    simp only [Fields.set]
    split
    · rename_i hk
      rw [beq_iff_eq] at hk
      subst hk
      simp [Fields.get?, Ne.symm h]
    · split
      · simp [Fields.get?, Ne.symm h]
      · simp [Fields.get?, ih]

theorem get?_filter (fs : Fields) (p : String × Value → Bool) (k : String)
    (hp : ∀ v, p (k, v) = true) :
    Fields.get? (fs.filter p) k = Fields.get? fs k := by
  induction fs with
  | nil => rfl
  | cons q rest ih =>
    obtain ⟨k', v'⟩ := q
    by_cases hk : k' = k
    · subst hk
      simp [Fields.get?, hp]
    · by_cases hq : p (k', v') = true
      · simp [hq, Fields.get?, hk, ih]
      · simp [hq, Fields.get?, hk, ih]

theorem mem_of_get? {fs : Fields} {k : String} {v : Value}
    (h : Fields.get? fs k = some v) : (k, v) ∈ fs := by
  induction fs with
  | nil => cases h
  | cons p rest ih =>
    obtain ⟨k', v'⟩ := p
    simp only [Fields.get?] at h
    split at h
    · rename_i hk
      cases h
      simp only [beq_iff_eq] at hk
      subst hk
      exact List.mem_cons_self
    · exact List.mem_cons_of_mem _ (ih h)

theorem mem_set_of_ne {fs : Fields} {k k' : String} {v v' : Value} (hm : (k', v') ∈ fs)
    (hk : k' ≠ k) : (k', v') ∈ Fields.set fs k v := by
  induction fs with
  | nil => cases hm
  | cons p rest ih =>
    obtain ⟨k₀, v₀⟩ := p
    simp only [Fields.set]
    rcases List.mem_cons.1 hm with h | h
    · cases h
      split
      · rename_i he
        simp only [beq_iff_eq] at he
        exact absurd he.symm hk
      · split <;> simp
    · split
      · exact List.mem_cons_of_mem _ h
      · split
        · exact List.mem_cons_of_mem _ (List.mem_cons_of_mem _ h)
        · exact List.mem_cons_of_mem _ (ih h)

end Fields

theorem get?_withoutFields_of_not_mem (doc : Fields) {names : List String} {k : String}
    (h : k ∉ names) : Fields.get? (withoutFields doc names) k = Fields.get? doc k := by
  apply Fields.get?_filter
  simp [h]

theorem docId_congr {d d' : Fields} (h : Fields.get? d fieldId = Fields.get? d' fieldId) :
    docId d = docId d' := by
  simp only [docId, h]

@[simp] theorem docId_set_of_ne (d : Fields) {k : String} (v : Value) (h : k ≠ fieldId) :
    docId (Fields.set d k v) = docId d :=
  docId_congr (Fields.get?_set_of_ne d v (Ne.symm h))

@[simp] theorem docId_set_id (d : Fields) (s : String) :
    docId (Fields.set d fieldId (.str s)) = s := by
  simp [docId]

theorem docId_withoutFields (d : Fields) {names : List String} (h : fieldId ∉ names) :
    docId (withoutFields d names) = docId d :=
  docId_congr (get?_withoutFields_of_not_mem d h)

@[simp] theorem fieldCreatedAt_ne_fieldId : fieldCreatedAt ≠ fieldId := by decide

@[simp] theorem fieldUpdatedAt_ne_fieldId : fieldUpdatedAt ≠ fieldId := by decide

theorem get?_foldl_merge (set current : Fields) :
    Fields.get? (set.foldl (fun acc (kv : String × Value) =>
      if kv.1 == fieldId || kv.1 == fieldCreatedAt then acc else Fields.set acc kv.1 kv.2)
      current) fieldId = Fields.get? current fieldId := by
  induction set generalizing current with
  | nil => rfl
  | cons kv rest ih =>
    obtain ⟨k, v⟩ := kv
    simp only [List.foldl_cons]
    rw [ih]
    split
    · rfl
    · rename_i hk
      simp only [Bool.or_eq_true, beq_iff_eq, not_or] at hk
      exact Fields.get?_set_of_ne current v (Ne.symm hk.1)

theorem Fields.get?_mergeChange_id (now : Time) (current set : Fields) :
    Fields.get? (mergeChange now current set) fieldId = Fields.get? current fieldId := by
  unfold mergeChange
  rw [Fields.get?_set_of_ne _ _ (Ne.symm fieldUpdatedAt_ne_fieldId)]
  exact get?_foldl_merge set current

@[simp] theorem docId_mergeChange (now : Time) (current set : Fields) :
    docId (mergeChange now current set) = docId current :=
  docId_congr (Fields.get?_mergeChange_id now current set)

theorem uuidOf_ne_empty (n : Nat) : uuidOf n ≠ "" := by
  intro h
  have e : uuidOf n = "00000000-0000-4000-8000-" ++ Text.hexWidth n 12 := rfl
  have hl := congrArg String.toList (e.symm.trans h)
  simp only [String.toList_append, String.toList_empty, List.append_eq_nil_iff] at hl
  have hp : "00000000-0000-4000-8000-".toList ≠ [] := by decide
  exact hp hl.1

mutual

@[simp] theorem Value.stored_stored : (v : Value) → Value.stored (Value.stored v) = Value.stored v
  | .null | .bool _ | .num _ | .int _ | .str _ | .time _ => rfl
  | .arr xs | .anyOf xs => by simp only [Value.stored, Value.storedItems_stored xs]
  | .obj fs | .doc fs => by simp only [Value.stored, Value.storedFields_stored fs]

@[simp] theorem Value.storedItems_stored : (xs : List Value) →
    Value.storedItems (Value.storedItems xs) = Value.storedItems xs
  | [] => rfl
  | v :: rest => by
    simp only [Value.storedItems, Value.stored_stored v, Value.storedItems_stored rest]

@[simp] theorem Value.storedFields_stored : (fs : List (String × Value)) →
    Value.storedFields (Value.storedFields fs) = Value.storedFields fs
  | [] => rfl
  | (k, v) :: rest => by
    simp only [Value.storedFields, Value.stored_stored v, Value.storedFields_stored rest]

end

@[simp] theorem storedDoc_storedDoc (d : Fields) : storedDoc (storedDoc d) = storedDoc d :=
  Value.storedFields_stored d

theorem get?_storedDoc (d : Fields) (k : String) :
    Fields.get? (storedDoc d) k = (Fields.get? d k).map Value.stored := by
  induction d with
  | nil => rfl
  | cons p rest ih =>
    obtain ⟨k', v⟩ := p
    simp only [storedDoc, Value.storedFields, Fields.get?] at ih ⊢
    split <;> simp [ih]

theorem docId_storedDoc_of {next found : Fields}
    (h : Fields.get? next fieldId = Fields.get? found fieldId) (hf : storedDoc found = found) :
    docId (storedDoc next) = docId found := by
  apply docId_congr
  rw [get?_storedDoc, h, ← get?_storedDoc, hf]

theorem docId_storedDoc_of_get {d : Fields} {s : String}
    (h : Fields.get? d fieldId = some (.str s)) : docId (storedDoc d) = s := by
  simp [docId, get?_storedDoc, h, Value.stored]

theorem docId_prepare_ne_empty (h : Host) (doc : Fields) :
    docId (MemoryStore.prepare h doc).1 ≠ "" := by
  by_cases hd : docId (withoutFields doc [fieldCreatedAt, fieldUpdatedAt]) = ""
  · simp [MemoryStore.prepare, hd, Host.draw, uuidOf_ne_empty]
  · simp [MemoryStore.prepare, hd]

namespace Json

theorem unwritableItems?_eq_none_iff :
    ∀ {xs : List Value}, unwritableItems? xs = none ↔ ∀ v ∈ xs, unwritable? v = none
  | [] => by simp [unwritableItems?]
  | v :: rest => by simp [unwritableItems?, unwritableItems?_eq_none_iff]

theorem unwritableFields?_eq_none_iff :
    ∀ {fs : List (String × Value)}, unwritableFields? fs = none ↔ ∀ p ∈ fs, unwritable? p.2 = none
  | [] => by simp [unwritableFields?]
  | (k, v) :: rest => by simp [unwritableFields?, unwritableFields?_eq_none_iff]

end Json

end CrudRoutes
