import Mathlib
import CrudRoutes.Proofs.Store.ReadBack
import CrudRoutes.Proofs.ValueOrder

/-!
Which values loosely equal their own read-back.

Loose equality normalises only the top of a value; below the top it is strict, so an integer,
an instant or a held document inside an array or an object never equals the double, the text or
the object it reads back as, and an instant shown in another zone than UTC is normalised to a
text its read-back does not have. Exactly the steady values survive the round trip: for a value
whose objects have distinct keys and whose read-back JSON can write, `looseEq v v.stored` holds
if and only if `v` is steady (`looseEq_stored_iff_steady`).
-/

namespace CrudRoutes

namespace Value

mutual

/-- Whether every object and held document inside a value has distinct keys. -/
def keysDistinct : Value → Bool
  | .arr xs => itemsKeysDistinct xs
  | .anyOf xs => itemsKeysDistinct xs
  | .obj fs => decide (fs.map Prod.fst).Nodup && fieldsKeysDistinct fs
  | .doc fs => decide (fs.map Prod.fst).Nodup && fieldsKeysDistinct fs
  | _ => true

def itemsKeysDistinct : List Value → Bool
  | [] => true
  | v :: rest => keysDistinct v && itemsKeysDistinct rest

def fieldsKeysDistinct : List (String × Value) → Bool
  | [] => true
  | (_, v) :: rest => keysDistinct v && fieldsKeysDistinct rest

end

theorem get?_of_mem {fs : Fields} (hn : (fs.map Prod.fst).Nodup) {k : String} {u : Value}
    (h : (k, u) ∈ fs) : Fields.get? fs k = some u := by
  induction fs with
  | nil => cases h
  | cons p rest ih =>
    obtain ⟨k', u'⟩ := p
    simp only [List.map_cons, List.nodup_cons, List.mem_map] at hn
    rcases List.mem_cons.1 h with h | h
    · cases h
      simp [Fields.get?]
    · have hk : k' ≠ k := fun he => hn.1 ⟨(k, u), h, he.symm⟩
      simp [Fields.get?, hk, ih hn.2 h]

theorem sameFields_of_forall {fs gs : List (String × Value)}
    (h : ∀ k u, (k, u) ∈ fs → ∃ w, Fields.get? gs k = some w ∧ same u w = true) :
    sameFields fs gs = true := by
  induction fs with
  | nil => rfl
  | cons p rest ih =>
    obtain ⟨k, u⟩ := p
    obtain ⟨w, hw, hs⟩ := h k u List.mem_cons_self
    simp only [sameFields, hw, hs, Bool.true_and]
    exact ih fun k' u' hm => h k' u' (List.mem_cons_of_mem _ hm)

theorem Time.beq_self (t : Time) : (t == t) = true := by
  rcases t with ⟨u, n, o⟩
  simp [BEq.beq, instBEqTime.beq]

theorem Time.getLast?_padNat (n w : Nat) :
    ∃ c, (Time.padNat n w).toList.getLast? = some c ∧ c.isDigit = true := by
  have hne : Nat.toDigits 10 n ≠ [] := Nat.toDigits_ne_nil
  refine ⟨(Nat.toDigits 10 n).getLast hne, ?_, ?_⟩
  · simp [Time.padNat, List.getLast?_append, Nat.toString_eq_repr, Nat.toList_repr,
      List.getLast?_eq_some_getLast hne]
  · exact Nat.isDigit_of_mem_toDigits (by decide) (by decide) (List.getLast_mem hne)

theorem Time.stamp_toUTC_ne {t : Time} (h : t.offset ≠ 0) : t.toUTC.stamp ≠ t.stamp := by
  intro he
  have hz : t.toUTC.stamp.toList.getLast? = some 'Z' := by
    simp [Time.stamp, Time.toUTC, List.getLast?_append]
  obtain ⟨c, hc, hd⟩ := Time.getLast?_padNat ((t.offset / 60).natAbs % 60) 2
  have ho : t.stamp.toList.getLast? = some c := by
    simp [Time.stamp, h, Time.offsetText, List.getLast?_append, List.getLast?_cons, hc]
  rw [he, ho] at hz
  cases hz
  exact absurd hd (by decide)

theorem isNaN_of_unwritable_num {x : Float} (h : Json.unwritable? (.num x) = none) :
    x.isNaN = false := by
  simp only [Json.unwritable?, Json.numberUnwritable?] at h
  split at h
  · cases h
  · rename_i hx
    exact Bool.eq_false_iff.mpr hx

mutual

theorem same_self : (v : Value) → v.keysDistinct = true → Json.unwritable? v = none →
    same v v = true
  | .null, _, _ | .bool _, _, _ | .int _, _, _ | .str _, _, _ => by simp [same]
  | .time t, _, _ => Time.beq_self t
  | .num x, _, hw => Float.beq_self (isNaN_of_unwritable_num hw)
  | .arr xs, hk, hw => sameItems_self xs hk hw
  | .anyOf xs, hk, hw => sameItems_self xs hk hw
  | .obj fs, hk, hw | .doc fs, hk, hw => by
    simp only [keysDistinct, Bool.and_eq_true, decide_eq_true_eq] at hk
    simp only [same, beq_self_eq_true, Bool.true_and]
    exact sameFields_of_forall fun k u hm =>
      ⟨u, get?_of_mem hk.1 hm, same_self_of_mem fs hk.2 hw k u hm⟩

theorem sameItems_self : (xs : List Value) → itemsKeysDistinct xs = true →
    Json.unwritableItems? xs = none → sameItems xs xs = true
  | [], _, _ => rfl
  | v :: rest, hk, hw => by
    simp only [itemsKeysDistinct, Bool.and_eq_true] at hk
    simp only [Json.unwritableItems?, Option.or_eq_none_iff] at hw
    simp only [sameItems, same_self v hk.1 hw.1, sameItems_self rest hk.2 hw.2, Bool.and_self]

theorem same_self_of_mem : (fs : List (String × Value)) → fieldsKeysDistinct fs = true →
    Json.unwritableFields? fs = none → ∀ k u, (k, u) ∈ fs → same u u = true
  | [], _, _, _, _, h => by cases h
  | (_, v) :: rest, hk, hw, k, u, h => by
    simp only [fieldsKeysDistinct, Bool.and_eq_true] at hk
    simp only [Json.unwritableFields?, Option.or_eq_none_iff] at hw
    rcases List.mem_cons.1 h with h | h
    · obtain ⟨-, rfl⟩ := Prod.mk.inj h
      exact same_self _ hk.1 hw.1
    · exact same_self_of_mem rest hk.2 hw.2 k u h

end

theorem stored_of_mem {fs : List (String × Value)} (h : storedFields fs = fs) {k : String}
    {w : Value} (hm : (k, w) ∈ fs) : w.stored = w := by
  induction fs with
  | nil => cases hm
  | cons p rest ih =>
    obtain ⟨k', w'⟩ := p
    simp only [storedFields, List.cons.injEq, Prod.mk.injEq, true_and] at h
    rcases List.mem_cons.1 hm with hm | hm
    · cases hm
      exact h.1
    · exact ih h.2 hm

mutual

theorem stored_eq_of_same : (v w : Value) → same v w = true → w.stored = w → v.stored = v
  | .null, _, _, _ | .bool _, _, _, _ | .num _, _, _, _ | .str _, _, _, _ => rfl
  -- an integer, an instant, a list of alternatives or a held document is strictly equal only to
  -- one of its kind, which does not read back as itself
  | .int _, w, hs, hw | .time _, w, hs, hw | .anyOf _, w, hs, hw | .doc _, w, hs, hw => by
    cases w <;> simp [same, stored] at hs hw
  | .arr xs, w, hs, hw => by
    cases w with
    | arr ys =>
      simp only [stored, Value.arr.injEq] at hw ⊢
      exact storedItems_eq_of_same xs ys hs hw
    | _ => simp [same] at hs
  | .obj fs, w, hs, hw => by
    cases w with
    | obj gs =>
      simp only [same, Bool.and_eq_true] at hs
      simp only [stored, Value.obj.injEq] at hw ⊢
      exact storedFields_eq_of_same fs gs hs.2 hw
    | _ => simp [same] at hs

theorem storedItems_eq_of_same : (xs ys : List Value) → sameItems xs ys = true →
    storedItems ys = ys → storedItems xs = xs
  | [], _, _, _ => rfl
  | _ :: _, [], hs, _ => by simp [sameItems] at hs
  | x :: xs, y :: ys, hs, hw => by
    simp only [sameItems, Bool.and_eq_true] at hs
    simp only [storedItems, List.cons.injEq] at hw ⊢
    exact ⟨stored_eq_of_same x y hs.1 hw.1, storedItems_eq_of_same xs ys hs.2 hw.2⟩

theorem storedFields_eq_of_same : (fs gs : List (String × Value)) → sameFields fs gs = true →
    storedFields gs = gs → storedFields fs = fs
  | [], _, _, _ => rfl
  | (k, u) :: rest, gs, hs, hw => by
    simp only [sameFields, Bool.and_eq_true] at hs
    obtain ⟨hu, hrest⟩ := hs
    split at hu
    · rename_i w hget
      have hw' : w.stored = w := stored_of_mem hw (Fields.mem_of_get? hget)
      simp only [storedFields, stored_eq_of_same u w hu hw', storedFields_eq_of_same rest gs hrest hw]
    · cases hu

end

theorem normalize_of_stored {v : Value} (h : v.stored = v) : v.normalize = v := by
  cases v <;> simp_all [stored, normalize]

theorem looseEq_self_of_stored {v : Value} (hs : v.stored = v) (hk : v.keysDistinct = true)
    (hw : Json.unwritable? v = none) : looseEq v v = true := by
  simp only [looseEq, normalize_of_stored hs, Bool.or_self, Bool.and_self]
  split
  · assumption
  · exact same_self v hk hw

theorem steady_of_looseEq_stored {v : Value} (h : looseEq v v.stored = true) : v.Steady := by
  -- strictly equal values read back alike, and the read-back reads back as itself
  have of_same : same v v.stored = true → v.Steady := fun hs =>
    steady_of_stored (stored_eq_of_same v v.stored hs (stored_stored v))
  cases v with
  | int n => exact steady_int n
  | time t =>
    refine steady_time (Decidable.byContradiction fun ho => ?_)
    simp only [looseEq, normalize, stored, isNull, Bool.or_self, Bool.false_eq_true, if_false,
      same, beq_iff_eq] at h
    exact Time.stamp_toUTC_ne ho h
  | arr xs | anyOf xs | obj fs =>
    -- below the top, loose equality is strict
    exact of_same (by simpa [looseEq, normalize, stored, isNull] using h)
  | doc fs =>
    -- a held document is compared as the object it reads back as
    have hs : same (.obj fs) (.obj (storedFields fs)) = true := by
      simpa [looseEq, normalize, stored, isNull] using h
    have ho := stored_eq_of_same (.obj fs) _ hs (stored_stored (.obj fs))
    exact steady_doc (by simpa [stored] using ho)
  | null | bool | num | str => exact steady_of_stored rfl

theorem looseEq_stored_of_steady {v : Value} (hk : v.keysDistinct = true)
    (hw : Json.unwritable? v.stored = none) (hs : v.Steady) : looseEq v v.stored = true := by
  rcases hs with hs | ⟨t, rfl, ht⟩ | ⟨n, rfl⟩ | ⟨fs, rfl, hfs⟩
  · rw [hs] at hw ⊢
    exact looseEq_self_of_stored hs hk hw
  · have hutc : t.toUTC = t := by
      rcases t with ⟨u, n, o⟩
      simp only at ht
      simp [Time.toUTC, ht]
    simp [looseEq, normalize, stored, isNull, same, hutc]
  · simp only [looseEq, normalize, stored, isNull, Bool.or_self, Bool.false_eq_true, if_false, same]
    exact Float.beq_self (isNaN_of_unwritable_num hw)
  · -- a held document is compared as the object it reads back as
    have hw' : Json.unwritable? (.obj fs) = none := by simpa only [stored, hfs] using hw
    have hk' : (Value.obj fs).keysDistinct = true := by simpa only [keysDistinct] using hk
    simp only [looseEq, normalize, stored, hfs, isNull, Bool.or_self, Bool.false_eq_true, if_false]
    exact same_self _ hk' hw'

/-- A value with distinct keys whose read-back JSON can write loosely equals its read-back exactly
when it is steady: an integer, an instant in UTC, a held document holding no integer, instant,
list of alternatives or held document, or a value holding none of these. -/
theorem looseEq_stored_iff_steady {v : Value} (hk : v.keysDistinct = true)
    (hw : Json.unwritable? v.stored = none) : looseEq v v.stored = true ↔ v.Steady :=
  ⟨steady_of_looseEq_stored, looseEq_stored_of_steady hk hw⟩

theorem tagged_note_equals_read_back :
    (Value.obj [("title", .str "a"), ("tags", .arr [.str "x", .bool true])]).keysDistinct = true ∧
    Json.unwritable? (Value.obj [("title", .str "a"), ("tags", .arr [.str "x", .bool true])]).stored =
      none ∧
    (looseEq (.obj [("title", .str "a"), ("tags", .arr [.str "x", .bool true])])
        (Value.obj [("title", .str "a"), ("tags", .arr [.str "x", .bool true])]).stored = true ↔
      (Value.obj [("title", .str "a"), ("tags", .arr [.str "x", .bool true])]).Steady) :=
  ⟨by decide, by decide, looseEq_stored_iff_steady (by decide) (by decide)⟩

/-- Values that differ from their read-back: an integer inside an array, which reads back as a
double, a held document inside an array, which reads back as an object, and an instant two hours
east of UTC, which reads back as its own timestamp text while loose equality compares the UTC
text. -/
theorem nested_integer_document_and_zoned_instant_differ_from_read_back :
    looseEq (.arr [.int 1]) (Value.arr [.int 1]).stored = false ∧
    looseEq (.arr [.doc [("a", .str "x")]]) (Value.arr [.doc [("a", .str "x")]]).stored = false ∧
    Time.stamp ⟨1704067200, 0, 7200⟩ = "2024-01-01T02:00:00+02:00" ∧
    looseEq (.time ⟨1704067200, 0, 7200⟩) (Value.time ⟨1704067200, 0, 7200⟩).stored = false := by
  decide

end Value

end CrudRoutes
