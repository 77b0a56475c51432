import Mathlib
import CrudRoutes.Shape.Check
import CrudRoutes.Proofs.Document

/-!
Conformance of documents to shapes. A document conforms to a shape when every field it holds with
a value other than null is a field of the shape, every required field of the shape holds such a
value, and every such value has the kind of its field, judged on its JSON form. The check asks a
validator of the JSON Schema built from the shape for its errors and reports one of them.

For every validator that reports one error per undeclared, missing and mistyped property, naming
each by its property, the check of a shape by its own schema decides conformance, and refuses a
document with the least undeclared name, or else with the fault of the first field, in
declaration order, that is missing or mistyped (`check_decides_conformance`). It needs distinct
field names, as every shape projected from an entity has, and names without a dot: an error on a
value is filed under its path up to the first dot, so the fault of a field `a.b` is reported for
the field `a` (`dotted_field_fault_filed_under_prefix`).
-/

namespace CrudRoutes

namespace Shape

/-! The least of a list of names. -/

theorem foldl_ne_none {α β : Type} {g : Option α → β → Option α}
    (hg : ∀ a b, g (some a) b ≠ none) : ∀ (l : List β) (a : α), l.foldl g (some a) ≠ none := by
  intro l
  induction l with
  | nil => exact fun a => Option.some_ne_none a
  | cons b rest ih =>
    intro a
    obtain ⟨a', ha'⟩ := Option.ne_none_iff_exists'.1 (hg a b)
    rw [List.foldl_cons, ha']
    exact ih a'

theorem foldl_keeps_least {g : Option String → String → Option String}
    (hg : ∀ m n, g (some m) n = if n < m then some n else some m) :
    ∀ (l : List String) (a m : String), l.foldl g (some a) = some m →
      m ∈ a :: l ∧ ∀ x ∈ a :: l, m ≤ x := by
  intro l
  induction l with
  | nil =>
    intro a m h
    cases h
    exact ⟨List.mem_singleton_self _, fun x hx => (List.mem_singleton.1 hx).ge⟩
  | cons n rest ih =>
    intro a m h
    rw [List.foldl_cons, hg] at h
    -- the fold goes on from the lesser of `n` and `a`
    by_cases hna : n < a
    · rw [if_pos hna] at h
      obtain ⟨hmem, hle⟩ := ih n m h
      have hmn : m ≤ n := hle n List.mem_cons_self
      refine ⟨List.mem_cons_of_mem _ hmem, fun x hx => ?_⟩
      rcases List.mem_cons.1 hx with rfl | hx
      · exact (hmn.trans_lt hna).le
      · exact hle x hx
    · rw [if_neg hna] at h
      obtain ⟨hmem, hle⟩ := ih a m h
      have hma : m ≤ a := hle a List.mem_cons_self
      refine ⟨?_, fun x hx => ?_⟩
      · rcases List.mem_cons.1 hmem with he | he
        · exact he ▸ List.mem_cons_self
        · exact List.mem_cons_of_mem _ (List.mem_cons_of_mem _ he)
      rcases List.mem_cons.1 hx with rfl | hx
      · exact hma
      rcases List.mem_cons.1 hx with rfl | hx
      · exact hma.trans (not_lt.1 hna)
      · exact hle x (List.mem_cons_of_mem _ hx)

theorem least?_eq_none_iff {names : List String} : least? names = none ↔ names = [] := by
  refine ⟨fun h => ?_, fun h => h ▸ rfl⟩
  cases names with
  | nil => rfl
  | cons n rest =>
    -- the first name starts the fold, and the fold holds a name from then on
    unfold least? at h
    rw [List.foldl_cons] at h
    dsimp only at h
    exact absurd h (foldl_ne_none (fun m k => by dsimp only; split <;> simp) rest n)

theorem least?_eq_some {names : List String} {m : String} (h : least? names = some m) :
    m ∈ names ∧ ∀ x ∈ names, m ≤ x := by
  cases names with
  | nil => cases h
  | cons n rest =>
    unfold least? at h
    rw [List.foldl_cons] at h
    exact foldl_keeps_least (fun _ _ => rfl) rest n m h

/-! The validator's errors. -/

/-- A validator of the JSON Schema built from fields that reports, for the fields a document
holds, one error for each property the schema does not declare, each required property that is
missing and each value its property's kind does not accept, naming each by its property. -/
structure Faithful (validator : List Field → Fields → List SchemaError) : Prop where
  additional : ∀ rules doc p, .additional p ∈ validator rules doc ↔
    (∃ v, (p, v) ∈ doc) ∧ ∀ r ∈ rules, r.name ≠ p
  required : ∀ rules doc p, .required p ∈ validator rules doc ↔
    p ∈ requiredNames rules ∧ Fields.get? doc p = none
  invalid : ∀ rules doc p, (∃ d, .invalid p d ∈ validator rules doc) ↔
    ∃ v k, Fields.get? doc p = some v ∧ propertyKind? rules p = some k ∧ kindAccepts k v = false

theorem mem_propertyNames {rules : List Field} {n : String} :
    n ∈ propertyNames rules ↔ ∃ r ∈ rules, r.name = n := by
  simp [propertyNames, List.mem_eraseDups]

theorem propertyKind?_eq_some {rules : List Field} {n k : String}
    (h : propertyKind? rules n = some k) : ∃ r ∈ rules, r.name = n ∧ r.kind = k := by
  obtain ⟨r, hr, rfl⟩ := Option.map_eq_some_iff.1 h
  have hmem := List.mem_of_find?_eq_some hr
  exact ⟨r, List.mem_reverse.1 hmem, by simpa using List.find?_some hr, rfl⟩

theorem propertyKind?_isSome_iff {rules : List Field} {n : String} :
    (propertyKind? rules n).isSome ↔ ∃ r ∈ rules, r.name = n := by
  simp [propertyKind?, List.find?_isSome]

theorem propertyKind?_of_mem {rules : List Field} (hn : (rules.map (·.name)).Nodup) {f : Field}
    (hf : f ∈ rules) : propertyKind? rules f.name = some f.kind := by
  obtain ⟨k, hk⟩ := Option.isSome_iff_exists.1 (propertyKind?_isSome_iff.2 ⟨f, hf, rfl⟩)
  obtain ⟨r, hr, hname, rfl⟩ := propertyKind?_eq_some hk
  rw [hk, List.inj_on_of_nodup_map hn hr hf hname]

theorem validate_faithful : Faithful validate where
  additional rules doc p := by
    simp only [validate, List.mem_append, List.mem_map, List.mem_filter, List.mem_filterMap]
    constructor
    · rintro ((⟨_, _, h⟩ | ⟨k, ⟨⟨⟨k', v⟩, hm, rfl⟩, hany⟩, h⟩) | ⟨n, -, h⟩)
      · cases h
      · cases h
        exact ⟨⟨v, hm⟩, fun r hr he => by simp_all⟩
      · split at h <;> (try split at h) <;> cases h
    · rintro ⟨⟨v, hm⟩, hr⟩
      refine .inl (.inr ⟨p, ⟨⟨(p, v), hm, rfl⟩, ?_⟩, rfl⟩)
      simpa using hr
  required rules doc p := by
    simp only [validate, List.mem_append, List.mem_map, List.mem_filter, List.mem_filterMap]
    constructor
    · rintro ((⟨n, ⟨hn, hhas⟩, h⟩ | ⟨_, _, h⟩) | ⟨n, -, h⟩)
      · cases h
        simpa [Fields.has] using And.intro hn hhas
      · cases h
      · split at h <;> (try split at h) <;> cases h
    · rintro ⟨hn, hget⟩
      exact .inl (.inl ⟨p, ⟨hn, by simp [Fields.has, hget]⟩, rfl⟩)
  invalid rules doc p := by
    simp only [validate, List.mem_append, List.mem_map, List.mem_filter, List.mem_filterMap]
    constructor
    · rintro ⟨d, (⟨_, _, h⟩ | ⟨_, _, h⟩) | ⟨n, -, h⟩⟩
      · cases h
      · cases h
      · split at h
        · rename_i v k hv hk
          split at h
          · cases h
          · rename_i hacc
            cases h
            exact ⟨v, k, hv, hk, by simpa using hacc⟩
        · cases h
    · rintro ⟨v, k, hv, hk, hacc⟩
      refine ⟨kindDescription k v, .inr ⟨p, ?_, ?_⟩⟩
      · obtain ⟨r, hr, hname, -⟩ := propertyKind?_eq_some hk
        exact mem_propertyNames.2 ⟨r, hr, hname⟩
      · simp [hv, hk, hacc]

/-! The errors of a conforming document. -/

def held? (doc : Fields) (name : String) : Option Value :=
  Fields.get? (present doc) name

theorem mem_present {doc : Fields} {k : String} {v : Value} :
    (k, v) ∈ present doc ↔ (k, v) ∈ doc ∧ v.isNull = false := by
  simp [present]

/-- A name the document holds with a value other than null and that no field of the shape has. -/
def Undeclared (s : Shape) (doc : Fields) (k : String) : Prop :=
  ∃ v, (k, v) ∈ doc ∧ v.isNull = false ∧ ∀ f ∈ s.fields, f.name ≠ k

/-- A document conforms to a shape: every name it holds with a value other than null is a field
of the shape, every required field holds such a value, and every value held has its field's kind:
a string, a number, a boolean, an object or an array for those kinds, a string written as a date,
a clock time or a timestamp for a time, and anything for any other kind. -/
structure Conforms (s : Shape) (doc : Fields) : Prop where
  declared : ∀ k, ¬ s.Undeclared doc k
  required : ∀ f ∈ s.fields, f.required = true → held? doc f.name ≠ none
  kinds : ∀ f ∈ s.fields, ∀ v, held? doc f.name = some v → kindAccepts f.kind v = true

/-- The fault of one field in a document: missing when it is required and not held, of the wrong
kind when the value held does not have its kind. -/
def fieldFault (doc : Fields) (f : Field) : Option ShapeError :=
  match held? doc f.name with
  | none => if f.required then some (.missing f.name) else none
  | some v => if kindAccepts f.kind v then none else some (.wrongKind f.name f.kind)

theorem filedUnder?_invalid_of_not_mem {p d : String} (h : '.' ∉ p.toList) :
    (SchemaError.invalid p d).filedUnder? = some p := by
  simp only [SchemaError.filedUnder?, Option.some.injEq]
  rw [List.takeWhile_eq_self_iff.2 fun c hc => by
    simp only [ne_eq, decide_eq_true_eq]
    rintro rfl
    exact h hc]
  exact String.ofList_toList

section Errors

variable {V : List Field → Fields → List SchemaError} (hV : Faithful V) {s : Shape} {doc : Fields}
include hV

theorem additional_mem_iff {k : String} :
    .additional k ∈ V s.fields (present doc) ↔ s.Undeclared doc k := by
  simp only [hV.additional, Undeclared, mem_present]
  constructor
  · rintro ⟨⟨v, hm, hv⟩, hf⟩
    exact ⟨v, hm, hv, hf⟩
  · rintro ⟨v, hm, hv, hf⟩
    exact ⟨⟨v, hm, hv⟩, hf⟩

theorem required_mem_iff_of_mem (hn : (s.fields.map (·.name)).Nodup) {f : Field}
    (hf : f ∈ s.fields) :
    .required f.name ∈ V s.fields (present doc) ↔ f.required = true ∧ held? doc f.name = none := by
  rw [hV.required, held?]
  simp only [requiredNames, List.mem_map, List.mem_filter, and_congr_left_iff]
  intro _
  constructor
  · rintro ⟨r, ⟨hr, hreq⟩, hname⟩
    rwa [← List.inj_on_of_nodup_map hn hr hf hname]
  · exact fun h => ⟨f, ⟨hf, h⟩, rfl⟩

theorem invalid_mem_iff_of_mem (hn : (s.fields.map (·.name)).Nodup) {f : Field}
    (hf : f ∈ s.fields) :
    (∃ d, .invalid f.name d ∈ V s.fields (present doc)) ↔
      ∃ v, held? doc f.name = some v ∧ kindAccepts f.kind v = false := by
  rw [hV.invalid, held?, propertyKind?_of_mem hn hf]
  simp

theorem field_of_invalid_mem {p d : String} (h : .invalid p d ∈ V s.fields (present doc)) :
    ∃ f ∈ s.fields, f.name = p := by
  obtain ⟨v, k, -, hk, -⟩ := (hV.invalid _ _ p).1 ⟨d, h⟩
  obtain ⟨r, hr, hname, -⟩ := propertyKind?_eq_some hk
  exact ⟨r, hr, hname⟩

theorem errors_eq_nil_iff (hn : (s.fields.map (·.name)).Nodup) :
    V s.fields (present doc) = [] ↔ s.Conforms doc := by
  constructor
  · intro h
    refine ⟨fun k hk => ?_, fun f hf hreq hheld => ?_, fun f hf v hv => ?_⟩
    · have := (additional_mem_iff hV).2 hk
      simp [h] at this
    · have := (required_mem_iff_of_mem hV hn hf).2 ⟨hreq, hheld⟩
      simp [h] at this
    · by_contra hacc
      obtain ⟨d, hd⟩ := (invalid_mem_iff_of_mem hV hn hf).2 ⟨v, hv, by simpa using hacc⟩
      simp [h] at hd
  · intro hc
    refine List.eq_nil_iff_forall_not_mem.2 fun e he => ?_
    -- every error names a property, and a conforming document gives none a reason
    cases e with
    | additional p => exact hc.declared p ((additional_mem_iff hV).1 he)
    | required p =>
      obtain ⟨hp, hget⟩ := (hV.required _ _ p).1 he
      obtain ⟨f, hf, rfl⟩ := List.mem_map.1 hp
      obtain ⟨hf, hreq⟩ := List.mem_filter.1 hf
      exact hc.required f hf (by simpa using hreq) hget
    | invalid p d =>
      obtain ⟨f, hf, rfl⟩ := field_of_invalid_mem hV he
      obtain ⟨v, hv, hacc⟩ := (invalid_mem_iff_of_mem hV hn hf).1 ⟨d, he⟩
      simp [hc.kinds f hf v hv] at hacc

theorem filedError_eq_fieldFault (hn : (s.fields.map (·.name)).Nodup)
    (hd : ∀ f ∈ s.fields, '.' ∉ f.name.toList) {f : Field} (hf : f ∈ s.fields) :
    filedError s (V s.fields (present doc)) f.name = fieldFault doc f := by
  have hfield : s.field? f.name = some f := by
    obtain ⟨g, hg⟩ := Option.isSome_iff_exists.1
      (List.find?_isSome.2 ⟨f, hf, beq_self_eq_true f.name⟩ : (s.field? f.name).isSome)
    have hgm := List.mem_of_find?_eq_some hg
    rw [Shape.field?, hg, List.inj_on_of_nodup_map hn hgm hf (by simpa using List.find?_some hg)]
  -- an error filed under the field's name is an error on the field's own value
  have hfiled : (V s.fields (present doc)).any (·.filedUnder? == some f.name) = true ↔
      ∃ v, held? doc f.name = some v ∧ kindAccepts f.kind v = false := by
    rw [← invalid_mem_iff_of_mem hV hn hf, List.any_eq_true]
    constructor
    · rintro ⟨e, he, hfe⟩
      cases e with
      | invalid p d =>
        obtain ⟨g, hg, rfl⟩ := field_of_invalid_mem hV he
        rw [filedUnder?_invalid_of_not_mem (hd g hg), beq_iff_eq, Option.some.injEq] at hfe
        exact ⟨d, hfe ▸ he⟩
      | _ => simp [SchemaError.filedUnder?] at hfe
    · rintro ⟨d, hd'⟩
      exact ⟨_, hd', by rw [filedUnder?_invalid_of_not_mem (hd f hf)]; simp⟩
  have hreq : .required f.name ∈ V s.fields (present doc) ↔ _ := required_mem_iff_of_mem hV hn hf
  unfold filedError fieldFault
  cases hheld : held? doc f.name with
  | none =>
    have hno : ¬ (V s.fields (present doc)).any (·.filedUnder? == some f.name) = true := by
      simp [hfiled, hheld]
    cases hr : f.required <;> simp [hreq, hr, hheld, hno]
  | some v =>
    have hreq' : ¬ .required f.name ∈ V s.fields (present doc) := by simp [hreq, hheld]
    cases hacc : kindAccepts f.kind v
    · simp [hreq', hfiled, hheld, hacc, hfield]
    · have hno : ¬ (V s.fields (present doc)).any (·.filedUnder? == some f.name) = true := by
        simp [hfiled, hheld, hacc]
      simp [hreq', hno, hacc]

end Errors

theorem findSome?_congr_of_mem {α β : Type} {g h : α → Option β} :
    ∀ {l : List α}, (∀ a ∈ l, g a = h a) → l.findSome? g = l.findSome? h
  | [], _ => rfl
  | a :: rest, hl => by
    rw [List.findSome?_cons, List.findSome?_cons, hl a List.mem_cons_self,
      findSome?_congr_of_mem fun b hb => hl b (List.mem_cons_of_mem _ hb)]

theorem requiredNames_nodup {rules : List Field} (hn : (rules.map (·.name)).Nodup) :
    (requiredNames rules).Nodup :=
  hn.sublist ((List.filter_sublist).map _)

theorem unwritableFields?_present {doc : Fields} (h : Json.unwritableFields? doc = none) :
    Json.unwritableFields? (present doc) = none :=
  Json.unwritableFields?_eq_none_iff.2 fun p hp =>
    Json.unwritableFields?_eq_none_iff.1 h p (List.mem_filter.1 hp).1

theorem checkWith_eq {V : List Field → Fields → List SchemaError} {rules : List Field} {s : Shape}
    {doc : Fields} (hs : s.fields ≠ []) (hc : compileError? rules = none)
    (hw : Json.unwritableFields? doc = none) :
    s.checkWith V rules doc =
      if V rules (present doc) = [] then .ok () else .error (report s (V rules (present doc))) := by
  have hfe : s.fields.isEmpty = false := List.isEmpty_eq_false_iff.2 hs
  simp only [checkWith, hfe, Bool.false_eq_true, if_false, hc, unwritableFields?_present hw]
  split <;> simp_all [throw, throwThe, MonadExceptOf.throw, pure, Except.pure]

theorem checkWith_declared {V : List Field → Fields → List SchemaError} (hV : Faithful V)
    {rules : List Field} {s : Shape} {doc : Fields} (hs : s.fields ≠ [])
    (h : (s.checkWith V rules doc).isOk = true) {k : String} {v : Value} (hm : (k, v) ∈ doc)
    (hv : v.isNull = false) : ∃ r ∈ rules, r.name = k := by
  have hfe : s.fields.isEmpty = false := List.isEmpty_eq_false_iff.2 hs
  unfold checkWith at h
  simp only [hfe, Bool.false_eq_true, if_false] at h
  split at h
  · cases h
  · split at h
    · cases h
    · split at h
      · rename_i hnil
        by_contra hk
        have hmem := (hV.additional rules (present doc) k).2
          ⟨⟨v, mem_present.2 ⟨hm, hv⟩⟩, fun r hr he => hk ⟨r, hr, he⟩⟩
        simp [hnil] at hmem
      · cases h

/-- For every validator that names its errors faithfully, a shape with fields, with distinct names
and no dot in a name, checked by its own schema against a document JSON can write: the check
passes exactly when the document conforms; a document holding an undeclared name is refused with
the least such name; and otherwise a document is refused with the fault of the first field, in
declaration order, that is missing or holds a value of the wrong kind. -/
theorem check_decides_conformance {V : List Field → Fields → List SchemaError} (hV : Faithful V)
    {s : Shape} {doc : Fields} (hs : s.fields ≠ []) (hn : (s.fields.map (·.name)).Nodup)
    (hd : ∀ f ∈ s.fields, '.' ∉ f.name.toList) (hw : Json.unwritableFields? doc = none) :
    (s.checkWith V s.fields doc = .ok () ↔ s.Conforms doc) ∧
    (∀ k, s.Undeclared doc k → ∃ k₀, s.checkWith V s.fields doc = .error (.unknownField k₀) ∧
      s.Undeclared doc k₀ ∧ ∀ k', s.Undeclared doc k' → k₀ ≤ k') ∧
    ((∀ k, ¬ s.Undeclared doc k) → ∀ e, s.fields.findSome? (fieldFault doc) = some e →
      s.checkWith V s.fields doc = .error e) := by
  have hc : compileError? s.fields = none := by
    simp [compileError?, requiredNames_nodup hn]
  have heq : s.checkWith V s.fields doc = _ := checkWith_eq hs hc hw
  set errs := V s.fields (present doc) with herrs
  have hunknown : ∀ k, k ∈ errs.filterMap SchemaError.additional? ↔ s.Undeclared doc k := by
    intro k
    rw [← additional_mem_iff hV, List.mem_filterMap]
    constructor
    · rintro ⟨e, he, hk⟩
      cases e <;> simp_all [SchemaError.additional?]
    · exact fun h => ⟨_, h, rfl⟩
  refine ⟨?_, ?_, ?_⟩
  · rw [heq, ← errors_eq_nil_iff hV hn]
    split <;> simp_all
  · intro k hk
    have hmem : .additional k ∈ errs := (additional_mem_iff hV).2 hk
    have hne : errs ≠ [] := fun h => by simp [h] at hmem
    obtain ⟨k₀, hk₀⟩ := Option.ne_none_iff_exists'.1
      (mt least?_eq_none_iff.1 (List.ne_nil_of_mem ((hunknown k).2 hk)))
    obtain ⟨hmem, hleast⟩ := least?_eq_some hk₀
    refine ⟨k₀, ?_, (hunknown k₀).1 hmem, fun k' hk' => hleast k' ((hunknown k').2 hk')⟩
    rw [heq, if_neg hne, report, hk₀]
  · intro hnone e he
    obtain ⟨f, hf, hfe⟩ := List.exists_of_findSome?_eq_some he
    -- the faulty field gives the validator an error, and no name is undeclared
    have hne : errs ≠ [] := by
      intro h
      have hconf := (errors_eq_nil_iff hV hn).1 h
      unfold fieldFault at hfe
      split at hfe
      · rename_i hheld
        split at hfe
        · exact hconf.required f hf ‹_› hheld
        · cases hfe
      · rename_i v hheld
        split at hfe
        · cases hfe
        · exact ‹¬_› (hconf.kinds f hf v hheld)
    have hleast : least? (errs.filterMap SchemaError.additional?) = none :=
      least?_eq_none_iff.2 (List.eq_nil_iff_forall_not_mem.2 fun k hk => hnone k ((hunknown k).1 hk))
    rw [heq, if_neg hne, report, hleast]
    simp only
    rw [findSome?_congr_of_mem fun g hg => filedError_eq_fieldFault hV hn hd hg, he]

end Shape

/-- The check of a shape with a required title and an optional size, by its own validator, decides
the conformance of a document without a title. -/
theorem note_shape_check_decides_conformance :
    let s : Shape :=
      { fields := [{ name := "title", kind := "string", required := true },
        { name := "size", kind := "number" }] }
    let doc : Fields := [("size", .str "big")]
    s.fields ≠ [] ∧ (s.fields.map (·.name)).Nodup ∧ (∀ f ∈ s.fields, '.' ∉ f.name.toList) ∧
      Json.unwritableFields? doc = none ∧
      ((s.checkWith Shape.validate s.fields doc = .ok () ↔ s.Conforms doc) ∧
      (∀ k, s.Undeclared doc k → ∃ k₀, s.checkWith Shape.validate s.fields doc = .error (.unknownField k₀) ∧
        s.Undeclared doc k₀ ∧ ∀ k', s.Undeclared doc k' → k₀ ≤ k') ∧
      ((∀ k, ¬ s.Undeclared doc k) → ∀ e, s.fields.findSome? (Shape.fieldFault doc) = some e →
        s.checkWith Shape.validate s.fields doc = .error e)) :=
  ⟨by decide, by decide, by decide, by decide,
    Shape.check_decides_conformance Shape.validate_faithful (by decide) (by decide) (by decide)
      (by decide)⟩

/-- A field named `a.b` holding a value of the wrong kind has its fault filed under `a`: the check
reports the field `a`, whose value has its kind, where the first faulty field is `a.b`. -/
theorem dotted_field_fault_filed_under_prefix :
    let s : Shape := { fields := [{ name := "a", kind := "bool" }, { name := "a.b", kind := "string" }] }
    let doc : Fields := [("a", .bool true), ("a.b", .bool false)]
    (∀ k, ¬ s.Undeclared doc k) ∧
      s.fields.findSome? (Shape.fieldFault doc) = some (.wrongKind "a.b" "string") ∧
      s.check doc = .error (.wrongKind "a" "bool") := by
  refine ⟨fun k ⟨v, hm, _, hf⟩ => ?_, by decide, by decide⟩
  simp only [List.mem_cons, Prod.mk.injEq, List.not_mem_nil, or_false] at hm
  rcases hm with ⟨rfl, -⟩ | ⟨rfl, -⟩
  · exact hf _ List.mem_cons_self rfl
  · exact hf _ (List.mem_cons_of_mem _ List.mem_cons_self) rfl

end CrudRoutes
