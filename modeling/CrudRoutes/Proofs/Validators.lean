import Mathlib
import CrudRoutes.Route.Envelope

/-!
Validators kept by signature. A shape is checked by the validator of its signature, built from
the first shape that had that signature. A signature writes each field as `name:kind:required;`,
and that text reads back field by field when no field name or kind holds a colon: then one
signature names one list of field rules, and a shape is checked by its validator exactly as by
itself, whatever was built before it (`check_by_validators_eq_check`). A name holding `:` and
`;` can mimic two fields, and a shape is then checked by another's validator
(`colon_name_borrows_validator`).
-/

namespace CrudRoutes

def Field.rule (f : Field) : String × String × Bool :=
  (f.name, f.kind, f.required)

/-- A field whose name and kind hold no colon, so that its text in a signature reads back. -/
def Field.Plain (f : Field) : Prop :=
  ':' ∉ f.name.toList ∧ ':' ∉ f.kind.toList

instance (f : Field) : Decidable f.Plain := inferInstanceAs (Decidable (_ ∧ _))

def Field.sigText (f : Field) : List Char :=
  f.name.toList ++ ':' :: f.kind.toList ++ ':' ::
    ((if f.required then "true" else "false").toList ++ [';'])

theorem append_cons_inj_of_not_mem {α : Type} {c : α} :
    ∀ {a b x y : List α}, c ∉ a → c ∉ b → a ++ c :: x = b ++ c :: y → a = b ∧ x = y
  | [], [], _, _, _, _, h => ⟨rfl, (List.cons.inj h).2⟩
  | [], b :: _, _, _, _, hb, h => absurd (List.cons.inj h).1 fun e => hb (e ▸ List.mem_cons_self)
  | a :: _, [], _, _, ha, _, h => absurd (List.cons.inj h).1 fun e => ha (e ▸ List.mem_cons_self)
  | a :: as, b :: bs, _, _, ha, hb, h => by
    obtain ⟨rfl, htail⟩ := List.cons.inj h
    obtain ⟨rfl, hx⟩ := append_cons_inj_of_not_mem (List.not_mem_of_not_mem_cons ha)
      (List.not_mem_of_not_mem_cons hb) htail
    exact ⟨rfl, hx⟩

namespace Field

theorem sigText_append_inj {f g : Field} (hf : f.Plain) (hg : g.Plain) {x y : List Char}
    (h : f.sigText ++ x = g.sigText ++ y) : f.rule = g.rule ∧ x = y := by
  simp only [sigText, List.append_assoc, List.cons_append] at h
  obtain ⟨hn, h⟩ := append_cons_inj_of_not_mem hf.1 hg.1 h
  obtain ⟨hk, h⟩ := append_cons_inj_of_not_mem hf.2 hg.2 h
  have hname : f.name = g.name := String.toList_inj.1 hn
  have hkind : f.kind = g.kind := String.toList_inj.1 hk
  cases hfr : f.required <;> cases hgr : g.required <;> simp [hfr, hgr] at h <;>
    simp [rule, hname, hkind, hfr, hgr, h]

end Field

namespace Shape

theorem toList_signature (s : Shape) : s.signature.toList = s.fields.flatMap Field.sigText := by
  simp only [signature, String.toList_join, List.flatMap_map, String.toList_append]
  congr 1
  funext f
  simp [Field.sigText]

theorem rules_eq_of_signature :
    ∀ {fs gs : List Field}, (∀ f ∈ fs, f.Plain) → (∀ g ∈ gs, g.Plain) →
      fs.flatMap Field.sigText = gs.flatMap Field.sigText → fs.map Field.rule = gs.map Field.rule
  | [], [], _, _, _ => rfl
  | [], g :: _, _, _, h => by simp [Field.sigText] at h
  | f :: _, [], _, _, h => by simp [Field.sigText] at h
  | f :: fs, g :: gs, hfs, hgs, h => by
    rw [List.flatMap_cons, List.flatMap_cons] at h
    obtain ⟨hfg, hrest⟩ := Field.sigText_append_inj (hfs f List.mem_cons_self)
      (hgs g List.mem_cons_self) h
    rw [List.map_cons, List.map_cons, hfg,
      rules_eq_of_signature (fun f hf => hfs f (List.mem_cons_of_mem _ hf))
        (fun g hg => hgs g (List.mem_cons_of_mem _ hg)) hrest]

/-! A check reads the fields of its validator only through their rules. -/

section Rules

variable {r₁ r₂ : List Field}

theorem requiredNames_eq_rules (r : List Field) :
    requiredNames r = ((r.map Field.rule).filter (·.2.2)).map (·.1) := by
  simp [requiredNames, List.filter_map, Function.comp_def, Field.rule]

theorem propertyNames_eq_rules (r : List Field) :
    propertyNames r = ((r.map Field.rule).map (·.1)).eraseDups := by
  simp [propertyNames, Function.comp_def, Field.rule]

theorem propertyKind?_eq_rules (r : List Field) (n : String) :
    propertyKind? r n = ((r.map Field.rule).reverse.find? (·.1 == n)).map (·.2.1) := by
  simp [propertyKind?, ← List.map_reverse, List.find?_map, Function.comp_def, Field.rule]

theorem any_name_eq_rules (r : List Field) (k : String) :
    r.any (·.name == k) = (r.map Field.rule).any (·.1 == k) := by
  rw [List.any_map]
  rfl

theorem validate_congr (h : r₁.map Field.rule = r₂.map Field.rule) (doc : Fields) :
    validate r₁ doc = validate r₂ doc := by
  simp only [validate, requiredNames_eq_rules, propertyNames_eq_rules, propertyKind?_eq_rules,
    any_name_eq_rules, h]

theorem checkAgainst_congr (h : r₁.map Field.rule = r₂.map Field.rule) (s : Shape) (doc : Fields) :
    s.checkAgainst r₁ doc = s.checkAgainst r₂ doc := by
  have hc : compileError? r₁ = compileError? r₂ := by
    simp only [compileError?, requiredNames_eq_rules, h]
  simp only [checkAgainst, checkWith, hc, validate_congr h]

end Rules

end Shape

namespace Validators

def Keyed (v : Validators) : Prop :=
  ∀ e ∈ v.entries, e.1 = ({ fields := e.2 } : Shape).signature ∧ ∀ f ∈ e.2, f.Plain

theorem keyed_empty : ({} : Validators).Keyed := by
  simp [Keyed]

theorem Keyed.remember {v : Validators} (hv : v.Keyed) {s : Shape} (hs : ∀ f ∈ s.fields, f.Plain) :
    (v.remember s).Keyed := by
  unfold Validators.remember
  split
  · exact hv
  · intro e he
    rcases List.mem_append.1 he with he | he
    · exact hv e he
    · rw [List.mem_singleton.1 he]
      exact ⟨rfl, hs⟩

theorem Keyed.rulesFor {v : Validators} (hv : v.Keyed) {s : Shape} (hs : ∀ f ∈ s.fields, f.Plain) :
    (v.rulesFor s).map Field.rule = s.fields.map Field.rule := by
  unfold Validators.rulesFor
  cases hfind : v.entries.find? (·.1 == s.signature) with
  | none => rfl
  | some e =>
    obtain ⟨hsig, hplain⟩ := hv e (List.mem_of_find?_eq_some hfind)
    have hkey : e.1 = s.signature := by simpa using List.find?_some hfind
    have htext := congrArg String.toList (hsig.symm.trans hkey)
    rw [Shape.toList_signature, Shape.toList_signature] at htext
    exact Shape.rules_eq_of_signature hplain hs htext

theorem Keyed.foldl {v : Validators} (hv : v.Keyed) :
    ∀ {ts : List Shape}, (∀ t ∈ ts, ∀ f ∈ t.fields, f.Plain) → (ts.foldl Validators.remember v).Keyed
  | [], _ => hv
  | t :: _, hts => (hv.remember (hts t List.mem_cons_self)).foldl
      fun t' ht' => hts t' (List.mem_cons_of_mem _ ht')

end Validators

/-- The validators built for any shapes whose field names and kinds hold no colon check every such
shape as the shape itself does: which shapes were built before, and in which order, changes no
answer. -/
theorem check_by_validators_eq_check (built : List Shape)
    (hbuilt : ∀ t ∈ built, ∀ f ∈ t.fields, f.Plain) (s : Shape) (hs : ∀ f ∈ s.fields, f.Plain)
    (doc : Fields) :
    s.checkAgainst ((built.foldl Validators.remember {}).rulesFor s) doc = s.check doc :=
  Shape.checkAgainst_congr ((Validators.Keyed.foldl Validators.keyed_empty hbuilt).rulesFor hs) s doc

/-- Two shapes whose fields are plain, built in turn, and a document each checks. -/
theorem titles_checked_by_own_validators :
    let note : Shape := { fields := [{ name := "title", kind := "string", required := true }] }
    let memo : Shape := { fields := [{ name := "title", kind := "string" }] }
    (∀ t ∈ [note, memo], ∀ f ∈ t.fields, f.Plain) ∧ (∀ f ∈ memo.fields, f.Plain) ∧
      memo.checkAgainst (([note, memo].foldl Validators.remember {}).rulesFor memo) [] =
        memo.check [] :=
  ⟨by decide, by decide, check_by_validators_eq_check _ (by decide) _ (by decide) _⟩

/-- A field named `a:string:true;b` has the signature of the two fields `a` (required) and `b`:
built first, its validator checks the two-field shape, which then refuses a document it fits. -/
theorem colon_name_borrows_validator :
    let mimic : Shape := { fields := [{ name := "a:string:true;b", kind := "string" }] }
    let pair : Shape :=
      { fields := [{ name := "a", kind := "string", required := true }, { name := "b", kind := "string" }] }
    let v := [mimic, pair].foldl Validators.remember {}
    (pair.check [("a", .str "x"), ("b", .str "y")]).isOk = true ∧
      (pair.checkAgainst (v.rulesFor pair) [("a", .str "x"), ("b", .str "y")] matches
        .error (.unknownField "a")) := by
  decide

end CrudRoutes
