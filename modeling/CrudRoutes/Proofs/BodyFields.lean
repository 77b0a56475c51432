import Mathlib
import CrudRoutes.Proofs.Store.Provenance
import CrudRoutes.Proofs.Envelope
import CrudRoutes.Proofs.SoftDelete.Routes
import CrudRoutes.Proofs.Conformance

/-!
The fields a request body can write. A body passes its shape only when every field it holds with a
value other than null is a field the shape's validator knows, but the decoded body keeps its null
fields, and they reach the store. So what a route writes is bounded field by field: every field of
a written document holding something other than null is a field of the body shape's validator, a
field the stores manage, or a field one of the route's hooks sets, unless it holds the value it has
in the document the write starts from.

The bound is carried through every layer between the body and the store: the body mapper, the
hooks, persistence (`writable`, `fresh`, the soft-delete tombstone), the copies of duplicating
routes, and the stores' own preparation, merging and replacement of documents.
-/

namespace CrudRoutes

def managedNames : List String :=
  [fieldId, fieldCreatedAt, fieldUpdatedAt, fieldIsDeleted, fieldDeletedAt]

def auditNames : List String :=
  ["documentId", "actorId", "actorEmail"]

namespace Fields

/-- A document sets only the named fields over some bases: every field it holds with a value
other than null is named, or holds that value in one of the bases. -/
def Within (N : List String) (B : Fields → Prop) (d : Fields) : Prop :=
  ∀ k v, (k, v) ∈ d → v ≠ .null → k ∈ N ∨ ∃ b, B b ∧ (k, v) ∈ b

variable {N : List String} {B : Fields → Prop} {d : Fields}

theorem Within.mono {N' : List String} {B' : Fields → Prop} (h : Within N B d)
    (hN : ∀ k ∈ N, k ∈ N') (hB : ∀ b, B b → B' b) : Within N' B' d := by
  intro k v hm hv
  rcases h k v hm hv with hk | ⟨b, hb, hkb⟩
  · exact Or.inl (hN k hk)
  · exact Or.inr ⟨b, hB b hb, hkb⟩

theorem Within.of_none (h : Within N (fun _ => False) d) : Within N B d :=
  h.mono (fun _ hk => hk) fun _ hf => hf.elim

theorem within_of_base (hd : B d) : Within N B d :=
  fun _ _ hm _ => Or.inr ⟨d, hd, hm⟩

theorem within_of_mem {d₁ d₂ : Fields} (h₁ : Within N B d₁) (h₂ : Within N B d₂)
    (hd : ∀ x ∈ d, x ∈ d₁ ∨ x ∈ d₂ ∨ x.1 ∈ N) : Within N B d := by
  intro k v hm hv
  rcases hd (k, v) hm with h | h | h
  · exact h₁ k v h hv
  · exact h₂ k v h hv
  · exact Or.inl h

theorem mem_set_cases {fs : Fields} {k : String} {v : Value} {x : String × Value}
    (h : x ∈ Fields.set fs k v) : x ∈ fs ∨ x = (k, v) := by
  obtain ⟨k', v'⟩ := x
  rcases Fields.mem_set h with ⟨rfl, rfl⟩ | h
  · exact Or.inr rfl
  · exact Or.inl h

theorem mem_erase {fs : Fields} {k : String} {x : String × Value} (h : x ∈ Fields.erase fs k) :
    x ∈ fs := by
  induction fs with
  | nil => cases h
  | cons p rest ih =>
    simp only [Fields.erase] at h
    split at h
    · exact List.mem_cons_of_mem p (ih h)
    · rcases List.mem_cons.1 h with rfl | h
      · exact List.mem_cons_self
      · exact List.mem_cons_of_mem p (ih h)

theorem mem_foldl_of_step {g : Fields → String × Value → Fields}
    (hg : ∀ acc p x, x ∈ g acc p → x ∈ acc ∨ x = p) (l : List (String × Value)) :
    ∀ acc x, x ∈ l.foldl g acc → x ∈ acc ∨ x ∈ l := by
  induction l with
  | nil => exact fun _ _ hx => Or.inl hx
  | cons p rest ih =>
    intro acc x hx
    rcases ih (g acc p) x hx with h | h
    · rcases hg acc p x h with h | rfl
      · exact Or.inl h
      · exact Or.inr List.mem_cons_self
    · exact Or.inr (List.mem_cons_of_mem p h)

theorem mem_ofPairs {ps : List (String × Value)} {x : String × Value} (h : x ∈ Fields.ofPairs ps) :
    x ∈ ps := by
  rcases mem_foldl_of_step (fun _ ⟨_, _⟩ _ hx => mem_set_cases hx) ps [] x h with h | h
  · cases h
  · exact h

end Fields

open Fields

section Versions

variable {N : List String} {B : Fields → Prop}

theorem mem_withoutFields {doc : Fields} {names : List String} {x : String × Value}
    (h : x ∈ withoutFields doc names) : x ∈ doc ∧ x.1 ∉ names := by
  obtain ⟨hm, hn⟩ := List.mem_filter.1 h
  exact ⟨hm, by simpa using hn⟩

theorem mem_storedDoc_of {d : Fields} {k : String} {v : Value} (h : (k, v) ∈ d) :
    (k, v.stored) ∈ storedDoc d := by
  induction d with
  | nil => cases h
  | cons p rest ih =>
    obtain ⟨k', w⟩ := p
    simp only [storedDoc, Value.storedFields, List.mem_cons, Prod.mk.injEq] at h ih ⊢
    rcases h with ⟨rfl, rfl⟩ | h
    · exact Or.inl ⟨rfl, rfl⟩
    · exact Or.inr (ih h)

theorem Value.stored_ne_null {v : Value} (h : v.stored ≠ .null) : v ≠ .null := by
  rintro rfl
  exact h rfl

theorem within_storedDoc {d : Fields} (h : Within N B d) (hB : ∀ b, B b → storedDoc b = b) :
    Within N B (storedDoc d) := by
  intro k v hm hv
  obtain ⟨w, hw, rfl⟩ := mem_storedDoc hm
  rcases h k w hw (Value.stored_ne_null hv) with hk | ⟨b, hb, hkb⟩
  · exact Or.inl hk
  · exact Or.inr ⟨b, hb, hB b hb ▸ mem_storedDoc_of hkb⟩

theorem within_keep {s : Storage} {d : Fields} (h : Within N B d) (hB : ∀ b, B b → s.keep b = b) :
    Within N B (s.keep d) := by
  unfold Storage.keep at hB ⊢
  split
  · exact h
  · rename_i q hb
    exact within_storedDoc h fun b hbB => by simpa [hb] using hB b hbB

theorem mem_prepare {h : Host} {doc : Fields} {x : String × Value}
    (hx : x ∈ (MemoryStore.prepare h doc).1) :
    x ∈ doc ∨ x.1 = fieldId ∨ x.1 = fieldCreatedAt ∨ x.1 = fieldUpdatedAt := by
  unfold MemoryStore.prepare at hx
  dsimp only at hx
  rcases mem_set_cases hx with hx | rfl
  · rcases mem_set_cases hx with hx | rfl
    · split at hx
      · rcases mem_set_cases hx with hx | rfl
        · exact Or.inl (mem_withoutFields hx).1
        · exact Or.inr (Or.inl rfl)
      · exact Or.inl (mem_withoutFields hx).1
    · exact Or.inr (Or.inr (Or.inl rfl))
  · exact Or.inr (Or.inr (Or.inr rfl))

theorem within_prepare {h : Host} {doc : Fields} (hd : Within N B doc)
    (hman : ∀ k ∈ managedNames, k ∈ N) : Within N B (MemoryStore.prepare h doc).1 := by
  refine within_of_mem hd hd fun x hx => ?_
  rcases mem_prepare hx with h | h | h | h
  · exact Or.inl h
  all_goals exact Or.inr (Or.inr (hman _ (by simp [managedNames, h])))

theorem mem_mergeChange {now : Time} {cur set : Fields} {x : String × Value}
    (hx : x ∈ mergeChange now cur set) : x ∈ cur ∨ x ∈ set ∨ x.1 = fieldUpdatedAt := by
  unfold mergeChange at hx
  rcases mem_set_cases hx with hx | rfl
  · rcases mem_foldl_of_step (fun acc ⟨k, v⟩ x hx => by
        dsimp only at hx
        split at hx
        · exact Or.inl hx
        · exact mem_set_cases hx) set cur x hx with h | h
    · exact Or.inl h
    · exact Or.inr (Or.inl h)
  · exact Or.inr (Or.inr rfl)

theorem within_mergeChange {now : Time} {cur set : Fields} (hc : Within N B cur)
    (hs : Within N B set) (hman : ∀ k ∈ managedNames, k ∈ N) :
    Within N B (mergeChange now cur set) :=
  within_of_mem hc hs fun x hx => by
    rcases mem_mergeChange hx with h | h | h
    · exact Or.inl h
    · exact Or.inr (Or.inl h)
    · exact Or.inr (Or.inr (hman _ (by simp [managedNames, h])))

theorem within_replacement {now : Time} {doc found : Fields} (hd : Within N B doc)
    (hman : ∀ k ∈ managedNames, k ∈ N) : Within N B (replacement now doc found) := by
  refine within_of_mem hd hd fun x hx => ?_
  unfold replacement at hx
  dsimp only at hx
  rcases mem_set_cases hx with hx | rfl
  · rcases mem_set_cases hx with hx | rfl
    · rcases mem_set_cases hx with hx | rfl
      · exact Or.inl (mem_withoutFields hx).1
      · exact Or.inr (Or.inr (hman _ (by simp [managedNames])))
    · exact Or.inr (Or.inr (hman _ (by simp [managedNames])))
  · exact Or.inr (Or.inr (hman _ (by simp [managedNames])))

end Versions

/-! What passes a shape: with a value other than null, only fields the validator knows. -/

namespace Shape

theorem checkWith_within {V : List Field → Fields → List SchemaError} (hV : Faithful V)
    {rules : List Field} {s : Shape} {doc : Fields} (hf : s.fields ≠ [])
    (h : (s.checkWith V rules doc).isOk = true) :
    Within (rules.map (·.name)) (fun _ => False) doc := by
  intro k v hm hv
  left
  obtain ⟨r, hr, rfl⟩ := checkWith_declared hV hf h hm (by cases v <;> simp_all [Value.isNull])
  exact List.mem_map.2 ⟨r, hr, rfl⟩

end Shape

namespace Route

def bodyNames (r : Route) (b : Shape) : List String :=
  (r.validators.rulesFor b).map (·.name)

theorem decode_body_within {V : List Field → Fields → List Shape.SchemaError} (hV : Shape.Faithful V)
    {r : Route} {b : Shape} (hb : r.shapes.body = some b)
    (hf : b.fields ≠ []) {F : EnvelopeFaults} {id : String} {ids : List String} {query : Fields}
    {body : BodyText} {req : Request} (h : r.decodeWith V F id ids query body = .ok req) :
    Within (r.bodyNames b) (fun _ => False) req.body ∧
      ∀ d ∈ req.list, Within (r.bodyNames b) (fun _ => False) d := by
  have hfits : ∀ d, fitsWith V r.validators r.shapes.body d = true →
      Within (r.bodyNames b) (fun _ => False) d := fun d hd => by
    rw [hb] at hd
    exact Shape.checkWith_within hV hf hd
  have hnil : Within (r.bodyNames b) (fun _ => False) [] := fun _ _ hm => by cases hm
  have hbody := (decodeWith_eq_ok h).2.2.2
  -- the kinds that read one body check it, the batch checks each body of its list
  have hone : ∀ {o : Option Fields}, (o.bind fun d =>
      if fitsWith V r.validators r.shapes.body d = true then some (d, []) else none) =
        some (req.body, req.list) →
      Within (r.bodyNames b) (fun _ => False) req.body ∧
        ∀ d ∈ req.list, Within (r.bodyNames b) (fun _ => False) d := by
    intro o ho
    obtain ⟨d, -, hd⟩ := Option.bind_eq_some_iff.1 ho
    split at hd
    · rename_i hfit
      obtain ⟨h₁, h₂⟩ := Prod.mk.inj (Option.some.inj hd)
      rw [← h₁, ← h₂]
      exact ⟨hfits d hfit, fun _ hm => by cases hm⟩
    · cases hd
  unfold envelopeBody? at hbody
  split at hbody
  · obtain ⟨list, -, hl⟩ := Option.bind_eq_some_iff.1 hbody
    split at hl
    · rename_i hall
      obtain ⟨h₁, h₂⟩ := Prod.mk.inj (Option.some.inj hl)
      rw [← h₁, ← h₂]
      exact ⟨hnil, fun d hd => hfits d (List.all_eq_true.1 hall d hd)⟩
    · cases hl
  any_goals exact hone hbody
  all_goals
    obtain ⟨h₁, h₂⟩ := Prod.mk.inj (Option.some.inj hbody)
    rw [← h₁, ← h₂]
    exact ⟨hnil, fun _ hm => by cases hm⟩

end Route

/-! The documents persistence and the hooks make from a body. -/

section Hooks

variable {N : List String} {B : Fields → Prop}

theorem Persist.within_writable {doc : Fields} (h : Within N B doc) : Within N B (Persist.writable doc) :=
  fun k v hm hv => h k v (mem_withoutFields hm).1 hv

theorem Persist.within_fresh (e : Entity) {doc : Fields} (h : Within N B doc)
    (hman : ∀ k ∈ managedNames, k ∈ N) : Within N B (Persist.fresh e doc) := by
  refine within_of_mem (Persist.within_writable h) h fun x hx => ?_
  unfold Persist.fresh at hx
  dsimp only at hx
  split at hx
  · rcases mem_set_cases hx with hx | rfl
    · rcases mem_set_cases hx with hx | rfl
      · exact Or.inl hx
      · exact Or.inr (Or.inr (hman _ (by simp [managedNames])))
    · exact Or.inr (Or.inr (hman _ (by simp [managedNames])))
  · exact Or.inl hx

theorem Persist.within_tombstone (t : Time) (hman : ∀ k ∈ managedNames, k ∈ N) :
    Within N B (Fields.ofPairs [(fieldIsDeleted, .bool true), (fieldDeletedAt, .time t)]) := by
  intro k v hm _
  left
  apply hman
  rcases List.mem_pair.1 (mem_ofPairs hm) with h | h <;> cases h <;> simp [managedNames]

theorem Service.within_copyWith {src overrides : Fields} (hs : Within N B src)
    (ho : Within N B overrides) : Within N B (Service.copyWith src overrides) := by
  refine within_of_mem (Persist.within_writable hs) (Persist.within_writable ho) fun x hx => ?_
  rcases mem_foldl_of_step (fun _ ⟨_, _⟩ _ hx => mem_set_cases hx) _ _ x hx with h | h
  · exact Or.inl h
  · exact Or.inr (Or.inl h)

theorem Service.beforeCreate_eq_ok {sv : Service} {doc doc' : Fields}
    (h : sv.beforeCreate doc = .ok doc') :
    doc' = doc ∨ sv.hooks.beforeCreate.isSome = true ∧ ∃ p, sv.principal = some p ∧
      doc' = Persist.writable (Fields.set (Persist.writable doc) fieldOwner (.str p.id)) := by
  unfold Service.beforeCreate at h
  split at h
  · exact .inl (Except.ok.inj h).symm
  · rename_i hook hh
    cases hook
    cases hp : sv.principal with
    | none => simp [Hooks.runCreate, hp, Except.map] at h
    | some p =>
      simp only [Hooks.runCreate, hp, Except.map, Except.ok.injEq] at h
      exact .inr ⟨by simp [hh], p, rfl, h.symm⟩

theorem Service.within_beforeCreate (sv : Service) {doc doc' : Fields}
    (h : sv.beforeCreate doc = .ok doc') (hd : Within N B doc)
    (howner : sv.hooks.beforeCreate.isSome = true → fieldOwner ∈ N) : Within N B doc' := by
  rcases Service.beforeCreate_eq_ok h with rfl | ⟨hh, p, -, rfl⟩
  · exact hd
  · refine Persist.within_writable (within_of_mem (Persist.within_writable hd) hd fun x hx => ?_)
    rcases mem_set_cases hx with hx | rfl
    · exact Or.inl hx
    · exact Or.inr (Or.inr (howner hh))

theorem Service.within_beforeSave (sv : Service) (current : Fields) {change : Fields}
    (hd : Within N B change) (howner : sv.hooks.beforeSave.isSome = true → fieldOwner ∈ N) :
    Within N B (sv.beforeSave current change) := by
  unfold Service.beforeSave
  split
  · exact Persist.within_writable hd
  · rename_i hook hh
    cases hook
    refine Persist.within_writable (within_of_mem (Persist.within_writable hd) hd fun x hx => ?_)
    unfold Hooks.runSave at hx
    dsimp only at hx
    split at hx
    · exact Or.inl (mem_erase hx)
    · exact Or.inl (mem_erase hx)
    · rcases mem_set_cases hx with hx | rfl
      · exact Or.inl (mem_erase hx)
      · exact Or.inr (Or.inr (howner (by simp [hh])))

theorem Mapper.toEntityWith_cases (H : PasswordHashing) (m : Mapper) {body body' : Fields}
    (h : m.toEntityWith H body = .ok body') :
    body' = body ∨ ∃ pw hash, Fields.get? body "password" = some (.str pw) ∧
      body' = Fields.set body "password" (.str hash) := by
  unfold Mapper.toEntityWith at h
  split at h
  · split at h
    · rename_i pw hpw
      split at h
      · exact Or.inl (Except.ok.inj h).symm
      · split at h
        · rename_i hash _
          exact Or.inr ⟨pw, hash, hpw, (Except.ok.inj h).symm⟩
        · cases h
    · exact Or.inl (Except.ok.inj h).symm
  · exact Or.inl (Except.ok.inj h).symm

theorem Route.within_toEntity (r : Route) {body body' : Fields} (h : r.toEntity body = .ok body')
    (hd : Within N (fun _ => False) body) : Within N (fun _ => False) body' := by
  have hcases : body' = body ∨ ∃ pw hash, Fields.get? body "password" = some (.str pw) ∧
      body' = Fields.set body "password" (.str hash) := by
    unfold Route.toEntity at h
    split at h
    · split at h
      · exact Mapper.toEntityWith_cases _ _ h
      · exact Or.inl (Except.ok.inj h).symm
    · exact Or.inl (Except.ok.inj h).symm
  rcases hcases with rfl | ⟨pw, hash, hpw, rfl⟩
  · exact hd
  · have hp : "password" ∈ N := by
      rcases hd _ _ (Fields.mem_of_get? hpw) (by simp) with hk | ⟨_, hf, _⟩
      · exact hk
      · exact hf.elim
    refine within_of_mem hd hd fun x hx => ?_
    rcases mem_set_cases hx with hx | rfl
    · exact Or.inl hx
    · exact Or.inr (Or.inr hp)

theorem Hooks.within_auditRecord (saved : Fields) (p : Option Principal)
    (haudit : ∀ k ∈ auditNames, k ∈ N) :
    Within N B (Fields.ofPairs ([("documentId", Value.str (docId saved))] ++
      match p with
      | some p => [("actorId", Value.str p.id), ("actorEmail", Value.str p.email)]
      | none => [])) := by
  intro k v hm _
  left
  apply haudit
  have hm' := mem_ofPairs hm
  cases p <;> simp only [List.mem_append, List.mem_cons, Prod.mk.injEq, List.not_mem_nil] at hm' <;>
    rcases hm' with ⟨rfl, -⟩ | ⟨rfl, -⟩ | ⟨rfl, -⟩ | h <;> simp_all [auditNames]

end Hooks

end CrudRoutes
