import Mathlib
import CrudRoutes.Proofs.Store.Mirror
import CrudRoutes.Service

/-!
Faults of the store. A read, an insertion or an update of the store fails with a plain message (a
switched-off read or write, a closed connection, a clash in the key table), with a duplicate key,
or with a document JSON cannot write (`Fault.Raised`). Persistence reports such a fault as it is, or as the client fault of a duplicate
key, and never as a missing document (`Fault.Reported.not_missing`); an after-save hook
fails only with such a fault, wrapped (`Service.raises_afterSave`). A missing document is thus
reported only where an operation raises it on purpose.
-/

namespace CrudRoutes

namespace Fault

/-- A fault the store raises itself: a plain message, a duplicate key, or the fault of encoding a
document JSON cannot write. -/
def Raised (f : Fault) : Prop :=
  (∃ m, f = .plain m) ∨ (∃ k, f = .duplicate k) ∨
    ∃ u : Json.Unwritable, f = .wrapped "encode document" (.plain u.message)

def Reported (f : Fault) : Prop :=
  ∃ r : Fault, r.Raised ∧ f = r.normalize

def Missing (f : Fault) : Prop :=
  ∃ m, f.client? = some (.notFound, m)

theorem missing_notFound : notFound.Missing := ⟨_, rfl⟩

@[simp] theorem missing_wrapped (c : String) (f : Fault) : (wrapped c f).Missing ↔ f.Missing :=
  Iff.rfl

theorem raised_plain (m : String) : (plain m).Raised := .inl ⟨m, rfl⟩

theorem raised_duplicate (k : DuplicateKey) : (duplicate k).Raised := .inr (.inl ⟨k, rfl⟩)

theorem raised_encode (u : Json.Unwritable) :
    (wrapped "encode document" (plain u.message)).Raised :=
  .inr (.inr ⟨u, rfl⟩)

theorem Raised.reported {f : Fault} (h : f.Raised) : f.normalize.Reported := ⟨f, h, rfl⟩

/-- Persistence never reports a fault of the store as a missing document. -/
theorem Reported.not_missing {f : Fault} (h : f.Reported) : ¬ f.Missing := by
  obtain ⟨r, ⟨m, rfl⟩ | ⟨k, rfl⟩ | ⟨u, rfl⟩, rfl⟩ := h <;>
    simp [Missing, normalize, client?, isNoDocument, duplicate?]

end Fault

namespace MemCollection

variable {c : MemCollection} {f : Fault}

theorem insert_raised {d : Fields} (h : c.insert d = .error f) : f.Raised := by
  unfold insert at h
  dsimp only at h
  by_cases hd : (c.doc? (docId d)).isSome = true
  · rw [if_pos hd] at h
    cases h
    exact Fault.raised_duplicate _
  · rw [if_neg hd] at h
    cases hc : c.conflict? d "" with
    | some k =>
      rw [hc] at h
      cases h
      exact Fault.raised_duplicate _
    | none => simp [hc] at h

theorem replace_raised {current next : Fields} (h : c.replace current next = .error f) :
    f.Raised := by
  unfold replace at h
  dsimp only at h
  cases hc : c.conflict? next (docId current) with
  | some k =>
    rw [hc] at h
    cases h
    exact Fault.raised_duplicate _
  | none => simp [hc] at h

end MemCollection

namespace SqliteStore

variable {q : SqliteStore} {spec : CollectionSpec} {f : Fault}

theorem closedFault_raised : closedFault.Raised := Fault.raised_plain _

theorem writeKeys_raised {d : Fields} (h : q.writeKeys spec d = .error f) : f.Raised := by
  rw [writeKeys_eq_claims] at h
  obtain ⟨-, P, -, q₁, -, -, hP⟩ := claims_eq_error h
  obtain ⟨v, fields, o, -, -, rfl⟩ := claim_eq_error hP
  split
  · exact Fault.raised_duplicate _
  · exact Fault.raised_plain _

theorem encode_raised {d : Fields} (h : encode d = .error f) : f.Raised := by
  obtain ⟨u, -, rfl⟩ := encode_eq_error h
  exact Fault.raised_encode u

theorem insert_raised {h : Host} {doc : Fields} (hi : (q.insert h spec doc).1 = .error f) :
    f.Raised := by
  rw [insert_eq] at hi
  dsimp only at hi
  split at hi
  · rename_i e he
    cases hi
    exact encode_raised he
  · split at hi
    · cases hi
      exact Fault.raised_duplicate _
    · split at hi
      · rename_i e he
        cases hi
        exact writeKeys_raised he
      · cases hi

theorem save_raised {next : Fields} (h : q.save spec next = .error f) : f.Raised := by
  rw [save_eq] at h
  split at h
  · rename_i e he
    cases h
    exact encode_raised he
  · split at h
    · cases h
    · rename_i e he
      cases h
      exact writeKeys_raised he

theorem saves_raised (next : Fields → Fields) (F : List Fields) :
    ∀ q : SqliteStore, F.foldlM (fun s d => (s.save spec (next d)).map Prod.snd) q = .error f →
      f.Raised := by
  induction F with
  | nil => intro q h; cases h
  | cons d rest ih =>
    intro q h
    rw [List.foldlM_cons] at h
    cases hs : q.save spec (next d) with
    | error e =>
      simp only [hs, Except.map, bind, Except.bind] at h
      cases h
      exact save_raised hs
    | ok p =>
      simp only [hs, Except.map, bind, Except.bind] at h
      exact ih p.2 h

theorem insertStep_raised {acc : Except Fault (SqliteStore × List Fields) × Host}
    (hacc : ∀ e, acc.1 = .error e → e.Raised) (doc : Fields) :
    ∀ e, (insertStep spec acc doc).1 = .error e → e.Raised := by
  intro e hstep
  obtain ⟨r, h⟩ := acc
  cases r with
  | error e₀ =>
    cases hstep
    exact hacc _ rfl
  | ok p =>
    obtain ⟨q₀, done₀⟩ := p
    simp only [insertStep] at hstep
    split at hstep
    · cases hstep
    · rename_i e₁ h₁ hi
      cases hstep
      exact insert_raised (congrArg Prod.fst hi)

theorem foldl_insertStep_raised (docs : List Fields) :
    ∀ acc : Except Fault (SqliteStore × List Fields) × Host,
      (∀ e, acc.1 = .error e → e.Raised) →
      ∀ e, (docs.foldl (insertStep spec) acc).1 = .error e → e.Raised := fun _ hacc =>
  List.foldlRecOn docs _ hacc (motive := fun acc : Except Fault (SqliteStore × List Fields) × Host =>
    ∀ e, acc.1 = .error e → e.Raised) fun _ hacc doc _ => insertStep_raised hacc doc

end SqliteStore

namespace MemoryStore

theorem batchStep_raised
    {acc : Except (Fault × MemCollection) (MemCollection × List Fields) × Host}
    (hacc : ∀ e c, acc.1 = .error (e, c) → e.Raised) (doc : Fields) :
    ∀ e c, (batchStep acc doc).1 = .error (e, c) → e.Raised := by
  intro e c hstep
  obtain ⟨r, h⟩ := acc
  cases r with
  | error p =>
    cases hstep
    exact hacc _ _ rfl
  | ok p =>
    obtain ⟨c₀, done₀⟩ := p
    simp only [batchStep] at hstep
    generalize prepare h doc = pd at hstep
    obtain ⟨d, h'⟩ := pd
    simp only at hstep
    split at hstep
    · cases hstep
    · rename_i e₁ hins
      cases hstep
      exact MemCollection.insert_raised hins

theorem foldl_batchStep_raised (docs : List Fields) :
    ∀ acc : Except (Fault × MemCollection) (MemCollection × List Fields) × Host,
      (∀ e c, acc.1 = .error (e, c) → e.Raised) →
      ∀ e c, (docs.foldl batchStep acc).1 = .error (e, c) → e.Raised := fun _ hacc =>
  List.foldlRecOn docs _ hacc
    (motive := fun acc : Except (Fault × MemCollection) (MemCollection × List Fields) × Host =>
      ∀ e c, acc.1 = .error (e, c) → e.Raised) fun _ hacc doc _ => batchStep_raised hacc doc

theorem updateStep_raised {now : Time} {set : Fields} {acc : MemCollection × Option Fault × Nat}
    (hacc : ∀ e, acc.2.1 = some e → e.Raised) (d : Fields) :
    ∀ e, (updateStep now set acc d).2.1 = some e → e.Raised := by
  intro e hstep
  obtain ⟨c, err, n⟩ := acc
  cases err with
  | some e₀ =>
    cases hstep
    exact hacc _ rfl
  | none =>
    simp only [updateStep] at hstep
    split at hstep
    · cases hstep
    · rename_i e₁ hr
      cases hstep
      exact MemCollection.replace_raised hr

theorem foldl_updateStep_raised (now : Time) (set : Fields) (F : List Fields) :
    ∀ acc : MemCollection × Option Fault × Nat, (∀ e, acc.2.1 = some e → e.Raised) →
      ∀ e, (F.foldl (updateStep now set) acc).2.1 = some e → e.Raised := fun _ hacc =>
  List.foldlRecOn F _ hacc (motive := fun acc : MemCollection × Option Fault × Nat =>
    ∀ e, acc.2.1 = some e → e.Raised) fun _ hacc d _ => updateStep_raised hacc d

end MemoryStore

namespace MemoryStore

variable {m : MemoryStore} {h : Host} {name : String} {e : Fault}

theorem create_raised {doc : Fields} (hr : (m.create h name doc).1 = .error e) : e.Raised := by
  rw [create_eq] at hr
  split at hr
  · cases hr
  · rename_i e₁ hins
    cases hr
    exact MemCollection.insert_raised hins

theorem createMany_raised {docs : List Fields} (hr : (m.createMany h name docs).1 = .error e) :
    e.Raised := by
  rw [createMany_eq] at hr
  have hfold := foldl_batchStep_raised docs (.ok (m.get name, []), h) (fun _ _ h => by cases h)
  generalize docs.foldl batchStep (.ok (m.get name, []), h) = res at hr hfold
  obtain ⟨r, h'⟩ := res
  cases r with
  | ok p => cases hr
  | error p =>
    cases hr
    exact hfold _ _ rfl

theorem update_raised {g : Filter} {set : Fields} {limit : Nat}
    (hr : (m.update h name g set limit).1 = .error e) : e.Raised := by
  rw [update_eq] at hr
  dsimp only at hr
  have hfold := foldl_updateStep_raised h.now set ((m.get name).select g limit)
    (m.get name, none, 0) (fun _ h => by cases h)
  generalize ((m.get name).select g limit).foldl (updateStep h.now set) (m.get name, none, 0) = res
    at hr hfold
  obtain ⟨c, err, n⟩ := res
  cases err with
  | none => cases hr
  | some e₁ =>
    cases hr
    exact hfold _ rfl

end MemoryStore

namespace SqliteStore

variable {q : SqliteStore} {h : Host} {name : String} {e : Fault}

theorem findAll_raised {f : Filter} (hr : q.findAll name f = .error e) : e.Raised := by
  unfold findAll at hr
  split at hr
  · cases hr
    exact closedFault_raised
  · cases hr

theorem create_raised {doc : Fields} (hr : (q.create h name doc).1 = .error e) : e.Raised := by
  by_cases hc : q.closed = true
  · simp only [create, hc, if_true] at hr
    cases hr
    exact closedFault_raised
  · rw [create_eq (by simpa using hc)] at hr
    split at hr
    · cases hr
    · rename_i e₁ hi
      cases hr
      exact insert_raised hi

theorem createMany_raised {docs : List Fields} (hr : (q.createMany h name docs).1 = .error e) :
    e.Raised := by
  rw [createMany_eq] at hr
  split at hr
  · cases hr
    exact closedFault_raised
  · have hfold : ∀ e, (docs.foldl (insertStep (q.spec name)) (.ok (q, []), h)).1 = .error e →
        e.Raised :=
      foldl_insertStep_raised docs (.ok (q, []), h) (fun _ h => by cases h)
    generalize docs.foldl (insertStep (q.spec name)) (.ok (q, []), h) = res at hr hfold
    obtain ⟨r, h'⟩ := res
    cases r with
    | ok p => cases hr
    | error e₁ =>
      cases hr
      exact hfold _ rfl

theorem update_raised {g : Filter} {set : Fields} {limit : Nat}
    (hr : (q.update h name g set limit).1 = .error e) : e.Raised := by
  unfold update at hr
  split at hr
  · cases hr
    exact closedFault_raised
  · dsimp only at hr
    split at hr
    · cases hr
    · rename_i e₁ hf
      cases hr
      exact saves_raised _ _ q hf

end SqliteStore

namespace Storage

open StoreM

variable {s : Storage} {name : String} {e : Fault}

theorem find_raised {f : Filter} (h : ((find name f).run s).1 = .error e) : e.Raised := by
  rw [find_run] at h
  split at h
  · cases h
    exact Fault.raised_plain _
  · split at h
    · cases h
    · exact SqliteStore.findAll_raised h

theorem create_raised {doc : Fields} (h : ((create name doc).run s).1 = .error e) : e.Raised := by
  rw [create_run] at h
  split at h
  · cases h
    exact Fault.raised_plain _
  · split at h
    · exact MemoryStore.create_raised h
    · exact SqliteStore.create_raised h

theorem createMany_raised {docs : List Fields} (h : ((createMany name docs).run s).1 = .error e) :
    e.Raised := by
  rw [createMany_run] at h
  split at h
  · cases h
    exact Fault.raised_plain _
  · split at h
    · exact MemoryStore.createMany_raised h
    · exact SqliteStore.createMany_raised h

theorem update_raised {g : Filter} {set : Fields} {limit : Nat}
    (h : ((update name g set limit).run s).1 = .error e) : e.Raised := by
  rw [update_run] at h
  split at h
  · cases h
    exact Fault.raised_plain _
  · split at h
    · exact MemoryStore.update_raised h
    · exact SqliteStore.update_raised h

end Storage

namespace StoreM

def Raises {α : Type} (E : Fault → Prop) (x : StoreM α) : Prop :=
  ∀ s f, (x.run s).1 = .error f → E f

section Raises

variable {α β : Type} {E E' : Fault → Prop}

theorem Raises.mono {x : StoreM α} (hx : Raises E x) (h : ∀ f, E f → E' f) : Raises E' x :=
  fun s f hf => h f (hx s f hf)

theorem raises_pure (a : α) : Raises E (pure a) := by
  intro s f hf
  cases hf

theorem raises_throw {e : Fault} (h : E e) : Raises E (throw e : StoreM α) := by
  intro s f hf
  cases hf
  exact h

theorem Raises.bind {x : StoreM α} {f : α → StoreM β} (hx : Raises E x)
    (hf : ∀ a, Raises E (f a)) : Raises E (x >>= f) := by
  intro s e he
  rw [run_bind] at he
  cases hr : x.run s with
  | mk r s' =>
    rw [hr] at he
    cases r with
    | ok a => exact hf a s' e he
    | error e₀ =>
      cases he
      exact hx s _ (by rw [hr])

theorem Raises.tryCatch {x : StoreM α} {h : Fault → StoreM α} (hx : Raises E' x)
    (hh : ∀ e, E' e → Raises E (h e)) : Raises E (tryCatch x h) := by
  intro s e he
  rw [run_tryCatch] at he
  cases hr : x.run s with
  | mk r s' =>
    rw [hr] at he
    cases r with
    | ok a => cases he
    | error e₀ => exact hh e₀ (hx s e₀ (by rw [hr])) s' e he

theorem Raises.bind_of_yields {P : α → Prop} {x : StoreM α} {f : α → StoreM β} (hx : Raises E x)
    (hy : Yields P x) (hf : ∀ a, P a → Raises E (f a)) : Raises E (x >>= f) := by
  intro s e he
  rw [run_bind] at he
  cases hr : x.run s with
  | mk r s' =>
    rw [hr] at he
    cases r with
    | ok a => exact hf a (hy s a (by rw [hr])) s' e he
    | error e₀ =>
      cases he
      exact hx s _ (by rw [hr])

theorem raises_failureOf {x : StoreM Unit} : Raises E (failureOf x) :=
  Raises.tryCatch (show Raises (fun _ => True) _ from fun _ _ _ => trivial) fun _ _ => raises_pure _

theorem Raises.failureOf {x : StoreM Unit} (hx : Raises E x) :
    Yields (fun r => ∀ e, r = some e → E e) (failureOf x) := by
  intro s r hr e he
  subst he
  unfold StoreM.failureOf at hr
  rw [run_tryCatch, run_bind] at hr
  cases hrun : x.run s with
  | mk r s' =>
    rw [hrun] at hr
    cases r with
    | ok u => cases hr
    | error e₀ =>
      cases hr
      exact hx s _ (by rw [hrun])

theorem raises_runEach {xs : List α} {f : α → StoreM Unit} (hf : ∀ a ∈ xs, Raises E (f a)) :
    Raises E (runEach f xs) := by
  induction xs with
  | nil => exact raises_pure _
  | cons a rest ih =>
    have ha := (hf a List.mem_cons_self).failureOf
    have hrest := (ih fun b hb => hf b (List.mem_cons_of_mem a hb)).failureOf
    rw [runEach]
    refine raises_failureOf.bind_of_yields ha fun first hfirst => ?_
    refine raises_failureOf.bind_of_yields hrest fun later hlater => ?_
    split
    · -- the fault raised at the end is the first task's, or else a later one's
      rename_i e he
      rcases Option.or_eq_some_iff.1 he with hf | ⟨-, hl⟩
      · exact raises_throw (hfirst e hf)
      · exact raises_throw (hlater e hl)
    · exact raises_pure _

end Raises

end StoreM

open StoreM

namespace Persist

theorem raises_normalized {α : Type} {x : StoreM α} (hx : Raises Fault.Raised x) :
    Raises Fault.Reported (normalized x) :=
  Raises.tryCatch hx fun _ he => raises_throw he.reported

theorem raises_find (e : Entity) (f : Filter) : Raises Fault.Reported (find e f) :=
  raises_normalized fun _ _ h => Storage.find_raised h

theorem raises_create (e : Entity) (doc : Fields) : Raises Fault.Reported (create e doc) :=
  raises_normalized fun _ _ h => Storage.create_raised h

theorem raises_createMany (e : Entity) (docs : List Fields) :
    Raises Fault.Reported (createMany e docs) :=
  raises_normalized fun _ _ h => Storage.createMany_raised h

theorem raises_updateMany (e : Entity) (f : Filter) (change : Fields) :
    Raises Fault.Reported (updateMany e f change) :=
  raises_normalized fun _ _ h => Storage.update_raised h

end Persist

namespace Service

/-- An after-save hook fails only with a reported fault of the store, wrapped: never with one
that reports a missing document. -/
theorem raises_afterSave (sv : Service) (docs : List Fields) :
    Raises (fun f => ¬ f.Missing) (sv.afterSave docs) := by
  unfold afterSave
  split
  · exact raises_pure _
  · rename_i h _
    refine raises_runEach fun d _ => ?_
    cases h with
    | auditTrail audit =>
      exact Raises.tryCatch ((Persist.raises_create audit _).bind fun _ => raises_pure _)
        fun _ he => raises_throw (by simpa using he.not_missing)

end Service

end CrudRoutes
