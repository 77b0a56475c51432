import Mathlib
import CrudRoutes.Proofs.RouteWrites

/-!
Who owns a document. Only the engine sets the owner field of a document it writes: the set-owner
hook makes the caller the owner of what a route creates, and the keep-owner hook pins the owner of
the document a save starts from. A route whose body shape leaves the owner field out can then
write an owner other than null only from those two places or from the document its write starts
from: the stored document of the identity written, the document the request addresses for the
routes that read it before they save, and the source of a copy. No request moves a document to
another owner.

Null is another matter. A body passes its shape with a null owner, whatever the shape leaves out,
and only the keep-owner hook takes the owner out of a change. An update of several documents, or a
duplication, stores the null: the owner of the documents it writes is cleared.

The bound is the one of `Route.handle_confined`, over names that leave the owner out and bases
that add the caller's identity and the addressed document.
-/

namespace CrudRoutes

open StoreM Storage Fields

def ownerDoc (v : Value) : Fields :=
  [(fieldOwner, v)]

/-- The owner a document holds, when other than null, is the given one or one a base holds. -/
def OwnerFrom (given : Option Value) (B : Fields → Prop) (d : Fields) : Prop :=
  ∀ v, (fieldOwner, v) ∈ d → v ≠ .null → given = some v ∨ ∃ b, B b ∧ (fieldOwner, v) ∈ b

theorem ownerFrom_of_within {N : List String} {B : Fields → Prop} {g : Option Value} {d : Fields}
    (h : Within N (fun b => B b ∨ ∃ v, g = some v ∧ b = ownerDoc v) d) (hN : fieldOwner ∉ N) :
    OwnerFrom g B d := by
  intro v hm hv
  rcases h _ _ hm hv with hk | ⟨b, hb | ⟨w, hw, rfl⟩, hkb⟩
  · exact absurd hk hN
  · exact Or.inr ⟨b, hb, hkb⟩
  · obtain ⟨-, rfl⟩ := Prod.mk.inj (List.mem_singleton.1 hkb)
    exact Or.inl hw

@[simp] theorem Storage.keep_ownerDoc (s : Storage) (x : String) :
    s.keep (ownerDoc (.str x)) = ownerDoc (.str x) := by
  unfold Storage.keep
  split <;> rfl

namespace Service

variable {N : List String} {B : Fields → Prop}

theorem within_beforeCreate_caller (sv : Service) {doc doc' : Fields}
    (h : sv.beforeCreate doc = .ok doc') (hd : Within N B doc)
    (hcaller : ∀ p, sv.principal = some p → B (ownerDoc (.str p.id))) : Within N B doc' := by
  rcases Service.beforeCreate_eq_ok h with rfl | ⟨-, p, hp, rfl⟩
  · exact hd
  · refine Persist.within_writable (within_of_mem (Persist.within_writable hd)
      (within_of_base (hcaller p hp)) fun x hx => ?_)
    rcases mem_set_cases hx with hx | rfl
    · exact Or.inl hx
    · exact Or.inr (Or.inl (by simp [ownerDoc]))

theorem within_beforeSave_current (sv : Service) {current change : Fields}
    (hd : Within N B change) (hcur : sv.hooks.beforeSave.isSome = true → B current) :
    Within N B (sv.beforeSave current change) := by
  unfold Service.beforeSave
  split
  · exact Persist.within_writable hd
  · rename_i hook hh
    cases hook
    have hc : Within N B current := within_of_base (hcur (by simp [hh]))
    refine Persist.within_writable (within_of_mem (Persist.within_writable hd) hc fun x hx => ?_)
    unfold Hooks.runSave at hx
    dsimp only at hx
    split at hx
    · exact Or.inl (mem_erase hx)
    · exact Or.inl (mem_erase hx)
    · rename_i owner _ hget
      rcases mem_set_cases hx with hx | rfl
      · exact Or.inl (mem_erase hx)
      · exact Or.inr (Or.inl (Fields.mem_of_get? hget))

def auditOnly (sv : Service) : Service :=
  { sv with hooks := { afterSave := sv.hooks.afterSave } }

theorem names_auditOnly (sv : Service) (name : String) (hman : ∀ k ∈ managedNames, k ∈ N)
    (haudit : ∀ k ∈ auditNames, k ∈ N) : sv.auditOnly.Names name N := by
  refine ⟨hman, fun k hk => haudit k ?_⟩
  simp only [Hooks.names, auditOnly, Option.isSome_none, Bool.or_false, Bool.false_eq_true,
    if_false, List.nil_append] at hk
  split at hk
  · split at hk
    · exact hk
    · cases hk
  · cases hk

section Writes

variable {sv : Service} {name : String} {s₀ : Storage}

theorem keep_of_stored_or_selected (hq₀ : s₀.SqlInv) {f : Filter} {i : String} {b : Fields}
    (hb : (i, b) ∈ s₀.stored name ∨ b ∈ s₀.selected sv.entity.collectionName f) : s₀.keep b = b :=
  hb.elim (keep_of_mem_stored hq₀) (keep_of_mem_selected hq₀)

theorem within_revised_over {Base : String → Fields → Prop} {s : Storage}
    (hs : Confined s₀ name (fun i d => Within N (Base i) d) s)
    (hstored : ∀ i b, (i, b) ∈ s₀.stored name → Base i b)
    (hkeep : ∀ i b, Base i b → s₀.keep b = b) {i : String} {d₀ next : Fields}
    (hd₀ : (i, d₀) ∈ s₀.stored name ∨ Within N (Base i) d₀)
    (hnext : Within N (Base i) d₀ → Within N (Base i) next) :
    Within N (Base i) (s.keep next) :=
  within_keep (hnext (hd₀.elim (fun h => within_of_base (hstored _ _ h)) id)) fun _ hb => by
    rw [hs.keep]
    exact hkeep _ _ hb

theorem createOne_confined_caller {Base : String → Fields → Prop} (hN : sv.auditOnly.Names name N)
    {doc : Fields} (hd : Within N (fun _ => False) doc)
    (hcaller : ∀ p, sv.principal = some p → ∀ i, Base i (ownerDoc (.str p.id))) :
    Keeps (Confined s₀ name fun i d => Within N (Base i) d) (sv.createOne doc) := by
  unfold createOne
  refine (keeps_lift _).bind_of
    (Q := Within N fun b => ∃ p, sv.principal = some p ∧ b = ownerDoc (.str p.id))
    (fun _ _ _ h => sv.within_beforeCreate_caller (eq_of_lift_ok h) hd.of_none
      fun p hp => ⟨p, hp, rfl⟩) fun doc' hd' => ?_
  refine (Persist.create_confined _ _ fun _ s _ h _ => ?_).bind fun _ =>
    (afterSave_confined hN _).bind fun _ => keeps_pure _
  refine (within_inserted _ h hd' hN.managed fun _ ⟨_, _, hb⟩ => by rw [hb, keep_ownerDoc]).mono
    (fun _ hk => hk) fun _ ⟨p, hp, hb⟩ => ?_
  rw [hb]
  exact hcaller p hp _

theorem createMany_confined_caller {Base : String → Fields → Prop}
    (hN : sv.auditOnly.Names name N) {docs : List Fields}
    (hd : ∀ d ∈ docs, Within N (fun _ => False) d)
    (hcaller : ∀ p, sv.principal = some p → ∀ i, Base i (ownerDoc (.str p.id))) :
    Keeps (Confined s₀ name fun i d => Within N (Base i) d) (sv.createMany docs) := by
  unfold createMany
  refine (keeps_lift _).bind_of (Q := fun docs' => ∀ d ∈ docs',
      Within N (fun b => ∃ p, sv.principal = some p ∧ b = ownerDoc (.str p.id)) d)
    (fun _ _ _ h d' hd' => ?_) fun docs' hd' => ?_
  · obtain ⟨d, hmem, hbc⟩ := mem_of_mapM_ok _ (eq_of_lift_ok h) d' hd'
    exact sv.within_beforeCreate_caller hbc (hd d hmem).of_none fun p hp => ⟨p, hp, rfl⟩
  · refine (Persist.createMany_confined _ _ fun _ doc hdoc s _ h _ => ?_).bind fun _ =>
      (afterSave_confined hN _).bind fun _ => keeps_pure _
    refine (within_inserted _ h (hd' doc hdoc) hN.managed
      fun _ ⟨_, _, hb⟩ => by rw [hb, keep_ownerDoc]).mono (fun _ hk => hk) fun _ ⟨p, hp, hb⟩ => ?_
    rw [hb]
    exact hcaller p hp _

theorem updateOne_confined_addressed (hN : sv.auditOnly.Names name N) (hm₀ : s₀.MemDocsWf)
    (hq₀ : s₀.SqlInv) (id : String) {change : Fields} (hd : Within N (fun _ => False) change) :
    Confined s₀ name (fun i d => Within N (fun b => (i, b) ∈ s₀.stored name ∨
      b ∈ s₀.selected sv.entity.collectionName (Persist.scope sv.entity (Filter.byId id))) d)
      ((sv.updateOne id change).run s₀).2 := by
  unfold updateOne
  refine run_bind_of_keeps_eq (Persist.findOne_keeps_eq _ _ s₀) (fun current hcur => ?_)
    (confined_self hm₀ hq₀)
  have hsrc := Storage.findOne_ok (Persist.normalized_ok hcur)
  have hsave := sv.within_beforeSave_current (B := fun b => b ∈ s₀.selected
    sv.entity.collectionName (Persist.scope sv.entity (Filter.byId id))) hd.of_none fun _ => hsrc
  refine ((Persist.findOneAndUpdate_confined _ _ _ fun _ s hs i d₀ _ _ hd₀ => ?_).bind fun _ =>
    (afterSave_confined hN _).bind fun _ => keeps_pure _) s₀ (confined_self hm₀ hq₀)
  exact within_revised_over hs (fun _ _ => Or.inl) (fun _ _ => keep_of_stored_or_selected hq₀)
    hd₀ fun h₀ => within_mergeChange h₀
      (Persist.within_writable (hsave.mono (fun _ hk => hk) fun _ => Or.inr)) hN.managed

theorem replaceOne_confined_addressed (hN : sv.auditOnly.Names name N) (hm₀ : s₀.MemDocsWf)
    (hq₀ : s₀.SqlInv) (id : String) {doc : Fields} (hd : Within N (fun _ => False) doc) :
    Confined s₀ name (fun i d => Within N (fun b => (i, b) ∈ s₀.stored name ∨
      b ∈ s₀.selected sv.entity.collectionName (Persist.scope sv.entity (Filter.byId id))) d)
      ((sv.replaceOne id doc).run s₀).2 := by
  unfold replaceOne
  refine run_bind_of_keeps_eq (Persist.findOne_keeps_eq _ _ s₀) (fun current hcur => ?_)
    (confined_self hm₀ hq₀)
  have hsrc := Storage.findOne_ok (Persist.normalized_ok hcur)
  have hsave := sv.within_beforeSave_current (B := fun b => b ∈ s₀.selected
    sv.entity.collectionName (Persist.scope sv.entity (Filter.byId id))) hd.of_none fun _ => hsrc
  refine ((Persist.findOneAndReplace_confined _ _ _ fun _ s hs i d₀ _ _ hd₀ => ?_).bind fun _ =>
    (afterSave_confined hN _).bind fun _ => keeps_pure _) s₀ (confined_self hm₀ hq₀)
  exact within_revised_over hs (fun _ _ => Or.inl) (fun _ _ => keep_of_stored_or_selected hq₀)
    hd₀ fun _ => within_replacement (Persist.within_fresh _
      (hsave.mono (fun _ hk => hk) fun _ => Or.inr) hN.managed) hN.managed

theorem duplicateOne_confined_source (hN : sv.auditOnly.Names name N) (hm₀ : s₀.MemDocsWf)
    (hq₀ : s₀.SqlInv) (id : String) {overrides : Fields}
    (hd : Within N (fun _ => False) overrides) :
    Confined s₀ name (fun _ d => Within N (fun b => b ∈ s₀.selected sv.entity.collectionName
      (Persist.scope sv.entity (Filter.byId id))) d) ((sv.duplicateOne id overrides).run s₀).2 := by
  unfold duplicateOne
  refine run_bind_of_keeps_eq (Persist.findOne_keeps_eq _ _ s₀)
    (fun current hcur => ?_) (confined_self hm₀ hq₀)
  have hsrc := Storage.findOne_ok (Persist.normalized_ok hcur)
  have hsave := sv.within_beforeSave_current hd.of_none fun _ => hsrc
  refine ((Persist.create_confined _ _ fun _ s hs h _ => ?_).bind fun _ =>
    (afterSave_confined hN _).bind fun _ => keeps_pure _) s₀ (confined_self hm₀ hq₀)
  exact within_inserted _ h (within_copyWith (within_of_base hsrc) hsave) hN.managed
    fun _ hb => by
      rw [hs.keep]
      exact keep_of_mem_selected hq₀ hb

end Writes

end Service

namespace Route

def plainNames (r : Route) : List String :=
  (match r.shapes.body with
    | some b => r.bodyNames b
    | none => []) ++ managedNames ++ auditNames

/-- A route whose bodies cannot name the owner: it checks a body against a shape with fields whose
validator does not know the owner field, and a route without a body shape reads no body. -/
structure OwnerOutOfBody (r : Route) : Prop where
  shape : ∀ b, r.shapes.body = some b → b.fields ≠ [] ∧ fieldOwner ∉ r.bodyNames b
  reads : r.shapes.body = none → r.kind ∈ [.getOne, .getMany, .deleteOne, .deleteMany]

/-- The owner a route may give a document it creates: the caller's identity. -/
def callerOwner (r : Route) (p : Option Principal) : Option Value :=
  if r.kind.creates then p.map fun p => .str p.id else none

/-- The documents a route's writes may take an owner from, as a storage holds them: the documents
its writes start from, and for the routes that read the addressed document before they save it,
that document. -/
def OwnerBase (r : Route) (req : Request) (s : Storage) : String → Fields → Prop :=
  match r.kind with
  | .updateOne | .replaceOne => fun i b => (i, b) ∈ s.stored r.entity.collectionName ∨
    b ∈ s.selected r.entity.collectionName (Persist.scope r.entity (Filter.byId req.id))
  | _ => r.Base req s

variable {r : Route}

theorem owner_not_mem_plainNames (hr : r.OwnerOutOfBody) : fieldOwner ∉ r.plainNames := by
  unfold plainNames
  simp only [List.mem_append, not_or]
  refine ⟨⟨?_, by decide⟩, by decide⟩
  split
  · rename_i b hb
    exact (hr.shape b hb).2
  · simp

theorem decode_body_plain (hr : r.OwnerOutOfBody) {V : List Field → Fields → List Shape.SchemaError}
    (hV : Shape.Faithful V) {F : EnvelopeFaults} {id : String} {ids : List String} {query : Fields}
    {body : BodyText} {req : Request} (hreq : r.decodeWith V F id ids query body = .ok req) :
    Within r.plainNames (fun _ => False) req.body ∧
      ∀ d ∈ req.list, Within r.plainNames (fun _ => False) d := by
  cases hb : r.shapes.body with
  | some b =>
    have hnames : ∀ k ∈ r.bodyNames b, k ∈ r.plainNames := fun k hk => by
      simp [plainNames, hb, hk]
    obtain ⟨h₁, h₂⟩ := decode_body_within hV hb (hr.shape b hb).1 hreq
    exact ⟨h₁.mono hnames fun _ h => h, fun d hd => (h₂ d hd).mono hnames fun _ h => h⟩
  | none =>
    -- without a body shape the route reads no body, and its request holds none
    have hbody := (decodeWith_eq_ok hreq).2.2.2
    have hnil : req.body = [] ∧ req.list = [] := by
      have hk := hr.reads hb
      simp only [List.mem_cons, List.not_mem_nil, or_false] at hk
      unfold envelopeBody? at hbody
      rcases hk with hk | hk | hk | hk <;> simp only [hk, Option.some.injEq, Prod.mk.injEq] at hbody <;>
        exact ⟨hbody.1.symm, hbody.2.symm⟩
    rw [hnil.1, hnil.2]
    constructor
    · intro _ _ hm
      cases hm
    · intro _ hm
      cases hm

theorem callerOwner_of_creates (hk : r.kind.creates = true) {p : Option Principal}
    {p' : Principal} (hp : (r.service p).principal = some p') :
    r.callerOwner p = some (.str p'.id) := by
  simp only [Route.service] at hp
  simp [callerOwner, hk, hp]

theorem handle_confined_owner (r : Route) (hr : r.OwnerOutOfBody)
    {V : List Field → Fields → List Shape.SchemaError} (hV : Shape.Faithful V) {F : EnvelopeFaults}
    {id : String} {ids : List String} {query : Fields} {body : BodyText} {req : Request}
    (hreq : r.decodeWith V F id ids query body = .ok req) (p : Option Principal) {s₀ : Storage}
    (hm₀ : s₀.MemDocsWf) (hq₀ : s₀.SqlInv) :
    Confined s₀ r.entity.collectionName (fun i d => Within r.plainNames
      (fun b => r.OwnerBase req s₀ i b ∨ ∃ v, r.callerOwner p = some v ∧ b = ownerDoc v) d)
      ((r.handle p req).run s₀).2 := by
  have hN : (r.service p).auditOnly.Names r.entity.collectionName r.plainNames :=
    Service.names_auditOnly _ _ (fun k hk => by simp [plainNames, hk])
      fun k hk => by simp [plainNames, hk]
  have h₀ : Confined s₀ r.entity.collectionName (fun i d => Within r.plainNames
      (fun b => r.OwnerBase req s₀ i b ∨ ∃ v, r.callerOwner p = some v ∧ b = ownerDoc v) d) s₀ :=
    confined_self hm₀ hq₀
  -- an operation bounded over bases of its own is bounded over the owner bases that hold them
  have hmono : ∀ {Base : String → Fields → Prop} {s : Storage},
      Confined s₀ r.entity.collectionName (fun i d => Within r.plainNames (Base i) d) s →
      (∀ i b, Base i b → r.OwnerBase req s₀ i b) →
      Confined s₀ r.entity.collectionName (fun i d => Within r.plainNames
        (fun b => r.OwnerBase req s₀ i b ∨ ∃ v, r.callerOwner p = some v ∧ b = ownerDoc v) d) s :=
    fun hs hB => hs.mono fun i _ hd => hd.mono (fun _ h => h) fun b hb => Or.inl (hB i b hb)
  obtain ⟨hbody, hlist⟩ := r.decode_body_plain hr hV hreq
  have hmapped : ∀ body', ((Service.lift (r.toEntity req.body)).run s₀).1 = .ok body' →
      Within r.plainNames (fun _ => False) body' := fun _ h =>
    r.within_toEntity (Service.eq_of_lift_ok h) hbody
  have hmappedList : ∀ list, ((Service.lift (r.toEntities req.list)).run s₀).1 = .ok list →
      ∀ d ∈ list, Within r.plainNames (fun _ => False) d := fun _ h d hd => by
    obtain ⟨d₀, hd₀, hmap⟩ := mem_of_mapM_ok _ (Service.eq_of_lift_ok h) d hd
    exact r.within_toEntity hmap (hlist d₀ hd₀)
  unfold handle
  -- the guard and the body mapper only read, so each operation runs from `s₀`
  refine run_bind_of_keeps_eq (r.guard_keeps_eq p req.id s₀) (fun _ _ => ?_) h₀
  split <;> rename_i hk
  · exact ((Persist.findOne_confined _ _).bind fun _ => keeps_pure _) s₀ h₀
  · exact ((Persist.find_confined _ _).bind fun _ => keeps_pure _) s₀ h₀
  · exact run_bind_of_keeps_eq (Service.keeps_lift _) (fun body' h =>
      ((Service.createOne_confined_caller hN (hmapped body' h) fun _ hp _ =>
        Or.inr ⟨_, callerOwner_of_creates (by rw [hk]; rfl) hp, rfl⟩).bind fun _ =>
          keeps_pure _) s₀ h₀) h₀
  · exact run_bind_of_keeps_eq (Service.keeps_lift _) (fun list h =>
      ((Service.createMany_confined_caller hN (hmappedList list h) fun _ hp _ =>
        Or.inr ⟨_, callerOwner_of_creates (by rw [hk]; rfl) hp, rfl⟩).bind fun _ =>
          keeps_pure _) s₀ h₀) h₀
  · refine run_bind_of_keeps_eq (Service.keeps_lift _) (fun body' h => ?_) h₀
    rw [bind_pure_comp, run_map_snd]
    exact hmono (Service.updateOne_confined_addressed hN hm₀ hq₀ _ (hmapped body' h))
      fun _ _ hb => by simpa [OwnerBase, hk, Route.service] using hb
  · refine run_bind_of_keeps_eq (Service.keeps_lift _) (fun body' h => ?_) h₀
    exact hmono (((Service.updateMany_confined hN hq₀ _ (hmapped body' h)).bind fun _ =>
      keeps_pure _) s₀ (confined_self hm₀ hq₀)) fun _ _ hb => by simpa [OwnerBase, Base, hk] using hb
  · exact hmono (((Service.deleteOne_confined hN hq₀ _).bind fun _ => keeps_pure _) s₀
      (confined_self hm₀ hq₀)) fun _ _ hb => by simpa [OwnerBase, Base, hk] using hb
  · exact hmono (((Service.deleteMany_confined hN hq₀ _).bind fun _ => keeps_pure _) s₀
      (confined_self hm₀ hq₀)) fun _ _ hb => by simpa [OwnerBase, Base, hk] using hb
  · refine run_bind_of_keeps_eq (Service.keeps_lift _) (fun body' h => ?_) h₀
    rw [bind_pure_comp, run_map_snd]
    exact hmono (Service.duplicateOne_confined_source hN hm₀ hq₀ _ (hmapped body' h))
      fun _ _ hb => by simpa [OwnerBase, Base, hk, Route.service] using hb
  · refine run_bind_of_keeps_eq (Service.keeps_lift _) (fun body' h => ?_) h₀
    rw [bind_pure_comp, run_map_snd]
    exact hmono (Service.duplicateMany_confined hN hm₀ hq₀ _ (hmapped body' h))
      fun _ _ hb => by simpa [OwnerBase, Base, hk, Route.service, Service.auditOnly] using hb
  · refine run_bind_of_keeps_eq (Service.keeps_lift _) (fun body' h => ?_) h₀
    rw [bind_pure_comp, run_map_snd]
    exact hmono (Service.replaceOne_confined_addressed hN hm₀ hq₀ _ (hmapped body' h))
      fun _ _ hb => by simpa [OwnerBase, hk, Route.service] using hb

end Route

/-- No request moves a document to another owner. In every storage reached from a new store, a
route whose bodies cannot name the owner, run on a request its envelope decoding accepts under a
faithful validator, leaves
each document of its collection as it was, or holding as owner, when other than null, the
caller's identity for a route that creates, or the owner of a document the route may take an
owner from: the stored document of the identity written, the document an update or a replacement
of one document addresses, or the source of a copy. -/
theorem route_writes_owner_from_caller_or_base (r : Route) (hr : r.OwnerOutOfBody)
    {V : List Field → Fields → List Shape.SchemaError} (hV : Shape.Faithful V)
    {F : EnvelopeFaults} {id : String} {ids : List String} {query : Fields} {body : BodyText}
    {req : Request} (hreq : r.decodeWith V F id ids query body = .ok req) (p : Option Principal)
    {h : Host} {bk : Backend} (hbk : bk = .memory {} ∨ bk = .sqlite {})
    {allowed : StoreCall → Storage → Prop} {s : Storage}
    (hs : StoreCall.Reaches allowed { host := h, backend := bk } s) {i : String} {d : Fields}
    (hd : (i, d) ∈ ((r.handle p req).run s).2.stored r.entity.collectionName) :
    (i, d) ∈ s.stored r.entity.collectionName ∨
      OwnerFrom (r.callerOwner p) (r.OwnerBase req s i) d := by
  obtain ⟨hm, hq⟩ := Storage.docsWf_of_reaches hbk hs
  exact ((r.handle_confined_owner hr hV hreq p hm hq).docs i d hd).imp_right fun hw =>
    ownerFrom_of_within hw (Route.owner_not_mem_plainNames hr)

/-- A project created through a route that makes the caller the owner, from a body without an
owner: the stored project holds the caller as owner. -/
theorem created_project_owner_from_caller :
    let project : Entity := { name := "Project", collection := "projects", softDeletable := true }
    let r : Route := { (default : Route) with
      entity := project
      kind := .createOne
      shapes := { body := some { fields := [{ name := "name", kind := "string", required := true },
        { name := "slug", kind := "string", required := true }, { name := "tags", kind := "array" },
        { name := "budget", kind := "number" }] } }
      ability := some .signedIn
      hooks := { beforeCreate := some .setOwner } }
    let alice : Principal := { id := "u1" }
    let req : Request := { body := [("name", .str "p"), ("slug", .str "s")] }
    let s : Storage := { host := { now := ⟨0, 0, 0⟩ }, backend := .memory {} }
    let i := "00000000-0000-4000-8000-000000000001"
    let d : Fields := [("createdAt", .time ⟨0, 0, 0⟩), ("deletedAt", .null), ("id", .str i),
      ("isDeleted", .bool false), ("name", .str "p"), ("ownerId", .str "u1"), ("slug", .str "s"),
      ("updatedAt", .time ⟨0, 0, 0⟩)]
    r.OwnerOutOfBody ∧ ((i, d) ∈ s.stored r.entity.collectionName ∨
      OwnerFrom (r.callerOwner (some alice)) (r.OwnerBase req s i) d) := by
  intro project r alice req s i d
  have hr : r.OwnerOutOfBody := ⟨fun b hb => by
    cases hb
    exact ⟨List.cons_ne_nil _ _, by decide⟩, fun hb => by cases hb⟩
  exact ⟨hr, route_writes_owner_from_caller_or_base r hr Shape.validate_faithful
    (show r.decodeWith Shape.validate httpFaults "" []
      [] (.value (.obj [("name", .str "p"), ("slug", .str "s")])) = .ok req by rfl)
    (some alice) (Or.inl rfl) (.refl : StoreCall.Reaches (fun _ _ => True) _ _)
    (List.mem_singleton.2 rfl)⟩

/-- A project copied through a route that leaves the owner out of its body shape, by its owner,
with a null owner in the body: the shape passes the body, and the copy is stored with no owner
while its source is owned. -/
theorem null_owner_in_copy_body_clears_owner :
    let project : Entity := { name := "Project", collection := "projects", softDeletable := true }
    let create : Route := { (default : Route) with
      entity := project
      kind := .createOne
      shapes := { body := some { fields := [{ name := "name", kind := "string", required := true },
        { name := "slug", kind := "string", required := true }, { name := "tags", kind := "array" },
        { name := "budget", kind := "number" }] } }
      ability := some .signedIn
      hooks := { beforeCreate := some .setOwner } }
    let copy : Route := { (default : Route) with
      entity := project
      kind := .duplicateOne
      shapes := { body := some { fields := [{ name := "name", kind := "string" },
        { name := "slug", kind := "string" }, { name := "tags", kind := "array" },
        { name := "budget", kind := "number" }] } }
      ability := some .owner }
    let alice : Principal := { id := "u1" }
    let s₀ : Storage := { host := { now := ⟨0, 0, 0⟩ }, backend := .memory {} }
    let s₁ := ((create.handle (some alice)
      { body := [("name", .str "p"), ("slug", .str "s")] }).run s₀).2
    let i := "00000000-0000-4000-8000-000000000001"
    let j := "00000000-0000-4000-8000-000000000002"
    let overrides : Fields := [("ownerId", .null), ("slug", .str "s2")]
    copy.OwnerOutOfBody ∧
      copy.decode httpFaults i [] [] (.value (.obj overrides)) = .ok { id := i, body := overrides } ∧
      ((copy.handle (some alice) { id := i, body := overrides }).run s₁).2.stored "projects" =
        [(i, [("createdAt", .time ⟨0, 0, 0⟩), ("deletedAt", .null), ("id", .str i),
          ("isDeleted", .bool false), ("name", .str "p"), ("ownerId", .str "u1"),
          ("slug", .str "s"), ("updatedAt", .time ⟨0, 0, 0⟩)]),
        (j, [("createdAt", .time ⟨0, 0, 0⟩), ("deletedAt", .null), ("id", .str j),
          ("isDeleted", .bool false), ("name", .str "p"), ("ownerId", .null),
          ("slug", .str "s2"), ("updatedAt", .time ⟨0, 0, 0⟩)])] :=
  ⟨⟨fun b hb => by
      cases hb
      exact ⟨List.cons_ne_nil _ _, by decide⟩, fun hb => by cases hb⟩, by rfl, by rfl⟩

end CrudRoutes
