import Mathlib
import CrudRoutes.Proofs.BodyFields
import CrudRoutes.Proofs.Store.Persistence
import CrudRoutes.Proofs.Validators

/-!
What a route writes into its collection. Every document of the collection after a route runs is
one it held before, unchanged, or one whose fields holding something other than null are fields of
the body shape, managed fields, or fields the route's hooks set, except for values it
takes over from the document the write starts from: none for a creation, the stored document for
an update, a replacement or a deletion, and the source for a duplication.

The bound comes from `Storage.Confined`: each operation of a service keeps the collection confined
to documents within the names, and a route runs its guard and maps its body, reading only, before
the one operation of its kind. A duplication reads its source first and copies it; the copy is
within the names over that source as the storage held it when the route started.
-/

namespace CrudRoutes

open StoreM Storage Fields

/-- The fields the hooks may write into a collection: the owner for the owner hooks, and the fields
of an audit record when the audit trail writes into that collection. -/
def Hooks.names (h : Hooks) (name : String) : List String :=
  (if h.beforeCreate.isSome || h.beforeSave.isSome then [fieldOwner] else []) ++
    match h.afterSave with
    | some (.auditTrail audit) => if audit.collectionName = name then auditNames else []
    | none => []

theorem mem_of_mapM_ok {α β ε : Type} {f : α → Except ε β} (l : List α) :
    ∀ {l' : List β}, l.mapM f = .ok l' → ∀ b ∈ l', ∃ a ∈ l, f a = .ok b := by
  induction l with
  | nil =>
    intro l' h b hb
    cases h
    cases hb
  | cons a rest ih =>
    intro l' h b hb
    rw [List.mapM_cons] at h
    cases ha : f a with
    | error e => simp [ha, bind, Except.bind] at h
    | ok b₀ =>
      cases hr : rest.mapM f with
      | error e => simp [ha, hr, bind, Except.bind] at h
      | ok bs =>
        simp only [ha, hr, bind, Except.bind, pure, Except.pure, Except.ok.injEq] at h
        subst h
        rcases List.mem_cons.1 hb with rfl | hb
        · exact ⟨a, List.mem_cons_self, ha⟩
        · obtain ⟨a', ha', hfa⟩ := ih hr b hb
          exact ⟨a', List.mem_cons_of_mem a ha', hfa⟩

namespace Service

/-- Names that cover what a service may write into a collection beside a body: the managed fields
and its hooks' fields. -/
structure Names (sv : Service) (name : String) (N : List String) : Prop where
  managed : ∀ k ∈ managedNames, k ∈ N
  hooks : ∀ k ∈ sv.hooks.names name, k ∈ N

variable {sv : Service} {name : String} {N : List String}

theorem Names.owner (hN : sv.Names name N)
    (h : (sv.hooks.beforeCreate.isSome || sv.hooks.beforeSave.isSome) = true) : fieldOwner ∈ N :=
  hN.hooks _ (by simp [Hooks.names, h])

theorem Names.audit (hN : sv.Names name N) {audit : Entity}
    (ha : sv.hooks.afterSave = some (.auditTrail audit)) (hn : audit.collectionName = name) :
    ∀ k ∈ auditNames, k ∈ N :=
  fun k hk => hN.hooks k (by simp [Hooks.names, ha, hn, hk])

theorem eq_of_lift_ok {α : Type} {r : Except Fault α} {s : Storage} {a : α}
    (h : ((lift r).run s).1 = .ok a) : r = .ok a := by
  cases r with
  | ok b => exact congrArg Except.ok (Except.ok.inj h)
  | error e => cases h

theorem within_inserted {B : Fields → Prop} {s : Storage} (e : Entity) (h : Host) {doc : Fields}
    (hd : Within N B doc) (hman : ∀ k ∈ managedNames, k ∈ N) (hB : ∀ b, B b → s.keep b = b) :
    Within N B (s.keep (MemoryStore.prepare h (Persist.fresh e doc)).1) :=
  within_keep (within_prepare (Persist.within_fresh e hd hman) hman) hB

section Writes

variable {s₀ : Storage}

theorem afterSave_confined {Base : String → Fields → Prop} (hN : sv.Names name N)
    (docs : List Fields) :
    Keeps (Confined s₀ name fun i d => Within N (Base i) d) (sv.afterSave docs) := by
  unfold afterSave
  split
  · exact keeps_pure _
  · rename_i hook hh
    cases hook with
    | auditTrail audit =>
      refine keeps_runEach fun d _ => Keeps.tryCatch (Keeps.bind ?_ fun _ => keeps_pure _)
        fun _ => keeps_throw _
      refine Persist.create_confined _ _ fun hn s _ h _ => Within.of_none ?_
      exact within_inserted audit h (Hooks.within_auditRecord d sv.principal (hN.audit hh hn))
        hN.managed fun _ hf => hf.elim

theorem createOne_confined {Base : String → Fields → Prop} (hN : sv.Names name N) {doc : Fields}
    (hd : Within N (fun _ => False) doc) :
    Keeps (Confined s₀ name fun i d => Within N (Base i) d) (sv.createOne doc) := by
  unfold createOne
  -- the before-create hook adds at most the owner
  refine (keeps_lift _).bind_of (Q := Within N fun _ => False)
    (fun _ _ _ h => sv.within_beforeCreate (eq_of_lift_ok h) hd fun ho => hN.owner (by simp [ho]))
    fun doc' hd' => ?_
  refine (Persist.create_confined _ _ fun _ s _ h _ => Within.of_none ?_).bind fun _ =>
    (afterSave_confined hN _).bind fun _ => keeps_pure _
  exact within_inserted _ h hd' hN.managed fun _ hf => hf.elim

theorem createMany_confined {Base : String → Fields → Prop} (hN : sv.Names name N)
    {docs : List Fields} (hd : ∀ d ∈ docs, Within N (fun _ => False) d) :
    Keeps (Confined s₀ name fun i d => Within N (Base i) d) (sv.createMany docs) := by
  unfold createMany
  refine (keeps_lift _).bind_of (Q := fun docs' => ∀ d ∈ docs', Within N (fun _ => False) d)
    (fun _ _ _ h d' hd' => ?_) fun docs' hd' => ?_
  · obtain ⟨d, hmem, hbc⟩ := mem_of_mapM_ok _ (eq_of_lift_ok h) d' hd'
    exact sv.within_beforeCreate hbc (hd d hmem) fun ho => hN.owner (by simp [ho])
  · refine (Persist.createMany_confined _ _ fun _ doc hdoc s _ h _ => Within.of_none ?_).bind
      fun _ => (afterSave_confined hN _).bind fun _ => keeps_pure _
    exact within_inserted _ h (hd' doc hdoc) hN.managed fun _ hf => hf.elim

/-! Updates, replacements and deletions write the next version of a stored document, over that
document as `s₀` holds it under its identity. -/

theorem within_revised {s : Storage}
    (hs : Confined s₀ name (fun i d => Within N (fun b => (i, b) ∈ s₀.stored name) d) s)
    (hq₀ : s₀.SqlInv) {i : String} {d₀ next : Fields}
    (hd₀ : (i, d₀) ∈ s₀.stored name ∨ Within N (fun b => (i, b) ∈ s₀.stored name) d₀)
    (hnext : Within N (fun b => (i, b) ∈ s₀.stored name) d₀ →
      Within N (fun b => (i, b) ∈ s₀.stored name) next) :
    Within N (fun b => (i, b) ∈ s₀.stored name) (s.keep next) :=
  within_keep (hnext (hd₀.elim (fun h => within_of_base h) id)) fun _ hb => by
    rw [hs.keep]
    exact keep_of_mem_stored hq₀ hb

theorem updateOne_confined (hN : sv.Names name N) (hq₀ : s₀.SqlInv) (id : String)
    {change : Fields} (hd : Within N (fun _ => False) change) :
    Keeps (Confined s₀ name fun i d => Within N (fun b => (i, b) ∈ s₀.stored name) d)
      (sv.updateOne id change) := by
  unfold updateOne
  refine (Persist.findOne_confined _ _).bind fun current => ?_
  refine (Persist.findOneAndUpdate_confined _ _ _ fun _ s hs i d₀ _ _ hd₀ => ?_).bind fun _ =>
    (afterSave_confined hN _).bind fun _ => keeps_pure _
  have hsave := sv.within_beforeSave current hd fun ho => hN.owner (by simp [ho])
  exact within_revised hs hq₀ hd₀ fun h₀ =>
    within_mergeChange h₀ (Persist.within_writable hsave.of_none) hN.managed

theorem updateMany_confined (hN : sv.Names name N) (hq₀ : s₀.SqlInv) (ids : List String)
    {change : Fields} (hd : Within N (fun _ => False) change) :
    Keeps (Confined s₀ name fun i d => Within N (fun b => (i, b) ∈ s₀.stored name) d)
      (sv.updateMany ids change) := by
  unfold updateMany requireAll
  refine ((Persist.find_confined _ _).bind fun _ => keeps_ite_throw _ _).bind fun _ => ?_
  refine (Persist.updateMany_confined _ _ _ fun _ s hs i d₀ _ _ hd₀ => ?_).bind fun _ =>
    (Persist.find_confined _ _).bind fun _ => (afterSave_confined hN _).bind fun _ => keeps_pure _
  exact within_revised hs hq₀ hd₀ fun h₀ =>
    within_mergeChange h₀ (Persist.within_writable hd.of_none) hN.managed

theorem replaceOne_confined (hN : sv.Names name N) (hq₀ : s₀.SqlInv) (id : String)
    {doc : Fields} (hd : Within N (fun _ => False) doc) :
    Keeps (Confined s₀ name fun i d => Within N (fun b => (i, b) ∈ s₀.stored name) d)
      (sv.replaceOne id doc) := by
  unfold replaceOne
  refine (Persist.findOne_confined _ _).bind fun current => ?_
  refine (Persist.findOneAndReplace_confined _ _ _ fun _ s hs i d₀ _ _ hd₀ => ?_).bind fun _ =>
    (afterSave_confined hN _).bind fun _ => keeps_pure _
  have hsave := sv.within_beforeSave current hd fun ho => hN.owner (by simp [ho])
  -- a replacement takes only the identity and the creation time over from the stored document
  exact within_revised hs hq₀ hd₀ fun _ =>
    within_replacement (Persist.within_fresh _ hsave.of_none hN.managed) hN.managed

theorem deleteOne_confined (hN : sv.Names name N) (hq₀ : s₀.SqlInv) (id : String) :
    Keeps (Confined s₀ name fun i d => Within N (fun b => (i, b) ∈ s₀.stored name) d)
      (sv.deleteOne id) :=
  Keeps.tryCatch (Persist.deleteOne_confined _ _ fun _ _ _ hs _ _ _ _ hd₀ =>
    within_revised hs hq₀ hd₀ fun h₀ =>
      within_mergeChange h₀ (Persist.within_tombstone _ hN.managed) hN.managed)
    fun _ => keeps_pure _

theorem deleteMany_confined (hN : sv.Names name N) (hq₀ : s₀.SqlInv) (ids : List String) :
    Keeps (Confined s₀ name fun i d => Within N (fun b => (i, b) ∈ s₀.stored name) d)
      (sv.deleteMany ids) :=
  Keeps.tryCatch (Persist.deleteMany_confined _ _ fun _ _ _ hs _ _ _ _ hd₀ =>
    within_revised hs hq₀ hd₀ fun h₀ =>
      within_mergeChange h₀ (Persist.within_tombstone _ hN.managed) hN.managed)
    fun _ => keeps_pure _

/-! Duplications copy the documents they read from `s₀`, so they are bounded from `s₀` only. -/

theorem keep_of_mem_selected {s : Storage} (hq : s.SqlInv) {f : Filter} {b : Fields}
    (hb : b ∈ s.selected name f) : s.keep b = b := by
  obtain ⟨⟨i, d⟩, hp, rfl, -⟩ := Storage.exists_of_mem_selected hb
  exact keep_of_mem_stored hq hp

theorem duplicateOne_confined (hN : sv.Names name N) (hm₀ : s₀.MemDocsWf) (hq₀ : s₀.SqlInv)
    (id : String) {overrides : Fields} (hd : Within N (fun _ => False) overrides) :
    Confined s₀ name (fun _ d => Within N (fun b => b ∈ s₀.selected sv.entity.collectionName
      (Persist.scope sv.entity (Filter.byId id))) d) ((sv.duplicateOne id overrides).run s₀).2 := by
  unfold duplicateOne
  refine run_bind_of_keeps_eq (Persist.findOne_keeps_eq _ _ s₀)
    (fun current hcur => ?_) (confined_self hm₀ hq₀)
  have hsrc := Storage.findOne_ok (Persist.normalized_ok hcur)
  have hsave := sv.within_beforeSave current hd fun ho => hN.owner (by simp [ho])
  refine ((Persist.create_confined _ _ fun _ s hs h _ => ?_).bind fun _ =>
    (afterSave_confined hN _).bind fun _ => keeps_pure _) s₀ (confined_self hm₀ hq₀)
  exact within_inserted _ h (within_copyWith (within_of_base hsrc) hsave.of_none) hN.managed
    fun _ hb => by
      rw [hs.keep]
      exact keep_of_mem_selected hq₀ hb

theorem duplicateMany_confined (hN : sv.Names name N) (hm₀ : s₀.MemDocsWf) (hq₀ : s₀.SqlInv)
    (ids : List String) {overrides : Fields} (hd : Within N (fun _ => False) overrides) :
    Confined s₀ name (fun _ d => Within N (fun b => b ∈ s₀.selected sv.entity.collectionName
      (Persist.scope sv.entity (Filter.byIds ids))) d)
      ((sv.duplicateMany ids overrides).run s₀).2 := by
  unfold duplicateMany
  refine run_bind_of_keeps_eq (Persist.find_keeps_eq _ _ s₀)
    (fun found hfound => ?_) (confined_self hm₀ hq₀)
  have hsrc := Storage.find_ok (Persist.normalized_ok hfound)
  have hcopy : Keeps (Confined s₀ name (fun _ d => Within N (fun b => b ∈ s₀.selected
      sv.entity.collectionName (Persist.scope sv.entity (Filter.byIds ids))) d))
      (Persist.createMany sv.entity (found.map (copyWith · overrides)) >>= fun created =>
        sv.afterSave created >>= fun _ => pure created) := by
    refine (Persist.createMany_confined _ _ fun _ doc hdoc s hs h _ => ?_).bind fun _ =>
      (afterSave_confined hN _).bind fun _ => keeps_pure _
    obtain ⟨src, hmem, rfl⟩ := List.mem_map.1 hdoc
    exact within_inserted _ h
      (within_copyWith (within_of_base (hsrc ▸ hmem)) hd.of_none)
      hN.managed fun _ hb => by
        rw [hs.keep]
        exact keep_of_mem_selected hq₀ hb
  dsimp only
  split
  · exact ((keeps_throw _).bind fun _ => hcopy) s₀ (confined_self hm₀ hq₀)
  · exact hcopy s₀ (confined_self hm₀ hq₀)

end Writes

end Service

namespace Route

/-- The fields a route may write beside the values it takes over: the fields of its body shape,
the managed fields and its hooks' fields. -/
def writableNames (r : Route) (b : Shape) : List String :=
  b.fields.map (·.name) ++ managedNames ++ r.hooks.names r.entity.collectionName

theorem bodyNames_eq_of_keyed (r : Route) {b : Shape} (hv : r.validators.Keyed)
    (hs : ∀ f ∈ b.fields, f.Plain) : r.bodyNames b = b.fields.map (·.name) := by
  have h := congrArg (List.map (·.1)) (hv.rulesFor hs)
  simp only [List.map_map, Function.comp_def, Field.rule] at h
  exact h

/-- The documents a route's writes start from, as a storage holds them: none for a creation, the
source for a duplication, and otherwise the stored document of the identity written. -/
def Base (r : Route) (req : Request) (s : Storage) : String → Fields → Prop :=
  match r.kind with
  | .createOne | .createMany => fun _ _ => False
  | .duplicateOne => fun _ b =>
    b ∈ s.selected r.entity.collectionName (Persist.scope r.entity (Filter.byId req.id))
  | .duplicateMany => fun _ b =>
    b ∈ s.selected r.entity.collectionName (Persist.scope r.entity (Filter.byIds req.ids))
  | _ => fun i b => (i, b) ∈ s.stored r.entity.collectionName

theorem names_writableNames (r : Route) (b : Shape) (p : Option Principal) :
    (r.service p).Names r.entity.collectionName (r.writableNames b) :=
  ⟨fun _ hk => List.mem_append.2 (Or.inl (List.mem_append.2 (Or.inr hk))),
    fun _ hk => List.mem_append.2 (Or.inr hk)⟩

theorem handle_confined (r : Route) {b : Shape} (hb : r.shapes.body = some b)
    (hf : b.fields ≠ []) (hv : r.validators.Keyed) (hs : ∀ f ∈ b.fields, f.Plain)
    {V : List Field → Fields → List Shape.SchemaError} (hV : Shape.Faithful V) {F : EnvelopeFaults}
    {id : String} {ids : List String} {query : Fields} {body : BodyText} {req : Request}
    (hreq : r.decodeWith V F id ids query body = .ok req)
    (p : Option Principal) {s₀ : Storage} (hm₀ : s₀.MemDocsWf) (hq₀ : s₀.SqlInv) :
    Confined s₀ r.entity.collectionName
      (fun i d => Within (r.writableNames b) (r.Base req s₀ i) d) ((r.handle p req).run s₀).2 := by
  have hN := r.names_writableNames b p
  have h₀ : Confined s₀ r.entity.collectionName
      (fun i d => Within (r.writableNames b) (r.Base req s₀ i) d) s₀ := confined_self hm₀ hq₀
  -- the decoded bodies are within the body names, and stay within the writable names once mapped
  obtain ⟨hbody, hlist⟩ := decode_body_within hV hb hf hreq
  have hnames : ∀ k ∈ r.bodyNames b, k ∈ r.writableNames b := fun k hk => by
    rw [bodyNames_eq_of_keyed r hv hs] at hk
    simp [writableNames, hk]
  have hmapped : ∀ body', ((Service.lift (r.toEntity req.body)).run s₀).1 = .ok body' →
      Within (r.writableNames b) (fun _ => False) body' := fun _ h =>
    r.within_toEntity (Service.eq_of_lift_ok h) (hbody.mono hnames fun _ h => h)
  have hmappedList : ∀ list, ((Service.lift (r.toEntities req.list)).run s₀).1 = .ok list →
      ∀ d ∈ list, Within (r.writableNames b) (fun _ => False) d := fun _ h d hd => by
    obtain ⟨d₀, hd₀, hmap⟩ := mem_of_mapM_ok _ (Service.eq_of_lift_ok h) d hd
    exact r.within_toEntity hmap ((hlist d₀ hd₀).mono hnames fun _ h => h)
  unfold handle
  -- the guard and the body mapper only read, so each operation runs from `s₀`
  refine run_bind_of_keeps_eq (r.guard_keeps_eq p req.id s₀) (fun _ _ => ?_) h₀
  split <;> rename_i hk
  · exact ((Persist.findOne_confined _ _).bind fun _ => keeps_pure _) s₀ h₀
  · exact ((Persist.find_confined _ _).bind fun _ => keeps_pure _) s₀ h₀
  · exact run_bind_of_keeps_eq (Service.keeps_lift _) (fun body' h =>
      ((Service.createOne_confined hN (hmapped body' h)).bind fun _ => keeps_pure _) s₀ h₀) h₀
  · exact run_bind_of_keeps_eq (Service.keeps_lift _) (fun list h =>
      ((Service.createMany_confined hN (hmappedList list h)).bind fun _ => keeps_pure _) s₀ h₀) h₀
  all_goals simp only [Base, hk] at h₀ ⊢
  · exact run_bind_of_keeps_eq (Service.keeps_lift _) (fun body' h =>
      ((Service.updateOne_confined hN hq₀ _ (hmapped body' h)).bind fun _ => keeps_pure _) s₀ h₀) h₀
  · exact run_bind_of_keeps_eq (Service.keeps_lift _) (fun body' h =>
      ((Service.updateMany_confined hN hq₀ _ (hmapped body' h)).bind fun _ => keeps_pure _) s₀ h₀) h₀
  · exact ((Service.deleteOne_confined hN hq₀ _).bind fun _ => keeps_pure _) s₀ h₀
  · exact ((Service.deleteMany_confined hN hq₀ _).bind fun _ => keeps_pure _) s₀ h₀
  · refine run_bind_of_keeps_eq (Service.keeps_lift _) (fun body' h => ?_) h₀
    rw [bind_pure_comp, run_map_snd]
    exact Service.duplicateOne_confined hN hm₀ hq₀ _ (hmapped body' h)
  · refine run_bind_of_keeps_eq (Service.keeps_lift _) (fun body' h => ?_) h₀
    rw [bind_pure_comp, run_map_snd]
    exact Service.duplicateMany_confined hN hm₀ hq₀ _ (hmapped body' h)
  · exact run_bind_of_keeps_eq (Service.keeps_lift _) (fun body' h =>
      ((Service.replaceOne_confined hN hq₀ _ (hmapped body' h)).bind fun _ => keeps_pure _) s₀ h₀) h₀

end Route

/-- In every storage reached from a new store, a route whose body shape has fields, run on a
request its envelope decoding accepts under a faithful validator, leaves each document of its
collection as it was, or holding with a value other than null only fields of the body shape,
managed fields, fields its hooks set, and values of the document its write starts from. This holds
when no field name or kind of the body shape, or of a shape whose validator was built before,
holds a colon. -/
theorem route_writes_within_writable_names (r : Route) {b : Shape} (hb : r.shapes.body = some b)
    (hf : b.fields ≠ []) (hs : ∀ f ∈ b.fields, f.Plain) (built : List Shape)
    (hbuilt : ∀ t ∈ built, ∀ f ∈ t.fields, f.Plain)
    (hv : r.validators = built.foldl Validators.remember {})
    {V : List Field → Fields → List Shape.SchemaError} (hV : Shape.Faithful V) {F : EnvelopeFaults}
    {id : String} {ids : List String} {query : Fields} {body : BodyText} {req : Request}
    (hreq : r.decodeWith V F id ids query body = .ok req)
    (p : Option Principal) {h : Host} {bk : Backend} (hbk : bk = .memory {} ∨ bk = .sqlite {})
    {allowed : StoreCall → Storage → Prop} {s : Storage}
    (hr : StoreCall.Reaches allowed { host := h, backend := bk } s) {i : String} {d : Fields}
    (hd : (i, d) ∈ ((r.handle p req).run s).2.stored r.entity.collectionName) :
    (i, d) ∈ s.stored r.entity.collectionName ∨ Within (r.writableNames b) (r.Base req s i) d := by
  have hkeyed : r.validators.Keyed := hv ▸ Validators.Keyed.foldl Validators.keyed_empty hbuilt
  obtain ⟨hm, hq⟩ := Storage.docsWf_of_reaches hbk hr
  exact (r.handle_confined hb hf hkeyed hs hV hreq p hm hq).docs i d hd

/-- A note created from a body holding its title: the stored note holds the title, which is a
field of the body shape, and managed fields. -/
theorem created_note_within_writable_names :
    let r : Route := { (default : Route) with
      entity := { name := "Note", collection := "notes" }, kind := .createOne,
      shapes := { body := some { fields := [{ name := "title", kind := "string" }] } } }
    let b : Shape := { fields := [{ name := "title", kind := "string" }] }
    let req : Request := { body := [("title", .str "a")] }
    let s : Storage := { host := { now := ⟨0, 0, 0⟩ }, backend := .memory {} }
    let i := "00000000-0000-4000-8000-000000000001"
    let d : Fields := [("createdAt", .time ⟨0, 0, 0⟩), ("id", .str i), ("title", .str "a"),
      ("updatedAt", .time ⟨0, 0, 0⟩)]
    (i, d) ∈ s.stored r.entity.collectionName ∨ Within (r.writableNames b) (r.Base req s i) d :=
  route_writes_within_writable_names _ rfl (List.cons_ne_nil _ _) (by decide) [] (by simp) rfl
    Shape.validate_faithful
    (show Route.decodeWith Shape.validate _ httpFaults "" [] [] (.value (.obj [("title", .str "a")])) =
      _ by rfl)
    none (Or.inl rfl) (.refl : StoreCall.Reaches (fun _ _ => True) _ _) (List.mem_singleton.2 rfl)

/-- A body holding a field its shape does not know, with a null value, passes the shape; the note
created from it stores that field, which is none of the route's writable names. -/
theorem null_field_outside_shape_is_stored :
    let r : Route := { (default : Route) with
      entity := { name := "Note", collection := "notes" }, kind := .createOne,
      shapes := { body := some { fields := [{ name := "title", kind := "string" }] } } }
    let b : Shape := { fields := [{ name := "title", kind := "string" }] }
    let req : Request := { body := [("extra", .null), ("title", .str "a")] }
    let s : Storage := { host := { now := ⟨0, 0, 0⟩ }, backend := .memory {} }
    let i := "00000000-0000-4000-8000-000000000001"
    r.decode httpFaults "" [] [] (.value (.obj [("title", .str "a"), ("extra", .null)])) =
        .ok req ∧
      ((r.handle none req).run s).2.stored r.entity.collectionName =
        [(i, [("createdAt", .time ⟨0, 0, 0⟩), ("extra", .null), ("id", .str i), ("title", .str "a"),
          ("updatedAt", .time ⟨0, 0, 0⟩)])] ∧
      "extra" ∉ r.writableNames b :=
  ⟨by rfl, by rfl, by decide⟩

end CrudRoutes
