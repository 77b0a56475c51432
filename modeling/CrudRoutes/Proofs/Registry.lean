import CrudRoutes.Proofs.Gate

/-!
The registry over any sequence of builds. Its tables stay an index of its routes: each sends
exactly the artifact key, the endpoint and the non-empty event of every registered route to the
route's service name. Registering checks these four against the registry and against the batch
so far, so no two registered routes share one of them. The names an assembled route generates
are all its kind, display name and version followed by the artifact's suffix, and no suffix ends
another, so a generated name of one route is never a generated name of another.

A build is atomic for the registry: when any step fails, preparing the collection after the
routes were registered included, the registry is as it was; when it succeeds, it has gained
exactly the new routes.
-/

namespace CrudRoutes

namespace Table

variable {α : Type} {t : Table α} {k k' : String} {v : α}

@[ext] theorem ext {t t' : Table α} (h : t.entries = t'.entries) : t = t' := by
  cases t
  cases t'
  cases h
  rfl

@[simp] theorem get?_empty : (∅ : Table α).get? k = none := rfl

@[simp] theorem get?_erase : (t.erase k).get? k' = if k = k' then none else t.get? k' := by
  unfold get? erase
  split
  · subst k'
    simp
  · congr 1
    rw [List.find?_filter]
    apply List.find?_congr
    intro p _
    by_cases hp : p.1 = k' <;> simp [hp, Ne.symm ‹k ≠ k'›]

@[simp] theorem get?_set : (t.set k v).get? k' = if k = k' then some v else t.get? k' := by
  have he : (t.erase k).get? k' = if k = k' then none else t.get? k' := get?_erase
  unfold get? at he ⊢
  rw [show (t.set k v).entries = (t.erase k).entries ++ [(k, v)] from rfl, List.find?_append]
  split
  · subst k'
    simp only [if_true, Option.map_eq_none_iff] at he
    simp [he]
  · simp only [‹¬k = k'›, if_false] at he
    have hs : [(k, v)].find? (·.1 == k') = none := by simp [‹¬k = k'›]
    rw [hs, Option.or_none, he]

theorem erase_of_get?_eq_none (h : t.get? k = none) : t.erase k = t := by
  ext1
  apply List.filter_eq_self.2
  intro p hp
  have hn : (t.entries.find? (·.1 == k)) = none := by
    simpa [get?] using h
  have := List.find?_eq_none.1 hn p hp
  simpa using this

@[simp] theorem erase_set_self : (t.set k v).erase k = t.erase k := by
  ext1
  simp [erase, set, List.filter_append, List.filter_filter]

theorem erase_set_of_ne (h : k ≠ k') : (t.set k v).erase k' = (t.erase k').set k v := by
  ext1
  simp only [erase, set, List.filter_append, List.filter_filter, List.filter_cons,
    List.filter_nil, bne_iff_ne, ne_eq, h, not_false_eq_true, if_true]
  congr 2
  funext p
  exact Bool.and_comm _ _

end Table

def Route.Apart (r r' : Route) : Prop :=
  r.key ≠ r'.key ∧ r.names.service ≠ r'.names.service ∧ r.endpoint ≠ r'.endpoint ∧
    (r.event = "" ∨ r.event ≠ r'.event)

namespace Registry

variable {reg : Registry} {rt r : Route}

@[simp] theorem add_routes : (reg.add rt).routes = reg.routes.set rt.names.service rt := rfl

@[simp] theorem add_artifacts :
    (reg.add rt).artifacts = reg.artifacts.set rt.key rt.names.service := rfl

@[simp] theorem add_endpoints :
    (reg.add rt).endpoints = reg.endpoints.set rt.endpoint rt.names.service := rfl

@[simp] theorem add_events : (reg.add rt).events =
    if rt.event = "" then reg.events else reg.events.set rt.event rt.names.service := by
  simp only [add, String.isEmpty_iff]

theorem check_eq_none_iff : reg.check rt = none ↔
    reg.artifacts.get? rt.key = none ∧ reg.routes.get? rt.names.service = none ∧
      reg.endpoints.get? rt.endpoint = none ∧ (rt.event = "" ∨ reg.events.get? rt.event = none) := by
  unfold check
  cases ha : reg.artifacts.get? rt.key with
  | some e => simp
  | none =>
    cases hs : reg.routes.get? rt.names.service with
    | some e => simp
    | none =>
      cases hp : reg.endpoints.get? rt.endpoint with
      | some e => simp
      | none =>
        by_cases he : rt.event = ""
        · simp [he]
        · cases reg.events.get? rt.event <;> simp [he]

theorem check_add_eq_none_iff : (reg.add r).check rt = none ↔ reg.check rt = none ∧ r.Apart rt := by
  simp only [check_eq_none_iff, add_artifacts, add_routes, add_endpoints, add_events,
    Table.get?_set, Route.Apart]
  by_cases he : r.event = "" <;> simp only [he, if_true, if_false, Table.get?_set] <;> grind

theorem check_foldl_add (pre : List Route) :
    (pre.foldl add reg).check rt = none ↔ reg.check rt = none ∧ ∀ r ∈ pre, r.Apart rt := by
  induction pre generalizing reg with
  | nil => simp
  | cons r pre ih =>
    rw [List.foldl_cons, ih, check_add_eq_none_iff]
    simp only [List.mem_cons, forall_eq_or_imp]
    tauto

/-- A batch that registering admits: no route of it clashes with the registry, and no two of
them clash with each other. -/
structure Admits (reg : Registry) (batch : List Route) : Prop where
  fresh : ∀ rt ∈ batch, reg.check rt = none
  apart : batch.Pairwise Route.Apart

theorem checkBatch_eq_none {pre batch : List Route}
    (h : reg.checkBatch (pre.foldl add {}) batch = none) :
    (∀ rt ∈ batch, reg.check rt = none ∧ ∀ r ∈ pre, r.Apart rt) ∧ batch.Pairwise Route.Apart := by
  induction batch generalizing pre with
  | nil => simp
  | cons rt rest ih =>
    unfold checkBatch at h
    cases hreg : reg.check rt with
    | some e => simp [hreg] at h
    | none =>
      cases hpend : (pre.foldl add {}).check rt with
      | some e => simp [hreg, hpend] at h
      | none =>
        simp only [hreg, hpend] at h
        have hcat : (pre.foldl add {}).add rt = (pre ++ [rt]).foldl add {} := by simp
        rw [hcat] at h
        obtain ⟨hrest, hpair⟩ := ih h
        have hpre := ((check_foldl_add pre).1 hpend).2
        refine ⟨?_, List.pairwise_cons.2 ⟨fun x hx => (hrest x hx).2 rt (by simp), hpair⟩⟩
        intro x hx
        rcases List.mem_cons.1 hx with rfl | hx
        · exact ⟨hreg, hpre⟩
        · exact ⟨(hrest x hx).1, fun r hr => (hrest x hx).2 r (by simp [hr])⟩

theorem admits_of_checkBatch {batch : List Route} (h : reg.checkBatch {} batch = none) :
    reg.Admits batch := by
  have h' : reg.checkBatch (([] : List Route).foldl add {}) batch = none := h
  obtain ⟨hfresh, hpair⟩ := checkBatch_eq_none h'
  exact ⟨fun rt hrt => (hfresh rt hrt).1, hpair⟩

theorem Admits.tail {batch : List Route} (h : reg.Admits (rt :: batch)) :
    (reg.add rt).Admits batch where
  fresh r hr := check_add_eq_none_iff.2
    ⟨h.fresh r (List.mem_cons_of_mem _ hr), List.rel_of_pairwise_cons h.apart hr⟩
  apart := h.apart.of_cons

theorem registerAll_eq_ok {batch : List Route} {reg' : Registry}
    (h : reg.registerAll batch = .ok reg') : reg.Admits batch ∧ reg' = batch.foldl add reg := by
  unfold registerAll at h
  split at h
  · cases h
  · rename_i hc
    cases h
    exact ⟨admits_of_checkBatch hc, rfl⟩

/-! Removing a batch right after registering it gives back the registry. -/

theorem removeOne_add_self (h : reg.check rt = none) : (reg.add rt).removeOne rt = reg := by
  obtain ⟨ha, hs, hp, he⟩ := check_eq_none_iff.1 h
  unfold removeOne
  simp only [add_routes, Table.get?_set, if_true, Option.isNone_some, Bool.false_eq_true,
    if_false, add_artifacts, add_endpoints, add_events, Table.erase_set_self,
    Table.erase_of_get?_eq_none ha, Table.erase_of_get?_eq_none hs,
    Table.erase_of_get?_eq_none hp, String.isEmpty_iff]
  by_cases hev : rt.event = ""
  · simp [hev]
  · simp only [hev, if_false, Table.erase_set_self, Table.erase_of_get?_eq_none (he.resolve_left hev)]

theorem removeOne_add_of_apart (h : rt.Apart r) :
    (reg.add r).removeOne rt = (reg.removeOne rt).add r := by
  obtain ⟨hk, hs, hp, he⟩ := h
  unfold removeOne
  have hs' : (reg.add r).routes.get? rt.names.service = reg.routes.get? rt.names.service := by
    simp [Ne.symm hs]
  rw [hs']
  split
  · rfl
  · simp only [add_routes, add_artifacts, add_endpoints, add_events, String.isEmpty_iff,
      Table.erase_set_of_ne (Ne.symm hs), Table.erase_set_of_ne (Ne.symm hk),
      Table.erase_set_of_ne (Ne.symm hp)]
    congr 1
    by_cases hrt : rt.event = ""
    · by_cases hr : r.event = "" <;> simp [hr, hrt]
    · have hne : r.event ≠ rt.event := Ne.symm (he.resolve_left hrt)
      by_cases hr : r.event = "" <;> simp [hr, hrt, Table.erase_set_of_ne hne]

theorem removeOne_foldl_add {l : List Route} {X : Registry} (h : ∀ r ∈ l, rt.Apart r) :
    (l.foldl add X).removeOne rt = l.foldl add (X.removeOne rt) := by
  induction l generalizing X with
  | nil => rfl
  | cons r l ih =>
    rw [List.foldl_cons, List.foldl_cons, ih (fun r' hr' => h r' (List.mem_cons_of_mem _ hr')),
      removeOne_add_of_apart (h r List.mem_cons_self)]

theorem remove_foldl_add {batch : List Route} (h : reg.Admits batch) :
    (batch.foldl add reg).remove batch = reg := by
  induction batch generalizing reg with
  | nil => rfl
  | cons rt rest ih =>
    have hfresh := h.fresh rt List.mem_cons_self
    calc ((rt :: rest).foldl add reg).remove (rt :: rest)
        = ((rest.foldl add (reg.add rt)).removeOne rt).remove rest := rfl
      _ = (rest.foldl add ((reg.add rt).removeOne rt)).remove rest := by
          rw [removeOne_foldl_add fun r hr => List.rel_of_pairwise_cons h.apart hr]
      _ = (rest.foldl add reg).remove rest := by rw [removeOne_add_self hfresh]
      _ = reg := ih ⟨fun r hr => h.fresh r (List.mem_cons_of_mem _ hr), h.apart.of_cons⟩

/-! The tables index the routes. -/

def Indexes (T : Table String) (routes : Table Route) (P : Route → String → Prop) : Prop :=
  ∀ k s, T.get? k = some s ↔ ∃ r, routes.get? s = some r ∧ P r k

/-- Every route is registered under its service name, and the artifact, endpoint and event tables
send exactly the key, the endpoint and the non-empty event of each registered route to its
service name. -/
structure Indexed (reg : Registry) : Prop where
  service : ∀ s r, reg.routes.get? s = some r → r.names.service = s
  artifacts : Indexes reg.artifacts reg.routes fun r k => r.key = k
  endpoints : Indexes reg.endpoints reg.routes fun r k => r.endpoint = k
  events : Indexes reg.events reg.routes fun r k => r.event = k ∧ k ≠ ""

theorem Indexes.inj {T : Table String} {routes : Table Route} {P : Route → String → Prop}
    (h : Indexes T routes P) {s₁ s₂ k : String} {r₁ r₂ : Route} (h₁ : routes.get? s₁ = some r₁)
    (h₂ : routes.get? s₂ = some r₂) (hk₁ : P r₁ k) (hk₂ : P r₂ k) : s₁ = s₂ := by
  have e₁ := (h k s₁).2 ⟨r₁, h₁, hk₁⟩
  have e₂ := (h k s₂).2 ⟨r₂, h₂, hk₂⟩
  rw [e₁] at e₂
  exact Option.some.inj e₂

theorem Indexes.add {T T' : Table String} {routes : Table Route} {P : Route → String → Prop}
    (h : Indexes T routes P) (hs : routes.get? rt.names.service = none)
    (hfresh : ∀ k, P rt k → T.get? k = none)
    (hT' : ∀ k, (P rt k → T'.get? k = some rt.names.service) ∧ (¬P rt k → T'.get? k = T.get? k)) :
    Indexes T' (routes.set rt.names.service rt) P := by
  intro k s
  simp only [Table.get?_set]
  by_cases hP : P rt k
  · rw [(hT' k).1 hP, Option.some.injEq]
    constructor
    · rintro rfl
      exact ⟨rt, by simp, hP⟩
    · rintro ⟨r, hr, hPr⟩
      split at hr
      · assumption
      · have := (h k s).2 ⟨r, hr, hPr⟩
        rw [hfresh k hP] at this
        cases this
  · rw [(hT' k).2 hP, h k s]
    constructor
    · rintro ⟨r, hr, hPr⟩
      have hne : rt.names.service ≠ s := by
        rintro rfl
        rw [hs] at hr
        cases hr
      exact ⟨r, by simpa [hne] using hr, hPr⟩
    · rintro ⟨r, hr, hPr⟩
      split at hr
      · cases hr
        exact absurd hPr hP
      · exact ⟨r, hr, hPr⟩

theorem Indexed.empty : ({} : Registry).Indexed where
  service _ _ h := by cases h
  artifacts _ _ := by simp [Table.get?_empty]
  endpoints _ _ := by simp [Table.get?_empty]
  events _ _ := by simp [Table.get?_empty]

theorem Indexed.add (h : reg.Indexed) (hc : reg.check rt = none) : (reg.add rt).Indexed := by
  obtain ⟨ha, hs, hp, he⟩ := check_eq_none_iff.1 hc
  refine ⟨?_, ?_, ?_, ?_⟩
  · intro s r hr
    simp only [add_routes, Table.get?_set] at hr
    split at hr
    · cases hr
      assumption
    · exact h.service s r hr
  · refine h.artifacts.add hs (fun k hk => hk ▸ ha) fun k => ⟨fun hk => ?_, fun hk => ?_⟩ <;>
      simp [hk]
  · refine h.endpoints.add hs (fun k hk => hk ▸ hp) fun k => ⟨fun hk => ?_, fun hk => ?_⟩ <;>
      simp [hk]
  · refine h.events.add hs (fun k hk => hk.1 ▸ he.resolve_left (hk.1 ▸ hk.2)) fun k =>
      ⟨fun hk => ?_, fun hk => ?_⟩
    · simp [hk.1, hk.2]
    · by_cases hev : rt.event = ""
      · simp [hev]
      · have hne : rt.event ≠ k := fun hek => hk ⟨hek, hek ▸ hev⟩
        simp [hev, hne]

end Registry

/-! Generated names. -/

namespace Route

def namePrefix (r : Route) : String :=
  r.kind.name ++ Naming.pascal r.displayName ++ (if r.version.isEmpty then "" else "V" ++ r.version)

def generatedName (r : Route) (a : Naming.Artifact) : String :=
  r.namePrefix ++ a.suffix

end Route

def ShapeNamed (s : Option Shape) (name generated : String) : Prop :=
  match s with
  | none => name = ""
  | some sh => name = sh.name ∧ (sh.name = generated ∨ (sh.shared = true ∧ sh.name ≠ ""))

/-- The names an assembled route carries: the generated service and controller names, the
generated gateway name or none, and for each role the name of its shape. -/
structure Route.WellNamed (r : Route) : Prop where
  service : r.names.service = r.generatedName .service
  controller : r.names.controller = r.generatedName .controller
  gateway : r.names.gateway = "" ∨ r.names.gateway = r.generatedName .gateway
  body : ShapeNamed r.shapes.body r.names.body (r.generatedName .body)
  param : ShapeNamed r.shapes.param r.names.param (r.generatedName .param)
  query : ShapeNamed r.shapes.query r.names.query (r.generatedName .query)
  presenter : ShapeNamed r.shapes.presenter r.names.presenter (r.generatedName .presenter)

theorem Route.generatedName_eq {r : Route} {k : RouteKind} {display version : String}
    (hk : r.kind = k) (hd : r.displayName = display)
    (hv : r.version = Naming.normalizeVersion version) (a : Naming.Artifact) :
    r.generatedName a = Naming.nameFor k.name display version a := by
  simp only [generatedName, namePrefix, Naming.nameFor, Naming.versionSuffix, hk, hd, hv]

theorem Route.WellNamed.withValidators {r : Route} (h : r.WellNamed) (v : Validators) :
    ({ r with validators := v } : Route).WellNamed :=
  ⟨h.service, h.controller, h.gateway, h.body, h.param, h.query, h.presenter⟩

theorem Naming.Artifact.eq_of_isSuffix {a b : Naming.Artifact} :
    a.suffix.toList <:+ b.suffix.toList → a = b := by
  cases a <;> cases b <;> decide

theorem Route.generatedName_inj {r₁ r₂ : Route} {a₁ a₂ : Naming.Artifact}
    (h : r₁.generatedName a₁ = r₂.generatedName a₂) :
    r₁.namePrefix = r₂.namePrefix ∧ a₁ = a₂ := by
  have hl := congrArg String.toList h
  simp only [generatedName, String.toList_append] at hl
  rcases List.append_eq_append_iff.1 hl with ⟨m, h₁, h₂⟩ | ⟨m, h₁, h₂⟩
  · obtain rfl : a₂ = a₁ := Naming.Artifact.eq_of_isSuffix ⟨m, h₂.symm⟩
    obtain rfl : m = [] := by simpa using congrArg List.length h₂
    exact ⟨String.toList_inj.1 (by simpa using h₁.symm), rfl⟩
  · obtain rfl : a₁ = a₂ := Naming.Artifact.eq_of_isSuffix ⟨m, h₂.symm⟩
    obtain rfl : m = [] := by simpa using congrArg List.length h₂
    exact ⟨String.toList_inj.1 (by simpa using h₁), rfl⟩

namespace Registry

variable {reg : Registry} {rt : Route}

/-- An indexed registry whose routes are all well named. -/
structure Consistent (reg : Registry) : Prop extends Indexed reg where
  named : ∀ s r, reg.routes.get? s = some r → r.WellNamed

/-- No two registered routes share a key, a service name, an endpoint or an event, and no
generated name of a registered route is a generated name of another, or of another of its
artifacts. -/
structure CollisionFree (reg : Registry) : Prop where
  key : ∀ s₁ r₁ s₂ r₂, reg.routes.get? s₁ = some r₁ → reg.routes.get? s₂ = some r₂ →
    r₁.key = r₂.key → s₁ = s₂
  service : ∀ s₁ r₁ s₂ r₂, reg.routes.get? s₁ = some r₁ → reg.routes.get? s₂ = some r₂ →
    r₁.names.service = r₂.names.service → s₁ = s₂
  endpoint : ∀ s₁ r₁ s₂ r₂, reg.routes.get? s₁ = some r₁ → reg.routes.get? s₂ = some r₂ →
    r₁.endpoint = r₂.endpoint → s₁ = s₂
  event : ∀ s₁ r₁ s₂ r₂, reg.routes.get? s₁ = some r₁ → reg.routes.get? s₂ = some r₂ →
    r₁.event = r₂.event → r₁.event ≠ "" → s₁ = s₂
  names : ∀ s₁ r₁ s₂ r₂ a₁ a₂, reg.routes.get? s₁ = some r₁ → reg.routes.get? s₂ = some r₂ →
    r₁.generatedName a₁ = r₂.generatedName a₂ → s₁ = s₂ ∧ a₁ = a₂

theorem Consistent.collisionFree (h : reg.Consistent) : reg.CollisionFree where
  key _ _ _ _ h₁ h₂ hk := h.artifacts.inj h₁ h₂ hk rfl
  service _ _ _ _ h₁ h₂ hs := (h.service _ _ h₁).symm.trans (hs.trans (h.service _ _ h₂))
  endpoint _ _ _ _ h₁ h₂ hp := h.endpoints.inj h₁ h₂ hp rfl
  event _ _ _ _ h₁ h₂ he hne := h.events.inj h₁ h₂ ⟨rfl, hne⟩ ⟨he.symm, hne⟩
  names s₁ r₁ s₂ r₂ a₁ a₂ h₁ h₂ hn := by
    obtain ⟨hp, rfl⟩ := Route.generatedName_inj hn
    -- equal prefixes give equal service names, and a service name is registered once
    have hs : r₁.names.service = r₂.names.service := by
      rw [(h.named _ _ h₁).service, (h.named _ _ h₂).service, Route.generatedName,
        Route.generatedName, hp]
    exact ⟨(h.service _ _ h₁).symm.trans (hs.trans (h.service _ _ h₂)), rfl⟩

theorem Consistent.empty : ({} : Registry).Consistent where
  toIndexed := Indexed.empty
  named _ _ h := by cases h

theorem Consistent.add (h : reg.Consistent) (hc : reg.check rt = none) (hn : rt.WellNamed) :
    (reg.add rt).Consistent where
  toIndexed := h.toIndexed.add hc
  named s r hr := by
    simp only [add_routes, Table.get?_set] at hr
    split at hr
    · cases hr
      exact hn
    · exact h.named s r hr

theorem Consistent.foldl_add {batch : List Route} (h : reg.Consistent) (ha : reg.Admits batch)
    (hn : ∀ r ∈ batch, r.WellNamed) : (batch.foldl Registry.add reg).Consistent := by
  induction batch generalizing reg with
  | nil => exact h
  | cons rt rest ih =>
    exact ih (h.add (ha.fresh rt List.mem_cons_self) (hn rt List.mem_cons_self)) ha.tail
      fun r hr => hn r (List.mem_cons_of_mem _ hr)

end Registry

/-! Builds. -/

namespace DeployM

theorem run_tryCatch {α : Type} (x : DeployM α) (h : Fault → DeployM α) (d : Deployment) :
    (tryCatch x h).run d = match x.run d with
      | (.ok a, d') => (.ok a, d')
      | (.error e, d') => (h e).run d' := by
  show (ExceptT.tryCatch x h).run d = _
  simp only [ExceptT.tryCatch, ExceptT.mk, ExceptT.run, bind, StateT.bind]
  cases x d with
  | mk r d' => cases r <;> rfl

theorem store_registry {α : Type} (m : StoreM α) (d : Deployment) :
    ((store m).run d).2.registry = d.registry := by
  unfold store
  cases m.run d.storage
  rfl

end DeployM

namespace Factory

theorem nameShape_named (cfg : RouteConfig) (display : String) (a : Naming.Artifact)
    (o : Option Shape) :
    ShapeNamed (nameShape cfg display a o) (shapeName (nameShape cfg display a o))
      (Naming.nameFor cfg.kind.name display cfg.version a) := by
  cases o with
  | none => rfl
  | some sh =>
    by_cases hs : (sh.shared && !sh.name.isEmpty) = true
    · rw [nameShape, if_pos hs]
      simp only [Bool.and_eq_true, Bool.not_eq_true', String.isEmpty_eq_false_iff] at hs
      exact ⟨rfl, .inr hs⟩
    · rw [nameShape, if_neg hs]
      exact ⟨rfl, .inl rfl⟩

theorem resolveBundle_eq_ok {e : Entity} {cfg : RouteConfig} {display : String} {b : Bundle}
    (h : resolveBundle e cfg display = .ok b) :
    ∃ ob op oq opr, b =
      { body := nameShape cfg display .body ob
        param := nameShape cfg display .param op
        query := nameShape cfg display .query oq
        presenter := nameShape cfg display .presenter opr } := by
  unfold resolveBundle at h
  obtain ⟨_, -, h⟩ := Except.bind_eq_ok h
  obtain ⟨_, -, h⟩ := Except.bind_eq_ok h
  cases h
  exact ⟨_, _, _, _, rfl⟩

theorem buildRoute_wellNamed {e : Entity} {opts : ControllerOptions} {cfg : RouteConfig}
    {r : Route} (h : buildRoute e opts cfg = .ok r) : r.WellNamed := by
  unfold buildRoute at h
  simp only [bind, Except.bind] at h
  split at h
  · cases h
  · rename_i b hb
    simp only [pure, Except.pure, Except.ok.injEq] at h
    obtain ⟨ob, op, oq, opr, rfl⟩ := resolveBundle_eq_ok hb
    have hg := @Route.generatedName_eq r cfg.kind _ cfg.version
      (by rw [← h]) (by rw [← h]) (by rw [← h])
    constructor <;> rw [hg] <;> subst h
    · rfl
    · rfl
    · dsimp only
      split
      · exact .inr rfl
      · exact .inl rfl
    all_goals exact nameShape_named ..

theorem buildAll_wellNamed {e : Entity} {opts : ControllerOptions} :
    ∀ {v : Validators} {cfgs : List RouteConfig} {v' : Validators} {rs : List Route},
      buildAll e opts v cfgs = (v', .ok rs) → ∀ r ∈ rs, r.WellNamed
  | _, [], _, _, h => by
    simp only [buildAll, Prod.mk.injEq] at h
    obtain ⟨-, h⟩ := h
    cases h
    simp
  | v, cfg :: rest, v', rs, h => by
    simp only [buildAll] at h
    cases hr : buildRoute e opts cfg with
    | error err => simp [hr] at h
    | ok rt =>
      simp only [hr] at h
      cases hall : buildAll e opts (rememberShapes v rt.shapes) rest with
      | mk v'' res =>
        cases res with
        | error err => simp [hall] at h
        | ok more =>
          simp only [hall, Prod.mk.injEq, Except.ok.injEq] at h
          obtain ⟨-, rfl⟩ := h
          intro r hr'
          rcases List.mem_cons.1 hr' with rfl | hr'
          · exact (buildRoute_wellNamed hr).withValidators _
          · exact buildAll_wellNamed hall r hr'

theorem build_cases {e : Entity} {opts : ControllerOptions} {cfgs : List RouteConfig}
    {d d' : Deployment} {res : Except Fault (List Route)}
    (h : (build e opts cfgs).run d = (res, d')) :
    (∃ f, res = .error f ∧ d'.registry = d.registry) ∨
    ∃ routes, d.registry.Admits routes ∧ (∀ r ∈ routes, r.WellNamed) ∧
      ((res = .ok routes ∧ d'.registry = routes.foldl Registry.add d.registry) ∨
        ∃ f, res = .error f ∧ d'.registry = (routes.foldl Registry.add d.registry).remove routes) := by
  unfold build at h
  cases hv : e.validate with
  | error err =>
    simp only [hv, DeployM.run_bind, DeployM.run_throw] at h
    obtain ⟨rfl, rfl⟩ := h
    exact .inl ⟨_, rfl, rfl⟩
  | ok u =>
    cases hb : buildAll e opts d.validators cfgs with
    | mk v built =>
      cases built with
      | error err =>
        simp [hv, hb, DeployM.run_bind] at h
        obtain ⟨rfl, rfl⟩ := h
        exact .inl ⟨_, rfl, rfl⟩
      | ok rs =>
        simp [hv, hb, DeployM.run_bind] at h
        split at h
        · obtain ⟨rfl, rfl⟩ := h
          exact .inl ⟨_, rfl, rfl⟩
        · rename_i reg' hreg
          obtain ⟨hadm, rfl⟩ := Registry.registerAll_eq_ok hreg
          refine .inr ⟨rs, hadm, buildAll_wellNamed hb, ?_⟩
          rw [DeployM.run_bind, DeployM.run_set] at h
          dsimp only at h
          rw [DeployM.run_map, DeployM.run_tryCatch] at h
          -- preparing the collection runs on the store alone; a failure removes the batch again
          have hkeep := DeployM.store_registry
            (Storage.ensureCollection { name := e.collectionName, uniqueKeys := e.uniqueKeys })
            { storage := d.storage, registry := rs.foldl Registry.add d.registry, validators := v }
          generalize (DeployM.store (Storage.ensureCollection
            { name := e.collectionName, uniqueKeys := e.uniqueKeys })).run
            { storage := d.storage, registry := rs.foldl Registry.add d.registry, validators := v } = p
            at h hkeep
          obtain ⟨r, D⟩ := p
          cases r with
          | ok a =>
            simp only at h
            obtain ⟨rfl, rfl⟩ := h
            exact .inl ⟨rfl, hkeep⟩
          | error f =>
            simp only [DeployM.run_bind, DeployM.run_modify, DeployM.run_throw] at h
            obtain ⟨rfl, rfl⟩ := h
            exact .inr ⟨_, rfl, by simp only at hkeep; rw [hkeep]⟩

theorem build_registry (e : Entity) (opts : ControllerOptions) (cfgs : List RouteConfig)
    (d : Deployment) :
    (∀ f, ((build e opts cfgs).run d).1 = .error f →
      ((build e opts cfgs).run d).2.registry = d.registry) ∧
    ∀ routes, ((build e opts cfgs).run d).1 = .ok routes →
      d.registry.Admits routes ∧ (∀ r ∈ routes, r.WellNamed) ∧
        ((build e opts cfgs).run d).2.registry = routes.foldl Registry.add d.registry := by
  cases hp : (build e opts cfgs).run d with
  | mk res d' =>
    rcases build_cases hp with ⟨f, rfl, hr⟩ | ⟨routes, hadm, hn, ⟨rfl, hr⟩ | ⟨f, rfl, hr⟩⟩
    · exact ⟨fun _ _ => hr, fun _ h => by cases h⟩
    · refine ⟨fun _ h => (by cases h), fun routes' h => ?_⟩
      cases h
      exact ⟨hadm, hn, hr⟩
    · -- the batch was registered and removed again
      exact ⟨fun _ _ => hr.trans (Registry.remove_foldl_add hadm), fun _ h => by cases h⟩

end Factory

/-- A batch with two `GetOne` routes of one entity collides within itself: nothing is
registered. -/
example :
    let d := ((Factory.build { name := "User", collection := "users" } {}
      [{ kind := .getOne }, { kind := .getMany }, { kind := .getOne }]).run default).2
    d.registry.routes.entries.map Prod.fst = [] := by
  decide

example :
    let d := ((Factory.build { name := "User", collection := "users" } {}
      [{ kind := .getOne }, { kind := .getMany }]).run default).2
    d.registry.routes.entries.map Prod.fst = ["GetOneUserService", "GetManyUserService"] := by
  decide

/-- The deployments reached from one with an empty registry by builds of any entities, controller
options and route configurations, with anything that leaves the registry alone in between. -/
inductive Deployment.Assembled : Deployment → Prop
  | start {d : Deployment} : d.registry = {} → Assembled d
  | build {d : Deployment} (e : Entity) (opts : ControllerOptions) (cfgs : List RouteConfig) :
      Assembled d → Assembled ((Factory.build e opts cfgs).run d).2
  | keep {d d' : Deployment} : Assembled d → d'.registry = d.registry → Assembled d'

theorem Registry.Consistent.build {d : Deployment} (h : d.registry.Consistent) (e : Entity)
    (opts : ControllerOptions) (cfgs : List RouteConfig) :
    ((Factory.build e opts cfgs).run d).2.registry.Consistent := by
  obtain ⟨hfail, hok⟩ := Factory.build_registry e opts cfgs d
  cases hr : ((Factory.build e opts cfgs).run d).1 with
  | error f => rw [hfail f hr]; exact h
  | ok routes =>
    obtain ⟨hadm, hn, hreg⟩ := hok routes hr
    rw [hreg]
    exact h.foldl_add hadm hn

theorem Deployment.Assembled.consistent {d : Deployment} (hd : d.Assembled) :
    d.registry.Consistent := by
  induction hd with
  | start h => rw [h]; exact Registry.Consistent.empty
  | build e opts cfgs _ ih => exact ih.build e opts cfgs
  | keep _ h ih => rw [h]; exact ih

/-- Over any sequence of builds, the registry's tables send exactly the key, the endpoint and the
non-empty event of each registered route to its service name; no two registered routes share a
key, a service name, an endpoint or an event; every route carries its generated names, and no
generated name of one registered route is a generated name of another. A further build leaves
the registry exactly as it was when it fails, whatever step fails, and registers exactly the
routes it answers when it succeeds. -/
theorem builds_keep_registry_consistent {d : Deployment} (hd : d.Assembled) :
    d.registry.Indexed ∧ d.registry.CollisionFree ∧
      (∀ s r, d.registry.routes.get? s = some r → r.WellNamed) ∧
      ∀ (e : Entity) (opts : ControllerOptions) (cfgs : List RouteConfig),
        (∀ f, ((Factory.build e opts cfgs).run d).1 = .error f →
          ((Factory.build e opts cfgs).run d).2.registry = d.registry) ∧
        ∀ routes, ((Factory.build e opts cfgs).run d).1 = .ok routes →
          ((Factory.build e opts cfgs).run d).2.registry = routes.foldl Registry.add d.registry := by
  have hc := hd.consistent
  refine ⟨hc.toIndexed, hc.collisionFree, hc.named, fun e opts cfgs => ?_⟩
  obtain ⟨hfail, hok⟩ := Factory.build_registry e opts cfgs d
  exact ⟨hfail, fun routes h => (hok routes h).2.2⟩

/-- Building the routes of a `User` entity on a fresh deployment, then routes of a `Member`
entity over the same collection and endpoints. -/
theorem registry_consistent_after_two_builds :
    let d₁ := ((Factory.build { name := "User", collection := "users" } {}
      [{ kind := .getOne }, { kind := .getMany }]).run default).2
    let d₂ := ((Factory.build { name := "Member", collection := "users" } {}
      [{ kind := .getOne }]).run d₁).2
    d₂.Assembled ∧ d₂.registry.Indexed ∧ d₂.registry.CollisionFree ∧
      (∀ s r, d₂.registry.routes.get? s = some r → r.WellNamed) ∧
      ∀ (e : Entity) (opts : ControllerOptions) (cfgs : List RouteConfig),
        (∀ f, ((Factory.build e opts cfgs).run d₂).1 = .error f →
          ((Factory.build e opts cfgs).run d₂).2.registry = d₂.registry) ∧
        ∀ routes, ((Factory.build e opts cfgs).run d₂).1 = .ok routes →
          ((Factory.build e opts cfgs).run d₂).2.registry = routes.foldl Registry.add d₂.registry :=
  have hd : Deployment.Assembled _ := .build _ _ _ (.build _ _ _ (.start rfl))
  ⟨hd, builds_keep_registry_consistent hd⟩

end CrudRoutes
