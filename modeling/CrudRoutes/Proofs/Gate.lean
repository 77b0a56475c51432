import Mathlib
import CrudRoutes.Proofs.SoftDelete.Routes
import CrudRoutes.Factory
import CrudRoutes.Proofs.Envelope

/-!
The checks before a route writes. A route first runs its guard, which loads the addressed
document for a route on one document and checks the route's ability against it; then it maps
the body on the way in; then the service runs the before-create hook on each new document. All
of these either read or compute, so a request that one of them turns down fails and leaves the
storage exactly as it was: nothing is written before every check has passed.

On a storage that answers reads, the guard's verdict is stated without the code that computes
it: the ability is checked against the first live document the request's id selects, and a
missing or deleted document is reported missing before the ability is consulted. An assembled
route takes its own ability when it has one and the controller's for its kind otherwise; with
neither, the guard lets everyone through.
-/

namespace CrudRoutes

open StoreM

namespace StoreM

def RefusesFrom {α : Type} (s : Storage) (x : StoreM α) : Prop :=
  ∃ f, x.run s = (.error f, s)

section RefusesFrom

variable {α β : Type} {s : Storage}

theorem refusesFrom_throw (e : Fault) : RefusesFrom s (throw e : StoreM α) := ⟨e, rfl⟩

theorem RefusesFrom.bind {x : StoreM α} (hx : RefusesFrom s x) (f : α → StoreM β) :
    RefusesFrom s (x >>= f) := by
  obtain ⟨e, he⟩ := hx
  exact ⟨e, by rw [run_bind, he]⟩

theorem refusesFrom_of_keeps {x : StoreM α} {e : Fault} (hx : Keeps (· = s) x)
    (he : (x.run s).1 = .error e) : RefusesFrom s x := by
  refine ⟨e, ?_⟩
  have hs : (x.run s).2 = s := hx s rfl
  cases hr : x.run s with
  | mk r s' =>
    rw [hr] at he hs
    subst he hs
    rfl

theorem refusesFrom_bind {x : StoreM α} {f : α → StoreM β} (hx : Keeps (· = s) x)
    (hf : ∀ a, (x.run s).1 = .ok a → RefusesFrom s (f a)) : RefusesFrom s (x >>= f) := by
  have hs : (x.run s).2 = s := hx s rfl
  cases hr : x.run s with
  | mk r s' =>
    rw [hr] at hs
    subst hs
    cases r with
    | ok a =>
      obtain ⟨e, he⟩ := hf a (by rw [hr])
      exact ⟨e, by rw [run_bind_of_run hr, he]⟩
    | error e => exact ⟨e, by rw [run_bind, hr]⟩

end RefusesFrom

end StoreM

namespace Service

theorem lift_error {α : Type} (e : Fault) : lift (.error e : Except Fault α) = throw e := rfl

theorem lift_ok {α : Type} (a : α) : lift (.ok a : Except Fault α) = pure a := rfl

end Service

def RouteKind.takesBody : RouteKind → Bool
  | .createOne | .updateOne | .updateMany | .duplicateOne | .duplicateMany | .replaceOne => true
  | _ => false

namespace Route

/-- A check turns a request down before its route writes: the guard (with the document it
loads), the mapper of the body or of the list of bodies, or the before-create hook on a mapped
document. The before-save hook of the catalog never fails, so it turns nothing down. -/
inductive Refuses (r : Route) (p : Option Principal) (req : Request) (s : Storage) : Prop
  | guard {f : Fault} : ((r.guard p req.id).run s).1 = .error f → Refuses r p req s
  | mapper {f : Fault} : r.kind.takesBody = true → r.toEntity req.body = .error f →
      Refuses r p req s
  | mapperMany {f : Fault} : r.kind = .createMany → r.toEntities req.list = .error f →
      Refuses r p req s
  | hook {body : Fields} {f : Fault} : r.kind = .createOne → r.toEntity req.body = .ok body →
      (r.service p).beforeCreate body = .error f → Refuses r p req s
  | hookMany {list : List Fields} {f : Fault} : r.kind = .createMany →
      r.toEntities req.list = .ok list → list.mapM (r.service p).beforeCreate = .error f →
      Refuses r p req s

theorem handle_refused {r : Route} {p : Option Principal} {req : Request} {s : Storage}
    (h : r.Refuses p req s) : RefusesFrom s (r.handle p req) := by
  have hguard := guard_keeps_eq r p req.id s
  unfold handle
  cases h with
  | guard hg => exact (refusesFrom_of_keeps hguard hg).bind _
  | mapper hk hm =>
    refine refusesFrom_bind hguard fun _ _ => ?_
    -- each kind that takes a body maps it first
    cases hkind : r.kind <;> simp only [RouteKind.takesBody, hkind] at hk <;> cases hk <;>
      exact (by rw [hm, Service.lift_error]; exact refusesFrom_throw _ : RefusesFrom s _).bind _
  | mapperMany hk hm =>
    refine refusesFrom_bind hguard fun _ _ => ?_
    simp only [hk, hm, Service.lift_error]
    exact (refusesFrom_throw _).bind _
  | hook hk hb hc =>
    refine refusesFrom_bind hguard fun _ _ => ?_
    simp only [hk, hb, Service.lift_ok, pure_bind, Service.createOne, hc, Service.lift_error]
    exact ((refusesFrom_throw _).bind _).bind _
  | hookMany hk hl hc =>
    refine refusesFrom_bind hguard fun _ _ => ?_
    simp only [hk, hl, Service.lift_ok, pure_bind, Service.createMany, hc, Service.lift_error]
    exact ((refusesFrom_throw _).bind _).bind _

theorem guard_run (r : Route) (p : Option Principal) (id : String) (s : Storage) :
    (r.guard p id).run s =
      match r.ability with
      | none => (.ok (), s)
      | some a =>
        if !id.isEmpty && r.kind.targetsResource then
          match ((Persist.findOne r.entity (Filter.byId id)).run s).1 with
          | .ok d => (if a.allows p (some d) then .ok () else .error Fault.forbidden, s)
          | .error e => (.error e, s)
        else (if a.allows p none then .ok () else .error Fault.forbidden, s) := by
  have hget : (r.service p).getOne id = Persist.findOne r.entity (Filter.byId id) := rfl
  unfold guard
  cases r.ability with
  | none => rfl
  | some a =>
    dsimp only
    split
    · have hs : ((Persist.findOne r.entity (Filter.byId id)).run s).2 = s :=
        Persist.findOne_keeps_eq _ _ s s rfl
      rw [hget, run_bind, run_map]
      cases hr : (Persist.findOne r.entity (Filter.byId id)).run s with
      | mk res s' =>
        rw [hr] at hs
        subst hs
        cases res with
        | ok d =>
          show ((if !a.allows p (some d) then throw Fault.forbidden else pure ()) : StoreM Unit).run _ =
            (if a.allows p (some d) then .ok () else .error Fault.forbidden, s')
          cases a.allows p (some d) <;> rfl
        | error e => rfl
    · rw [run_bind, run_pure]
      show ((if !a.allows p none then throw Fault.forbidden else pure ()) : StoreM Unit).run s = _
      cases a.allows p none <;> rfl

end Route

namespace Storage

/-- The storage answers reads: no read failure is switched on, and an SQL backend is open. -/
def AnswersReads (s : Storage) : Prop :=
  s.failReads = none ∧ ∀ q, s.backend = .sqlite q → q.closed = false

theorem findOne_answer {s : Storage} (hs : s.AnswersReads) (name : String) (f : Filter) :
    ((findOne name f).run s).1 = match (s.selected name f).head? with
      | some d => .ok d
      | none => .error .noDocument := by
  rw [findOne_run, hs.1]
  unfold selected stored
  cases hb : s.backend with
  | memory m =>
    cases hh : (((m.get name).docs.map Prod.snd).filter f.selects).head? <;>
      simp [MemoryStore.findOne, MemoryStore.findAll_eq, hh]
  | sqlite q =>
    -- a load of at most one document starts as the load of all of them
    have hhead : (q.load name f 1).head? = (((q.docsOf name).map Prod.snd).filter f.selects).head? := by
      rw [← SqliteStore.load_zero]
      simp only [SqliteStore.load]
      cases (((q.rows.filter (·.collection == name)).map (·.data)).filter f.selects) <;> rfl
    cases hh : (((q.docsOf name).map Prod.snd).filter f.selects).head? <;>
      simp [SqliteStore.findOne, hs.2 q hb, hhead, hh]

end Storage

namespace Persist

theorem findOne_answer (e : Entity) (f : Filter) {s : Storage} (hs : s.AnswersReads) :
    ((findOne e f).run s).1 = match (s.selected e.collectionName (scope e f)).head? with
      | some d => .ok d
      | none => .error Fault.notFound := by
  rw [findOne, run_normalized]
  have h := Storage.findOne_answer hs e.collectionName (scope e f)
  cases hr : (Storage.findOne e.collectionName (scope e f)).run s with
  | mk res s' =>
    rw [hr] at h
    dsimp only at h
    subst h
    cases (s.selected e.collectionName (scope e f)).head? <;> rfl

end Persist

namespace Route

/-- What the guard of a route answers a caller about an id, read off the stored documents:
everyone passes a route without an ability; a route on one document checks its ability against
the first live document the id selects and reports a missing document, before any check, when
there is none; any other route checks its ability against no document. -/
def verdict (r : Route) (p : Option Principal) (id : String) (s : Storage) : Except Fault Unit :=
  match r.ability with
  | none => .ok ()
  | some a =>
    if r.kind.targetsResource then
      match (s.selected r.entity.collectionName (Persist.scope r.entity (Filter.byId id))).head? with
      | none => .error Fault.notFound
      | some d => if a.allows p (some d) then .ok () else .error Fault.forbidden
    else if a.allows p none then .ok () else .error Fault.forbidden

theorem guard_eq_verdict (r : Route) (p : Option Principal) {id : String}
    (hid : r.kind.targetsResource = true → id ≠ "") {s : Storage} (hs : s.AnswersReads) :
    (r.guard p id).run s = (r.verdict p id s, s) := by
  rw [guard_run]
  unfold verdict
  cases r.ability with
  | none => rfl
  | some a =>
    dsimp only
    cases hk : r.kind.targetsResource with
    | false => simp
    | true =>
      have hne : id.isEmpty = false := by simpa [String.isEmpty_iff] using hid hk
      simp only [hne, Bool.not_false, Bool.and_self, if_true, Persist.findOne_answer _ _ hs]
      cases (s.selected r.entity.collectionName (Persist.scope r.entity (Filter.byId id))).head? <;>
        rfl

theorem guard_run_of_none (r : Route) (hr : r.ability = none) (p : Option Principal) (id : String)
    (s : Storage) : (r.guard p id).run s = (.ok (), s) := by
  rw [guard_run, hr]

end Route

/-! Assembly: the ability a route takes from its configuration and its controller. -/

/-- The ability a controller binds to a kind of route: that of its first entry for the kind. -/
def ControllerOptions.abilityFor (opts : ControllerOptions) (k : RouteKind) : Option Ability :=
  (opts.abilities.find? (·.1 == k)).map (·.2)

theorem ControllerOptions.abilityFor_eq_none_iff (opts : ControllerOptions) (k : RouteKind) :
    opts.abilityFor k = none ↔ ∀ a, (k, a) ∉ opts.abilities := by
  simp only [abilityFor, Option.map_eq_none_iff, List.find?_eq_none]
  constructor
  · intro h a ha
    exact h _ ha (RouteKind.beq_iff_eq.2 rfl)
  · rintro h ⟨k', a⟩ hm hk
    obtain rfl : k' = k := RouteKind.beq_iff_eq.1 hk
    exact h a hm

namespace DeployM

theorem run_bind {α β : Type} (x : DeployM α) (f : α → DeployM β) (d : Deployment) :
    (x >>= f).run d = match x.run d with
      | (.ok a, d') => (f a).run d'
      | (.error e, d') => (.error e, d') := by
  simp only [bind, ExceptT.bind, ExceptT.mk, ExceptT.run, StateT.bind, ExceptT.bindCont]
  cases x d with
  | mk r d' => cases r <;> rfl

theorem run_map {α β : Type} (f : α → β) (x : DeployM α) (d : Deployment) :
    (f <$> x).run d = match x.run d with
      | (.ok a, d') => (.ok (f a), d')
      | (.error e, d') => (.error e, d') := by
  rw [← bind_pure_comp, run_bind]
  cases x.run d with
  | mk r d' => cases r <;> rfl

@[simp] theorem run_get (d : Deployment) : (get : DeployM Deployment).run d = (.ok d, d) := rfl

@[simp] theorem run_set (t d : Deployment) : (set t : DeployM Unit).run d = (.ok (), t) := rfl

@[simp] theorem run_modify (f : Deployment → Deployment) (d : Deployment) :
    (modify f : DeployM Unit).run d = (.ok (), f d) := rfl

@[simp] theorem run_pure {α : Type} (a : α) (d : Deployment) :
    (pure a : DeployM α).run d = (.ok a, d) := rfl

@[simp] theorem run_throw {α : Type} (e : Fault) (d : Deployment) :
    (throw e : DeployM α).run d = (.error e, d) := rfl

end DeployM

namespace Factory

theorem buildRoute_ability {e : Entity} {opts : ControllerOptions} {cfg : RouteConfig} {r : Route}
    (h : buildRoute e opts cfg = .ok r) :
    r.kind = cfg.kind ∧ r.ability = cfg.ability.orElse fun _ => opts.abilityFor cfg.kind := by
  unfold buildRoute at h
  simp only [bind, Except.bind] at h
  split at h
  · cases h
  · simp only [pure, Except.pure, Except.ok.injEq] at h
    subst h
    exact ⟨rfl, rfl⟩

theorem buildAll_ability {e : Entity} {opts : ControllerOptions} :
    ∀ {v : Validators} {cfgs : List RouteConfig} {v' : Validators} {rs : List Route},
      buildAll e opts v cfgs = (v', .ok rs) →
      List.Forall₂ (fun cfg r => r.kind = cfg.kind ∧
        r.ability = cfg.ability.orElse fun _ => opts.abilityFor cfg.kind) cfgs rs
  | _, [], _, _, h => by
    simp only [buildAll, Prod.mk.injEq] at h
    obtain ⟨-, h⟩ := h
    cases h
    exact .nil
  | v, cfg :: rest, v', rs, h => by
    simp only [buildAll] at h
    cases hr : buildRoute e opts cfg with
    | error err => simp [hr] at h
    | ok rt =>
      simp only [hr] at h
      cases hall : buildAll e opts (rememberShapes v rt.shapes) rest with
      | mk v'' res =>
        cases res with
        | error err => simp [hall] at h
        | ok more =>
          simp only [hall, Prod.mk.injEq, Except.ok.injEq] at h
          obtain ⟨-, rfl⟩ := h
          have ha := buildRoute_ability hr
          exact .cons ⟨ha.1, ha.2⟩ (buildAll_ability hall)

theorem build_ok {e : Entity} {opts : ControllerOptions} {cfgs : List RouteConfig}
    {d d' : Deployment} {rs : List Route} (h : (build e opts cfgs).run d = (.ok rs, d')) :
    ∃ v, buildAll e opts d.validators cfgs = (v, .ok rs) := by
  unfold build at h
  cases hv : e.validate with
  | error err => simp [hv] at h; cases congrArg Prod.fst h
  | ok u =>
    cases hb : buildAll e opts d.validators cfgs with
    | mk v built =>
      cases built with
      | error err => simp [hv, hb, DeployM.run_bind] at h; cases congrArg Prod.fst h
      | ok rs' =>
        refine ⟨v, ?_⟩
        simp [hv, hb, DeployM.run_bind] at h
        -- registering, then preparing the collection, answers the assembled routes or fails
        split at h
        · cases congrArg Prod.fst h
        · rw [DeployM.run_bind, DeployM.run_set] at h
          dsimp only at h
          rw [DeployM.run_map] at h
          split at h <;> cases congrArg Prod.fst h
          rfl

end Factory

/-- Every write of a route waits for its checks. A request that the guard, the body mapper or a
before-create hook turns down fails and leaves the storage as it was. On a storage that answers
reads, the guard of a request whose id is not empty on a route on one document (as decoding
makes it) answers its verdict: the ability checked against the first live document the id
selects, a missing or deleted one reported before any check, and against no document on the
other routes. Without an ability the guard lets everyone through; an assembled route takes its
own ability, and the controller's for its kind only when it has none. -/
theorem writes_wait_for_checks :
    (∀ (r : Route) (p : Option Principal) (req : Request) (s : Storage),
      r.Refuses p req s → ∃ f, (r.handle p req).run s = (.error f, s)) ∧
    (∀ (r : Route) (p : Option Principal) (req : Request),
      (r.kind.targetsResource = true → req.id ≠ "") →
      ∀ s : Storage, s.AnswersReads → (r.guard p req.id).run s = (r.verdict p req.id s, s)) ∧
    (∀ r : Route, r.ability = none →
      ∀ (p : Option Principal) (id : String) (s : Storage), (r.guard p id).run s = (.ok (), s)) ∧
    (∀ (e : Entity) (opts : ControllerOptions) (cfgs : List RouteConfig) (d d' : Deployment)
      (rs : List Route), (Factory.build e opts cfgs).run d = (.ok rs, d') →
      List.Forall₂ (fun cfg r => r.kind = cfg.kind ∧
        r.ability = cfg.ability.orElse fun _ => opts.abilityFor cfg.kind) cfgs rs) := by
  refine ⟨fun r p req s h => Route.handle_refused h, ?_, ?_, ?_⟩
  · intro r p req hid s hs
    exact r.guard_eq_verdict p hid hs
  · intro r hr p id s
    exact r.guard_run_of_none hr p id s
  · intro e opts cfgs d d' rs h
    obtain ⟨v, hv⟩ := Factory.build_ok h
    exact Factory.buildAll_ability hv

/-- An anonymous caller of a create route whose before-create hook makes the caller the owner is
turned down, and nothing is written. -/
theorem anonymous_owned_create_writes_nothing :
    ∃ f, (({ (default : Route) with kind := .createOne, hooks := { beforeCreate := some .setOwner } }
      : Route).handle none {}).run default = (.error f, default) :=
  writes_wait_for_checks.1 _ none {} default (.hook rfl rfl rfl)

end CrudRoutes
