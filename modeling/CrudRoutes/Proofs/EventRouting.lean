import Mathlib
import CrudRoutes.Proofs.Session
import CrudRoutes.Proofs.Registry

/-!
Realtime routes by their events.

The gateway built from a list of routes keeps, for each event, the last route of the list that
has it (`Gateway.route?_ofRoutes`). The registry accepts no batch in which two routes share an
event, so on a batch it accepted each route with an event is the one its event finds
(`Gateway.route?_ofRoutes_of_admits`).

A call is answered by the gateway's own methods before any route is looked up, and a call whose
method is blank is no request at all. So an event equal to `authenticate`, `auth.login`,
`auth.whoami` or `events.list`, or made of blanks, never reaches its route, although the
registry accepts it (`events_list_event_shadowed`). Every other event reaches its route: the
call's payload is decoded by the route and handled for the caller of the call
(`realtime_routes_reached_by_event`), and a method that is no event is not found.
-/

namespace CrudRoutes

/-- The methods the gateway answers itself, whatever routes it serves. -/
def Gateway.ownMethods : List String := ["authenticate", "auth.login", "auth.whoami", "events.list"]

namespace Gateway

def addRoute (acc : List (String × Route)) (r : Route) : List (String × Route) :=
  if r.event.isEmpty then acc
  else if acc.any (·.1 == r.event) then acc.map fun p => if p.1 == r.event then (p.1, r) else p
  else acc ++ [(r.event, r)]

theorem ofRoutes_eq (routes : List Route) : ofRoutes routes = { events := routes.foldl addRoute [] } :=
  rfl

def lookup (events : List (String × Route)) (e : String) : Option Route :=
  (events.find? (·.1 == e)).map (·.2)

theorem lookup_addRoute (acc : List (String × Route)) (r : Route) (e : String) :
    lookup (addRoute acc r) e = if !r.event.isEmpty && r.event == e then some r else lookup acc e := by
  unfold addRoute lookup
  by_cases hempty : r.event.isEmpty
  · simp [hempty]
  · have hfalse : r.event.isEmpty = false := by simpa using hempty
    simp only [hfalse, Bool.false_eq_true, if_false, Bool.not_false, Bool.true_and]
    by_cases hany : acc.any (·.1 == r.event)
    · -- the event is in the table: its entry now holds `r`, and the keys stay as they were
      rw [if_pos hany, List.find?_map]
      have hkeys : ((fun q : String × Route => q.1 == e) ∘
          fun p => if p.1 == r.event then (p.1, r) else p) = fun q => q.1 == e := by
        funext p
        simp only [Function.comp_apply]
        split <;> rfl
      rw [hkeys, Option.map_map]
      by_cases he : r.event = e
      · subst he
        obtain ⟨q, hq, hqe⟩ := List.any_eq_true.1 hany
        have hsome : (acc.find? (·.1 == r.event)).isSome := List.find?_isSome.2 ⟨q, hq, hqe⟩
        obtain ⟨y, hy⟩ := Option.isSome_iff_exists.1 hsome
        have hy1 : y.1 = r.event := by simpa using List.find?_some hy
        simp [hy, hy1]
      · have hne : (r.event == e) = false := by simpa using he
        simp only [hne, Bool.false_eq_true, if_false]
        cases hfind : acc.find? (·.1 == e) with
        | none => rfl
        | some y =>
          -- the entry found has the key `e`, which is not the event `r` takes
          have hy : y.1 = e := by simpa using List.find?_some hfind
          have hyr : y.1 ≠ r.event := by rw [hy]; exact Ne.symm he
          simp [hyr]
    · rw [if_neg hany, List.find?_append]
      by_cases he : r.event = e
      · subst he
        have hnone : acc.find? (·.1 == r.event) = none := by
          rw [List.find?_eq_none]
          intro q hq hqe
          exact hany (List.any_eq_true.2 ⟨q, hq, hqe⟩)
        simp [hnone]
      · have hne : (r.event == e) = false := by simpa using he
        cases acc.find? (·.1 == e) <;> simp [hne]

/-- The gateway finds for an event the last route of its list that has the event. -/
theorem route?_ofRoutes (routes : List Route) (e : String) :
    (ofRoutes routes).route? e = routes.reverse.find? fun r => !r.event.isEmpty && r.event == e := by
  rw [ofRoutes_eq]
  show lookup (routes.foldl addRoute []) e = _
  induction routes using List.reverseRecOn with
  | nil => rfl
  | append_singleton init r ih =>
    rw [List.foldl_concat, lookup_addRoute, ih, List.reverse_append, List.reverse_singleton,
      List.singleton_append]
    by_cases hr : (!r.event.isEmpty && r.event == e) = true
    · have hcons : (r :: init.reverse).find? (fun r => !r.event.isEmpty && r.event == e) =
          some r := List.find?_cons_of_pos hr
      rw [if_pos hr, hcons]
    · have hcons : (r :: init.reverse).find? (fun r => !r.event.isEmpty && r.event == e) =
          init.reverse.find? (fun r => !r.event.isEmpty && r.event == e) :=
        List.find?_cons_of_neg hr
      rw [if_neg hr, hcons]

theorem eq_of_event_eq {routes : List Route} (h : routes.Pairwise Route.Apart) {r r' : Route}
    (hr : r ∈ routes) (hr' : r' ∈ routes) (he : r.event ≠ "") (hee : r.event = r'.event) :
    r = r' := by
  -- sharing a non-empty event is symmetric, so pairs of the list are apart in both orders
  let Shares : Route → Route → Prop := fun a b => a.event = b.event → a.event = ""
  have : Std.Symm Shares := ⟨fun a b hab hba => by rw [hba]; exact hab hba.symm⟩
  have hpair : routes.Pairwise Shares := h.imp fun hab heq => by
    obtain ⟨-, -, -, hev⟩ := hab
    rcases hev with hev | hev
    · exact hev
    · exact absurd heq hev
  by_contra hne
  exact he (hpair.forall hr hr' hne hee)

/-- On a batch the registry admits, every route with an event is the route of its event. -/
theorem route?_ofRoutes_of_admits {reg : Registry} {routes : List Route} (h : reg.Admits routes)
    {rt : Route} (hrt : rt ∈ routes) (he : rt.event ≠ "") :
    (ofRoutes routes).route? rt.event = some rt := by
  rw [route?_ofRoutes]
  have hsome : (routes.reverse.find? fun r => !r.event.isEmpty && r.event == rt.event).isSome :=
    List.find?_isSome.2 ⟨rt, List.mem_reverse.2 hrt, by simp [he]⟩
  obtain ⟨r, hr⟩ := Option.isSome_iff_exists.1 hsome
  have hevent : r.event ≠ "" ∧ r.event = rt.event := by simpa using List.find?_some hr
  have hmem : r ∈ routes := List.mem_reverse.1 (List.mem_of_find?_eq_some hr)
  rw [hr, eq_of_event_eq h.apart hmem hrt hevent.1 hevent.2]

theorem route?_ofRoutes_eq_none {routes : List Route} {e : String} (h : ∀ r ∈ routes, r.event ≠ e) :
    (ofRoutes routes).route? e = none := by
  rw [route?_ofRoutes, List.find?_eq_none]
  intro r hr
  simp [h r (List.mem_reverse.1 hr)]

end Gateway

namespace Server

/-- How a route answers a call on a server: the refusal of the call's caller, or the route's
result on the payload it decodes, with the call counted. The session stays as it was. -/
def routeAnswer (g : Gateway) (r : Route) (session : Option Principal) (c : Call) (σ : Server) :
    (Answer × Option Principal) × Server :=
  match σ.callerFor session c with
  | .error f => (({ outcome := .error (Answer.faultError f), id := c.id }, session), σ)
  | .ok p =>
    let out := r.runDecoded p (r.decodePayload c.params) σ.deploy.storage
    (({ outcome := out.1.mapError Answer.faultError, id := c.id }, session),
      σ.afterCall g.transport r.names.service out)

/-- The answer to a method that is not found; nothing changes. -/
def notFound (session : Option Principal) (c : Call) (σ : Server) :
    (Answer × Option Principal) × Server :=
  (({ outcome := .error ⟨-32601, "method not found", ""⟩, id := c.id }, session), σ)

variable {g : Gateway} {session : Option Principal} {c : Call} {r : Route}

theorem dispatch_event (σ : Server) (hv : c.version = "2.0")
    (hm : (Text.trimBlanks c.method).isEmpty = false) (hown : c.method ∉ Gateway.ownMethods)
    (hg : g.route? c.method = some r) :
    (dispatch g session c).run σ = routeAnswer g r session c σ := by
  cases hcall : σ.callerFor session c with
  | error f =>
    rw [dispatch_route_refused σ hv hm hown hg hcall]
    simp [routeAnswer, hcall]
  | ok p =>
    rw [dispatch_route hv hm hown hg (by rw [callCaller_run, hcall])]
    simp only [routeAnswer, hcall]
    generalize r.runDecoded p (r.decodePayload c.params) σ.deploy.storage = out
    obtain ⟨res, st⟩ := out
    cases res <;> rfl

theorem dispatch_unknown (σ : Server) (hv : c.version = "2.0")
    (hm : (Text.trimBlanks c.method).isEmpty = false) (hown : c.method ∉ Gateway.ownMethods)
    (hg : g.route? c.method = none) :
    (dispatch g session c).run σ = notFound session c σ := by
  have hok : (c.version != "2.0" || (Text.trimBlanks c.method).isEmpty) = false := by
    simp [hv, hm]
  simp only [dispatch, hok, Bool.false_eq_true, if_false]
  split
  · rename_i h; simp [h, Gateway.ownMethods] at hown
  · rename_i h; simp [h, Gateway.ownMethods] at hown
  · rename_i h; simp [h, Gateway.ownMethods] at hown
  · rename_i h; simp [h, Gateway.ownMethods] at hown
  · simp only [hg]
    rfl

theorem dispatch_events_list (σ : Server) (hv : c.version = "2.0") (hm : c.method = "events.list") :
    (dispatch g session c).run σ =
      (({ outcome := .ok (Value.strs g.eventNames), id := c.id }, session), σ) := by
  have hblank : (Text.trimBlanks "events.list").isEmpty = false := by decide
  simp only [dispatch, hv, hm, hblank, bne_self_eq_false, Bool.false_or, Bool.false_eq_true,
    ↓reduceIte]
  rfl

end Server

/-- Every route of a batch the registry accepted is reached by its event, unless the event is
one of the gateway's own methods or blank: a call of version `2.0` naming the event has its
payload decoded by the route and handled for the call's caller, and a call naming a method that
is no route's event is answered with method-not-found. -/
theorem realtime_routes_reached_by_event {reg reg' : Registry} {routes : List Route}
    (hacc : reg.registerAll routes = .ok reg') (session : Option Principal) (c : Call)
    (σ : Server) (hv : c.version = "2.0") (hm : (Text.trimBlanks c.method).isEmpty = false)
    (hown : c.method ∉ Gateway.ownMethods) :
    (∀ rt ∈ routes, rt.event = c.method →
      (Server.dispatch (Gateway.ofRoutes routes) session c).run σ =
        Server.routeAnswer (Gateway.ofRoutes routes) rt session c σ) ∧
    ((∀ rt ∈ routes, rt.event ≠ c.method) →
      (Server.dispatch (Gateway.ofRoutes routes) session c).run σ = Server.notFound session c σ) := by
  have hadm := (Registry.registerAll_eq_ok hacc).1
  refine ⟨fun rt hrt he => ?_, fun hnone => ?_⟩
  · -- a method with a non-blank text is not empty, so the route has an event
    have hne : rt.event ≠ "" := by
      rintro hempty
      rw [← he, hempty] at hm
      exact absurd hm (by decide)
    apply Server.dispatch_event σ hv hm hown
    rw [← he]
    exact Gateway.route?_ofRoutes_of_admits hadm hrt hne
  · exact Server.dispatch_unknown σ hv hm hown (Gateway.route?_ofRoutes_eq_none hnone)

/-- A `GetOne` route with the event `get-note`, alone in a batch, is reached by it. -/
theorem get_note_reached_by_event :
    let rt : Route := { (default : Route) with kind := .getOne, event := "get-note" }
    let c : Call := { version := "2.0", method := "get-note" }
    ({} : Registry).registerAll [rt] = .ok ([rt].foldl Registry.add {}) ∧ c.version = "2.0" ∧
      (Text.trimBlanks c.method).isEmpty = false ∧ c.method ∉ Gateway.ownMethods ∧
      ((∀ r ∈ [rt], r.event = c.method →
        (Server.dispatch (Gateway.ofRoutes [rt]) none c).run default =
          Server.routeAnswer (Gateway.ofRoutes [rt]) r none c default) ∧
      ((∀ r ∈ [rt], r.event ≠ c.method) →
        (Server.dispatch (Gateway.ofRoutes [rt]) none c).run default =
          Server.notFound none c default)) := by
  intro rt c
  have hacc : ({} : Registry).registerAll [rt] = .ok ([rt].foldl Registry.add {}) := rfl
  have hm : (Text.trimBlanks c.method).isEmpty = false := by decide
  have hown : c.method ∉ Gateway.ownMethods := by decide
  exact ⟨hacc, rfl, hm, hown, realtime_routes_reached_by_event hacc none c default rfl hm hown⟩

/-- The registry accepts a route whose event is `events.list`, and a call of that event is
answered with the list of events: the route, which would refuse a call without an id, is never
reached. -/
theorem events_list_event_shadowed :
    let rt : Route := { (default : Route) with kind := .getOne, event := "events.list" }
    let c : Call := { version := "2.0", method := "events.list" }
    ({} : Registry).registerAll [rt] = .ok ([rt].foldl Registry.add {}) ∧ rt.event ≠ "" ∧
      c.version = "2.0" ∧ c.method = rt.event ∧
      (Server.dispatch (Gateway.ofRoutes [rt]) none c).run default ≠
        Server.routeAnswer (Gateway.ofRoutes [rt]) rt none c default := by
  intro rt c
  have hdecode : rt.decodePayload c.params = .error Fault.invalidPayload := rfl
  have hcaller : (default : Server).callerFor none c = .ok none := rfl
  refine ⟨rfl, by decide, rfl, rfl, ?_⟩
  rw [Server.dispatch_events_list default rfl rfl]
  intro h
  have houtcome := congrArg (fun x => x.1.1.outcome) h
  simp [Server.routeAnswer, hcaller, hdecode, Route.runDecoded, Except.mapError] at houtcome

end CrudRoutes
