import CrudRoutes.Route.Basic
import CrudRoutes.Fault

/-!
The registry of assembled routes. It keeps the routes by service name, and three tables that
send the artifact key, the HTTP endpoint and the realtime event (when there is one) of each route
to its service name. A route is registered only when none of the four is taken; routes are
registered in batches, all or none, and a batch must also be free of such clashes within itself.

A table is a map keyed by text, as the source keeps them: one entry per key, setting a key
replaces its entry and deleting it drops the entry.
-/

namespace CrudRoutes

/-- A map keyed by text, with one entry per key. -/
structure Table (α : Type) where
  entries : List (String × α)
  nodup : (entries.map Prod.fst).Nodup

namespace Table

variable {α : Type}

def empty : Table α := ⟨[], List.nodup_nil⟩

instance : EmptyCollection (Table α) := ⟨empty⟩

instance : Inhabited (Table α) := ⟨empty⟩

def get? (t : Table α) (k : String) : Option α :=
  (t.entries.find? (·.1 == k)).map Prod.snd

def erase (t : Table α) (k : String) : Table α where
  entries := t.entries.filter (·.1 != k)
  nodup := t.nodup.sublist (List.filter_sublist.map Prod.fst)

def set (t : Table α) (k : String) (v : α) : Table α where
  entries := (t.erase k).entries ++ [(k, v)]
  nodup := by
    rw [List.map_append, List.nodup_append]
    refine ⟨(t.erase k).nodup, List.nodup_cons.2 ⟨List.not_mem_nil, List.nodup_nil⟩, ?_⟩
    intro a ha b hb
    simp only [List.map_cons, List.map_nil, List.mem_singleton] at hb
    subst hb
    simp only [erase, List.mem_map, List.mem_filter, bne_iff_ne, ne_eq] at ha
    obtain ⟨p, ⟨-, hp⟩, rfl⟩ := ha
    exact hp

end Table

/-- The registered routes by service name, and the service names of the artifact keys, the
endpoints and the events taken. -/
structure Registry where
  routes : Table Route := {}
  artifacts : Table String := {}
  endpoints : Table String := {}
  events : Table String := {}
  deriving Inhabited

namespace Registry

def check (reg : Registry) (rt : Route) : Option Fault :=
  match reg.artifacts.get? rt.key with
  | some e => some (.collision "route" rt.key e)
  | none =>
    match reg.routes.get? rt.names.service with
    | some e => some (.collision "service" rt.names.service e.names.service)
    | none =>
      match reg.endpoints.get? rt.endpoint with
      | some e => some (.collision "endpoint" rt.endpoint e)
      | none =>
        if rt.event.isEmpty then none
        else match reg.events.get? rt.event with
          | some e => some (.collision "event" rt.event e)
          | none => none

def add (reg : Registry) (rt : Route) : Registry where
  routes := reg.routes.set rt.names.service rt
  artifacts := reg.artifacts.set rt.key rt.names.service
  endpoints := reg.endpoints.set rt.endpoint rt.names.service
  events := if rt.event.isEmpty then reg.events else reg.events.set rt.event rt.names.service

def checkBatch (reg : Registry) : Registry → List Route → Option Fault
  | _, [] => none
  | pending, rt :: rest =>
    match reg.check rt with
    | some e => some e
    | none =>
      match pending.check rt with
      | some e => some e
      | none => checkBatch reg (pending.add rt) rest

/-- Registers a batch of routes, or none of them. -/
def registerAll (reg : Registry) (batch : List Route) : Except Fault Registry :=
  match reg.checkBatch {} batch with
  | some e => .error e
  | none => .ok (batch.foldl add reg)

def removeOne (reg : Registry) (rt : Route) : Registry :=
  if (reg.routes.get? rt.names.service).isNone then reg
  else
    { routes := reg.routes.erase rt.names.service
      artifacts := reg.artifacts.erase rt.key
      endpoints := reg.endpoints.erase rt.endpoint
      events := if rt.event.isEmpty then reg.events else reg.events.erase rt.event }

/-- Removes the routes of a batch. -/
def remove (reg : Registry) (batch : List Route) : Registry :=
  batch.foldl removeOne reg

def sorted (reg : Registry) : List Route :=
  (reg.routes.entries.map Prod.snd).mergeSort fun a b => decide (a.names.service ≤ b.names.service)

def route? (reg : Registry) (service : String) : Option Route :=
  reg.routes.get? service

def byEvent? (reg : Registry) (event : String) : Option Route :=
  (reg.events.get? event).bind reg.routes.get?

end Registry

end CrudRoutes
