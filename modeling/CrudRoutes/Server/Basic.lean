import CrudRoutes.Factory
import CrudRoutes.Auth.Service
import CrudRoutes.Metrics

/-!
A running server: the deployment it serves, its authentication service and request counters
when they are enabled, and the routes it currently serves over HTTP and the realtime gateway.

Store computations run against the deployment's storage, whose changes stay whether they
succeed or fail. Every call of a generated route is counted by transport, route service and
outcome once it has been decoded and run, successful or not.
-/

namespace CrudRoutes

/-- A running server. -/
structure Server where
  deploy : Deployment
  auth : Option AuthService := none
  metrics : Option Metrics := none
  served : List Route := []
  deriving Inhabited

abbrev ServerM := StateM Server

namespace Server

def store {α : Type} (m : StoreM α) : ServerM (Except Fault α) := fun s =>
  let (r, st) := (m.run) s.deploy.storage
  (r, { s with deploy := { s.deploy with storage := st } })

def observe (transport service : String) (fault : Option Fault) : ServerM Unit :=
  modify fun s => { s with metrics := s.metrics.map (·.observe transport service (outcomeOf fault)) }

def faultOf {α : Type} : Except Fault α → Option Fault
  | .ok _ => none
  | .error f => some f

def authenticate (token : String) : ServerM (Except Fault Principal) := do
  match (← get).auth with
  | none => pure (.error Fault.unauthorized)
  | some a =>
    match ← store (a.authenticate token) with
    | .ok p => pure (.ok p)
    | .error f => pure (.error (if f.client?.isSome then f else Fault.unauthorized))

end Server

end CrudRoutes
