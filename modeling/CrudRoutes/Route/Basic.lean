import CrudRoutes.Route.Naming
import CrudRoutes.Shape.Basic
import CrudRoutes.Catalog

/-!
Routes: what one route configuration yields once assembled.

A route configuration names a kind of route and how it differs from the defaults: a sub path,
a version, exclusions, custom shapes, an ability, hooks, and whether it has a realtime event.
Controller options hold what every route of one entity shares. An assembled route carries its
entity, its names, its HTTP method and path, its event (empty when it has none), its resolved
shapes, its ability and its hooks.

Two routes are the same artifact set when they share a display name, a kind and a version; this
is the route's key.
-/

namespace CrudRoutes

/-- The request and response shapes of a route. -/
structure Bundle where
  body : Option Shape := none
  param : Option Shape := none
  query : Option Shape := none
  presenter : Option Shape := none
  deriving Repr, Inhabited

/-- The hooks bound to one route. -/
structure Hooks where
  beforeSave : Option SaveHook := none
  beforeCreate : Option CreateHook := none
  afterSave : Option AfterHook := none
  deriving Repr, Inhabited

/-- One route to assemble. -/
structure RouteConfig where
  kind : RouteKind
  subPath : String := ""
  version : String := ""
  description : String := ""
  shapes : Bundle := {}
  exclude : List String := []
  ability : Option Ability := none
  hooks : Hooks := {}
  eventName : String := ""
  realtime : Bool := false
  deriving Repr, Inhabited

/-- What the routes of one entity share. -/
structure ControllerOptions where
  basePath : String := ""
  tag : String := ""
  displayName : String := ""
  abilities : List (RouteKind × Ability) := []
  realtime : Bool := false
  deriving Repr, Inhabited

/-- The generated names of a route; an empty name is one the route does not have. -/
structure ArtifactNames where
  body : String := ""
  param : String := ""
  query : String := ""
  presenter : String := ""
  service : String
  controller : String
  gateway : String := ""
  deriving Repr, Inhabited

def ArtifactNames.toValue (n : ArtifactNames) : Value :=
  let opt := fun (k v : String) => if v.isEmpty then [] else [(k, Value.str v)]
  .obj (opt "body" n.body ++ opt "param" n.param ++ opt "query" n.query ++
    opt "presenter" n.presenter ++ [("service", .str n.service), ("controller", .str n.controller)] ++
    opt "gateway" n.gateway)

/-- An assembled route. -/
structure Route where
  entity : Entity
  kind : RouteKind
  version : String
  subPath : String
  description : String
  displayName : String
  tag : String
  names : ArtifactNames
  method : String
  path : String
  event : String
  shapes : Bundle
  ability : Option Ability
  hooks : Hooks
  validators : Validators := {}
  deriving Repr, Inhabited

namespace Route

def key (r : Route) : String :=
  r.displayName ++ ":" ++ r.kind.name ++ ":" ++ Naming.normalizeVersion r.version

def endpoint (r : Route) : String :=
  r.method ++ " " ++ r.path

def guarded (r : Route) : Bool :=
  r.ability.isSome

end Route

end CrudRoutes
