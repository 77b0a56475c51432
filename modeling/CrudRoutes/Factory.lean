import CrudRoutes.Registry
import CrudRoutes.Store.Storage

/-!
Assembly of routes. For one entity, the factory checks the descriptor, turns every route
configuration into a route, registers them together, and prepares the entity's collection for
its unique keys. Nothing stays registered when a step fails.

A route's shapes are projected from the entity: the presenter always, and by kind an id
parameter, a query (optional fields for `GetMany`, a list of ids for batch routes) and a body
(create mode for the routes that create, optional otherwise). Shapes given by the configuration
replace the projected ones. Every shape is named after the route and its role, except a shared
shape that already has a name. Assembling a route builds the validators of its body, parameter
and query; validators stay built even when a later step fails.
-/

namespace CrudRoutes

/-- A store and the registry of routes served over it. -/
structure Deployment where
  storage : Storage
  registry : Registry := {}
  validators : Validators := {}
  deriving Inhabited

abbrev DeployM := ExceptT Fault (StateM Deployment)

def DeployM.store {α : Type} (m : StoreM α) : DeployM α :=
  ExceptT.mk fun d =>
    let (r, s) := (m.run) d.storage
    (r, { d with storage := s })

namespace Factory

def nameShape (cfg : RouteConfig) (display : String) (a : Naming.Artifact) :
    Option Shape → Option Shape
  | none => none
  | some s =>
    if s.shared && !s.name.isEmpty then some s
    else some { s with name := Naming.nameFor cfg.kind.name display cfg.version a }

def defaultBundle (e : Entity) (cfg : RouteConfig) (presenter : Shape) :
    Except ExclusionError Bundle :=
  match cfg.kind with
  | .getOne | .deleteOne => pure { presenter, param := some paramShape }
  | .getMany => do
    let q ← project e .optional cfg.exclude
    pure { presenter, query := some q }
  | .createOne | .createMany => do
    let b ← project e .create cfg.exclude
    pure { presenter, body := some b }
  | .updateOne | .duplicateOne | .replaceOne => do
    let b ← project e .optional cfg.exclude
    pure { presenter, param := some paramShape, body := some b }
  | .updateMany | .duplicateMany => do
    let b ← project e .optional cfg.exclude
    pure { presenter, query := some idsShape, body := some b }
  | .deleteMany => pure { presenter, query := some idsShape }

def resolveBundle (e : Entity) (cfg : RouteConfig) (display : String) :
    Except ExclusionError Bundle := do
  let presenter ← project e .presenter cfg.exclude
  let defaults ← defaultBundle e cfg presenter
  let pick := fun (custom fallback : Option Shape) => custom.orElse fun _ => fallback
  pure
    { body := nameShape cfg display .body (pick cfg.shapes.body defaults.body)
      param := nameShape cfg display .param (pick cfg.shapes.param defaults.param)
      query := nameShape cfg display .query (pick cfg.shapes.query defaults.query)
      presenter := nameShape cfg display .presenter (pick cfg.shapes.presenter defaults.presenter) }

def shapeName : Option Shape → String
  | some s => s.name
  | none => ""

/-- Assembles one route. -/
def buildRoute (e : Entity) (opts : ControllerOptions) (cfg : RouteConfig) :
    Except ExclusionError Route := do
  let display := if opts.displayName.isEmpty then e.name else opts.displayName
  let shapes ← resolveBundle e cfg display
  let name := Naming.nameFor cfg.kind.name display cfg.version
  let hasEvent := opts.realtime || cfg.realtime || !cfg.eventName.isEmpty
  let event := if !hasEvent then ""
    else if cfg.eventName.isEmpty then Naming.eventName cfg.kind.name cfg.subPath display
    else cfg.eventName
  let basePath := if opts.basePath.isEmpty then e.collectionName else opts.basePath
  pure
    { entity := e
      kind := cfg.kind
      version := Naming.normalizeVersion cfg.version
      subPath := Text.trimChar '/' cfg.subPath
      description := cfg.description
      displayName := display
      tag := if opts.tag.isEmpty then display else opts.tag
      names :=
        { body := shapeName shapes.body
          param := shapeName shapes.param
          query := shapeName shapes.query
          presenter := shapeName shapes.presenter
          service := name .service
          controller := name .controller
          gateway := if hasEvent then name .gateway else "" }
      method := cfg.kind.method
      path := Naming.pathFor basePath cfg.subPath cfg.version (some cfg.kind)
      event
      shapes
      ability := cfg.ability.orElse fun _ => (opts.abilities.find? (·.1 == cfg.kind)).map (·.2)
      hooks := cfg.hooks }

def rememberShapes (v : Validators) (b : Bundle) : Validators :=
  [b.body, b.param, b.query].foldl (fun acc s => match s with
    | some s => acc.remember s
    | none => acc) v

/-- Assembles the routes of every configuration, stopping at the first that fails, and gives
the validators built on the way in either case. Each route keeps the validators known once its
own are built. -/
def buildAll (e : Entity) (opts : ControllerOptions) (v : Validators) :
    List RouteConfig → Validators × Except Fault (List Route)
  | [] => (v, pure [])
  | cfg :: rest =>
    match buildRoute e opts cfg with
    | .error err => (v, .error (.config e.name cfg.kind.name (.plain err.message)))
    | .ok rt =>
      let v := rememberShapes v rt.shapes
      match buildAll e opts v rest with
      | (v', .ok more) => (v', .ok ({ rt with validators := v } :: more))
      | (v', .error err) => (v', .error err)

end Factory

/-- Assembles, registers and prepares the routes of one entity; nothing stays registered when
a step fails. -/
def Factory.build (e : Entity) (opts : ControllerOptions) (configs : List RouteConfig) :
    DeployM (List Route) := do
  match e.validate with
  | .error err => throw (.config e.name "" (.plain err.message))
  | .ok () => pure ()
  let (validators, built) := Factory.buildAll e opts (← get).validators configs
  modify fun d => { d with validators }
  let routes ← match built with
    | .ok rs => pure rs
    | .error err => throw err
  let d ← get
  match d.registry.registerAll routes with
  | .error err => throw err
  | .ok reg => set { d with registry := reg }
  let spec : CollectionSpec := { name := e.collectionName, uniqueKeys := e.uniqueKeys }
  try
    DeployM.store (Storage.ensureCollection spec)
  catch err =>
    modify fun d => { d with registry := d.registry.remove routes }
    throw (.wrapped ("prepare collection for " ++ e.name) err)
  pure routes

end CrudRoutes
