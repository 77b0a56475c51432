import CrudRoutes.Manifest.Basic
import CrudRoutes.Factory

/-!
Assembling a manifest: resolving the names it uses against the catalog and building every
entity's routes through the factory, entity by entity.

Controller abilities are resolved in the order of their route kinds' names. A route's mapper
names (`body`, `presenter`) attach the mapper to the shape projected for that role. Audit
records go to the manifest's own `Audit` entity when it declares one.
-/

namespace CrudRoutes

/-- What a manifest's names resolve against: the entity that audit records are written to. -/
structure Catalog where
  audit : Entity
  deriving Inhabited

def Catalog.ofManifest (m : Manifest) : Catalog :=
  { audit := (m.descriptor? "Audit").getD defaultAudit }

def lookupName {α : Type} (what name : String) : Option α → Except Fault α
  | some a => .ok a
  | none => .error (.plain ("unknown " ++ what ++ " " ++ Text.quoted name))

def ControllerDecl.options (c : ControllerDecl) : Except Fault ControllerOptions := do
  let mut abilities : List (RouteKind × Ability) := []
  for (t, a) in c.abilities do
    let kind ← match RouteKind.ofName? t with
      | some k => pure k
      | none => throw (.plain ("abilities: unknown route type " ++ Text.quoted t))
    let ability ← lookupName "ability" a (Ability.ofName? a)
    abilities := abilities ++ [(kind, ability)]
  pure
    { basePath := c.basePath
      tag := c.tag
      displayName := c.displayName
      abilities
      realtime := c.realtime }

def mappedShape (e : Entity) (name : String) (mode : ShapeMode) (exclude : List String) :
    Except Fault Shape := do
  let mapper ← lookupName "mapper" name (Mapper.ofName? name)
  match project e mode exclude with
  | .ok s => pure { s with mapper := some mapper }
  | .error err => throw (.plain err.message)

def RouteDecl.config (r : RouteDecl) (e : Entity) (cat : Catalog) : Except Fault RouteConfig := do
  let kind ← match RouteKind.ofName? r.kind with
    | some k => pure k
    | none => throw (.plain ("unknown route type " ++ Text.quoted r.kind))
  let ability ← if r.ability.isEmpty then pure none
    else some <$> lookupName "ability" r.ability (Ability.ofName? r.ability)
  let beforeSave ← if r.beforeSave.isEmpty then pure none
    else some <$> lookupName "beforeSave hook" r.beforeSave (SaveHook.ofName? r.beforeSave)
  let beforeCreate ← if r.beforeCreate.isEmpty then pure none
    else do
      if !kind.creates then throw (.plain "beforeCreate is only run by CreateOne and CreateMany")
      some <$> lookupName "beforeCreate hook" r.beforeCreate (CreateHook.ofName? r.beforeCreate)
  let afterSave ← if r.afterSave.isEmpty then pure none
    else some <$> lookupName "afterSave hook" r.afterSave (AfterHook.ofName? cat.audit r.afterSave)
  let body ← if r.body.isEmpty then pure none
    else some <$> mappedShape e r.body (ShapeMode.ofRoute kind) r.exclude
  let presenter ← if r.presenter.isEmpty then pure none
    else some <$> mappedShape e r.presenter .presenter r.exclude
  pure
    { kind
      subPath := r.subPath
      version := r.version
      description := r.description
      shapes := { body, presenter }
      exclude := r.exclude
      ability
      hooks := { beforeSave, beforeCreate, afterSave }
      eventName := r.eventName
      realtime := r.realtime }

def EntityDecl.configs (d : EntityDecl) (cat : Catalog) : Except Fault (List RouteConfig) :=
  let e := d.descriptor
  d.routes.mapM fun r =>
    match r.config e cat with
    | .ok c => .ok c
    | .error err => .error (.wrapped ("entity " ++ d.name ++ " route " ++ r.kind) err)

def Manifest.assemble (m : Manifest) (cat : Catalog) : DeployM (List Route) := do
  let mut all : List Route := []
  for d in m.entities do
    let opts ← match d.controller.options with
      | .ok o => pure o
      | .error err => throw (.wrapped ("entity " ++ d.name) err)
    let configs ← match d.configs cat with
      | .ok cs => pure cs
      | .error err => throw err
    let routes ← Factory.build d.descriptor opts configs
    all := all ++ routes
  pure all

end CrudRoutes
