import CrudRoutes.Yaml.Decode
import CrudRoutes.Entity.Basic

/-!
Manifests: entities and their routes declared in YAML.

A manifest names the entity that login checks credentials against and lists the entities. Each
entity has its descriptor (name, collection, fields, soft deletion, unique indexes), controller
options shared by its routes, and its routes. Routes name abilities, hooks and mappers by the
names of the catalog; they are resolved when the manifest is assembled.

A manifest is read from the first YAML document of a text. Mismatched values are collected and
reported together, each with its line and the type it should have had. A manifest must declare
at least one entity, no entity twice, and its users entity among them.
-/

namespace CrudRoutes

/-- A declared route, names unresolved. -/
structure RouteDecl where
  kind : String := ""
  subPath : String := ""
  version : String := ""
  description : String := ""
  exclude : List String := []
  ability : String := ""
  beforeSave : String := ""
  beforeCreate : String := ""
  afterSave : String := ""
  eventName : String := ""
  realtime : Bool := false
  body : String := ""
  presenter : String := ""
  deriving Repr, Inhabited

/-- Declared controller options; abilities by route kind name, sorted. -/
structure ControllerDecl where
  basePath : String := ""
  tag : String := ""
  displayName : String := ""
  realtime : Bool := false
  abilities : List (String × String) := []
  deriving Repr, Inhabited

/-- A declared entity. Unique indexes keep the difference between absent and empty lists. -/
structure EntityDecl where
  name : String := ""
  collection : String := ""
  softDeletable : Bool := false
  fields : List Field := []
  uniqueIndexes : Option (List (Option (List String))) := none
  controller : ControllerDecl := {}
  routes : List RouteDecl := []
  deriving Repr, Inhabited

/-- A manifest. -/
structure Manifest where
  usersEntity : String := ""
  entities : List EntityDecl := []
  deriving Repr, Inhabited

namespace EntityDecl

def descriptor (e : EntityDecl) : Entity :=
  { name := e.name
    collection := e.collection
    fields := e.fields
    softDeletable := e.softDeletable
    uniqueIndexes := (e.uniqueIndexes.getD []).map (·.getD []) }

end EntityDecl

def Manifest.descriptor? (m : Manifest) (name : String) : Option Entity :=
  (m.entities.find? (·.name == name)).map EntityDecl.descriptor

namespace Manifest

open Yaml

def fieldTarget : Target :=
  .record "domain.Field"
    [("name", .text "string"), ("kind", .text "domain.FieldKind"), ("required", .flag),
     ("unique", .flag)]

def routeTarget : Target :=
  .record "manifest.Route"
    [("type", .text "domain.RouteType"), ("subPath", .text "string"),
     ("version", .text "string"), ("description", .text "string"),
     ("exclude", .list "[]string" (.text "string")), ("ability", .text "string"),
     ("beforeSave", .text "string"), ("beforeCreate", .text "string"),
     ("afterSave", .text "string"), ("eventName", .text "string"), ("realtime", .flag),
     ("body", .text "string"), ("presenter", .text "string")]

def controllerTarget : Target :=
  .record "manifest.Controller"
    [("basePath", .text "string"), ("tag", .text "string"), ("displayName", .text "string"),
     ("realtime", .flag), ("abilities", .textMap "map[string]string")]

def entityTarget : Target :=
  .record "manifest.Entity"
    [("name", .text "string"), ("collection", .text "string"), ("softDeletable", .flag),
     ("fields", .list "[]domain.Field" fieldTarget),
     ("uniqueIndexes", .list "[][]string" (.list "[]string" (.text "string"))),
     ("controller", controllerTarget), ("routes", .list "[]manifest.Route" routeTarget)]

def target : Target :=
  .record "manifest.Manifest"
    [("auth", .record "manifest.Auth" [("usersEntity", .text "string")]),
     ("entities", .list "[]manifest.Entity" entityTarget)]

def fieldsOf : Datum → List Datum
  | .record ds => ds
  | _ => []

def flagOf : Datum → Bool
  | .flag b => b
  | _ => false

def itemsOf? : Datum → Option (List Datum)
  | .list xs => xs
  | _ => none

def itemsOf (d : Datum) : List Datum :=
  (itemsOf? d).getD []

def textsOf? (d : Datum) : Option (List String) :=
  (itemsOf? d).map (·.map Datum.text!)

def at! (ds : List Datum) (i : Nat) : Datum :=
  ds.getD i (.text "")

def fieldOf (d : Datum) : Field :=
  let ds := fieldsOf d
  { name := (at! ds 0).text!, kind := (at! ds 1).text!, required := flagOf (at! ds 2),
    unique := flagOf (at! ds 3) }

def routeOf (d : Datum) : RouteDecl :=
  let ds := fieldsOf d
  let t := fun i => (at! ds i).text!
  { kind := t 0, subPath := t 1, version := t 2, description := t 3,
    exclude := (textsOf? (at! ds 4)).getD [], ability := t 5, beforeSave := t 6,
    beforeCreate := t 7, afterSave := t 8, eventName := t 9, realtime := flagOf (at! ds 10),
    body := t 11, presenter := t 12 }

def controllerOf (d : Datum) : ControllerDecl :=
  let ds := fieldsOf d
  let abilities := match at! ds 4 with
    | .textMap (some es) => es.mergeSort fun a b => decide (a.1 ≤ b.1)
    | _ => []
  { basePath := (at! ds 0).text!, tag := (at! ds 1).text!, displayName := (at! ds 2).text!,
    realtime := flagOf (at! ds 3), abilities }

def entityOf (d : Datum) : EntityDecl :=
  let ds := fieldsOf d
  { name := (at! ds 0).text!, collection := (at! ds 1).text!,
    softDeletable := flagOf (at! ds 2), fields := (itemsOf (at! ds 3)).map fieldOf,
    uniqueIndexes := (itemsOf? (at! ds 4)).map (·.map textsOf?),
    controller := controllerOf (at! ds 5), routes := (itemsOf (at! ds 6)).map routeOf }

def ofDatum (d : Datum) : Manifest :=
  let ds := fieldsOf d
  { usersEntity := (at! (fieldsOf (at! ds 0)) 0).text!,
    entities := (itemsOf (at! ds 1)).map entityOf }

def read (text : String) : Except String Manifest :=
  match Yaml.decodeText text target with
  | .error e => .error e.message
  | .ok none => .ok {}
  | .ok (some d) => .ok (ofDatum d)

def repeated? : List String → List String → Option String
  | [], _ => none
  | n :: rest, seen => if seen.contains n then some n else repeated? rest (seen ++ [n])

def parse (text : String) : Except String Manifest := do
  let m ← match read text with
    | .ok m => pure m
    | .error e => throw ("parse manifest: " ++ e)
  if m.entities.isEmpty then throw "manifest declares no entities"
  let names := m.entities.map (·.name)
  match repeated? names [] with
  | some n => throw ("entity " ++ Text.quoted n ++ " declared twice")
  | none => pure ()
  if !m.usersEntity.isEmpty && !names.contains m.usersEntity then
    throw ("auth.usersEntity " ++ Text.quoted m.usersEntity ++ " is not declared")
  pure m

end Manifest

end CrudRoutes
