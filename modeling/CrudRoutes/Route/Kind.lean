/-!
The eleven kinds of route. Five of them address one resource by its id (`GetOne`, `UpdateOne`,
`DeleteOne`, `DuplicateOne`, `ReplaceOne`) and three address a list of ids (`UpdateMany`,
`DeleteMany`, `DuplicateMany`). Each kind has an HTTP method and a path suffix.
-/

namespace CrudRoutes

/-- A kind of route. -/
inductive RouteKind where
  | getOne
  | getMany
  | createOne
  | createMany
  | updateOne
  | updateMany
  | deleteOne
  | deleteMany
  | duplicateOne
  | duplicateMany
  | replaceOne
  deriving Repr, BEq, DecidableEq, Inhabited

namespace RouteKind

def all : List RouteKind :=
  [.getOne, .getMany, .createOne, .createMany, .updateOne, .updateMany, .deleteOne, .deleteMany,
    .duplicateOne, .duplicateMany, .replaceOne]

def name : RouteKind → String
  | .getOne => "GetOne"
  | .getMany => "GetMany"
  | .createOne => "CreateOne"
  | .createMany => "CreateMany"
  | .updateOne => "UpdateOne"
  | .updateMany => "UpdateMany"
  | .deleteOne => "DeleteOne"
  | .deleteMany => "DeleteMany"
  | .duplicateOne => "DuplicateOne"
  | .duplicateMany => "DuplicateMany"
  | .replaceOne => "ReplaceOne"

def ofName? (s : String) : Option RouteKind :=
  all.find? (·.name == s)

def targetsResource : RouteKind → Bool
  | .getOne | .updateOne | .deleteOne | .duplicateOne | .replaceOne => true
  | _ => false

def targetsIds : RouteKind → Bool
  | .updateMany | .deleteMany | .duplicateMany => true
  | _ => false

def creates : RouteKind → Bool
  | .createOne | .createMany => true
  | _ => false

def method : RouteKind → String
  | .getOne | .getMany => "GET"
  | .createOne | .createMany | .duplicateOne | .duplicateMany => "POST"
  | .updateOne | .updateMany => "PATCH"
  | .replaceOne => "PUT"
  | .deleteOne | .deleteMany => "DELETE"

def pathSuffix : RouteKind → List String
  | .getOne | .updateOne | .deleteOne | .replaceOne => ["{id}"]
  | .createMany => ["many"]
  | .duplicateOne => ["duplicate", "{id}"]
  | .duplicateMany => ["duplicate"]
  | _ => []

def successStatus : RouteKind → Nat
  | .createOne | .createMany | .duplicateOne | .duplicateMany => 201
  | _ => 200

end RouteKind

end CrudRoutes
