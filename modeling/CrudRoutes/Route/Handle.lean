import CrudRoutes.Route.Envelope
import CrudRoutes.Service

/-!
Running a decoded request on a route.

The route's ability is checked first. For routes on one document the document is loaded for
the check, so a missing document is reported before a refusal. Then the body goes through the
body shape's mapper, the service runs the operation, and the result goes through the presenter
shape's mapper. Deletions answer with the number of documents deleted.
-/

namespace CrudRoutes

namespace Route

def service (r : Route) (p : Option Principal) : Service :=
  { entity := r.entity, hooks := r.hooks, principal := p }

/-- Checks the route's ability for a caller, loading the addressed document when there is one. -/
def guard (r : Route) (p : Option Principal) (id : String) : StoreM Unit := do
  match r.ability with
  | none => pure ()
  | some a =>
    let resource ← if !id.isEmpty && r.kind.targetsResource then
        some <$> (r.service p).getOne id
      else pure none
    if !a.allows p resource then throw Fault.forbidden

/-- A body mapped on the way in. -/
def toEntity (r : Route) (body : Fields) : Except Fault Fields :=
  match r.shapes.body.bind (·.mapper) with
  | some m => if m.mapsIn then m.toEntity body else .ok body
  | none => .ok body

def toEntities (r : Route) (list : List Fields) : Except Fault (List Fields) :=
  list.mapM r.toEntity

def present (r : Route) (d : Fields) : Value :=
  match r.shapes.presenter.bind (·.mapper) with
  | some m => .obj (if m.mapsOut then m.fromEntity d else d)
  | none => .obj d

def presentMany (r : Route) (docs : List Fields) : Value :=
  .arr (docs.map r.present)

def presentDelete (res : DeleteResult) : Value :=
  .obj [("deletedCount", .int res.deleted)]

/-- Authorizes, maps and runs one request. -/
def handle (r : Route) (p : Option Principal) (req : Request) : StoreM Value := do
  r.guard p req.id
  let s := r.service p
  match r.kind with
  | .getOne => return r.present (← s.getOne req.id)
  | .getMany => return r.presentMany (← s.getMany req.query)
  | .createOne =>
    let body ← Service.lift (r.toEntity req.body)
    return r.present (← s.createOne body)
  | .createMany =>
    let list ← Service.lift (r.toEntities req.list)
    return r.presentMany (← s.createMany list)
  | .updateOne =>
    let body ← Service.lift (r.toEntity req.body)
    return r.present (← s.updateOne req.id body)
  | .updateMany =>
    let body ← Service.lift (r.toEntity req.body)
    return r.presentMany (← s.updateMany req.ids body)
  | .deleteOne => return presentDelete (← s.deleteOne req.id)
  | .deleteMany => return presentDelete (← s.deleteMany req.ids)
  | .duplicateOne =>
    let body ← Service.lift (r.toEntity req.body)
    return r.present (← s.duplicateOne req.id body)
  | .duplicateMany =>
    let body ← Service.lift (r.toEntity req.body)
    return r.presentMany (← s.duplicateMany req.ids body)
  | .replaceOne =>
    let body ← Service.lift (r.toEntity req.body)
    return r.present (← s.replaceOne req.id body)

end Route

end CrudRoutes
