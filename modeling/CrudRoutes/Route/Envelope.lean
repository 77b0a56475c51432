import CrudRoutes.Route.Basic
import CrudRoutes.Shape.Check
import CrudRoutes.Json.Read
import CrudRoutes.Text.Number
import CrudRoutes.Fault
import CrudRoutes.Json.Bind

/-!
Decoding request envelopes, the same for both transports.

An HTTP request brings an id from its path, ids and filters from its query string, and a body.
A realtime call brings one JSON object with `id`, `ids`, `query` and `body`. Either way the
envelope is checked against the route's shapes:

* a route on one document needs a non-blank id;
* a route on several documents needs a non-empty list of non-blank ids;
* `GetMany` takes its filter from the query, which must fit the query shape; over HTTP, query
  values of number and boolean fields are read as such;
* `CreateMany` takes a non-empty `list` of objects, each fitting the body shape;
* the other writing routes take an object fitting the body shape; duplicating routes may leave
  it out.

Every failure is a client fault: over HTTP an unreadable body is `Invalid request body` and an
unreadable path or query `Invalid query`; over the realtime transport both are
`Invalid payload`.
-/

namespace CrudRoutes

/-- A decoded request. -/
structure Request where
  id : String := ""
  ids : List String := []
  body : Fields := []
  list : List Fields := []
  query : Filter := {}
  deriving Inhabited

/-- The faults of the two kinds of envelope problems. -/
structure EnvelopeFaults where
  body : Fault
  query : Fault

def httpFaults : EnvelopeFaults := ⟨Fault.invalidBody, Fault.invalidQuery⟩

def payloadFaults : EnvelopeFaults := ⟨Fault.invalidPayload, Fault.invalidPayload⟩

/-- A body: absent, or a JSON value that is well formed or not. -/
inductive BodyText where
  | absent
  | value (v : Value)
  | malformed
  deriving Inhabited

def BodyText.ofText (s : String) : BodyText :=
  let t := Text.trimBlanks s
  if t.isEmpty then .absent
  else match Json.parseWritten t with
    | .ok v => .value v
    | .error _ => .malformed

def decodeObject (b : BodyText) (optional : Bool) : Option Fields :=
  match b with
  | .absent | .value .null => if optional then some [] else none
  | .value (.obj fs) => some (Bind.mapOver [] fs)
  | _ => none

def decodeList (b : BodyText) : Option (List Fields) :=
  match b with
  | .absent | .malformed => none
  | .value .null => none
  | .value (.obj fs) =>
    match Bind.list none Bind.mapItem fs "list" with
    | some (some (x :: xs)) => (x :: xs).mapM id
    | _ => none
  | .value _ => none

/-- Whether a shape, if any, accepts a document, judged by its validator among those given, under
a JSON Schema validator. -/
def fitsWith (V : List Field → Fields → List Shape.SchemaError) (v : Validators)
    (s : Option Shape) (doc : Fields) : Bool :=
  match s with
  | some s => (s.checkWith V (v.rulesFor s) doc).isOk
  | none => true

def fits (v : Validators) (s : Option Shape) (doc : Fields) : Bool :=
  fitsWith Shape.validate v s doc

namespace Route

/-- Checks the parts of an envelope against the route's shapes, under a JSON Schema validator. -/
def decodeWith (V : List Field → Fields → List Shape.SchemaError) (r : Route)
    (faults : EnvelopeFaults) (id : String) (ids : List String) (query : Fields) (body : BodyText) :
    Except Fault Request := do
  let mut req : Request := {}
  if r.kind.targetsResource then
    let id := Text.trimBlanks id
    let param : Fields := [(fieldId, if id.isEmpty then .null else .str id)]
    if !fitsWith V r.validators r.shapes.param param then throw faults.query
    if id.isEmpty then throw faults.query
    req := { req with id }
  if r.kind.targetsIds then
    if ids.isEmpty then throw faults.query
    if ids.any fun i => (Text.trimBlanks i).isEmpty then throw faults.query
    req := { req with ids }
  if r.kind == .getMany then
    if !fitsWith V r.validators r.shapes.query query then throw faults.query
    req := { req with query := ⟨query⟩ }
  match r.kind with
  | .createMany =>
    match decodeList body with
    | none => throw faults.body
    | some list =>
      if !list.all (fitsWith V r.validators r.shapes.body) then throw faults.body
      pure { req with list }
  | .createOne | .updateOne | .updateMany | .replaceOne =>
    match decodeObject body false with
    | none => throw faults.body
    | some d =>
      if !fitsWith V r.validators r.shapes.body d then throw faults.body
      pure { req with body := d }
  | .duplicateOne | .duplicateMany =>
    match decodeObject body true with
    | none => throw faults.body
    | some d =>
      if !fitsWith V r.validators r.shapes.body d then throw faults.body
      pure { req with body := d }
  | _ => pure req

/-- Checks the parts of an envelope against the route's shapes. -/
def decode (r : Route) (faults : EnvelopeFaults) (id : String) (ids : List String)
    (query : Fields) (body : BodyText) : Except Fault Request :=
  r.decodeWith Shape.validate faults id ids query body

def queryFilter (r : Route) (values : List (String × List String)) : Option Fields :=
  values.foldlM (fun acc (name, vs) =>
    match vs.getLast? with
    | none => some acc
    | some raw =>
      let kind := ((r.shapes.query.bind (·.field? name)).map (·.kind)).getD ""
      match Kind.ofName? kind with
      | some .number => (Text.parseFloat? raw).map fun x => Fields.set acc name (.num x)
      | some .bool => (Text.parseBool? raw).map fun b => Fields.set acc name (.bool b)
      | _ => some (Fields.set acc name (.str raw))) []

/-- Decodes an HTTP envelope: the path's id, the query values by name, and the body. -/
def decodeHttp (r : Route) (id : String) (values : List (String × List String)) (body : String) :
    Except Fault Request := do
  let ids := ((values.filter (·.1 == "ids")).flatMap (·.2)).flatMap fun v =>
    ((v.splitOn ",").map Text.trimBlanks).filter (!·.isEmpty)
  let query ← if r.kind == .getMany then
      match r.queryFilter values with
      | some q => pure q
      | none => throw Fault.invalidQuery
    else pure []
  r.decode httpFaults id ids query (BodyText.ofText body)

/-- The parts of a realtime envelope. -/
structure Payload where
  id : String := ""
  ids : List String := []
  query : Fields := []
  body : BodyText := .absent

def Payload.read? (params : Option Value) : Option Payload :=
  match params with
  | none | some .null => some {}
  | some (.obj fs) => do
    let id ← Bind.text fs "id"
    let ids ← Bind.texts fs "ids"
    let query ← Bind.map? fs "query"
    let body := match Bind.member? fs "body" with
      | none => BodyText.absent
      | some v => .value v
    pure { id, ids := ids.getD [], query := query.getD [], body }
  | some _ => none

/-- Decodes a realtime envelope. -/
def decodePayload (r : Route) (params : Option Value) : Except Fault Request :=
  match Payload.read? params with
  | none => .error Fault.invalidPayload
  | some p => r.decode payloadFaults p.id p.ids p.query p.body

end Route

end CrudRoutes
