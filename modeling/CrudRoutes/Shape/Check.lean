import CrudRoutes.Shape.Basic
import CrudRoutes.Value.Basic
import CrudRoutes.Time.Text
import CrudRoutes.Json.Write

/-!
Checking documents against shapes.

A shape without fields accepts everything. Otherwise null fields count as absent; a document
passes when it has no field outside the shape, every required field of the shape, and a value of
the declared kind in every field it has. Kinds are judged on the JSON form of a value, so an
instant counts as a string and a list of alternatives as an array; a time must be a string
written as a date, a clock time or a timestamp.

The document is judged by a validator of the JSON Schema built from the fields of the shape's
validator (see `Validators`), which are the shape's own unless another shape with its signature
came first. The schema gives each property the kind of the last field of its name and does not
compile when a name is listed twice as required. The validator reports one error per undeclared,
missing or mistyped property, in an order of its own, and the fault reported is chosen from them:
the least undeclared name (by code points), then the first field of the shape, in declaration
order, that is missing or has an error filed under its name, and last the validator's own
description of its first error. An error on a value is filed under the value's path up to its
first dot, so the error of a field whose name holds a dot is filed under another name.

The JSON Schema of a shape says the same: an object whose properties are the shape's fields with
their kinds, no additional properties, and the required ones listed.
-/

namespace CrudRoutes

/-- Why a document does not fit a shape. -/
inductive ShapeError where
  | unknownField (name : String)
  | missing (name : String)
  | wrongKind (name kind : String)
  | unwritable (what : Json.Unwritable)
  | described (text : String)
  deriving Repr, BEq, DecidableEq

def ShapeError.message : ShapeError → String
  | .unknownField n => "unknown field " ++ Text.quoted n
  | .missing n => "field " ++ Text.quoted n ++ " is required"
  | .wrongKind n k => "field " ++ Text.quoted n ++ " must be of kind " ++ k
  | .unwritable u => u.message
  | .described t => t

namespace Shape

def stringForm? : Value → Option String
  | .str s => some s
  | .time t => some t.stamp
  | _ => none

def kindAccepts (kind : String) (v : Value) : Bool :=
  match Kind.ofName? kind, v with
  | some .string, .str _ | some .string, .time _ => true
  | some .string, _ => false
  | some .number, .num _ | some .number, .int _ => true
  | some .number, _ => false
  | some .bool, .bool _ => true
  | some .bool, _ => false
  | some .time, v => (stringForm? v).any Time.isDateTime
  | some .object, .obj _ | some .object, .doc _ => true
  | some .object, _ => false
  | some .array, .arr _ | some .array, .anyOf _ => true
  | some .array, _ => false
  | _, _ => true

def least? (names : List String) : Option String :=
  names.foldl (fun acc n => match acc with
    | some m => if n < m then some n else some m
    | none => some n) none

def kindType (kind : String) : String :=
  match Kind.ofName? kind with
  | some .string | some .time => "string"
  | some .number => "number"
  | some .bool => "boolean"
  | some .object => "object"
  | some .array => "array"
  | some .any | none => ""

def valueType : Value → String
  | .null => "null"
  | .bool _ => "boolean"
  | .num x => if x == x.floor && !x.isInf then "integer" else "number"
  | .int _ => "integer"
  | .str _ | .time _ => "string"
  | .arr _ | .anyOf _ => "array"
  | .obj _ | .doc _ => "object"

def kindDescription (kind : String) (v : Value) : String :=
  if Kind.ofName? kind == some .time && (stringForm? v).isSome then
    "Does not match format \x27date-time\x27"
  else "Invalid type. Expected: " ++ kindType kind ++ ", given: " ++ valueType v

/-- An error of the schema validator, by its type: a property the schema does not declare, a
required property that is missing, or a value that does not fit the schema of its property, named
by the value's path (`a.b` for `b` inside `a`) and described in the validator's words. -/
inductive SchemaError where
  | additional (property : String)
  | required (property : String)
  | invalid (field : String) (description : String)
  deriving Repr, DecidableEq

namespace SchemaError

def description : SchemaError → String
  | .additional p => "Additional property " ++ p ++ " is not allowed"
  | .required p => p ++ " is required"
  | .invalid _ d => d

def additional? : SchemaError → Option String
  | .additional p => some p
  | _ => none

def filedUnder? : SchemaError → Option String
  | .invalid f _ => some (String.ofList (f.toList.takeWhile (· ≠ '.')))
  | _ => none

end SchemaError

def propertyKind? (rules : List Field) (name : String) : Option String :=
  (rules.reverse.find? (·.name == name)).map (·.kind)

def propertyNames (rules : List Field) : List String :=
  (rules.map (·.name)).eraseDups

def requiredNames (rules : List Field) : List String :=
  (rules.filter (·.required)).map (·.name)

def compileError? (rules : List Field) : Option String :=
  if (requiredNames rules).Nodup then none else some "required items must be unique"

/-- The errors the validator reports for the present fields of a document against the schema
built from fields: the missing required properties, the undeclared ones, and the values of the
wrong kind, one error each. -/
def validate (rules : List Field) (doc : Fields) : List SchemaError :=
  ((requiredNames rules).filter (!doc.has ·)).map .required ++
  ((doc.map Prod.fst).filter fun k => !rules.any (·.name == k)).map .additional ++
  (propertyNames rules).filterMap fun n =>
    match Fields.get? doc n, propertyKind? rules n with
    | some v, some k => if kindAccepts k v then none else some (.invalid n (kindDescription k v))
    | _, _ => none

def filedError (s : Shape) (errs : List SchemaError) (name : String) : Option ShapeError :=
  if errs.contains (.required name) then some (.missing name)
  else if errs.any (·.filedUnder? == some name) then
    (s.field? name).map fun f => .wrongKind name f.kind
  else none

/-- The fault reported for the validator's errors: the least undeclared name, else the first field
of the shape, in declaration order, with an error filed under its name, else the validator's own
description of its first error. -/
def report (s : Shape) (errs : List SchemaError) : ShapeError :=
  match least? (errs.filterMap SchemaError.additional?) with
  | some n => .unknownField n
  | none =>
    match s.fields.findSome? (filedError s errs ·.name) with
    | some e => e
    | none => .described ((errs.head?.map SchemaError.description).getD "")

def present (doc : Fields) : Fields :=
  doc.filter fun (_, v) => !v.isNull

/-- Checks a document against a shape with a validator of the schema built from the given
fields. A shape without fields accepts everything; otherwise null fields count as absent, and the
document fails when the schema does not compile, when it holds a value JSON cannot write, or
when the validator reports an error. -/
def checkWith (validator : List Field → Fields → List SchemaError) (rules : List Field) (s : Shape)
    (doc : Fields) : Except ShapeError Unit :=
  if s.fields.isEmpty then pure () else
  match compileError? rules with
  | some e => throw (.described ("compile schema: " ++ e))
  | none =>
  match Json.unwritableFields? (present doc) with
  | some u => throw (.unwritable u)
  | none =>
    match validator rules (present doc) with
    | [] => pure ()
    | errs => throw (report s errs)

/-- Checks a document against a shape whose validator has the given fields. -/
def checkAgainst (rules : List Field) (s : Shape) (doc : Fields) : Except ShapeError Unit :=
  checkWith validate rules s doc

/-- Checks a document against a shape by its own fields. -/
def check (s : Shape) (doc : Fields) : Except ShapeError Unit :=
  checkAgainst s.fields s doc

def kindSchema (kind : String) : Value :=
  match Kind.ofName? kind with
  | some .string => .map [("type", .str "string")]
  | some .number => .map [("type", .str "number")]
  | some .bool => .map [("type", .str "boolean")]
  | some .time => .map [("format", .str "date-time"), ("type", .str "string")]
  | some .object => .map [("type", .str "object")]
  | some .array => .map [("type", .str "array")]
  | _ => .map []

def schema (s : Shape) : Value :=
  let props := Value.map (s.fields.map fun f => (f.name, kindSchema f.kind))
  let required := (s.fields.filter (·.required)).map (·.name)
  .map ([("additionalProperties", .bool false), ("properties", props), ("type", .str "object")] ++
    (if required.isEmpty then [] else [("required", Value.strs required)]))

end Shape

end CrudRoutes
