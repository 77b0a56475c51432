import CrudRoutes.UniqueKey

/-!
Faults: every way an operation can fail, with the text it reports.

A client fault carries one of five kinds and the message shown to callers; everything else is a
storage or internal fault. Wrapping a fault adds a context to its text but keeps the client kind
of what it wraps, so a transport can still classify it.
-/

namespace CrudRoutes

/-- The kinds of client faults. -/
inductive ClientKind where
  | invalidEnvelope
  | notFound
  | duplicateKey
  | forbidden
  | unauthorized
  deriving Repr, BEq, DecidableEq, Inhabited

def ClientKind.code : ClientKind → String
  | .invalidEnvelope => "INVALID_ENVELOPE"
  | .notFound => "NOT_FOUND"
  | .duplicateKey => "DUPLICATE_KEY"
  | .forbidden => "FORBIDDEN"
  | .unauthorized => "UNAUTHORIZED"

/-- Why an operation failed. -/
inductive Fault where
  | client (kind : ClientKind) (message : String)
  | config (entity route : String) (cause : Fault)
  | collision (what name existing : String)
  | duplicate (e : DuplicateKey)
  | noDocument
  | wrapped (context : String) (cause : Fault)
  | plain (message : String)
  deriving Inhabited

namespace Fault

def message : Fault → String
  | .client _ m => m
  | .config e r c =>
    if r.isEmpty then "entity " ++ e ++ ": " ++ c.message
    else "entity " ++ e ++ " route " ++ r ++ ": " ++ c.message
  | .collision what name existing =>
    what ++ " " ++ Text.quoted name ++ " is already registered by " ++ existing
  | .duplicate e => e.text
  | .noDocument => "no document matches the filter"
  | .wrapped ctx c => ctx ++ ": " ++ c.message
  | .plain m => m

def client? : Fault → Option (ClientKind × String)
  | .client k m => some (k, m)
  | .config _ _ c => c.client?
  | .wrapped _ c => c.client?
  | _ => none

def isNoDocument : Fault → Bool
  | .noDocument => true
  | .config _ _ c => c.isNoDocument
  | .wrapped _ c => c.isNoDocument
  | _ => false

def duplicate? : Fault → Option DuplicateKey
  | .duplicate e => some e
  | .config _ _ c => c.duplicate?
  | .wrapped _ c => c.duplicate?
  | _ => none

def label : Fault → String
  | .client k _ => k.code
  | .config .. => "ConfigError"
  | .collision .. => "NamingCollisionError"
  | .duplicate _ => "DuplicateKeyError"
  | .noDocument => "NoDocument"
  | .wrapped .. => "Error"
  | .plain _ => "Error"

def invalidBody : Fault := .client .invalidEnvelope "Invalid request body"

def invalidQuery : Fault := .client .invalidEnvelope "Invalid query"

def invalidPayload : Fault := .client .invalidEnvelope "Invalid payload"

def notFound : Fault := .client .notFound "Document not found"

def forbidden : Fault := .client .forbidden "Forbidden resource"

def unauthorized : Fault := .client .unauthorized "Unauthorized"

def normalize (f : Fault) : Fault :=
  match f.client? with
  | some _ => f
  | none =>
    if f.isNoDocument then notFound
    else match f.duplicate? with
      | some e => .client .duplicateKey e.message
      | none => f

end Fault

end CrudRoutes
