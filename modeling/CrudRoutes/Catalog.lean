import CrudRoutes.Auth.Principal
import CrudRoutes.Entity.Basic

/-!
The named behaviours a manifest may attach to routes: abilities that decide who may call a
route, and hooks that run before a save, before a create and after a save.

* `public` lets everyone in, `authenticated` every known caller, `admin` callers with the admin
  role, and `owner` admins and the owner of the addressed document (its `ownerId`); a route that
  addresses no document lets every known caller pass `owner`.
* `keep-owner` (before a save) keeps the stored owner whatever the change says.
* `set-owner` (before a create) makes the caller the owner, and refuses anonymous callers.
* `audit-trail` (after a save) writes an audit record naming the document and the caller.
-/

namespace CrudRoutes

def fieldOwner : String := "ownerId"

/-- Who may call a route. -/
inductive Ability where
  | everyone
  | signedIn
  | admin
  | owner
  deriving Repr, BEq, DecidableEq, Inhabited

namespace Ability

def name : Ability → String
  | .everyone => "public"
  | .signedIn => "authenticated"
  | .admin => "admin"
  | .owner => "owner"

def ofName? (s : String) : Option Ability :=
  [Ability.everyone, .signedIn, .admin, .owner].find? (·.name == s)

def allows : Ability → Option Principal → Option Fields → Bool
  | .everyone, _, _ => true
  | .signedIn, p, _ => p.isSome
  | .admin, p, _ => Principal.hasRole p Principal.adminRole
  | .owner, none, _ => false
  | .owner, some p, resource =>
    Principal.hasRole (some p) Principal.adminRole ||
      match resource with
      | none => true
      | some doc =>
        match Fields.get? doc fieldOwner with
        | some (.str o) => o != "" && o == p.id
        | _ => false

end Ability

/-- Hooks run before a save, with the stored document and the change. -/
inductive SaveHook where
  | keepOwner
  deriving Repr, BEq, DecidableEq, Inhabited

def SaveHook.ofName? (s : String) : Option SaveHook :=
  if s == "keep-owner" then some .keepOwner else none

/-- Hooks run on each document a create route is about to insert. -/
inductive CreateHook where
  | setOwner
  deriving Repr, BEq, DecidableEq, Inhabited

def CreateHook.ofName? (s : String) : Option CreateHook :=
  if s == "set-owner" then some .setOwner else none

/-- Hooks run once per saved document after the write. -/
inductive AfterHook where
  | auditTrail (audit : Entity)
  deriving Repr, Inhabited

def defaultAudit : Entity :=
  { name := "Audit"
    collection := "audit_logs"
    fields := [{ name := "documentId", kind := "string" }, { name := "actorId", kind := "string" },
      { name := "actorEmail", kind := "string" }] }

def AfterHook.ofName? (audit : Entity) (s : String) : Option AfterHook :=
  if s == "audit-trail" then some (.auditTrail audit) else none

end CrudRoutes
