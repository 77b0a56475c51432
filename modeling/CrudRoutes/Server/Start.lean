import CrudRoutes.Server.Basic
import CrudRoutes.Manifest.Assemble

/-!
Starting a server from a manifest, and changing a running one.

Starting assembles every declared route into the storage, then, when a token secret is set,
enables authentication against the manifest's users entity and creates the bootstrap
administrator; the first failure stops the start. Tokens live twelve hours unless configured,
and a lifetime that is not positive means a day; the default issuer is `dynamicapi`.

A running server can assemble a further manifest into the same storage and registry; it then
serves every registered route.
-/

namespace CrudRoutes

/-- What a server is started with. -/
structure ServerOptions where
  manifest : Manifest
  storage : Storage
  secret : String := ""
  issuer : String := ""
  ttlNanos : Int := 43200 * 1000000000
  adminEmail : String := ""
  adminPassword : String := ""
  metrics : Bool := false

def defaultIssuer : String := "dynamicapi"

def dayNanos : Int := 86400 * 1000000000

namespace Server

def start (o : ServerOptions) : Except Fault Server := do
  let (assembled, deploy) := ((o.manifest.assemble (Catalog.ofManifest o.manifest)).run)
    { storage := o.storage }
  let routes ← assembled
  let s : Server :=
    { deploy, served := routes, metrics := if o.metrics then some {} else none }
  if o.secret.isEmpty then return s
  let users ← match o.manifest.descriptor? o.manifest.usersEntity with
    | some e => pure e
    | none => throw (.plain "jwt secret is set but the manifest has no auth.usersEntity")
  let auth : AuthService :=
    { token := { secret := o.secret
                 issuer := if o.issuer.isEmpty then defaultIssuer else o.issuer
                 ttlNanos := if o.ttlNanos ≤ 0 then dayNanos else o.ttlNanos }
      users }
  let (r, s) := (store (auth.bootstrapAdmin o.adminEmail o.adminPassword)).run { s with auth }
  r.map fun () => s

def assembleMore (m : Manifest) : ServerM (Except Fault (Nat × Nat)) := do
  let s ← get
  let (r, deploy) := ((m.assemble (Catalog.ofManifest m)).run) s.deploy
  set { s with deploy }
  match r with
  | .error f => pure (.error f)
  | .ok added =>
    let all := deploy.registry.sorted
    modify fun s => { s with served := all }
    pure (.ok (added.length, all.length))

def setNow (t : Time) : ServerM Unit :=
  modify fun s => { s with deploy.storage.host.now := t }

def now (s : Server) : Time :=
  s.deploy.storage.host.now

end Server

end CrudRoutes
