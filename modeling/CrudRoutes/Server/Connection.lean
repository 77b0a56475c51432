import CrudRoutes.Server.Gateway
import CrudRoutes.Json.Read

/-!
Sessions of the realtime gateway over its transports.

A session keeps the principal its connection is bound to. An in-process session calls the
server's current gateway; a websocket or unix-socket connection keeps the gateway it was opened
on. Websocket and in-process messages each hold one call, and text that is not a call is
answered with a parse error. The unix socket reads a stream of calls, several per write or
one across writes; text that is not a call is answered with a parse error and closes the
connection.
-/

namespace CrudRoutes

/-- The transports of the gateway. -/
inductive Transport where
  | inProcess
  | websocket
  | socket
  deriving BEq, Inhabited

/-- One session of the gateway. -/
structure Connection where
  transport : Transport := .inProcess
  gateway : Option Gateway := none
  principal : Option Principal := none
  pending : List Char := []
  outbox : List Value := []
  closed : Bool := false
  deriving Inhabited

namespace Connection

def opened (transport : Transport) (g : Gateway) (p : Option Principal) : Connection :=
  let label := if transport == .socket then transportSocket else transportRealtime
  { transport, gateway := some { g with transport := label }, principal := p }

def gatewayOf (c : Connection) : ServerM Gateway := do
  match c.gateway with
  | some g => pure g
  | none => pure (Gateway.ofRoutes (← get).served)

def answer (c : Connection) (v : Value) : ServerM (Option Answer × Connection) := do
  match Call.ofValue? v with
  | none => pure (none, c)
  | some call =>
    let (a, p) ← Server.dispatch (← c.gatewayOf) c.principal call
    pure (some a, { c with principal := p })

def drain : Nat → Connection → ServerM Connection
  | 0, c => pure c
  | fuel + 1, c => do
    let rest := c.pending.dropWhile Json.isSpace
    if rest.isEmpty then return { c with pending := [] }
    match Json.readPrefix rest with
    | .error .endOfInput => pure { c with pending := rest }
    | .error _ =>
      pure { c with pending := [], outbox := c.outbox ++ [Answer.parseError.toValue], closed := true }
    | .ok (v, after) =>
      match ← c.answer v with
      | (none, c) =>
        pure { c with pending := [], outbox := c.outbox ++ [Answer.parseError.toValue], closed := true }
      | (some a, c) => drain fuel { c with pending := after, outbox := c.outbox ++ [a.toValue] }

def send (c : Connection) (text : String) : ServerM Connection := do
  if c.closed then return c
  match c.transport with
  | .socket =>
    let c := { c with pending := c.pending ++ text.toList ++ ['\n'] }
    drain (c.pending.length + 1) c
  | _ =>
    let (a, c) ← match Json.parseWritten text with
      | .ok v => c.answer v
      | .error _ => pure (none, c)
    pure { c with outbox := c.outbox ++ [(a.getD Answer.parseError).toValue] }

def receive (c : Connection) (n : Nat) : Option (List Value) × Connection :=
  if c.outbox.length < n && c.closed then (none, { c with outbox := [] })
  else (some (c.outbox.take n), { c with outbox := c.outbox.drop n })

end Connection

end CrudRoutes
