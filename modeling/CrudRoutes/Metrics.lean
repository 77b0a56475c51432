import CrudRoutes.Fault

/-!
Request counters of the generated routes, by transport, route (its service name) and outcome.
The outcome of a call is `ok`, the lower-cased kind of a client fault, or `error`.

The counters are exposed in the Prometheus text format as the family
`dynamicapi_route_requests_total`, one line per counter, sorted by outcome, route and
transport; a family without counters is not written at all.
-/

namespace CrudRoutes

def transportHttp : String := "http"

def transportRealtime : String := "realtime"

def transportSocket : String := "socket"

/-- The labels of a counter. -/
structure MetricKey where
  outcome : String
  route : String
  transport : String
  deriving BEq, Inhabited, Repr

def MetricKey.le (a b : MetricKey) : Bool :=
  if a.outcome != b.outcome then a.outcome < b.outcome
  else if a.route != b.route then a.route < b.route
  else a.transport ≤ b.transport

/-- The request counters. -/
structure Metrics where
  counts : List (MetricKey × Nat) := []
  deriving Inhabited

def outcomeOf : Option Fault → String
  | none => "ok"
  | some f =>
    match f.client? with
    | some (k, _) => Text.lowerAll k.code
    | none => "error"

namespace Metrics

def observe (m : Metrics) (transport route outcome : String) : Metrics :=
  let key : MetricKey := { outcome, route, transport }
  match m.counts.find? (·.1 == key) with
  | some (_, n) => { counts := m.counts.map fun (k, c) => if k == key then (k, n + 1) else (k, c) }
  | none => { counts := m.counts ++ [(key, 1)] }

def sorted (m : Metrics) : List (MetricKey × Nat) :=
  m.counts.mergeSort fun a b => a.1.le b.1

def family : String := "dynamicapi_route_requests_total"

def exposition (m : Metrics) : String :=
  if m.counts.isEmpty then "" else
  let q := fun (s : String) => "\"" ++ s ++ "\""
  let lines := m.sorted.map fun (k, n) =>
    family ++ "\x7boutcome=" ++ q k.outcome ++ ",route=" ++ q k.route ++ ",transport=" ++
      q k.transport ++ "\x7d " ++ toString n
  "# HELP " ++ family ++ " Total number of generated route calls.\n" ++
    "# TYPE " ++ family ++ " counter\n" ++ String.join (lines.map (· ++ "\n"))

end Metrics

end CrudRoutes
