import Turnstile.Metrics.Family
import Turnstile.Config.Basic
import Turnstile.Credential.State
import Turnstile.Text.Quoted

/-!
# The collector

The collector counts what the service does, under a namespace:

* `auth_decisions_total`: verification decisions by tier and outcome;
* `auth_tier_state`: for each tier and state, 1 for the tier's current state
  and 0 otherwise;
* `config_reloads_total`: reload attempts by trigger and result;
* `config_version`: the version of the active configuration;
* `config_last_reload_timestamp_seconds`: when it was loaded;
* `http_requests_total`: requests by route, method and status code;
* `http_request_duration_seconds`: request latencies by route and method;
* `http_requests_in_flight`: requests being served.

Every family name starts with the namespace, and a valid name has only ASCII
letters, digits, `_` and `:`, and does not start with a digit; a namespace that
makes the first family's name invalid stops the collector from being made.

Its settings are fixed when it is made: when metrics are disabled it records
nothing, and its gauges keep their zero values.  Methods are counted under the
lower-case name of a standard method and `unknown` otherwise.  Requests are
served one at a time here, so none is in flight when the collector is read.
-/

namespace Turnstile.Metrics

/-- Counts by key. -/
abbrev Counts (κ : Type) := List (κ × Nat)

/-- Add one to the count of a key. -/
def bump {κ : Type} [BEq κ] (cs : Counts κ) (k : κ) : Counts κ :=
  if cs.any (·.1 == k) then cs.map fun e => if e.1 == k then (e.1, e.2 + 1) else e
  else cs ++ [(k, 1)]

/-- The collector's settings and what it has recorded. -/
structure Collector where
  enabled : Bool
  space : String
  bounds : List Binary64
  /-- Decisions by outcome and tier. -/
  decisions : Counts (String × String) := []
  /-- The tier-state gauges by state and tier: whether each is set to one. -/
  tierStates : List ((String × String) × Bool) := []
  /-- Reloads by result and trigger. -/
  reloads : Counts (String × String) := []
  version : Nat := 0
  /-- Requests by status code, method and route. -/
  requests : Counts (String × String × String) := []
  /-- Observed latencies by method and route. -/
  observations : Counts (String × String) := []
  deriving Inhabited

/-- The methods counted under their own name. -/
def standardMethods : List String :=
  ["get", "put", "head", "post", "delete", "connect", "options", "notify", "trace", "patch"]

/-- The name a method is counted under. -/
def methodLabel (m : String) : String :=
  match standardMethods.find? fun s => s == m || s.toUpper == m with
  | some s => s
  | none => "unknown"

/-- A histogram's bounds: the buckets without a final infinite one. -/
def histogramBounds (buckets : List Binary64) : List Binary64 :=
  match buckets.getLast? with
  | some b => if b.isInfinite && !b.negative then buckets.dropLast else buckets
  | none => buckets

namespace Collector

/-- Whether a metric name is valid: ASCII letters, digits, `_` and `:`, and
not starting with a digit. -/
def validMetricName (s : String) : Bool :=
  match s.toList with
  | [] => false
  | c :: rest => (c.isAlpha || c == '_' || c == ':') && rest.all fun c => c.isAlphanum || c == '_' || c == ':'

/-- The help of the decision counter. -/
def decisionsHelp : String := "Credential verification decisions by tier and outcome"

/-- A collector with the given metrics settings, or the refusal of the first
family it registers when the namespace makes that family's name invalid. -/
def create (cfg : Config.Metrics) : Except String Collector :=
  let space := if cfg.namespace_.isEmpty then "keygate" else cfg.namespace_
  let first := space ++ "_auth_decisions_total"
  if validMetricName first then
    .ok { enabled := cfg.enabled, space
          bounds := histogramBounds (if cfg.buckets.isEmpty then Config.defaultBuckets else cfg.buckets) }
  else
    .error ("descriptor Desc\x7bfqName: " ++ Text.quote first ++ ", help: " ++ Text.quote decisionsHelp ++
      ", constLabels: \x7b\x7d, variableLabels: \x7btier,outcome\x7d\x7d is invalid: " ++
      Text.quote first ++ " is not a valid metric name")

/-- Record a verification decision. -/
def recordDecision (c : Collector) (tier outcome : String) : Collector :=
  if c.enabled then { c with decisions := bump c.decisions (outcome, tier) } else c

/-- Record a reload attempt. -/
def recordReload (c : Collector) (trigger result : String) : Collector :=
  if c.enabled then { c with reloads := bump c.reloads (result, trigger) } else c

/-- Record the version and tier states of the active configuration. -/
def observe (c : Collector) (version : Nat) (src : Credential.Source) : Collector :=
  if c.enabled then
    let states := Credential.Tier.all.flatMap fun t =>
      Credential.TierState.all.map fun s =>
        ((s.name, t.name), Credential.stateOf src t == s)
    let kept := c.tierStates.filter fun e => !states.any (·.1 == e.1)
    { c with version, tierStates := kept ++ states }
  else c

/-- Record a served request. -/
def recordRequest (c : Collector) (route method : String) (status : Nat) : Collector :=
  if c.enabled then
    let m := methodLabel method
    let code := toString (if status = 0 then 200 else status)
    { c with requests := bump c.requests (code, m, route)
             observations := bump c.observations (m, route) }
  else c

/-- The samples of counts, under label names. -/
def countSamples {κ : Type} (names : List String) (values : κ → List String) (cs : Counts κ) :
    List Sample :=
  sortSamples (cs.map fun (k, n) =>
    { labels := names.zip (values k), reading := .value (Binary64.ofInt n) })

/-- The families the collector shows, by name. -/
def families (c : Collector) : List Family :=
  let n (s : String) := c.space ++ "_" ++ s
  [ { name := n "auth_decisions_total", kind := .counter
      help := decisionsHelp
      samples := countSamples ["outcome", "tier"] (fun (o, t) => [o, t]) c.decisions },
    { name := n "auth_tier_state", kind := .gauge
      help := "Current state of each protection tier (1 for the active state)"
      samples := sortSamples (c.tierStates.map fun ((s, t), on) =>
        { labels := [("state", s), ("tier", t)], reading := .value (Binary64.ofInt (if on then 1 else 0)) }) },
    { name := n "config_last_reload_timestamp_seconds", kind := .gauge, always := true
      help := "Unix time the active configuration snapshot was loaded"
      samples := [] },
    { name := n "config_reloads_total", kind := .counter
      help := "Configuration reload attempts by trigger and result"
      samples := countSamples ["result", "trigger"] (fun (r, t) => [r, t]) c.reloads },
    { name := n "config_version", kind := .gauge, always := true
      help := "Version of the active configuration snapshot"
      samples := [{ labels := [], reading := .value (Binary64.ofInt c.version) }] },
    { name := n "http_request_duration_seconds", kind := .histogram
      help := "HTTP request latency in seconds"
      samples := sortSamples (c.observations.map fun ((m, r), k) =>
        { labels := [("method", m), ("route", r)], reading := .observed k c.bounds }) },
    { name := n "http_requests_in_flight", kind := .gauge, always := true
      help := "HTTP requests currently being served"
      samples := [{ labels := [], reading := .value (Binary64.ofInt 0) }] },
    { name := n "http_requests_total", kind := .counter
      help := "HTTP requests by route, method, and status code"
      samples := countSamples ["code", "method", "route"] (fun (k, m, r) => [k, m, r]) c.requests } ]

end Collector

end Turnstile.Metrics
