import Turnstile.Http.Mux
import Turnstile.Http.Message
import Turnstile.Metrics.Collector
import Turnstile.Health.Status
import Turnstile.Config.Snapshot
import Turnstile.Credential.Verify
import Turnstile.Credential.Bearer
import Turnstile.Clock.Activation

/-!
# The request handler

The service answers on these routes, registered in this order:

* `/auth/admin`, `/auth/login` and `/auth/public` decide whether the request's
  bearer credential passes the tier: 200 with the decision, or 401 with the
  reason and `WWW-Authenticate: Bearer`;
* when health endpoints are enabled, the liveness, readiness and version paths,
  which answer `GET` and `HEAD` only (`HEAD` without a body);
* when a collector is wired and metrics are enabled, the metrics path, which
  answers the text form of the collector's families;
* `/`, which answers every other path with a JSON 404.

A path registered twice stops the handler from being built.  Every response
carries `X-Request-Id`: the request's own when it is 1 to 128 visible ASCII
characters, a fresh one otherwise.  Requests routed to the routes above, except
the metrics path, are counted by the collector under the route's path
(`unmatched` for the 404 route).

The handler is built from the configuration of its time; credentials are read
from the active snapshot on every request.  Readiness checks that a
configuration is loaded, that it is fresh when the reload schedule recurs, and,
with TLS enabled, that a certificate is loaded, which it is not until the
server starts serving.

Freshness is registered when the handler is built, with the schedule's
freshness window at that instant: three times the gap between the first two
activations after it, when that gap is positive.  The check then reports the
active snapshot stale when its age, the time since it was read, is longer than
that window.
-/

namespace Turnstile.Server

open Turnstile.Http Turnstile.Metrics Turnstile.Health Turnstile.Credential

/-- What a route serves. -/
inductive Endpoint where
  | decision (tier : Tier)
  | liveness
  | readiness
  | version
  | scrape
  | notFound
  deriving Inhabited

/-- A route: what it serves and the name it is counted under, if counted. -/
structure Route where
  endpoint : Endpoint
  counted : Option String
  deriving Inhabited

/-- A readiness check as registered: its name and what it reports on the
active snapshot at an instant, a failure message or nothing. -/
structure Check where
  name : String
  failure : Snapshot → Int → Option String := fun _ _ => none
  deriving Inhabited

/-- The result of a check on the active snapshot at an instant. -/
def Check.run (k : Check) (snap : Snapshot) (now : Int) : CheckResult :=
  { name := k.name, failure := k.failure snap now }

/-- A built handler. -/
structure Handler where
  mux : Mux Route
  checks : List Check
  info : VersionInfo
  deriving Inhabited

/-- The freshness check with a window: it reports the active snapshot stale
when its age at the instant of the check, the time since it was read, is longer
than the window, naming its version and its age to the second. -/
def freshnessCheck (maxAge : Duration) : Check :=
  { name := "config_freshness"
    failure := fun snap now =>
      let age := Cron.between snap.loadedAt now
      if maxAge.nanos < age then
        some ("configuration version " ++ toString snap.version ++ " is " ++
          Duration.text ⟨Cron.roundSecond age⟩ ++ " old")
      else none }

/-- The readiness checks a configuration registers when the handler is built
at `startedAt`: freshness only when the reload schedule has a window at that
instant, with that window. -/
def checksOf (c : Config) (startedAt : Int) : List Check :=
  let fresh := match Cron.freshnessWindow c.reload.schedule startedAt with
    | some w => [freshnessCheck w]
    | none => []
  let tls : List Check := if c.security.tls.enabled then
      [{ name := "tls", failure := fun _ _ => some "no certificate loaded" }]
    else []
  [{ name := "config" }] ++ fresh ++ tls

/-- Build the handler for a configuration at the instant `startedAt`;
`metricsWired` tells whether a collector is wired in. -/
def Handler.build (c : Config) (metricsWired : Bool) (info : VersionInfo) (startedAt : Int) :
    Except String Handler := do
  let mut mux : Mux Route := {}
  for t in Tier.all do
    let route := "/auth/" ++ t.name
    mux ← mux.register route ⟨.decision t, some route⟩
  let h := c.telemetry.health
  if h.enabled then
    mux ← mux.register h.livenessPath ⟨.liveness, some h.livenessPath⟩
    mux ← mux.register h.readinessPath ⟨.readiness, some h.readinessPath⟩
    mux ← mux.register h.versionPath ⟨.version, some h.versionPath⟩
  if metricsWired && c.telemetry.metrics.enabled then
    mux ← mux.register c.telemetry.metrics.path ⟨.scrape, none⟩
  mux ← mux.register "/" ⟨.notFound, some "unmatched"⟩
  return { mux, checks := checksOf c startedAt, info }

/-- Whether a request ID may be kept: 1 to 128 characters, each visible ASCII. -/
def validRequestId (id : String) : Bool :=
  !id.isEmpty && id.utf8ByteSize ≤ 128 && id.toList.all fun c => 0x21 ≤ c.toNat && c.toNat ≤ 0x7e

/-- The ID a request is served under: its first `X-Request-ID` value when that
may be kept, the fresh one otherwise. -/
def requestIdOf (req : Request) (freshId : String) : String :=
  let given := (req.headers.get? "X-Request-ID").getD ""
  if validRequestId given then given else freshId

/-- The content type of the metrics text form. -/
def exposureType : String := "text/plain; version=0.0.4; charset=utf-8; escaping=values"

/-- The answer to a tier decision. -/
def decisionAnswer (src : Source) (headers : Headers) (req : Request) (t : Tier) : Response × String :=
  let cred := Presented.ofAuthorization (req.headers.get? "Authorization")
  let result := verifyTier src t cred
  let outcome := Credential.outcome (result.mapError VerifyError.denied)
  match result with
  | .ok d =>
    let headers := ((((headers.set "X-Keygate-Tier" t.name).set "X-Keygate-Authenticated"
      (if d.authenticated then "true" else "false")).set "X-Keygate-Match" d.matchKind.name).set
      "Cache-Control" "no-store")
    (Response.json headers 200 (.object [("tier", .string t.name),
      ("authenticated", .bool d.authenticated), ("match", .string d.matchKind.name)]), outcome)
  | .error denial =>
    (Response.json (headers.add "WWW-Authenticate" "Bearer") 401
      (.object [("detail", .string denial.detail)]), outcome)

/-- A health answer: only `GET` and `HEAD`, without a body for `HEAD`. -/
def healthAnswer (headers : Headers) (req : Request) (status : Nat) (v : JsonValue) : Response :=
  if req.method != "GET" && req.method != "HEAD" then
    Response.plainError (headers.set "Allow" "GET, HEAD") "Method not allowed" 405
  else
    let r := Response.json (headers.set "Cache-Control" "no-store") status v
    if req.method == "HEAD" then { r with body := "" } else r

/-- Serve one request against the active snapshot at the instant `now`, with
the collector if one is wired; `freshId` is the request ID used when the
request has no valid one. -/
def Handler.serve (h : Handler) (snap : Snapshot) (collector : Option Collector) (req : Request)
    (freshId : String) (now : Int) : Response × Option Collector :=
  let headers := Headers.empty.set "X-Request-ID" (requestIdOf req freshId)
  match h.mux.dispatch req.method req.path req.rawQuery with
  | .redirect target => (Response.redirect headers req target.render, collector)
  | .notFound => (Response.plainError headers "404 page not found" 404, collector)
  | .serve route =>
    let (resp, collector) : Response × Option Collector := match route.endpoint with
      | .decision t =>
        let (resp, outcome) := decisionAnswer snap.settings.source headers req t
        (resp, collector.map (·.recordDecision t.name outcome))
      | .liveness => (healthAnswer headers req 200 (livenessJson (Cron.instantText now)), collector)
      | .readiness =>
        let results := h.checks.map (·.run snap now)
        let status := readinessStatus results
        (healthAnswer headers req (if isReady status then 200 else 503)
          (readinessJson results (Cron.instantText now)), collector)
      | .version => (healthAnswer headers req 200 h.info.json, collector)
      | .scrape =>
        let lines := match collector with
          | some c => exposition c.families
          | none => []
        ({ status := 200, headers := headers.set "Content-Type" exposureType
           body := String.join (lines.map (· ++ "\n")) }, collector)
      | .notFound => (Response.json headers 404 (.object [("detail", .string "Not Found")]), collector)
    match route.counted with
    | some name => (resp, collector.map (·.recordRequest name req.method resp.status))
    | none => (resp, collector)

end Turnstile.Server
