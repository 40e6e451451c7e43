import Turnstile.Config.Basic
import Turnstile.Clock.Cron
import Turnstile.Net.Address
import Turnstile.Text.Quoted

/-!
# Validating a configuration

Validation checks the sections in order (server, reload, telemetry, security)
and reports every problem, each with the dotted name of its field:

* the listen address must be present and split into host and port;
* timeouts, the debounce delay, the TLS reload interval and the header limit
  must not be negative;
* a reload schedule, when given, must be a valid cron schedule; one whose zone
  has no blank after it makes validation break down instead of reporting;
* the logging level and format must be known;
* enabled metrics need a path starting with `/` and strictly increasing
  histogram buckets;
* enabled tracing needs a known sampler, the `otlp` exporter and an endpoint;
* the sample ratio must lie between zero and one;
* enabled health endpoints need paths starting with `/` and a check timeout
  between zero and sixty seconds;
* enabled TLS needs a certificate and a key file.
-/

namespace Turnstile.Config

/-- A problem with one field. -/
structure FieldError where
  field : String
  message : String
  deriving Inhabited, Repr, DecidableEq

/-- The text of a field problem. -/
def FieldError.text (e : FieldError) : String := e.field ++ ": " ++ e.message

/-- The message reporting a list of field problems. -/
def validationMessage : List FieldError → String
  | [] => "configuration validation failed"
  | [e] => "configuration validation failed: " ++ e.text
  | es => "configuration validation failed with " ++ toString es.length ++ " errors:\n" ++
    String.join (es.map fun e => "  - " ++ e.text ++ "\n")

/-- The problems of the server section. -/
def serverErrors (s : Config.Server) : List FieldError :=
  let address :=
    if s.listenAddress.isEmpty then [⟨"server.listen_address", "listen address is required"⟩]
    else match Net.splitHostPort s.listenAddress with
      | .ok _ => []
      | .error e => [⟨"server.listen_address",
          "invalid listen address " ++ Text.quote s.listenAddress ++ ": " ++ e⟩]
  let timeouts := [("server.read_timeout", s.readTimeout), ("server.write_timeout", s.writeTimeout),
    ("server.idle_timeout", s.idleTimeout), ("server.shutdown_timeout", s.shutdownTimeout)]
  let negative := timeouts.filterMap fun (f, d) =>
    if d.nanos < 0 then some ⟨f, "timeout must not be negative"⟩ else none
  let header := if s.maxHeaderBytes < 0 then
      [⟨"server.max_header_bytes", "max header bytes must not be negative"⟩] else []
  address ++ negative ++ header

/-- The problems of the reload section. -/
def reloadErrors (r : Config.Reload) : List FieldError :=
  let debounce := if r.debounce.nanos < 0 then
      [⟨"reload.debounce", "debounce must not be negative"⟩] else []
  let schedule :=
    if r.schedule.isEmpty then []
    else match Cron.parseStandard r.schedule with
      | .ok _ => []
      | .error e => [⟨"reload.schedule", "invalid cron schedule " ++ Text.quote r.schedule ++ ": " ++ e.message⟩]
  debounce ++ schedule

/-- Whether a list of numbers is strictly increasing; a comparison with NaN
counts as increasing. -/
def strictlyIncreasing : List Binary64 → Bool
  | a :: b :: rest => !(Binary64.le b a) && strictlyIncreasing (b :: rest)
  | _ => true

/-- The problems of a path that must start with `/`. -/
def pathErrors (field value missing : String) : List FieldError :=
  if value.isEmpty then [⟨field, missing⟩]
  else if !value.startsWith "/" then [⟨field, "path must start with /"⟩]
  else []

/-- The problems of the telemetry section. -/
def telemetryErrors (t : Config.Telemetry) : List FieldError :=
  let level :=
    if t.logging.level.isEmpty then [⟨"telemetry.logging.level", "logging level is required"⟩]
    else if ["debug", "info", "warn", "error"].contains t.logging.level then []
    else [⟨"telemetry.logging.level", "invalid logging level " ++ Text.quote t.logging.level ++
      ": must be 'debug', 'info', 'warn', or 'error'"⟩]
  let format :=
    if t.logging.format.isEmpty then [⟨"telemetry.logging.format", "logging format is required"⟩]
    else if ["json", "text"].contains t.logging.format then []
    else [⟨"telemetry.logging.format", "invalid logging format " ++ Text.quote t.logging.format ++
      ": must be 'json' or 'text'"⟩]
  let metrics :=
    if !t.metrics.enabled then []
    else
      let path :=
        if t.metrics.path.isEmpty then
          [⟨"telemetry.metrics.path", "metrics path is required when metrics are enabled"⟩]
        else if !t.metrics.path.startsWith "/" then
          [⟨"telemetry.metrics.path", "metrics path must start with /"⟩]
        else []
      let buckets := if strictlyIncreasing t.metrics.buckets then []
        else [⟨"telemetry.metrics.request_duration_buckets", "buckets must be strictly increasing"⟩]
      path ++ buckets
  let tracing :=
    if !t.tracing.enabled then []
    else
      let sampler := if ["always", "never", "ratio"].contains t.tracing.sampler then []
        else [⟨"telemetry.tracing.sampler", "invalid sampler " ++ Text.quote t.tracing.sampler ++
          ": must be 'always', 'never', or 'ratio'"⟩]
      let exporter := if t.tracing.exporter == "otlp" then []
        else [⟨"telemetry.tracing.exporter", "unsupported exporter " ++ Text.quote t.tracing.exporter ++
          ": must be 'otlp'"⟩]
      let endpoint := if !t.tracing.endpoint.isEmpty then []
        else [⟨"telemetry.tracing.endpoint", "tracing endpoint is required when tracing is enabled"⟩]
      sampler ++ exporter ++ endpoint
  let ratio :=
    if Binary64.lt t.tracing.sampleRatio (Binary64.zero false) ||
        Binary64.lt (Binary64.ofInt 1) t.tracing.sampleRatio then
      [⟨"telemetry.tracing.sample_ratio", "sample ratio must be between 0.0 and 1.0"⟩]
    else []
  let health :=
    if !t.health.enabled then []
    else
      let missing := "path is required when health checks are enabled"
      let paths := pathErrors "telemetry.health.liveness_path" t.health.livenessPath missing ++
        pathErrors "telemetry.health.readiness_path" t.health.readinessPath missing ++
        pathErrors "telemetry.health.version_path" t.health.versionPath missing
      let negative := if t.health.checkTimeout.nanos < 0 then
          [⟨"telemetry.health.check_timeout", "check timeout must be positive"⟩] else []
      let long := if t.health.checkTimeout.nanos > 60 * Duration.second then
          [⟨"telemetry.health.check_timeout", "check timeout exceeds reasonable limit (60s)"⟩] else []
      paths ++ negative ++ long
  level ++ format ++ metrics ++ tracing ++ ratio ++ health

/-- The problems of the security section. -/
def securityErrors (s : Config.Security) : List FieldError :=
  let files :=
    if !s.tls.enabled then []
    else
      (if s.tls.certFile.isEmpty then
        [⟨"security.tls.cert_file", "TLS certificate file is required when TLS is enabled"⟩] else []) ++
      (if s.tls.keyFile.isEmpty then
        [⟨"security.tls.key_file", "TLS key file is required when TLS is enabled"⟩] else [])
  let interval := if s.tls.reloadInterval.nanos < 0 then
      [⟨"security.tls.reload_interval", "reload interval must not be negative"⟩] else []
  files ++ interval

/-- Every problem of a configuration, in order. -/
def problems (c : Config) : List FieldError :=
  serverErrors c.server ++ reloadErrors c.reload ++ telemetryErrors c.telemetry ++
    securityErrors c.security

/-- The failure validation breaks down with, if it does: a reload schedule
whose zone has no blank after it. -/
def breakdown (c : Config) : Option String :=
  if c.reload.schedule.isEmpty then none
  else match Cron.parseStandard c.reload.schedule with
    | .error .zoneUnended => some Cron.ScheduleError.zoneUnended.message
    | _ => none

end Turnstile.Config
