import Turnstile.Clock.Duration
import Turnstile.Number.Binary64

/-!
# Configuration

The configuration has five sections: the credentials (`app`), the listening
server, reloading, telemetry (logging, metrics, tracing and health endpoints)
and security (TLS and secret sources).

Every field has a default.  A field left at its zero value (the empty text,
zero, an empty list) is replaced by its default when defaults are applied;
truth values are never replaced, so their defaults are set once, before the
file is read.  The credentials have no defaults here: they are read from the
flat settings.
-/

namespace Turnstile

/-- The credentials. -/
structure Config.App where
  apiKey : String := ""
  appKey : String := ""
  publicKey : String := ""
  publicEnabled : Bool := false
  deriving Inhabited, Repr

/-- The listening server. -/
structure Config.Server where
  listenAddress : String := ""
  readTimeout : Duration := ⟨0⟩
  writeTimeout : Duration := ⟨0⟩
  idleTimeout : Duration := ⟨0⟩
  shutdownTimeout : Duration := ⟨0⟩
  maxHeaderBytes : Int := 0
  deriving Inhabited, Repr

/-- Reloading of the configuration file. -/
structure Config.Reload where
  watch : Bool := false
  debounce : Duration := ⟨0⟩
  schedule : String := ""
  deriving Inhabited, Repr

/-- Log output. -/
structure Config.Logging where
  level : String := ""
  format : String := ""
  addSource : Bool := false
  redact : Bool := false
  deriving Inhabited, Repr

/-- The metrics endpoint. -/
structure Config.Metrics where
  enabled : Bool := false
  path : String := ""
  namespace_ : String := ""
  buckets : List Binary64 := []
  deriving Inhabited, Repr

/-- The trace exporter's connection. -/
structure Config.Otlp where
  insecure : Bool := false
  timeout : Duration := ⟨0⟩
  deriving Inhabited, Repr

/-- Tracing. -/
structure Config.Tracing where
  enabled : Bool := false
  sampler : String := ""
  sampleRatio : Binary64 := Binary64.zero false
  exporter : String := ""
  endpoint : String := ""
  serviceName : String := ""
  otlp : Config.Otlp := {}
  deriving Inhabited, Repr

/-- The health endpoints. -/
structure Config.Health where
  enabled : Bool := false
  livenessPath : String := ""
  readinessPath : String := ""
  versionPath : String := ""
  checkTimeout : Duration := ⟨0⟩
  deriving Inhabited, Repr

/-- Telemetry. -/
structure Config.Telemetry where
  logging : Config.Logging := {}
  metrics : Config.Metrics := {}
  tracing : Config.Tracing := {}
  health : Config.Health := {}
  deriving Inhabited, Repr

/-- TLS. -/
structure Config.Tls where
  enabled : Bool := false
  certFile : String := ""
  keyFile : String := ""
  reloadInterval : Duration := ⟨0⟩
  deriving Inhabited, Repr

/-- Where secrets are read from. -/
structure Config.Secrets where
  envPrefix : String := ""
  dir : String := ""
  deriving Inhabited, Repr

/-- Security. -/
structure Config.Security where
  tls : Config.Tls := {}
  secrets : Config.Secrets := {}
  deriving Inhabited, Repr

/-- The whole configuration. -/
structure Config where
  app : Config.App := {}
  server : Config.Server := {}
  reload : Config.Reload := {}
  telemetry : Config.Telemetry := {}
  security : Config.Security := {}
  deriving Inhabited, Repr

namespace Config

/-- A duration of whole seconds. -/
def seconds (n : Nat) : Duration := ⟨n * Duration.second⟩

/-- The default bucket bounds of the request duration histogram, in seconds. -/
def defaultBuckets : List Binary64 :=
  [Binary64.ofDecimal false 1 (-4), Binary64.ofDecimal false 5 (-4), Binary64.ofDecimal false 1 (-3),
   Binary64.ofDecimal false 5 (-3), Binary64.ofDecimal false 1 (-2), Binary64.ofDecimal false 5 (-2),
   Binary64.ofDecimal false 1 (-1), Binary64.ofDecimal false 5 (-1)]

/-- A text, or its default when empty. -/
def orText (s d : String) : String := if s.isEmpty then d else s

/-- A duration, or its default when zero. -/
def orDuration (x d : Duration) : Duration := if x.nanos = 0 then d else x

/-- Replace every zero field that has a default by the default. -/
def applyDefaults (c : Config) : Config :=
  { c with
    server :=
      { c.server with
        listenAddress := orText c.server.listenAddress "127.0.0.1:8080"
        readTimeout := orDuration c.server.readTimeout (seconds 10)
        writeTimeout := orDuration c.server.writeTimeout (seconds 10)
        idleTimeout := orDuration c.server.idleTimeout (seconds 120)
        shutdownTimeout := orDuration c.server.shutdownTimeout (seconds 15)
        maxHeaderBytes := if c.server.maxHeaderBytes = 0 then 65536 else c.server.maxHeaderBytes }
    reload := { c.reload with debounce := orDuration c.reload.debounce ⟨100 * Duration.millisecond⟩ }
    telemetry :=
      { c.telemetry with
        logging :=
          { c.telemetry.logging with
            level := orText c.telemetry.logging.level "info"
            format := orText c.telemetry.logging.format "json" }
        metrics :=
          { c.telemetry.metrics with
            path := orText c.telemetry.metrics.path "/metrics"
            namespace_ := orText c.telemetry.metrics.namespace_ "keygate"
            buckets := if c.telemetry.metrics.buckets.isEmpty then defaultBuckets
              else c.telemetry.metrics.buckets }
        tracing :=
          { c.telemetry.tracing with
            sampler := orText c.telemetry.tracing.sampler "ratio"
            sampleRatio := if c.telemetry.tracing.sampleRatio.isZero then Binary64.ofInt 1
              else c.telemetry.tracing.sampleRatio
            exporter := orText c.telemetry.tracing.exporter "otlp"
            endpoint := orText c.telemetry.tracing.endpoint "localhost:4317"
            serviceName := orText c.telemetry.tracing.serviceName "keygate"
            otlp := { c.telemetry.tracing.otlp with
              timeout := orDuration c.telemetry.tracing.otlp.timeout (seconds 10) } }
        health :=
          { c.telemetry.health with
            livenessPath := orText c.telemetry.health.livenessPath "/health"
            readinessPath := orText c.telemetry.health.readinessPath "/ready"
            versionPath := orText c.telemetry.health.versionPath "/version"
            checkTimeout := orDuration c.telemetry.health.checkTimeout (seconds 2) } }
    security :=
      { c.security with
        tls := { c.security.tls with
          reloadInterval := orDuration c.security.tls.reloadInterval (seconds 60) }
        secrets := { c.security.secrets with
          envPrefix := orText c.security.secrets.envPrefix "KEYGATE_SECRET_" } } }

/-- The defaults: the truth values that default to true, then every other
default. -/
def default : Config :=
  applyDefaults
    { reload := { watch := true }
      telemetry :=
        { logging := { redact := true }
          metrics := { enabled := true }
          health := { enabled := true } } }

end Config

end Turnstile
