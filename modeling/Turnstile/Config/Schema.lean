import Turnstile.Config.Basic
import Turnstile.Yaml.Decode

/-!
# The configuration file's schema

The file's sections and fields, with the names they have in the file and the
type each is decoded as.  The credentials are not part of the schema: they are
read from the flat settings only.

A configuration goes to a value tree (a record per section) to be decoded
over, and comes back from the tree afterwards; a field missing from the tree
keeps its zero value.
-/

namespace Turnstile.Config

open Yaml

/-- The schema of the server section. -/
def serverTarget : Target :=
  .record "config.ServerConfig"
    [("listen_address", .text), ("read_timeout", .span), ("write_timeout", .span),
     ("idle_timeout", .span), ("shutdown_timeout", .span), ("max_header_bytes", .whole)]

/-- The schema of the reload section. -/
def reloadTarget : Target :=
  .record "config.ReloadConfig" [("watch", .flag), ("debounce", .span), ("schedule", .text)]

/-- The schema of the telemetry section. -/
def telemetryTarget : Target :=
  .record "config.TelemetryConfig"
    [("logging", .record "config.LoggingConfig"
        [("level", .text), ("format", .text), ("add_source", .flag), ("redact", .flag)]),
     ("metrics", .record "config.MetricsConfig"
        [("enabled", .flag), ("path", .text), ("namespace", .text),
         ("request_duration_buckets", .reals)]),
     ("tracing", .record "config.TracingConfig"
        [("enabled", .flag), ("sampler", .text), ("sample_ratio", .real), ("exporter", .text),
         ("endpoint", .text), ("service_name", .text),
         ("otlp", .record "config.OTLPConfig" [("insecure", .flag), ("timeout", .span)])]),
     ("health", .record "config.HealthConfig"
        [("enabled", .flag), ("liveness_path", .text), ("readiness_path", .text),
         ("version_path", .text), ("check_timeout", .span)])]

/-- The schema of the security section. -/
def securityTarget : Target :=
  .record "config.SecurityConfig"
    [("tls", .record "config.TLSConfig"
        [("enabled", .flag), ("cert_file", .text), ("key_file", .text),
         ("reload_interval", .span)]),
     ("secrets", .record "config.SecretsConfig" [("env_prefix", .text), ("dir", .text)])]

/-- The schema of the file. -/
def fileTarget : Target :=
  .record "config.Config"
    [("server", serverTarget), ("reload", reloadTarget), ("telemetry", telemetryTarget),
     ("security", securityTarget)]

/-- A duration as a tree leaf. -/
def spanLeaf (d : Duration) : Value := .int d.nanos

/-- The tree of a configuration, without the credentials. -/
def toTree (c : Config) : Value :=
  .record
    [("server", .record
        [("listen_address", .str c.server.listenAddress),
         ("read_timeout", spanLeaf c.server.readTimeout),
         ("write_timeout", spanLeaf c.server.writeTimeout),
         ("idle_timeout", spanLeaf c.server.idleTimeout),
         ("shutdown_timeout", spanLeaf c.server.shutdownTimeout),
         ("max_header_bytes", .int c.server.maxHeaderBytes)]),
     ("reload", .record
        [("watch", .bool c.reload.watch), ("debounce", spanLeaf c.reload.debounce),
         ("schedule", .str c.reload.schedule)]),
     ("telemetry", .record
        [("logging", .record
            [("level", .str c.telemetry.logging.level), ("format", .str c.telemetry.logging.format),
             ("add_source", .bool c.telemetry.logging.addSource),
             ("redact", .bool c.telemetry.logging.redact)]),
         ("metrics", .record
            [("enabled", .bool c.telemetry.metrics.enabled), ("path", .str c.telemetry.metrics.path),
             ("namespace", .str c.telemetry.metrics.namespace_),
             ("request_duration_buckets", .list (c.telemetry.metrics.buckets.map .float))]),
         ("tracing", .record
            [("enabled", .bool c.telemetry.tracing.enabled),
             ("sampler", .str c.telemetry.tracing.sampler),
             ("sample_ratio", .float c.telemetry.tracing.sampleRatio),
             ("exporter", .str c.telemetry.tracing.exporter),
             ("endpoint", .str c.telemetry.tracing.endpoint),
             ("service_name", .str c.telemetry.tracing.serviceName),
             ("otlp", .record
                [("insecure", .bool c.telemetry.tracing.otlp.insecure),
                 ("timeout", spanLeaf c.telemetry.tracing.otlp.timeout)])]),
         ("health", .record
            [("enabled", .bool c.telemetry.health.enabled),
             ("liveness_path", .str c.telemetry.health.livenessPath),
             ("readiness_path", .str c.telemetry.health.readinessPath),
             ("version_path", .str c.telemetry.health.versionPath),
             ("check_timeout", spanLeaf c.telemetry.health.checkTimeout)])]),
     ("security", .record
        [("tls", .record
            [("enabled", .bool c.security.tls.enabled), ("cert_file", .str c.security.tls.certFile),
             ("key_file", .str c.security.tls.keyFile),
             ("reload_interval", spanLeaf c.security.tls.reloadInterval)]),
         ("secrets", .record
            [("env_prefix", .str c.security.secrets.envPrefix),
             ("dir", .str c.security.secrets.dir)])])]

/-- A member of a record tree, null when missing. -/
def member (v : Value) (name : String) : Value :=
  match v with
  | .record kvs => (kvs.lookup name).getD .null
  | _ => .null

/-- A text leaf. -/
def textAt (v : Value) (name : String) : String :=
  match member v name with
  | .str s => s
  | _ => ""

/-- A truth value leaf. -/
def flagAt (v : Value) (name : String) : Bool :=
  match member v name with
  | .bool b => b
  | _ => false

/-- An integer leaf. -/
def wholeAt (v : Value) (name : String) : Int :=
  match member v name with
  | .int i => i
  | _ => 0

/-- A duration leaf. -/
def spanAt (v : Value) (name : String) : Duration := ⟨wholeAt v name⟩

/-- A number leaf. -/
def realAt (v : Value) (name : String) : Binary64 :=
  match member v name with
  | .float x => x
  | _ => Binary64.zero false

/-- A list of numbers leaf. -/
def realsAt (v : Value) (name : String) : List Binary64 :=
  match member v name with
  | .list xs => xs.filterMap fun x => match x with
    | .float f => some f
    | _ => none
  | _ => []

/-- The configuration a tree describes, with the given credentials. -/
def ofTree (app : Config.App) (t : Value) : Config :=
  let server := member t "server"
  let reload := member t "reload"
  let telemetry := member t "telemetry"
  let logging := member telemetry "logging"
  let metrics := member telemetry "metrics"
  let tracing := member telemetry "tracing"
  let otlp := member tracing "otlp"
  let health := member telemetry "health"
  let security := member t "security"
  let tls := member security "tls"
  let secrets := member security "secrets"
  { app
    server :=
      { listenAddress := textAt server "listen_address"
        readTimeout := spanAt server "read_timeout"
        writeTimeout := spanAt server "write_timeout"
        idleTimeout := spanAt server "idle_timeout"
        shutdownTimeout := spanAt server "shutdown_timeout"
        maxHeaderBytes := wholeAt server "max_header_bytes" }
    reload :=
      { watch := flagAt reload "watch", debounce := spanAt reload "debounce"
        schedule := textAt reload "schedule" }
    telemetry :=
      { logging :=
          { level := textAt logging "level", format := textAt logging "format"
            addSource := flagAt logging "add_source", redact := flagAt logging "redact" }
        metrics :=
          { enabled := flagAt metrics "enabled", path := textAt metrics "path"
            namespace_ := textAt metrics "namespace"
            buckets := realsAt metrics "request_duration_buckets" }
        tracing :=
          { enabled := flagAt tracing "enabled", sampler := textAt tracing "sampler"
            sampleRatio := realAt tracing "sample_ratio", exporter := textAt tracing "exporter"
            endpoint := textAt tracing "endpoint", serviceName := textAt tracing "service_name"
            otlp := { insecure := flagAt otlp "insecure", timeout := spanAt otlp "timeout" } }
        health :=
          { enabled := flagAt health "enabled", livenessPath := textAt health "liveness_path"
            readinessPath := textAt health "readiness_path"
            versionPath := textAt health "version_path"
            checkTimeout := spanAt health "check_timeout" } }
    security :=
      { tls :=
          { enabled := flagAt tls "enabled", certFile := textAt tls "cert_file"
            keyFile := textAt tls "key_file", reloadInterval := spanAt tls "reload_interval" }
        secrets := { envPrefix := textAt secrets "env_prefix", dir := textAt secrets "dir" } } }

end Turnstile.Config
