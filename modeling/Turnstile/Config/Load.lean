import Turnstile.Config.Snapshot
import Turnstile.Config.Validate
import Turnstile.Secrets.Manager
import Turnstile.Number.Parse
import Turnstile.Text.Boolean

/-!
# Loading the configuration

Loading reads the file at a path (no path means no file), reads its text into
a snapshot, applies the environment, resolves secret references in the
credentials, and validates the result.

The environment overrides single fields through variables named after them
(`KEYGATE_SERVER_READ_TIMEOUT` for `server.read_timeout`).  The three keys of
the credentials apply whenever their variable is set, even to the empty text;
every other variable applies only when it is not empty and reads as its field's
kind (a truth word, a duration or a decimal integer), and is ignored otherwise.
The credentials and the listen address are also written to the settings.

Secret references are resolved in `app.api_key`, `app.app_key` and
`app.public_key`, in that order, and only where the setting is a text that holds
a reference.  The secrets come from the environment, under the configured base
name, and then from the configured directory when there is one; that directory
is opened only when the first reference is met.  The typed credentials are then
read again from the settings.
-/

namespace Turnstile

open Turnstile.Host Turnstile.Secrets

namespace Snapshot

/-- Change the typed configuration. -/
def mapConfig (s : Snapshot) (f : Config → Config) : Snapshot := { s with config := f s.config }

/-- Set one setting. -/
def setValue (s : Snapshot) (key : String) (v : Value) : Snapshot :=
  { s with settings := s.settings.insert key v }

/-- Read the typed credentials again from the settings. -/
def syncApp (s : Snapshot) : Snapshot := s.mapConfig fun c => { c with app := appOf s.settings }

end Snapshot

namespace Config

/-- Change a snapshot with the value of a variable that is set and not empty,
when `read` accepts that value. -/
def whenGiven (env : Environment) (var : String) (read : String → Option (Snapshot → Snapshot))
    (s : Snapshot) : Snapshot :=
  let v := env.get var
  if v.isEmpty then s
  else match read v with
    | some change => change s
    | none => s

/-- Change a typed configuration with the value of a variable that is set and
not empty, when `read` accepts that value. -/
def givenBy (env : Environment) (var : String) (read : String → Option (Config → Config))
    (c : Config) : Config :=
  let v := env.get var
  if v.isEmpty then c
  else match read v with
    | some change => change c
    | none => c

/-- A duration override. -/
def durationOverride (set : Config → Duration → Config) (v : String) : Option (Config → Config) :=
  match Duration.parse v with
  | .ok d => some (set · d)
  | .error _ => none

/-- A truth-value override. -/
def flagOverride (set : Config → Bool → Config) (v : String) : Option (Config → Config) :=
  (Text.parseBool? v).map fun b c => set c b

/-- A text override. -/
def textOverride (set : Config → String → Config) (v : String) : Option (Config → Config) :=
  some (set · v)

/-- A credential override, which applies whenever its variable is set, even to
the empty text. -/
def credentialOverride (env : Environment) (var key : String)
    (set : Config.App → String → Config.App) (s : Snapshot) : Snapshot :=
  match env.lookup? var with
  | some v => (s.mapConfig fun c => { c with app := set c.app v }).setValue key (.str v)
  | none => s

/-- The credential overrides. -/
def credentialOverrides (env : Environment) (s : Snapshot) : Snapshot :=
  let s := credentialOverride env "KEYGATE_APP_API_KEY" "app.api_key"
    (fun a v => { a with apiKey := v }) s
  let s := credentialOverride env "KEYGATE_APP_APP_KEY" "app.app_key"
    (fun a v => { a with appKey := v }) s
  credentialOverride env "KEYGATE_APP_PUBLIC_KEY" "app.public_key"
    (fun a v => { a with publicKey := v }) s

/-- The overrides that change the typed configuration alone, in order. -/
def configOverrides (env : Environment) (c : Config) : Config :=
  let given := givenBy env
  let c := given "KEYGATE_SERVER_READ_TIMEOUT"
    (durationOverride fun c d => { c with server := { c.server with readTimeout := d } }) c
  let c := given "KEYGATE_SERVER_WRITE_TIMEOUT"
    (durationOverride fun c d => { c with server := { c.server with writeTimeout := d } }) c
  let c := given "KEYGATE_SERVER_IDLE_TIMEOUT"
    (durationOverride fun c d => { c with server := { c.server with idleTimeout := d } }) c
  let c := given "KEYGATE_SERVER_SHUTDOWN_TIMEOUT"
    (durationOverride fun c d => { c with server := { c.server with shutdownTimeout := d } }) c
  let c := given "KEYGATE_SERVER_MAX_HEADER_BYTES" (fun v => match Number.atoi v with
    | .ok n => some fun c => { c with server := { c.server with maxHeaderBytes := n } }
    | .error _ => none) c
  let c := given "KEYGATE_RELOAD_WATCH"
    (flagOverride fun c b => { c with reload := { c.reload with watch := b } }) c
  let c := given "KEYGATE_RELOAD_DEBOUNCE"
    (durationOverride fun c d => { c with reload := { c.reload with debounce := d } }) c
  let c := given "KEYGATE_RELOAD_SCHEDULE"
    (textOverride fun c v => { c with reload := { c.reload with schedule := v } }) c
  let c := given "KEYGATE_TELEMETRY_LOGGING_LEVEL" (textOverride fun c v =>
    { c with telemetry := { c.telemetry with logging := { c.telemetry.logging with level := v } } }) c
  let c := given "KEYGATE_TELEMETRY_LOGGING_FORMAT" (textOverride fun c v =>
    { c with telemetry := { c.telemetry with logging := { c.telemetry.logging with format := v } } }) c
  let c := given "KEYGATE_TELEMETRY_METRICS_ENABLED" (flagOverride fun c b =>
    { c with telemetry := { c.telemetry with metrics := { c.telemetry.metrics with enabled := b } } }) c
  let c := given "KEYGATE_TELEMETRY_METRICS_PATH" (textOverride fun c v =>
    { c with telemetry := { c.telemetry with metrics := { c.telemetry.metrics with path := v } } }) c
  let c := given "KEYGATE_TELEMETRY_TRACING_ENABLED" (flagOverride fun c b =>
    { c with telemetry := { c.telemetry with tracing := { c.telemetry.tracing with enabled := b } } }) c
  let c := given "KEYGATE_TELEMETRY_TRACING_ENDPOINT" (textOverride fun c v =>
    { c with telemetry := { c.telemetry with tracing := { c.telemetry.tracing with endpoint := v } } }) c
  let c := given "KEYGATE_TELEMETRY_HEALTH_ENABLED" (flagOverride fun c b =>
    { c with telemetry := { c.telemetry with health := { c.telemetry.health with enabled := b } } }) c
  let c := given "KEYGATE_SECURITY_TLS_ENABLED" (flagOverride fun c b =>
    { c with security := { c.security with tls := { c.security.tls with enabled := b } } }) c
  let c := given "KEYGATE_SECURITY_TLS_CERT_FILE" (textOverride fun c v =>
    { c with security := { c.security with tls := { c.security.tls with certFile := v } } }) c
  let c := given "KEYGATE_SECURITY_TLS_KEY_FILE" (textOverride fun c v =>
    { c with security := { c.security with tls := { c.security.tls with keyFile := v } } }) c
  let c := given "KEYGATE_SECURITY_SECRETS_DIR" (textOverride fun c v =>
    { c with security := { c.security with secrets := { c.security.secrets with dir := v } } }) c
  given "KEYGATE_SECURITY_TLS_RELOAD_INTERVAL" (durationOverride fun c d =>
    { c with security := { c.security with tls := { c.security.tls with reloadInterval := d } } }) c

/-- Apply the environment to a snapshot: the credentials, the public switch and
the listen address, which are written to the settings too, then the overrides
of the typed configuration alone. -/
def applyEnvironment (env : Environment) (s : Snapshot) : Snapshot :=
  let s := credentialOverrides env s
  let s := whenGiven env "KEYGATE_APP_PUBLIC_ENABLED" (fun v => (Text.parseBool? v).map fun b s =>
    (s.mapConfig fun c => { c with app := { c.app with publicEnabled := b } }).setValue
      "app.public_enabled" (.bool b)) s
  let s := whenGiven env "KEYGATE_SERVER_LISTEN_ADDRESS" (fun v => some fun s =>
    (s.mapConfig fun c => { c with server := { c.server with listenAddress := v } }).setValue
      "server.listen_address" (.str v)) s
  s.mapConfig (configOverrides env)

/-- The keys whose secret references are resolved, in order. -/
def credentialKeys : List String := ["app.api_key", "app.app_key", "app.public_key"]

/-- The secret manager the configuration describes: the environment, then the
directory when one is named. -/
def secretManager (w : World) (cfg : Config.Secrets) : Except String Manager :=
  if cfg.dir.isEmpty then .ok ⟨[.env cfg.envPrefix]⟩
  else match openFileProvider w.files cfg.dir with
    | .ok p => .ok ⟨[.env cfg.envPrefix, p]⟩
    | .error e => .error ("security.secrets.dir: " ++ e)

/-- Resolve the references of the given keys, making the manager at the first
one. -/
def resolveKeys (w : World) : List String → Option Manager → Snapshot → Except String Snapshot
  | [], _, s => .ok s
  | key :: rest, m, s =>
    match s.settings.find? key with
    | some (.str raw) =>
      if !hasReferences raw then resolveKeys w rest m s
      else
        let made : Except String Manager := match m with
          | some m => .ok m
          | none => secretManager w s.config.security.secrets
        match made with
        | .error e => .error e
        | .ok m =>
          match m.resolveReferences w raw with
          | .error e => .error (key ++ ": " ++ e)
          | .ok v => resolveKeys w rest (some m) (s.setValue key (.str v))
    | _ => resolveKeys w rest m s

/-- Resolve the secret references of the credentials and read the typed
credentials again. -/
def resolveSecrets (w : World) (s : Snapshot) : Except String Snapshot :=
  (resolveKeys w credentialKeys none s).map Snapshot.syncApp

/-- Why loading failed: a message, problems with fields, or a breakdown of
validation. -/
inductive LoadError where
  | failed (message : String)
  | invalid (problems : List FieldError)
  | breakdown (message : String)
  deriving Inhabited

/-- The text of a loading failure. -/
def LoadError.message : LoadError → String
  | .failed m => m
  | .invalid es => validationMessage es
  | .breakdown m => m

/-- The text the configuration is read from: the file at the path, or the
empty text when there is no path. -/
def readText (w : World) (path : String) : Except LoadError String :=
  if path.isEmpty then .ok ""
  else (w.files.readFile path).mapError fun e =>
    .failed ("failed to read configuration file " ++ Text.quote path ++ ": " ++ e)

/-- Validate a configuration: the breakdown, when validation breaks down on it,
else its problems, when it has any. -/
def validate (c : Config) : Except LoadError Unit :=
  match breakdown c with
  | some m => .error (.breakdown m)
  | none =>
    match problems c with
    | [] => .ok ()
    | es => .error (.invalid es)

/-- Accept a resolved snapshot that validates, with the path it was read from
and the instant it was read at. -/
def accept (path : String) (loadedAt : Int) (s : Snapshot) : Except LoadError Snapshot :=
  (validate s.config).map fun _ => { s with path, loadedAt }

/-- Load the configuration from a path, or from nothing when the path is empty,
at the instant the world's clock reads. -/
def load (w : World) (path : String) : Except LoadError Snapshot := do
  let text ← readText w path
  let s ← (Snapshot.parse text).mapError fun e =>
    .failed ("failed to parse configuration file " ++ Text.quote path ++ ": " ++ e)
  let s ← (resolveSecrets w (applyEnvironment w.env s)).mapError .failed
  accept path w.clock s

end Config

end Turnstile
