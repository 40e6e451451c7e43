import Turnstile.Proofs.Config.Loading
import Turnstile.Proofs.Config.Resolution

/-!
# Where each field of a loaded configuration comes from

Every typed field outside the credentials is given by three layers: the file,
read over the defaults; the defaults again, for a field the file leaves at its
zero value; and the environment, whose variable wins when it is set, not empty
and reads as the field's kind.  Truth values have no zero, so a truth value the
file holds always stands.

`typedFields` lists those fields, each with how it is read and written, the
variable that overrides it and its default, and `typedFields_determine` says
the list leaves out no field.  `TypedField.expected` is the value the layers
give a field.  They are proved one at a time:

* `get_applyDefaults` and `parse_typed` — a parsed snapshot holds the file's
  value of each field, or its default where that value is zero;
* `get_environmentLayer` — the environment overrides each field with its own
  variable and no other;
* `applyEnvironment_config` — the credentials, the public switch and the
  resolved secrets change the credentials alone.

`load_follows_precedence` puts them together for every load that succeeds.
-/

namespace Turnstile

namespace Config

open Turnstile.Host

/-- A kind of typed field: which of its values is zero, and how the text of a
variable reads as a value. -/
structure FieldKind where
  Carrier : Type
  isZero : Carrier → Bool
  ofText : String → Option Carrier

namespace FieldKind

/-- Texts, which every text reads as; the empty text is zero. -/
def text : FieldKind := ⟨String, String.isEmpty, some⟩

/-- Durations, read in the duration syntax. -/
def span : FieldKind := ⟨Duration, fun d => decide (d.nanos = 0), fun v => (Duration.parse v).toOption⟩

/-- Decimal integers. -/
def whole : FieldKind := ⟨Int, fun n => decide (n = 0), fun v => (Number.atoi v).toOption⟩

/-- Truth values, read as truth words; none of them is zero. -/
def flag : FieldKind := ⟨Bool, fun _ => false, Text.parseBool?⟩

/-- Numbers, which no variable sets. -/
def real : FieldKind := ⟨Binary64, Binary64.isZero, fun _ => none⟩

/-- Lists of numbers, which no variable sets; the empty list is zero. -/
def reals : FieldKind := ⟨List Binary64, List.isEmpty, fun _ => none⟩

/-- A kind reads no zero value from a text that is not empty. -/
def ReadsNonZero (k : FieldKind) : Prop :=
  ∀ v x, v ≠ "" → k.ofText v = some x → k.isZero x = false

/-- A text variable that is not empty gives a text that is not empty. -/
theorem text_readsNonZero : text.ReadsNonZero := by
  intro v x hv hx
  cases hx
  simpa [text, String.isEmpty_iff] using hv

/-- No variable gives a list of numbers. -/
theorem reals_readsNonZero : reals.ReadsNonZero := by
  intro v x _ hx
  cases hx

end FieldKind

/-- A typed field outside the credentials: where it is read and written, the
variable that overrides it, if any, and its default.  The setter writes the
field alone, so writing back what was read changes nothing, and neither the
getter nor the setter looks at the credentials. -/
structure TypedField where
  kind : FieldKind
  get : Config → kind.Carrier
  set : Config → kind.Carrier → Config
  var : Option String := none
  default : kind.Carrier
  set_get : ∀ c, set c (get c) = c := by intro; rfl
  get_app : ∀ c a, get { c with app := a } = get c := by intros; rfl
  set_app : ∀ c a x, set { c with app := a } x = { set c x with app := a } := by intros; rfl

namespace TypedField

/-- The file's value of a field, or its default when that value is zero. -/
def fromFile (f : TypedField) (file : Config) : f.kind.Carrier :=
  if f.kind.isZero (f.get file) then f.default else f.get file

/-- The value of a field's variable when it is set, not empty and reads as the
field's kind; `x` otherwise. -/
def pick (f : TypedField) (env : Environment) (x : f.kind.Carrier) : f.kind.Carrier :=
  match f.var with
  | none => x
  | some v => if (env.get v).isEmpty then x else (f.kind.ofText (env.get v)).getD x

/-- The value the layers give a field: its variable, then the file, then its
default. -/
def expected (f : TypedField) (env : Environment) (file : Config) : f.kind.Carrier :=
  f.pick env (f.fromFile file)

/-- The override of a field by its variable, as `configOverrides` writes each of
its steps: the variable's text read into a change of the configuration. -/
def override (f : TypedField) (env : Environment) (c : Config) : Config :=
  match f.var with
  | none => c
  | some v => givenBy env v (fun s => (f.kind.ofText s).map fun x c => f.set c x) c

end TypedField

/-- The fields a variable overrides, in the order the environment applies them:
the listen address, then the steps of `configOverrides`. -/
def variableFields : List TypedField :=
  [ { kind := .text, get := (·.server.listenAddress)
      set := fun c v => { c with server := { c.server with listenAddress := v } }
      var := some "KEYGATE_SERVER_LISTEN_ADDRESS", default := "127.0.0.1:8080" },
    { kind := .span, get := (·.server.readTimeout)
      set := fun c d => { c with server := { c.server with readTimeout := d } }
      var := some "KEYGATE_SERVER_READ_TIMEOUT", default := seconds 10 },
    { kind := .span, get := (·.server.writeTimeout)
      set := fun c d => { c with server := { c.server with writeTimeout := d } }
      var := some "KEYGATE_SERVER_WRITE_TIMEOUT", default := seconds 10 },
    { kind := .span, get := (·.server.idleTimeout)
      set := fun c d => { c with server := { c.server with idleTimeout := d } }
      var := some "KEYGATE_SERVER_IDLE_TIMEOUT", default := seconds 120 },
    { kind := .span, get := (·.server.shutdownTimeout)
      set := fun c d => { c with server := { c.server with shutdownTimeout := d } }
      var := some "KEYGATE_SERVER_SHUTDOWN_TIMEOUT", default := seconds 15 },
    { kind := .whole, get := (·.server.maxHeaderBytes)
      set := fun c n => { c with server := { c.server with maxHeaderBytes := n } }
      var := some "KEYGATE_SERVER_MAX_HEADER_BYTES", default := (65536 : Int) },
    { kind := .flag, get := (·.reload.watch)
      set := fun c b => { c with reload := { c.reload with watch := b } }
      var := some "KEYGATE_RELOAD_WATCH", default := true },
    { kind := .span, get := (·.reload.debounce)
      set := fun c d => { c with reload := { c.reload with debounce := d } }
      var := some "KEYGATE_RELOAD_DEBOUNCE", default := Duration.mk (100 * Duration.millisecond) },
    { kind := .text, get := (·.reload.schedule)
      set := fun c v => { c with reload := { c.reload with schedule := v } }
      var := some "KEYGATE_RELOAD_SCHEDULE", default := "" },
    { kind := .text, get := (·.telemetry.logging.level)
      set := fun c v =>
        { c with telemetry := { c.telemetry with logging := { c.telemetry.logging with level := v } } }
      var := some "KEYGATE_TELEMETRY_LOGGING_LEVEL", default := "info" },
    { kind := .text, get := (·.telemetry.logging.format)
      set := fun c v =>
        { c with telemetry := { c.telemetry with logging := { c.telemetry.logging with format := v } } }
      var := some "KEYGATE_TELEMETRY_LOGGING_FORMAT", default := "json" },
    { kind := .flag, get := (·.telemetry.metrics.enabled)
      set := fun c b =>
        { c with telemetry := { c.telemetry with metrics := { c.telemetry.metrics with enabled := b } } }
      var := some "KEYGATE_TELEMETRY_METRICS_ENABLED", default := true },
    { kind := .text, get := (·.telemetry.metrics.path)
      set := fun c v =>
        { c with telemetry := { c.telemetry with metrics := { c.telemetry.metrics with path := v } } }
      var := some "KEYGATE_TELEMETRY_METRICS_PATH", default := "/metrics" },
    { kind := .flag, get := (·.telemetry.tracing.enabled)
      set := fun c b =>
        { c with telemetry := { c.telemetry with tracing := { c.telemetry.tracing with enabled := b } } }
      var := some "KEYGATE_TELEMETRY_TRACING_ENABLED", default := false },
    { kind := .text, get := (·.telemetry.tracing.endpoint)
      set := fun c v =>
        { c with telemetry := { c.telemetry with tracing := { c.telemetry.tracing with endpoint := v } } }
      var := some "KEYGATE_TELEMETRY_TRACING_ENDPOINT", default := "localhost:4317" },
    { kind := .flag, get := (·.telemetry.health.enabled)
      set := fun c b =>
        { c with telemetry := { c.telemetry with health := { c.telemetry.health with enabled := b } } }
      var := some "KEYGATE_TELEMETRY_HEALTH_ENABLED", default := true },
    { kind := .flag, get := (·.security.tls.enabled)
      set := fun c b => { c with security := { c.security with tls := { c.security.tls with enabled := b } } }
      var := some "KEYGATE_SECURITY_TLS_ENABLED", default := false },
    { kind := .text, get := (·.security.tls.certFile)
      set := fun c v => { c with security := { c.security with tls := { c.security.tls with certFile := v } } }
      var := some "KEYGATE_SECURITY_TLS_CERT_FILE", default := "" },
    { kind := .text, get := (·.security.tls.keyFile)
      set := fun c v => { c with security := { c.security with tls := { c.security.tls with keyFile := v } } }
      var := some "KEYGATE_SECURITY_TLS_KEY_FILE", default := "" },
    { kind := .text, get := (·.security.secrets.dir)
      set := fun c v =>
        { c with security := { c.security with secrets := { c.security.secrets with dir := v } } }
      var := some "KEYGATE_SECURITY_SECRETS_DIR", default := "" },
    { kind := .span, get := (·.security.tls.reloadInterval)
      set := fun c d =>
        { c with security := { c.security with tls := { c.security.tls with reloadInterval := d } } }
      var := some "KEYGATE_SECURITY_TLS_RELOAD_INTERVAL", default := seconds 60 } ]

/-- The fields no variable overrides. -/
def fileFields : List TypedField :=
  [ { kind := .flag, get := (·.telemetry.logging.addSource)
      set := fun c b =>
        { c with telemetry := { c.telemetry with logging := { c.telemetry.logging with addSource := b } } }
      default := false },
    { kind := .flag, get := (·.telemetry.logging.redact)
      set := fun c b =>
        { c with telemetry := { c.telemetry with logging := { c.telemetry.logging with redact := b } } }
      default := true },
    { kind := .text, get := (·.telemetry.metrics.namespace_)
      set := fun c v =>
        { c with telemetry := { c.telemetry with metrics := { c.telemetry.metrics with namespace_ := v } } }
      default := "keygate" },
    { kind := .reals, get := (·.telemetry.metrics.buckets)
      set := fun c bs =>
        { c with telemetry := { c.telemetry with metrics := { c.telemetry.metrics with buckets := bs } } }
      default := defaultBuckets },
    { kind := .text, get := (·.telemetry.tracing.sampler)
      set := fun c v =>
        { c with telemetry := { c.telemetry with tracing := { c.telemetry.tracing with sampler := v } } }
      default := "ratio" },
    { kind := .real, get := (·.telemetry.tracing.sampleRatio)
      set := fun c r =>
        { c with telemetry := { c.telemetry with tracing := { c.telemetry.tracing with sampleRatio := r } } }
      default := Binary64.ofInt 1 },
    { kind := .text, get := (·.telemetry.tracing.exporter)
      set := fun c v =>
        { c with telemetry := { c.telemetry with tracing := { c.telemetry.tracing with exporter := v } } }
      default := "otlp" },
    { kind := .text, get := (·.telemetry.tracing.serviceName)
      set := fun c v =>
        { c with telemetry := { c.telemetry with tracing := { c.telemetry.tracing with serviceName := v } } }
      default := "keygate" },
    { kind := .flag, get := (·.telemetry.tracing.otlp.insecure)
      set := fun c b => { c with telemetry := { c.telemetry with tracing := { c.telemetry.tracing with
        otlp := { c.telemetry.tracing.otlp with insecure := b } } } }
      default := false },
    { kind := .span, get := (·.telemetry.tracing.otlp.timeout)
      set := fun c d => { c with telemetry := { c.telemetry with tracing := { c.telemetry.tracing with
        otlp := { c.telemetry.tracing.otlp with timeout := d } } } }
      default := seconds 10 },
    { kind := .text, get := (·.telemetry.health.livenessPath)
      set := fun c v =>
        { c with telemetry := { c.telemetry with health := { c.telemetry.health with livenessPath := v } } }
      default := "/health" },
    { kind := .text, get := (·.telemetry.health.readinessPath)
      set := fun c v =>
        { c with telemetry := { c.telemetry with health := { c.telemetry.health with readinessPath := v } } }
      default := "/ready" },
    { kind := .text, get := (·.telemetry.health.versionPath)
      set := fun c v =>
        { c with telemetry := { c.telemetry with health := { c.telemetry.health with versionPath := v } } }
      default := "/version" },
    { kind := .span, get := (·.telemetry.health.checkTimeout)
      set := fun c d =>
        { c with telemetry := { c.telemetry with health := { c.telemetry.health with checkTimeout := d } } }
      default := seconds 2 },
    { kind := .text, get := (·.security.secrets.envPrefix)
      set := fun c v =>
        { c with security := { c.security with secrets := { c.security.secrets with envPrefix := v } } }
      default := "KEYGATE_SECRET_" } ]

/-- Every typed field outside the credentials. -/
def typedFields : List TypedField := variableFields ++ fileFields

/-- The configuration a file gives before the defaults are applied again: the
file's values, read over the defaults.  The empty text gives the defaults. -/
def fileConfig (text : String) : Except String Config :=
  if text.isEmpty then .ok Config.default
  else match Yaml.readDocument text with
    | .error e => .error (Snapshot.yamlMessage e)
    | .ok doc => (Snapshot.decodeStrict doc fileTarget (toTree Config.default)).map (ofTree {})

/-! ## The table -/

/-- The table leaves out no field: two configurations with the same credentials
that agree on every field of the table are one. -/
theorem typedFields_determine {c d : Config} (hApp : c.app = d.app)
    (h : ∀ f ∈ typedFields, f.get c = f.get d) : c = d := by
  simp only [typedFields, List.forall_mem_append, variableFields, fileFields, List.forall_mem_cons,
    List.not_mem_nil, false_implies, implies_true, and_true] at h
  obtain ⟨app, ⟨la, rt, wt, it, st, mh⟩, ⟨wa, de, sc⟩, ⟨⟨lv, fm, as, rd⟩, ⟨me, mp, mn, mb⟩,
    ⟨te, sa, sr, ex, ep, sn, ⟨oi, ot⟩⟩, ⟨he, hl, hr, hv, hc⟩⟩, ⟨⟨tl, cf, kf, ri⟩, ⟨pf, dr⟩⟩⟩ := c
  obtain ⟨app', ⟨la', rt', wt', it', st', mh'⟩, ⟨wa', de', sc'⟩, ⟨⟨lv', fm', as', rd'⟩,
    ⟨me', mp', mn', mb'⟩, ⟨te', sa', sr', ex', ep', sn', ⟨oi', ot'⟩⟩, ⟨he', hl', hr', hv', hc'⟩⟩,
    ⟨⟨tl', cf', kf', ri'⟩, ⟨pf', dr'⟩⟩⟩ := d
  simp_all

/-! ## The file and the defaults -/

namespace TypedField

/-- Applying the defaults to a value they already gave changes nothing. -/
theorem fromFile_fromFile (f : TypedField) {c d : Config} (h : f.get d = f.fromFile c) :
    f.fromFile d = f.fromFile c := by
  rw [fromFile, h]
  unfold fromFile
  cases hc : f.kind.isZero (f.get c) <;> simp [hc]

/-- A field with a default that is not zero is not zero once the defaults are
applied. -/
theorem isZero_fromFile (f : TypedField) (file : Config) (h : f.kind.isZero f.default = false) :
    f.kind.isZero (f.fromFile file) = false := by
  unfold fromFile
  split
  · exact h
  · next hZero => simpa using hZero

end TypedField

/-- Applying the defaults gives each field its value, or its default where that
value is zero. -/
theorem get_applyDefaults (c : Config) :
    ∀ f ∈ typedFields, f.get (applyDefaults c) = f.fromFile c := by
  simp only [typedFields, List.forall_mem_append, variableFields, fileFields, List.forall_mem_cons,
    List.not_mem_nil, false_implies, implies_true, and_true]
  -- one goal per field, split on whether the file's value is zero
  and_intros <;> unfold TypedField.fromFile <;> split <;>
    simp_all [applyDefaults, orText, orDuration, FieldKind.text, FieldKind.span, FieldKind.whole,
      FieldKind.flag, FieldKind.real, FieldKind.reals, String.isEmpty_iff]

/-- A parsed snapshot holds each field's value in the file, or its default
where that value is zero. -/
theorem parse_typed {text : String} {s : Snapshot} (h : Snapshot.parse text = .ok s) :
    ∃ file, fileConfig text = .ok file ∧ ∀ f ∈ typedFields, f.get s.config = f.fromFile file := by
  unfold Snapshot.parse at h
  by_cases hEmpty : text.isEmpty
  · rw [if_pos hEmpty] at h
    cases h
    refine ⟨Config.default, by simp [fileConfig, hEmpty], fun f hf => ?_⟩
    -- the defaults are themselves the defaults applied once
    have hDefault : f.get Config.default = f.fromFile _ := get_applyDefaults _ f hf
    rw [f.get_app, hDefault, f.fromFile_fromFile hDefault]
  · rw [if_neg hEmpty] at h
    cases hDoc : Yaml.readDocument text with
    | error e => rw [hDoc] at h; cases h
    | ok doc =>
      rw [hDoc] at h
      obtain ⟨tree, hTree, h⟩ := except_bind_eq_ok h
      obtain ⟨raw, -, h⟩ := except_bind_eq_ok h
      cases h
      refine ⟨ofTree {} tree, by simp [fileConfig, hEmpty, hDoc, hTree, Except.map], fun f hf => ?_⟩
      have hApp : ofTree (Snapshot.appOf (Snapshot.flatten raw)) tree =
          { ofTree {} tree with app := Snapshot.appOf (Snapshot.flatten raw) } := rfl
      rw [get_applyDefaults _ f hf, TypedField.fromFile, TypedField.fromFile, hApp, f.get_app]

/-! ## The environment -/

namespace TypedField

/-- Overriding a field writes over it the value its variable picks. -/
theorem override_eq (f : TypedField) (env : Environment) (c : Config) :
    f.override env c = f.set c (f.pick env (f.get c)) := by
  unfold override pick
  cases f.var with
  | none => exact (f.set_get c).symm
  | some v =>
    by_cases hv : (env.get v).isEmpty
    · simp [givenBy, hv, f.set_get]
    · cases hx : f.kind.ofText (env.get v) <;> simp [givenBy, hv, hx, f.set_get]

/-- Overriding a field neither reads nor writes the credentials. -/
theorem override_app (f : TypedField) (env : Environment) (c : Config) (a : Config.App) :
    f.override env { c with app := a } = { f.override env c with app := a } := by
  rw [override_eq, override_eq, f.get_app, f.set_app]

/-- A variable that reads no zero value does not make a field zero. -/
theorem isZero_pick (f : TypedField) (env : Environment) {x : f.kind.Carrier}
    (hReads : f.kind.ReadsNonZero) (hx : f.kind.isZero x = false) :
    f.kind.isZero (f.pick env x) = false := by
  unfold pick
  split
  · exact hx
  · next v _ =>
    split
    · exact hx
    · next hGiven =>
      cases hRead : f.kind.ofText (env.get v) with
      | none => exact hx
      | some y => simpa using hReads _ y (by simpa [String.isEmpty_iff] using hGiven) hRead

end TypedField

/-- The overrides of the typed configuration outside the credentials: the listen
address, then `configOverrides`. -/
def environmentLayer (env : Environment) (c : Config) : Config :=
  configOverrides env (givenBy env "KEYGATE_SERVER_LISTEN_ADDRESS"
    (textOverride fun c v => { c with server := { c.server with listenAddress := v } }) c)

theorem durationOverride_eq (set : Config → Duration → Config) :
    durationOverride set = fun v => (FieldKind.span.ofText v).map fun d c => set c d := by
  funext v
  simp only [durationOverride, FieldKind.span]
  cases Duration.parse v <;> rfl

/-- The environment's overrides are those of `variableFields`, in order. -/
theorem environmentLayer_eq_foldl (env : Environment) (c : Config) :
    environmentLayer env c = variableFields.foldl (fun c f => f.override env c) c := by
  simp only [environmentLayer, configOverrides, variableFields, List.foldl_cons, List.foldl_nil,
    TypedField.override, durationOverride_eq]
  -- the steps agree reader by reader; the header size's reader is the only one
  -- not written with a named override
  congr
  funext v
  simp only [FieldKind.whole]
  cases Number.atoi v <;> rfl

/-- The environment overrides each field with its own variable and no other. -/
theorem get_environmentLayer (env : Environment) (c : Config) :
    ∀ f ∈ typedFields, f.get (environmentLayer env c) = f.pick env (f.get c) := by
  have hFold : environmentLayer env c =
      variableFields.foldl (fun c f => f.set c (f.pick env (f.get c))) c := by
    rw [environmentLayer_eq_foldl]
    exact List.foldl_ext _ _ _ fun c f _ => TypedField.override_eq f env c
  rw [hFold]
  simp only [typedFields, List.forall_mem_append, variableFields, fileFields, List.forall_mem_cons,
    List.not_mem_nil, false_implies, implies_true, and_true]
  -- each field's getter reads through the other fields' setters to its own
  and_intros <;> rfl

theorem foldl_override_app (env : Environment) (a : Config.App) :
    ∀ (fs : List TypedField) (c : Config),
      fs.foldl (fun c f => f.override env c) { c with app := a } =
        { fs.foldl (fun c f => f.override env c) c with app := a }
  | [], _ => rfl
  | f :: fs, c => by
    rw [List.foldl_cons, List.foldl_cons, TypedField.override_app]
    exact foldl_override_app env a fs _

theorem environmentLayer_app (env : Environment) (c : Config) (a : Config.App) :
    environmentLayer env { c with app := a } = { environmentLayer env c with app := a } := by
  rw [environmentLayer_eq_foldl, environmentLayer_eq_foldl, foldl_override_app]

theorem credentialOverride_config (env : Environment) (var key : String)
    (set : Config.App → String → Config.App) (s : Snapshot) :
    ∃ a, (credentialOverride env var key set s).config = { s.config with app := a } := by
  unfold credentialOverride
  split
  · exact ⟨_, rfl⟩
  · exact ⟨s.config.app, rfl⟩

/-- The credential variables change the credentials alone. -/
theorem credentialOverrides_config (env : Environment) (s : Snapshot) :
    ∃ a, (credentialOverrides env s).config = { s.config with app := a } := by
  unfold credentialOverrides
  obtain ⟨a₁, h₁⟩ := credentialOverride_config env "KEYGATE_APP_API_KEY" "app.api_key"
    (fun a v => { a with apiKey := v }) s
  obtain ⟨a₂, h₂⟩ := credentialOverride_config env "KEYGATE_APP_APP_KEY" "app.app_key"
    (fun a v => { a with appKey := v }) (credentialOverride env "KEYGATE_APP_API_KEY" "app.api_key"
      (fun a v => { a with apiKey := v }) s)
  obtain ⟨a₃, h₃⟩ := credentialOverride_config env "KEYGATE_APP_PUBLIC_KEY" "app.public_key"
    (fun a v => { a with publicKey := v }) (credentialOverride env "KEYGATE_APP_APP_KEY" "app.app_key"
      (fun a v => { a with appKey := v }) (credentialOverride env "KEYGATE_APP_API_KEY" "app.api_key"
        (fun a v => { a with apiKey := v }) s))
  exact ⟨a₃, by rw [h₃, h₂, h₁]⟩

theorem whenGiven_config (env : Environment) (var : String)
    (read : String → Option (Snapshot → Snapshot)) (s : Snapshot)
    (hRead : ∀ v change, read v = some change → ∃ a, (change s).config = { s.config with app := a }) :
    ∃ a, (whenGiven env var read s).config = { s.config with app := a } := by
  unfold whenGiven
  dsimp only
  split
  · exact ⟨s.config.app, rfl⟩
  · split
    · next change hChange => exact hRead _ change hChange
    · exact ⟨s.config.app, rfl⟩

/-- A change of snapshots that acts on the typed configuration as `read'` does
acts on it as `givenBy` with `read'`. -/
theorem whenGiven_eq_givenBy {env : Environment} {var : String}
    {read : String → Option (Snapshot → Snapshot)} (read' : String → Option (Config → Config))
    (hRead : ∀ v s, ((read v).map fun change => (change s).config) = (read' v).map fun change => change s.config)
    (s : Snapshot) :
    (whenGiven env var read s).config = givenBy env var read' s.config := by
  unfold whenGiven givenBy
  dsimp only
  split
  · rfl
  · have h := hRead (env.get var) s
    cases hr : read (env.get var) <;> cases hr' : read' (env.get var) <;> simp_all

/-- Applying the environment overrides the typed fields as `environmentLayer`
does, and changes the credentials. -/
theorem applyEnvironment_config (env : Environment) (s : Snapshot) :
    ∃ a, (applyEnvironment env s).config = { environmentLayer env s.config with app := a } := by
  obtain ⟨a₁, h₁⟩ := credentialOverrides_config env s
  obtain ⟨a₂, h₂⟩ := whenGiven_config env "KEYGATE_APP_PUBLIC_ENABLED"
    (fun v => (Text.parseBool? v).map fun b s =>
      (s.mapConfig fun c => { c with app := { c.app with publicEnabled := b } }).setValue
        "app.public_enabled" (.bool b)) (credentialOverrides env s) (by
      intro v change hChange
      obtain ⟨b, -, rfl⟩ := Option.map_eq_some_iff.1 hChange
      exact ⟨_, rfl⟩)
  refine ⟨a₂, ?_⟩
  simp only [applyEnvironment, Snapshot.mapConfig_config]
  rw [whenGiven_eq_givenBy (textOverride fun c v =>
    { c with server := { c.server with listenAddress := v } }) (fun v s => rfl), h₂, h₁]
  exact environmentLayer_app env s.config a₂

/-! ## Loading -/

/-- A load that succeeds holds the environment's overrides of the parsed
configuration, with the credentials it resolved. -/
theorem load_config {w : World} {path : String} {snap : Snapshot} (h : load w path = .ok snap) :
    ∃ text s₀ a, readText w path = .ok text ∧ Snapshot.parse text = .ok s₀ ∧
      snap.config = { environmentLayer w.env s₀.config with app := a } := by
  obtain ⟨text, s₀, s, hText, hParse, hResolve, hAccept⟩ := load_eq_ok h
  obtain ⟨-, -, rfl⟩ := accept_eq_ok hAccept
  obtain ⟨s₂, hKeys, rfl⟩ := resolveSecrets_eq_ok hResolve
  have hKeep := (resolveKeys_find? hKeys (by simp) credentialKeys_nodup).1
  obtain ⟨a, hEnv⟩ := applyEnvironment_config w.env s₀
  refine ⟨text, s₀, Snapshot.appOf s₂.settings, hText, hParse, ?_⟩
  rw [Snapshot.syncApp_config, hKeep, hEnv]

/-- Every typed field outside the credentials of a loaded configuration holds
the value of its variable when that is set, not empty and reads as the field's
kind; otherwise the file's value when it is not zero (a truth value the file
holds always stands); otherwise its default.  So a field whose default is not
zero, of a kind that reads no zero (a text, `FieldKind.text_readsNonZero`, or
the bucket list, `FieldKind.reals_readsNonZero`), is not zero. -/
theorem load_follows_precedence {w : World} {path : String} {snap : Snapshot}
    (h : load w path = .ok snap) :
    ∃ text file, readText w path = .ok text ∧ fileConfig text = .ok file ∧
      ∀ f ∈ typedFields, f.get snap.config = f.expected w.env file ∧
        (f.kind.isZero f.default = false → f.kind.ReadsNonZero →
          f.kind.isZero (f.get snap.config) = false) := by
  obtain ⟨text, s₀, a, hText, hParse, hConfig⟩ := load_config h
  obtain ⟨file, hFile, hFields⟩ := parse_typed hParse
  refine ⟨text, file, hText, hFile, fun f hf => ?_⟩
  have hGet : f.get snap.config = f.expected w.env file := by
    rw [hConfig, f.get_app, get_environmentLayer _ _ f hf, hFields f hf]
    rfl
  refine ⟨hGet, fun hDefault hReads => ?_⟩
  rw [hGet]
  exact f.isZero_pick _ hReads (f.isZero_fromFile file hDefault)

/-- A world whose read timeout is set in the environment, and no file. -/
def readTimeoutFromEnvironment : World := { env := ⟨[("KEYGATE_SERVER_READ_TIMEOUT", "5s")]⟩ }

theorem load_follows_precedence_timeout :
    ∃ snap, load readTimeoutFromEnvironment "" = .ok snap ∧ snap.config.server.readTimeout = seconds 5 ∧
      ∃ text file, readText readTimeoutFromEnvironment "" = .ok text ∧ fileConfig text = .ok file ∧
        ∀ f ∈ typedFields, f.get snap.config = f.expected readTimeoutFromEnvironment.env file ∧
          (f.kind.isZero f.default = false → f.kind.ReadsNonZero →
            f.kind.isZero (f.get snap.config) = false) := by
  obtain ⟨snap, hLoad, hRead⟩ := exists_ok_of_check (x := load readTimeoutFromEnvironment "")
    (p := fun snap => snap.config.server.readTimeout.nanos == 5000000000) (by decide +kernel)
  refine ⟨snap, hLoad, ?_, load_follows_precedence hLoad⟩
  have hNanos : snap.config.server.readTimeout.nanos = (seconds 5).nanos := by
    simpa [seconds, Duration.second] using hRead
  exact congrArg Duration.mk hNanos

end Config

end Turnstile
