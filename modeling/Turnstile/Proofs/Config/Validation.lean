import Turnstile.Config.Validate
import Turnstile.Proofs.Server.Routes

/-!
# What validation reports

Validation is a list of rules, each about one field (`validationRules`).  The
cases in which a field is missing and in which it is malformed make one rule,
so a field breaks it at most once; the check timeout has two rules, one for
each bound.  `problems` reports exactly the fields of the rules a configuration
breaks, one for each, in the order of the rules (`problems_follow_rules`), so
a configuration has no problem exactly when it keeps every rule.

Two rules compare numbers as the floating-point standard does, and a NaN passes
both: the sample ratio is kept when it is NaN or lies between zero and one
(`ratioHolds_eq`), and the histogram buckets when each is below the next or
one of the two is NaN (`strictlyIncreasing_eq`).  A reload schedule whose zone
has no blank after it makes validation break down (`breakdown_ne_none_iff`).
-/

namespace Turnstile.Config

/-- A rule of validation: the field it is about, and when a configuration keeps
it. -/
structure Rule where
  field : String
  holds : Config → Bool

/-- The fields of the rules a configuration breaks, in order. -/
def broken (rules : List Rule) (c : Config) : List String :=
  (rules.filter fun r => !r.holds c).map Rule.field

@[simp]
theorem broken_nil (c : Config) : broken [] c = [] := rfl

@[simp]
theorem broken_cons (r : Rule) (rules : List Rule) (c : Config) :
    broken (r :: rules) c = (if r.holds c then [] else [r.field]) ++ broken rules c := by
  cases h : r.holds c <;> simp [broken, h]

@[simp]
theorem broken_append (rules rules' : List Rule) (c : Config) :
    broken (rules ++ rules') c = broken rules c ++ broken rules' c := by
  simp [broken, List.filter_append]

theorem broken_eq_nil_iff (rules : List Rule) (c : Config) :
    broken rules c = [] ↔ ∀ r ∈ rules, r.holds c = true := by
  simp [broken, List.filter_eq_nil_iff]

/-! ## The rules -/

/-- A duration that must not be negative. -/
def notNegative (field : String) (get : Config → Duration) : Rule :=
  ⟨field, fun c => decide (0 ≤ (get c).nanos)⟩

/-- A text that must be given when its section is enabled. -/
def givenWhen (field : String) (enabled : Config → Bool) (get : Config → String) : Rule :=
  ⟨field, fun c => !enabled c || !(get c).isEmpty⟩

/-- A path that must start with `/` when its section is enabled. -/
def rootedWhen (field : String) (enabled : Config → Bool) (get : Config → String) : Rule :=
  ⟨field, fun c => !enabled c || (get c).startsWith "/"⟩

/-- Each number is below the next, as the standard compares them: a pair with a
NaN passes. -/
def increasing (bs : List Binary64) : Bool :=
  (bs.zip bs.tail).all fun (a, b) => a.isNaN || b.isNaN || Binary64.lt a b

/-- A number that is NaN or lies between zero and one. -/
def ratioHolds (r : Binary64) : Bool :=
  r.isNaN || (Binary64.le (Binary64.zero false) r && Binary64.le r (Binary64.ofInt 1))

/-- The rules of the server section. -/
def serverRules : List Rule :=
  [ ⟨"server.listen_address", fun c =>
      !c.server.listenAddress.isEmpty && (Net.splitHostPort c.server.listenAddress).toOption.isSome⟩,
    notNegative "server.read_timeout" (·.server.readTimeout),
    notNegative "server.write_timeout" (·.server.writeTimeout),
    notNegative "server.idle_timeout" (·.server.idleTimeout),
    notNegative "server.shutdown_timeout" (·.server.shutdownTimeout),
    ⟨"server.max_header_bytes", fun c => decide (0 ≤ c.server.maxHeaderBytes)⟩ ]

/-- The rules of the reload section. -/
def reloadRules : List Rule :=
  [ notNegative "reload.debounce" (·.reload.debounce),
    ⟨"reload.schedule", fun c =>
      c.reload.schedule.isEmpty || (Cron.parseStandard c.reload.schedule).toOption.isSome⟩ ]

/-- The rules of the telemetry section. -/
def telemetryRules : List Rule :=
  [ ⟨"telemetry.logging.level", fun c => ["debug", "info", "warn", "error"].contains c.telemetry.logging.level⟩,
    ⟨"telemetry.logging.format", fun c => ["json", "text"].contains c.telemetry.logging.format⟩,
    rootedWhen "telemetry.metrics.path" (·.telemetry.metrics.enabled) (·.telemetry.metrics.path),
    ⟨"telemetry.metrics.request_duration_buckets", fun c =>
      !c.telemetry.metrics.enabled || increasing c.telemetry.metrics.buckets⟩,
    ⟨"telemetry.tracing.sampler", fun c =>
      !c.telemetry.tracing.enabled || ["always", "never", "ratio"].contains c.telemetry.tracing.sampler⟩,
    ⟨"telemetry.tracing.exporter", fun c =>
      !c.telemetry.tracing.enabled || c.telemetry.tracing.exporter == "otlp"⟩,
    givenWhen "telemetry.tracing.endpoint" (·.telemetry.tracing.enabled) (·.telemetry.tracing.endpoint),
    ⟨"telemetry.tracing.sample_ratio", fun c => ratioHolds c.telemetry.tracing.sampleRatio⟩,
    rootedWhen "telemetry.health.liveness_path" (·.telemetry.health.enabled)
      (·.telemetry.health.livenessPath),
    rootedWhen "telemetry.health.readiness_path" (·.telemetry.health.enabled)
      (·.telemetry.health.readinessPath),
    rootedWhen "telemetry.health.version_path" (·.telemetry.health.enabled)
      (·.telemetry.health.versionPath),
    ⟨"telemetry.health.check_timeout", fun c =>
      !c.telemetry.health.enabled || decide (0 ≤ c.telemetry.health.checkTimeout.nanos)⟩,
    ⟨"telemetry.health.check_timeout", fun c =>
      !c.telemetry.health.enabled || decide (c.telemetry.health.checkTimeout.nanos ≤ 60 * Duration.second)⟩ ]

/-- The rules of the security section. -/
def securityRules : List Rule :=
  [ givenWhen "security.tls.cert_file" (·.security.tls.enabled) (·.security.tls.certFile),
    givenWhen "security.tls.key_file" (·.security.tls.enabled) (·.security.tls.keyFile),
    notNegative "security.tls.reload_interval" (·.security.tls.reloadInterval) ]

/-- Every rule, section by section. -/
def validationRules : List Rule := serverRules ++ reloadRules ++ telemetryRules ++ securityRules

/-! ## Comparing numbers -/

theorem zero_isNaN : (Binary64.zero false).isNaN = false := by decide

theorem one_isNaN : (Binary64.ofInt 1).isNaN = false := by decide

/-- `b ≤ a` fails exactly when one of them is NaN or `a < b`. -/
theorem not_le_eq (a b : Binary64) : (!Binary64.le b a) = (a.isNaN || b.isNaN || Binary64.lt a b) := by
  unfold Binary64.le Binary64.lt
  cases a.isNaN <;> cases b.isNaN <;> simp only [Bool.not_true, Bool.not_false, Bool.true_and,
    Bool.false_and, Bool.and_false, Bool.true_or, Bool.false_or, Bool.or_true, ← decide_not, Int.not_le]

/-- The bucket check is `increasing`: a pair with a NaN passes it. -/
theorem strictlyIncreasing_eq : ∀ bs : List Binary64, strictlyIncreasing bs = increasing bs
  | [] => rfl
  | [_] => rfl
  | a :: b :: rest => by
    rw [strictlyIncreasing, strictlyIncreasing_eq (b :: rest), not_le_eq]
    rfl

/-- The sample ratio passes its check exactly when it is NaN or lies between zero
and one. -/
theorem ratioHolds_eq (r : Binary64) :
    ratioHolds r = !(Binary64.lt r (Binary64.zero false) || Binary64.lt (Binary64.ofInt 1) r) := by
  unfold ratioHolds Binary64.lt Binary64.le
  rw [zero_isNaN, one_isNaN]
  cases r.isNaN <;> simp only [Bool.not_true, Bool.not_false, Bool.true_and, Bool.false_and,
    Bool.and_false, Bool.and_true, Bool.false_or, Bool.or_false, Bool.not_or, ← decide_not, Int.not_lt]

/-! ## The fields of each piece

Each piece of a section's check reports one field under one condition; these
lemmas read off that field and condition. -/

theorem fields_ite (p : Prop) [Decidable p] (e : FieldError) :
    (if p then [e] else []).map FieldError.field = if ¬p then [] else [e.field] := by
  by_cases h : p <;> simp [h]

theorem fields_ite_nil (p : Prop) [Decidable p] (e : FieldError) :
    (if p then [] else [e]).map FieldError.field = if p then [] else [e.field] := by
  by_cases h : p <;> simp [h]

/-- A path that is missing or does not start with `/` is one problem. -/
theorem fields_rooted (field value m₁ m₂ : String) :
    (if value.isEmpty then [(⟨field, m₁⟩ : FieldError)]
      else if !value.startsWith "/" then [⟨field, m₂⟩] else []).map FieldError.field =
      if value.startsWith "/" then [] else [field] := by
  by_cases hEmpty : value.isEmpty
  · have hValue : value = "" := String.isEmpty_iff.1 hEmpty
    subst hValue
    simp
  · cases value.startsWith "/" <;> simp [hEmpty]

/-- A text that is missing or not among the known ones is one problem, as the
empty text is not known. -/
theorem fields_member (field value m₁ m₂ : String) (known : List String) (hKnown : "" ∉ known) :
    (if value.isEmpty then [(⟨field, m₁⟩ : FieldError)]
      else if known.contains value then [] else [⟨field, m₂⟩]).map FieldError.field =
      if known.contains value then [] else [field] := by
  by_cases hEmpty : value.isEmpty
  · have hValue : value = "" := String.isEmpty_iff.1 hEmpty
    subst hValue
    simp [hKnown]
  · cases known.contains value <;> simp [hEmpty]

/-- Durations checked in turn each report their own field when negative. -/
theorem fields_filterMap_negative (m : String) (ts : List (String × Duration)) :
    (ts.filterMap fun x => if x.2.nanos < 0 then some (⟨x.1, m⟩ : FieldError) else none).map
        FieldError.field = ts.flatMap fun x => if 0 ≤ x.2.nanos then [] else [x.1] := by
  induction ts with
  | nil => rfl
  | cons t ts ih =>
    by_cases h : t.2.nanos < 0
    · simp [h, ih, Int.not_le.2 h]
    · simp [h, ih, Int.not_lt.1 h]

/-! ## The sections -/

theorem serverErrors_fields (c : Config) :
    (serverErrors c.server).map FieldError.field = broken serverRules c := by
  simp only [serverErrors, serverRules, notNegative, broken_cons, broken_nil, List.map_append,
    fields_filterMap_negative, fields_ite]
  by_cases hEmpty : c.server.listenAddress.isEmpty
  · simp [hEmpty]
  · cases Net.splitHostPort c.server.listenAddress <;> simp [hEmpty, Except.toOption]

theorem reloadErrors_fields (c : Config) :
    (reloadErrors c.reload).map FieldError.field = broken reloadRules c := by
  simp only [reloadErrors, reloadRules, notNegative, broken_cons, broken_nil, List.map_append, fields_ite]
  by_cases hEmpty : c.reload.schedule.isEmpty
  · simp [hEmpty]
  · cases Cron.parseStandard c.reload.schedule <;> simp [hEmpty, Except.toOption]

theorem telemetryErrors_fields (c : Config) :
    (telemetryErrors c.telemetry).map FieldError.field = broken telemetryRules c := by
  simp only [telemetryErrors, telemetryRules, pathErrors, rootedWhen, givenWhen, broken_cons, broken_nil]
  -- the switches decide which blocks are checked; each piece then reports its own rule
  cases c.telemetry.metrics.enabled <;> cases c.telemetry.tracing.enabled <;>
    cases c.telemetry.health.enabled <;>
    simp only [Bool.not_true, Bool.not_false, Bool.false_eq_true, Bool.true_or, Bool.false_or, ↓reduceIte,
      List.map_append, List.map_nil, fields_rooted, fields_ite, fields_ite_nil, strictlyIncreasing_eq,
      ratioHolds_eq, fields_member _ _ _ _ ["debug", "info", "warn", "error"] (by decide),
      fields_member _ _ _ _ ["json", "text"] (by decide)] <;>
    simp

theorem securityErrors_fields (c : Config) :
    (securityErrors c.security).map FieldError.field = broken securityRules c := by
  simp only [securityErrors, securityRules, notNegative, givenWhen, broken_cons, broken_nil]
  cases c.security.tls.enabled <;>
    simp only [Bool.not_true, Bool.not_false, Bool.false_eq_true, Bool.true_or, Bool.false_or, ↓reduceIte,
      List.map_append, List.map_nil, fields_ite] <;>
    simp

/-! ## Validation -/

/-- Validation breaks down exactly on a given schedule whose zone has no blank
after it. -/
theorem breakdown_ne_none_iff (c : Config) :
    breakdown c ≠ none ↔
      c.reload.schedule ≠ "" ∧ Cron.parseStandard c.reload.schedule = .error .zoneUnended := by
  unfold breakdown
  by_cases hEmpty : c.reload.schedule.isEmpty
  · simp [String.isEmpty_iff.1 hEmpty]
  · have hGiven : c.reload.schedule ≠ "" := fun h => hEmpty (String.isEmpty_iff.2 h)
    cases hParse : Cron.parseStandard c.reload.schedule with
    | ok s => simp [hEmpty]
    | error e => cases e <;> simp [hEmpty, hGiven]

/-- The problems of a configuration are the rules it breaks, one for each, in the
order of the rules, so it has none exactly when it keeps them all; and
validation breaks down exactly on a schedule whose zone has no blank after it. -/
theorem problems_follow_rules (c : Config) :
    (problems c).map FieldError.field = broken validationRules c ∧
      (problems c = [] ↔ ∀ r ∈ validationRules, r.holds c = true) ∧
      (breakdown c ≠ none ↔
        c.reload.schedule ≠ "" ∧ Cron.parseStandard c.reload.schedule = .error .zoneUnended) := by
  have hFields : (problems c).map FieldError.field = broken validationRules c := by
    simp only [problems, validationRules, List.map_append, broken_append, serverErrors_fields,
      reloadErrors_fields, telemetryErrors_fields, securityErrors_fields]
  refine ⟨hFields, ?_, breakdown_ne_none_iff c⟩
  rw [← broken_eq_nil_iff, ← hFields, List.map_eq_nil_iff]

/-- A file that sets the sample ratio to NaN. -/
def nanRatioText : String := "telemetry:\n  tracing:\n    sample_ratio: .nan\n"

/-- The file reads as a configuration whose sample ratio is NaN, which lies
between no numbers, and validation finds no problem with it. -/
theorem nan_sample_ratio_accepted :
    ∃ s, Snapshot.parse nanRatioText = .ok s ∧ s.config.telemetry.tracing.sampleRatio.isNaN = true ∧
      breakdown s.config = none ∧ problems s.config = [] := by
  obtain ⟨s, hParse, hCheck⟩ := exists_ok_of_check (x := Snapshot.parse nanRatioText)
    (p := fun s => s.config.telemetry.tracing.sampleRatio.isNaN && (breakdown s.config).isNone &&
      (problems s.config).isEmpty) (by decide +kernel)
  simp only [Bool.and_eq_true, Option.isNone_iff_eq_none, List.isEmpty_iff] at hCheck
  exact ⟨s, hParse, hCheck.1.1, hCheck.1.2, hCheck.2⟩

end Turnstile.Config
