import Turnstile.Proofs.Server.Routes
import Turnstile.Proofs.Config.Loading

/-!
# Which accepted configurations give a handler

Building a handler registers its table of routes one after another, and a
router refuses an empty pattern and a pattern it already has.  Validation
checks each health path and the metrics path on its own: present, and starting
with `/`.  It does not compare them with each other, with the tier routes or
with `/`, so an accepted configuration can ask for a path twice.

* A table registers in full exactly when its patterns are non-empty and
  pairwise distinct (`Mux.registerAll_distinct`, `build_ok_iff`).
* An accepted configuration has non-empty paths (`paths_of_problems_nil`), so
  its handler builds exactly when the paths it registers are pairwise distinct
  (`accepted_handler_builds_iff_distinct`).
* A metrics path set to the liveness path passes validation and stops the
  handler from being built (`metrics_on_health_path_breaks_handler`).
-/

namespace Turnstile

namespace Http.Mux

variable {α : Type}

/-- A registration that succeeds was of a non-empty pattern the router did not
have. -/
theorem register_eq_ok {m m' : Mux α} {pattern : String} {h : α}
    (hReg : m.register pattern h = .ok m') :
    pattern ≠ "" ∧ pattern ∉ m.entries.map (·.1) ∧ m'.entries = m.entries ++ [(pattern, h)] := by
  unfold register at hReg
  split at hReg
  · cases hReg
  · rename_i hEmpty
    split at hReg
    · cases hReg
    · rename_i hNew
      cases hReg
      refine ⟨fun hp => hEmpty (by simp [hp]), fun hMem => hNew ?_, rfl⟩
      obtain ⟨e, he, rfl⟩ := List.mem_map.1 hMem
      exact List.any_eq_true.2 ⟨e, he, by simp⟩

/-- A table registered in full had non-empty patterns, all new and pairwise
distinct. -/
theorem registerAll_distinct {m m' : Mux α} {routes : List (String × α)}
    (h : m.registerAll routes = .ok m') (hm : (m.entries.map (·.1)).Nodup) :
    (∀ r ∈ routes, r.1 ≠ "") ∧ ((m.entries ++ routes).map (·.1)).Nodup := by
  induction routes generalizing m with
  | nil => simpa using hm
  | cons r rest ih =>
    obtain ⟨pattern, x⟩ := r
    obtain ⟨m₁, h₁, hRest⟩ := except_bind_eq_ok h
    obtain ⟨hPattern, hNew, hEntries⟩ := register_eq_ok h₁
    -- the router after the first registration still has distinct patterns
    have hm₁ : (m₁.entries.map (·.1)).Nodup := by
      rw [hEntries, List.map_append, List.map_singleton, List.nodup_append]
      refine ⟨hm, by simp, fun a ha b hb hab => hNew ?_⟩
      have hSame : b = pattern := List.mem_singleton.1 hb
      exact (hab.trans hSame) ▸ ha
    obtain ⟨hNonempty, hNodup⟩ := ih hRest hm₁
    refine ⟨fun r hr => ?_, ?_⟩
    · rcases List.mem_cons.1 hr with rfl | hr
      · exact hPattern
      · exact hNonempty r hr
    · rw [hEntries, List.append_assoc, List.singleton_append] at hNodup
      exact hNodup

end Http.Mux

namespace Config

/-- A path with no problems is not empty. -/
theorem ne_empty_of_pathErrors_nil {field value missing : String}
    (h : pathErrors field value missing = []) : value ≠ "" := by
  rintro rfl
  simp [pathErrors] at h

/-- A configuration without problems has non-empty health paths when health
endpoints are enabled, and a non-empty metrics path when metrics are. -/
theorem paths_of_problems_nil {c : Config} (h : problems c = []) :
    (c.telemetry.health.enabled = true → c.telemetry.health.livenessPath ≠ "" ∧
      c.telemetry.health.readinessPath ≠ "" ∧ c.telemetry.health.versionPath ≠ "") ∧
    (c.telemetry.metrics.enabled = true → c.telemetry.metrics.path ≠ "") := by
  have hTelemetry : telemetryErrors c.telemetry = [] := by
    simp only [problems, List.append_eq_nil_iff] at h
    exact h.1.2
  simp only [telemetryErrors, List.append_eq_nil_iff] at hTelemetry
  obtain ⟨⟨⟨⟨⟨-, -⟩, hMetrics⟩, -⟩, -⟩, hHealth⟩ := hTelemetry
  refine ⟨fun hOn => ?_, fun hOn => ?_⟩
  · simp only [hOn, Bool.not_true, Bool.false_eq_true, if_false, List.append_eq_nil_iff] at hHealth
    obtain ⟨⟨⟨⟨hLive, hReady⟩, hVersion⟩, -⟩, -⟩ := hHealth
    exact ⟨ne_empty_of_pathErrors_nil hLive, ne_empty_of_pathErrors_nil hReady,
      ne_empty_of_pathErrors_nil hVersion⟩
  · simp only [hOn, Bool.not_true, Bool.false_eq_true, if_false, List.append_eq_nil_iff] at hMetrics
    intro hEmpty
    simp [hEmpty] at hMetrics

/-- An accepted snapshot has no problems. -/
theorem problems_of_load {w : Host.World} {path : String} {snap : Snapshot}
    (h : load w path = .ok snap) : problems snap.config = [] := by
  obtain ⟨-, -, s, -, -, -, hAccept⟩ := load_eq_ok h
  obtain ⟨-, hProblems, rfl⟩ := accept_eq_ok hAccept
  exact hProblems

end Config

namespace Server

open Http Config Credential

/-- A handler builds exactly when the paths of its table are non-empty and
pairwise distinct. -/
theorem build_ok_iff (c : Config) (metricsWired : Bool) (info : Health.VersionInfo) (startedAt : Int) :
    (∃ h, Handler.build c metricsWired info startedAt = .ok h) ↔
      (∀ r ∈ routesOf c metricsWired, r.1 ≠ "") ∧ ((routesOf c metricsWired).map (·.1)).Nodup := by
  rw [build_eq]
  constructor
  · rintro ⟨h, hb⟩
    cases hReg : ({} : Mux Route).registerAll (routesOf c metricsWired) with
    | error e =>
      rw [hReg] at hb
      cases hb
    | ok mux => simpa using Mux.registerAll_distinct hReg (by simp)
  · rintro ⟨hNonempty, hNodup⟩
    rw [Mux.registerAll_of_nodup hNonempty (by simpa using hNodup)]
    exact ⟨_, rfl⟩

/-- The paths of a configuration without problems are not empty. -/
theorem routesOf_nonempty {c : Config} (h : problems c = []) (metricsWired : Bool) :
    ∀ r ∈ routesOf c metricsWired, r.1 ≠ "" := by
  obtain ⟨hHealth, hMetrics⟩ := paths_of_problems_nil h
  intro r hr
  simp only [routesOf, List.mem_append, List.mem_cons, List.not_mem_nil, or_false] at hr
  -- the tier routes and `/`, then the health and metrics paths where they are registered
  rcases hr with ((hTier | hOptional) | hMetric) | rfl
  · simp only [Tier.all, authRoute, List.map_cons, List.map_nil, List.mem_cons,
      List.not_mem_nil, or_false] at hTier
    rcases hTier with rfl | rfl | rfl <;> decide
  · split at hOptional
    · rename_i hOn
      obtain ⟨hLive, hReady, hVersion⟩ := hHealth hOn
      simp only [List.mem_cons, List.not_mem_nil, or_false] at hOptional
      rcases hOptional with rfl | rfl | rfl <;> assumption
    · cases hOptional
  · split at hMetric
    · rename_i hOn
      simp only [List.mem_cons, List.not_mem_nil, or_false] at hMetric
      subst hMetric
      exact hMetrics (Bool.and_eq_true_iff.1 hOn).2
    · cases hMetric
  · decide

/-- The handler of an accepted configuration builds exactly when the paths it
registers (the three tier routes, the health paths when they are enabled, the
metrics path when a collector is wired and metrics are enabled, and `/`) are
pairwise distinct. -/
theorem accepted_handler_builds_iff_distinct {w : Host.World} {path : String} {snap : Snapshot}
    (h : load w path = .ok snap) (metricsWired : Bool) (info : Health.VersionInfo) (startedAt : Int) :
    (∃ handler, Handler.build snap.config metricsWired info startedAt = .ok handler) ↔
      ((routesOf snap.config metricsWired).map (·.1)).Nodup := by
  rw [build_ok_iff]
  exact and_iff_right (routesOf_nonempty (problems_of_load h) metricsWired)

/-- The defaults register distinct paths, so they build a handler with a
collector wired. -/
theorem accepted_handler_builds_iff_distinct_defaults :
    ∃ snap, load {} "" = .ok snap ∧ ∃ handler, Handler.build snap.config true {} 0 = .ok handler := by
  obtain ⟨snap, hLoad, hNodup⟩ := exists_ok_of_check (x := load {} "")
    (p := fun snap => decide (((routesOf snap.config true).map Prod.fst).Nodup)) (by decide +kernel)
  exact ⟨snap, hLoad, (accepted_handler_builds_iff_distinct hLoad true {} 0).2 (by simpa using hNodup)⟩

/-- A world whose metrics path, set in the environment, is the liveness path. -/
def metricsOnHealthPath : Host.World := { env := ⟨[("KEYGATE_TELEMETRY_METRICS_PATH", "/health")]⟩ }

/-- A metrics path equal to the liveness path is accepted, and the handler of a
service with a collector cannot be built from it, whenever it is built. -/
theorem metrics_on_health_path_breaks_handler :
    ∃ snap, load metricsOnHealthPath "" = .ok snap ∧ ∀ startedAt,
      Handler.build snap.config true {} startedAt = .error "http: multiple registrations for /health" := by
  obtain ⟨snap, hLoad, hRefused⟩ := exists_ok_of_check (x := load metricsOnHealthPath "")
    (p := fun snap => match ({} : Mux Route).registerAll (routesOf snap.config true) with
      | .error e => e == "http: multiple registrations for /health"
      | .ok _ => false) (by decide +kernel)
  refine ⟨snap, hLoad, fun startedAt => ?_⟩
  -- registering the table fails, whatever the instant the checks are made for
  rw [build_eq]
  cases hReg : ({} : Mux Route).registerAll (routesOf snap.config true) with
  | error e =>
    rw [hReg] at hRefused
    simp only [beq_iff_eq] at hRefused
    rw [hRefused]
    rfl
  | ok mux =>
    rw [hReg] at hRefused
    cases hRefused

end Server

end Turnstile
