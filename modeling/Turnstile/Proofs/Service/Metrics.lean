import Turnstile.Proofs.Config.Reload
import Turnstile.Proofs.Server.AuthRoutes

/-!
# The metrics follow the store

A service that wires its collector to the configuration store shows the store's
state in three families:

* `config_version` is the version of the active snapshot;
* `auth_tier_state` has, for each tier, one series per state: one for the
  tier's state under the active snapshot and zero for the other two;
* `config_reloads_total` counts reload attempts by trigger and result.

The gauges are set only when a snapshot becomes active, at start and by a
successful reload, while the counter moves on every attempt.  `Tracks` says
that the gauges show the active snapshot.  It holds once the service has
started with metrics enabled (`start_tracks`), and one reload keeps it, a
failed one because neither the snapshot nor the gauges move and a successful
one because the collector observes the new snapshot after counting the attempt
(`reload_tracks`).  Over any run of reloads, each reading the world of its
time, the gauges therefore show the last active snapshot and the counter holds,
for each trigger and result, the number of calls that had them
(`metrics_follow_store`).
-/

namespace Turnstile

open Credential Config Host Service

namespace Metrics.Collector

/-! ## Reading the families -/

/-- The value of the state series of tier `t` and state `st`, if it is set. -/
def tierGauge (c : Collector) (t : Tier) (st : TierState) : Option Nat :=
  (c.tierStates.lookup (st.name, t.name)).map fun on => if on then 1 else 0

/-- The count of reload attempts with the given trigger and result. -/
def reloadCount (c : Collector) (trigger result : String) : Nat :=
  countOf c.reloads (result, trigger)

/-! ## What recording and observing change -/

@[simp]
theorem recordReload_enabled (c : Collector) (trigger result : String) :
    (c.recordReload trigger result).enabled = c.enabled := by
  unfold recordReload; split <;> rfl

@[simp]
theorem recordReload_version (c : Collector) (trigger result : String) :
    (c.recordReload trigger result).version = c.version := by
  unfold recordReload; split <;> rfl

@[simp]
theorem recordReload_tierStates (c : Collector) (trigger result : String) :
    (c.recordReload trigger result).tierStates = c.tierStates := by
  unfold recordReload; split <;> rfl

/-- An enabled collector counts one more attempt with the trigger and result. -/
theorem reloadCount_recordReload {c : Collector} (hOn : c.enabled = true)
    (trigger result trigger' result' : String) :
    (c.recordReload trigger result).reloadCount trigger' result' =
      c.reloadCount trigger' result' + if (trigger', result') = (trigger, result) then 1 else 0 := by
  simp only [recordReload, hOn, if_true, reloadCount, countOf_bump, Prod.mk.injEq]
  by_cases hTrigger : trigger' = trigger <;> simp [hTrigger, and_comm]

@[simp]
theorem observe_enabled (c : Collector) (version : Nat) (src : Source) :
    (c.observe version src).enabled = c.enabled := by
  unfold observe; split <;> rfl

@[simp]
theorem observe_reloads (c : Collector) (version : Nat) (src : Source) :
    (c.observe version src).reloads = c.reloads := by
  unfold observe; split <;> rfl

theorem observe_version {c : Collector} (hOn : c.enabled = true) (version : Nat) (src : Source) :
    (c.observe version src).version = version := by
  simp [observe, hOn]

/-- The series that observing sets, one for each tier and state, read back. -/
theorem lookup_tierSeries (src : Source) (t : Tier) (st : TierState) :
    (Tier.all.flatMap fun t => TierState.all.map fun s => ((s.name, t.name), stateOf src t == s)).lookup
      (st.name, t.name) = some (stateOf src t == st) := by
  cases t <;> cases st <;> rfl

/-- Entries kept because their key is not among `new`'s do not hide a key of `new`. -/
theorem lookup_filter_of_any {β : Type} (old new : List ((String × String) × β)) (k : String × String)
    (hNew : new.any (·.1 == k) = true) :
    (old.filter fun e => !new.any (·.1 == e.1)).lookup k = none := by
  induction old with
  | nil => rfl
  | cons e rest ih =>
    obtain ⟨k', v⟩ := e
    cases hKept : new.any (·.1 == k') with
    | true => simpa [List.filter_cons, hKept] using ih
    | false =>
      -- a kept entry has a key that `new` does not have, so not `k`
      have hNe : k ≠ k' := by
        rintro rfl
        rw [hNew] at hKept
        cases hKept
      simp only [List.filter_cons, hKept, Bool.not_false, if_true, List.lookup_cons,
        beq_eq_false_iff_ne.2 hNe]
      exact ih

/-- Observing a snapshot sets every tier's series to one for its state and to
zero for the others, whatever the series showed before. -/
theorem tierGauge_observe {c : Collector} (hOn : c.enabled = true) (version : Nat) (src : Source)
    (t : Tier) (st : TierState) :
    (c.observe version src).tierGauge t st = some (if st = stateOf src t then 1 else 0) := by
  have hSeries := lookup_tierSeries src t st
  have hKey : (Tier.all.flatMap fun t => TierState.all.map fun s =>
      ((s.name, t.name), stateOf src t == s)).any (·.1 == (st.name, t.name)) = true := by
    rw [any_fst_beq_eq_isSome_lookup, hSeries]
    rfl
  simp only [tierGauge, observe, hOn, if_true, List.lookup_append,
    lookup_filter_of_any _ _ _ hKey, Option.none_or, hSeries, Option.map_some]
  by_cases hState : st = stateOf src t
  · simp [hState]
  · simp [hState, Ne.symm hState]

/-- A collector that is made records what its settings say, and nothing yet. -/
theorem create_eq_ok {cfg : Config.Metrics} {c : Collector} (h : create cfg = .ok c) :
    c.enabled = cfg.enabled ∧ c.reloads = [] := by
  unfold create at h
  by_cases hValid : validMetricName
      ((if cfg.namespace_.isEmpty then "keygate" else cfg.namespace_) ++ "_auth_decisions_total") = true
  · rw [if_pos hValid] at h
    cases h
    exact ⟨rfl, rfl⟩
  · rw [if_neg hValid] at h
    cases h

end Metrics.Collector

namespace Service.Session

open Metrics Metrics.Collector

/-! ## One reload -/

/-- The result label of a reload call. -/
def resultLabel (r : Except LoadError Nat) : String :=
  if r.toBool then "success" else "failure"

/-- What one reload does to the session's store and collector: a failure keeps
the store and counts a failed attempt; a success makes the reloaded store
active, counts a successful attempt, then observes the new snapshot. -/
theorem reload_cases (s : Session) (trigger : String) :
    ((s.reload trigger).1.store = s.store ∧ resultLabel (s.reload trigger).2 = "failure" ∧
      (s.reload trigger).1.collector = s.collector.map (·.recordReload trigger "failure")) ∨
    ((s.reload trigger).1.store.current.version = s.store.version + 1 ∧
      resultLabel (s.reload trigger).2 = "success" ∧
      (s.reload trigger).1.collector = s.collector.map fun c =>
        (c.recordReload trigger "success").observe (s.reload trigger).1.store.current.version
          (s.reload trigger).1.store.current.settings.source) := by
  unfold reload Store.reloadWith
  split
  · rename_i st hReload
    right
    refine ⟨Store.reload_version _ _ _ hReload, rfl, ?_⟩
    simp [subscribers, Subscribers.notify, Subscribers.record, Subscribers.onChange,
      Subscribers.setObserver]
    rfl
  · left
    exact ⟨rfl, rfl, by simp [subscribers, Subscribers.record, Subscribers.onChange,
      Subscribers.setObserver]⟩

/-! ## The gauges show the active snapshot -/

/-- The collector `c` shows the active snapshot of session `s`: it records, its
version gauge is the snapshot's version, and each tier's state series are one
for the tier's state and zero for the other states. -/
structure Tracks (s : Session) (c : Collector) : Prop where
  enabled : c.enabled = true
  version : c.version = s.snapshot.version
  tierStates : ∀ t st,
    c.tierGauge t st = some (if st = stateOf s.snapshot.settings.source t then 1 else 0)

/-- A collector that records and has observed a snapshot shows it. -/
theorem tracks_observe {s : Session} {c : Collector} (hOn : c.enabled = true) :
    Tracks s (c.observe s.snapshot.version s.snapshot.settings.source) where
  enabled := by simp [hOn]
  version := observe_version hOn _ _
  tierStates := tierGauge_observe hOn _ _

/-- A service started with metrics enabled shows its first snapshot and has
counted no reload. -/
theorem start_tracks {w : World} {path : String} {info : Health.VersionInfo} {s : Session}
    (hStart : start w path true info = .ok s)
    (hOn : s.snapshot.config.telemetry.metrics.enabled = true) :
    ∃ c, s.collector = some c ∧ Tracks s c ∧ c.reloads = [] := by
  obtain ⟨store, hOpen, hRest⟩ := Turnstile.except_bind_eq_ok hStart
  cases hCreate : create store.current.config.telemetry.metrics with
  | error m =>
    simp only [hCreate, if_true] at hRest
    cases hRest
  | ok c =>
    simp only [hCreate, if_true] at hRest
    cases hRest
    -- the session's snapshot is the opened store's
    obtain ⟨hEnabled, hReloads⟩ := create_eq_ok hCreate
    exact ⟨_, rfl, tracks_observe (hEnabled.trans hOn), by simp [hReloads]⟩

/-- A reload keeps the collector showing the active snapshot, and counts its
own attempt under its trigger and result. -/
theorem reload_tracks {s : Session} {c : Collector} (hc : s.collector = some c) (hTracks : Tracks s c)
    (trigger : String) :
    ∃ c', (s.reload trigger).1.collector = some c' ∧ Tracks (s.reload trigger).1 c' ∧
      ∀ trigger' result, c'.reloadCount trigger' result = c.reloadCount trigger' result +
        if (trigger', result) = (trigger, resultLabel (s.reload trigger).2) then 1 else 0 := by
  rcases reload_cases s trigger with ⟨hStore, hResult, hCollector⟩ | ⟨-, hResult, hCollector⟩
  · -- a failure: the snapshot and the gauges stay, the counter moves
    rw [hc] at hCollector
    refine ⟨_, hCollector, ?_, fun trigger' result => ?_⟩
    · have hSnap : (s.reload trigger).1.snapshot = s.snapshot := congrArg Store.current hStore
      exact { enabled := by simp [hTracks.enabled]
              version := by simp [hSnap, hTracks.version]
              tierStates := by simpa [tierGauge, hSnap] using hTracks.tierStates }
    · rw [hResult, reloadCount_recordReload hTracks.enabled]
  · -- a success: the counter moves first, then the new snapshot is observed
    rw [hc] at hCollector
    refine ⟨_, hCollector, tracks_observe (by simp [hTracks.enabled]), fun trigger' result => ?_⟩
    rw [hResult, reloadCount, observe_reloads, ← reloadCount,
      reloadCount_recordReload hTracks.enabled]

/-! ## Runs of reloads -/

/-- Reload call after call, each reading the world of its time with its own
trigger.  Gives the session at the end, and each call's trigger with its
result. -/
def reloadCalls : List (World × String) → Session → Session × List (String × String)
  | [], s => (s, [])
  | (w, trigger) :: calls, s =>
    let step := (s.setWorld w).reload trigger
    let rest := reloadCalls calls step.1
    (rest.1, (trigger, resultLabel step.2) :: rest.2)

/-- Over any run of reloads the collector keeps showing the active snapshot,
and its counter grows by the calls of the run. -/
theorem reloadCalls_tracks (calls : List (World × String)) {s : Session} {c : Collector}
    (hc : s.collector = some c) (hTracks : Tracks s c) :
    ∃ c', (reloadCalls calls s).1.collector = some c' ∧ Tracks (reloadCalls calls s).1 c' ∧
      ∀ trigger result, c'.reloadCount trigger result =
        c.reloadCount trigger result + (reloadCalls calls s).2.count (trigger, result) := by
  -- induction on the calls; the session and collector after the first call carry the invariant
  induction calls generalizing s c with
  | nil => exact ⟨c, hc, hTracks, fun _ _ => rfl⟩
  | cons call calls ih =>
    obtain ⟨w, trigger⟩ := call
    -- a new world changes neither the store nor the collector
    have hTracksW : Tracks (s.setWorld w) c :=
      { enabled := hTracks.enabled, version := hTracks.version, tierStates := hTracks.tierStates }
    obtain ⟨c₁, hc₁, hTracks₁, hCount₁⟩ := reload_tracks (s := s.setWorld w) hc hTracksW trigger
    obtain ⟨c', hc', hTracks', hCount'⟩ := ih hc₁ hTracks₁
    refine ⟨c', hc', hTracks', fun trigger' result => ?_⟩
    simp only [reloadCalls, List.count_cons, beq_iff_eq]
    rw [hCount', hCount₁]
    by_cases hCall : (trigger', result) = (trigger, resultLabel ((s.setWorld w).reload trigger).2)
    · rw [if_pos hCall, if_pos hCall.symm]
      omega
    · rw [if_neg hCall, if_neg (Ne.symm hCall)]
      omega

/-- Metrics wired to the store as the service wires them, with metrics enabled
in the first configuration: after any run of reloads, with any triggers and
whether each succeeds or fails, the version gauge is the active snapshot's
version, each tier's state series are one for its state under the active
snapshot and zero for the others, and the reload counter holds, for each
trigger and result, the number of calls with that trigger and result. -/
theorem metrics_follow_store {w : World} {path : String} {info : Health.VersionInfo} {s₀ : Session}
    (hStart : start w path true info = .ok s₀)
    (hOn : s₀.snapshot.config.telemetry.metrics.enabled = true) (calls : List (World × String)) :
    ∃ c, (reloadCalls calls s₀).1.collector = some c ∧
      c.version = (reloadCalls calls s₀).1.snapshot.version ∧
      (∀ t st, c.tierGauge t st =
        some (if st = stateOf (reloadCalls calls s₀).1.snapshot.settings.source t then 1 else 0)) ∧
      ∀ trigger result, c.reloadCount trigger result = (reloadCalls calls s₀).2.count (trigger, result) := by
  obtain ⟨c₀, hc₀, hTracks₀, hFresh⟩ := start_tracks hStart hOn
  obtain ⟨c, hc, hTracks, hCount⟩ := reloadCalls_tracks calls hc₀ hTracks₀
  refine ⟨c, hc, hTracks.version, hTracks.tierStates, fun trigger result => ?_⟩
  rw [hCount]
  simp [reloadCount, countOf, hFresh]

/-- A service started on the defaults with metrics, then reloaded twice, the
second reload failing validation. -/
theorem metrics_follow_store_defaults :
    ∃ s₀, start {} "" true {} = .ok s₀ ∧ s₀.snapshot.config.telemetry.metrics.enabled = true ∧
      ∃ c, (reloadCalls [({}, "manual"), (Store.loudLogging, "signal")] s₀).1.collector = some c ∧
        c.version = (reloadCalls [({}, "manual"), (Store.loudLogging, "signal")] s₀).1.snapshot.version ∧
        (∀ t st, c.tierGauge t st = some (if st = stateOf
          (reloadCalls [({}, "manual"), (Store.loudLogging, "signal")] s₀).1.snapshot.settings.source t
          then 1 else 0)) ∧
        ∀ trigger result, c.reloadCount trigger result =
          (reloadCalls [({}, "manual"), (Store.loudLogging, "signal")] s₀).2.count (trigger, result) := by
  obtain ⟨s₀, hStart, hOn⟩ := exists_ok_of_check (x := start {} "" true {})
    (p := fun s => s.snapshot.config.telemetry.metrics.enabled) (by decide +kernel)
  exact ⟨s₀, hStart, hOn, metrics_follow_store hStart hOn _⟩

end Service.Session

end Turnstile
