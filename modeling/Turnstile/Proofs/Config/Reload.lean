import Turnstile.Config.Store
import Turnstile.Proofs.Server.Routes
import Turnstile.Service.Session

/-!
# Reloading the configuration store

A reload loads the store's path again.  What it does is said once, for every
store, every state of the subscribers and every outcome of the load, by
`ReloadStep`:

* a load that fails, at whatever stage, is returned; the store keeps its
  active snapshot, the observer hears of one failure and no listener is called;
* a load that succeeds becomes the active snapshot with the next version; the
  observer hears of one success, then every listener is handed the new
  snapshot once, in the order they registered.

`reloadWith_step` proves that every reload does this.  From it, a run of
reloads in any mix of successes and failures, each reading the world of its
time, keeps the path and ends with the version one more than the number of
successful reloads (`reloadRun_version`), since a store opens at version 1
(`openAt_version`).  The service's own wiring logs every attempt once, with
its result (`Session.reload_reloads`).
-/

namespace Turnstile.Config

open Turnstile.Host

namespace Subscribers

variable {σ : Type}

@[simp]
theorem notify_nil (snap : Snapshot) (o : σ) : ({ observer := none, listeners := [] } :
    Subscribers σ).notify snap o = o := rfl

/-- A listener registered after the others is handed the snapshot after them. -/
theorem notify_onChange (subs : Subscribers σ) (fn : Snapshot → σ → σ) (snap : Snapshot) (o : σ) :
    (subs.onChange fn).notify snap o = fn snap (subs.notify snap o) := by
  simp [notify, onChange, List.foldl_append]

/-- An observer that has been set hears of the attempt. -/
theorem record_setObserver (subs : Subscribers σ) (f : String → String → σ → σ)
    (trigger result : String) (o : σ) :
    (subs.setObserver f).record trigger result o = f trigger result o := rfl

/-- Listeners do not tell the observer anything. -/
@[simp]
theorem record_onChange (subs : Subscribers σ) (fn : Snapshot → σ → σ) (trigger result : String)
    (o : σ) : (subs.onChange fn).record trigger result o = subs.record trigger result o := rfl

end Subscribers

namespace Store

variable {σ : Type}

/-- A store opens at version 1. -/
theorem openAt_version {w : World} {path : String} {s : Store} (h : openAt w path = .ok s) :
    s.version = 1 ∧ s.path = path := by
  unfold openAt at h
  cases hl : load w path with
  | error e =>
    rw [hl] at h
    cases h
  | ok snap =>
    rw [hl] at h
    cases h
    exact ⟨rfl, rfl⟩

/-- What one reload of `s`, with the subscribers' state `o`, gives as `out`. -/
structure ReloadStep (w : World) (trigger : String) (subs : Subscribers σ) (s : Store) (o : σ)
    (out : (Store × σ) × Except LoadError Nat) : Prop where
  /-- A failed load is returned; the store is left as it was and only the
  observer hears, of one failure. -/
  failed : ∀ e, load w s.path = .error e → out = ((s, subs.record trigger "failure" o), .error e)
  /-- A successful load is active with the next version; the observer hears of
  one success, then each listener in turn is handed the new snapshot. -/
  succeeded : ∀ snap, load w s.path = .ok snap →
    out.2 = .ok (s.version + 1) ∧
      out.1.1 = { s with current := { snap with version := s.version + 1 } } ∧
      out.1.2 = (subs.listeners.map fun fn => fn out.1.1.current).foldl (fun o hear => hear o)
        (subs.record trigger "success" o)

/-- Every reload follows `ReloadStep`. -/
theorem reloadWith_step (w : World) (trigger : String) (subs : Subscribers σ) (s : Store) (o : σ) :
    ReloadStep w trigger subs s o (s.reloadWith w trigger subs o) := by
  constructor
  · intro e he
    simp [reloadWith, reload, he, Except.map]
  · intro snap hs
    refine ⟨by simp [reloadWith, reload, hs, Except.map]; rfl,
      by simp [reloadWith, reload, hs, Except.map], ?_⟩
    simp only [reloadWith, reload, hs, Except.map, Subscribers.notify, List.foldl_map]

/-- A reload keeps the path and adds one to the version exactly when it succeeds. -/
theorem reloadWith_version (w : World) (trigger : String) (subs : Subscribers σ) (s : Store)
    (o : σ) :
    (s.reloadWith w trigger subs o).1.1.version =
        s.version + (if (s.reloadWith w trigger subs o).2.toBool then 1 else 0) ∧
      (s.reloadWith w trigger subs o).1.1.path = s.path := by
  have hStep := reloadWith_step w trigger subs s o
  cases hl : load w s.path with
  | error e =>
    rw [hStep.failed e hl]
    simp [Except.toBool]
  | ok snap =>
    obtain ⟨hResult, hStore, -⟩ := hStep.succeeded snap hl
    rw [hResult, hStore]
    simp [Except.toBool, version]

/-- Reload after reload: each call reads the world of its time with its own
trigger.  Gives the store and the subscribers' state at the end, and the
result of each call in order. -/
def reloadRun (subs : Subscribers σ) : List (World × String) → Store × σ →
    (Store × σ) × List (Except LoadError Nat)
  | [], now => (now, [])
  | (w, trigger) :: calls, (s, o) =>
    let step := s.reloadWith w trigger subs o
    let rest := reloadRun subs calls step.1
    (rest.1, step.2 :: rest.2)

/-- Over any run of reloads the path stays, and the version grows by the number
of successful reloads. -/
theorem reloadRun_version (subs : Subscribers σ) (calls : List (World × String))
    (now : Store × σ) :
    (reloadRun subs calls now).1.1.version =
        now.1.version + (reloadRun subs calls now).2.countP (·.toBool) ∧
      (reloadRun subs calls now).1.1.path = now.1.path := by
  -- induction on the calls, the store and the state left by the first call carried along
  induction calls generalizing now with
  | nil => simp [reloadRun]
  | cons call calls ih =>
    obtain ⟨w, trigger⟩ := call
    obtain ⟨s, o⟩ := now
    obtain ⟨hVersion, hPath⟩ := reloadWith_version w trigger subs s o
    obtain ⟨hRestVersion, hRestPath⟩ := ih (s.reloadWith w trigger subs o).1
    simp only [reloadRun, List.countP_cons]
    refine ⟨?_, hRestPath.trans hPath⟩
    rw [hRestVersion, hVersion]
    -- the first call's count moves from the version to the results
    omega

/-- A store opened on a configuration that loads, reloaded by any calls, each
failing or succeeding: every reload does what `ReloadStep` says, the path
stays, and the active version is one more than the number of successful
reloads. -/
theorem reloads_count_versions {w₀ : World} {path : String} {s₀ : Store}
    (hOpen : openAt w₀ path = .ok s₀) (subs : Subscribers σ) (o₀ : σ)
    (calls : List (World × String)) :
    (reloadRun subs calls (s₀, o₀)).1.1.version =
        1 + (reloadRun subs calls (s₀, o₀)).2.countP (·.toBool) ∧
      (reloadRun subs calls (s₀, o₀)).1.1.path = path ∧
      ∀ w trigger (s : Store) (o : σ), ReloadStep w trigger subs s o (s.reloadWith w trigger subs o) := by
  obtain ⟨hOne, hPath⟩ := openAt_version hOpen
  obtain ⟨hVersion, hRunPath⟩ := reloadRun_version subs calls (s₀, o₀)
  exact ⟨hOne ▸ hVersion, hPath ▸ hRunPath, fun w trigger s o => reloadWith_step w trigger subs s o⟩

/-- A world whose logging level fails validation. -/
def loudLogging : World := { env := ⟨[("KEYGATE_TELEMETRY_LOGGING_LEVEL", "loud")]⟩ }

/-- A store opened on the defaults and reloaded three times, the second reload
failing, with one listener that counts the snapshots it is handed. -/
theorem reloads_count_versions_mixed :
    ∃ s₀, openAt {} "" = .ok s₀ ∧
      (reloadRun (({} : Subscribers Nat).onChange fun _ n => n + 1)
          [({}, "manual"), (loudLogging, "signal"), ({}, "watch")] (s₀, 0)).1.1.version =
        1 + (reloadRun (({} : Subscribers Nat).onChange fun _ n => n + 1)
          [({}, "manual"), (loudLogging, "signal"), ({}, "watch")] (s₀, 0)).2.countP (·.toBool) ∧
      (reloadRun (({} : Subscribers Nat).onChange fun _ n => n + 1)
          [({}, "manual"), (loudLogging, "signal"), ({}, "watch")] (s₀, 0)).1.1.path = "" ∧
      ∀ w trigger (s : Store) (o : Nat),
        ReloadStep w trigger (({} : Subscribers Nat).onChange fun _ n => n + 1) s o
          (s.reloadWith w trigger (({} : Subscribers Nat).onChange fun _ n => n + 1) o) := by
  obtain ⟨s₀, hOpen, -⟩ := exists_ok_of_check (x := openAt {} "") (p := fun _ => true)
    (by decide +kernel)
  exact ⟨s₀, hOpen, reloads_count_versions hOpen (({} : Subscribers Nat).onChange fun _ n => n + 1) 0
    [({}, "manual"), (loudLogging, "signal"), ({}, "watch")]⟩

end Store

end Turnstile.Config

namespace Turnstile.Service.Session

open Turnstile.Config

/-- The service logs every reload attempt once, with its trigger and result. -/
theorem reload_reloads (s : Session) (trigger : String) :
    (s.reload trigger).1.reloads =
      s.reloads ++ [(trigger, if (s.reload trigger).2.toBool then "success" else "failure")] := by
  unfold reload Store.reloadWith
  split <;> simp [Except.toBool, subscribers, Subscribers.notify, Subscribers.record,
    Subscribers.onChange, Subscribers.setObserver]

end Turnstile.Service.Session
