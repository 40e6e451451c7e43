import Turnstile.Config.Load

/-!
# The configuration store

A store keeps the path the configuration is read from and the active snapshot.
Opening a store loads the path and numbers the snapshot 1.  Reloading loads the
path again: on success the new snapshot replaces the active one with the next
version; on failure the active snapshot stays and the failure is reported
after `failed to reload configuration: `.

Others hear of reloads through the store: an observer is told of every attempt
with its trigger and result, and listeners are handed every new snapshot, in
the order they registered, after the observer has heard of the success.
-/

namespace Turnstile.Config

open Turnstile.Host

/-- The path and the active snapshot. -/
structure Store where
  path : String
  current : Snapshot
  deriving Inhabited

/-- Who hears of reloads, acting on a state `σ` of their own: an observer told
of every attempt with its trigger and result, and listeners handed every new
snapshot. -/
structure Subscribers (σ : Type) where
  observer : Option (String → String → σ → σ) := none
  /-- In the order they registered. -/
  listeners : List (Snapshot → σ → σ) := []

namespace Subscribers

variable {σ : Type}

/-- Register a listener after the others. -/
def onChange (subs : Subscribers σ) (fn : Snapshot → σ → σ) : Subscribers σ :=
  { subs with listeners := subs.listeners ++ [fn] }

/-- Set the observer. -/
def setObserver (subs : Subscribers σ) (f : String → String → σ → σ) : Subscribers σ :=
  { subs with observer := some f }

/-- Tell the observer, if there is one, of an attempt and its result. -/
def record (subs : Subscribers σ) (trigger result : String) (o : σ) : σ :=
  match subs.observer with
  | some f => f trigger result o
  | none => o

/-- Hand a snapshot to every listener, in the order they registered. -/
def notify (subs : Subscribers σ) (snap : Snapshot) (o : σ) : σ :=
  subs.listeners.foldl (fun o fn => fn snap o) o

end Subscribers

namespace Store

/-- The version of the active snapshot. -/
def version (s : Store) : Nat := s.current.version

/-- Open a store on a path. -/
def openAt (w : World) (path : String) : Except LoadError Store :=
  (load w path).map fun snap => { path, current := { snap with version := 1 } }

/-- The message of a failed reload. -/
def reloadMessage (e : LoadError) : String := "failed to reload configuration: " ++ e.message

/-- Reload the store from its path. -/
def reload (w : World) (s : Store) : Except LoadError Store :=
  (load w s.path).map fun snap => { s with current := { snap with version := s.version + 1 } }

/-- Reload the store with a trigger, telling the subscribers: a failure is
recorded and leaves the store as it was; a success makes the new snapshot
active, is recorded, and hands the snapshot to the listeners.  The result is
the new version or the failure. -/
def reloadWith {σ : Type} (w : World) (trigger : String) (subs : Subscribers σ) (s : Store)
    (o : σ) : (Store × σ) × Except LoadError Nat :=
  match reload w s with
  | .ok s' => ((s', subs.notify s'.current (subs.record trigger "success" o)), .ok s'.version)
  | .error e => ((s, subs.record trigger "failure" o), .error e)

theorem reload_version (w : World) (s s' : Store) (h : reload w s = .ok s') :
    s'.version = s.version + 1 := by
  unfold reload at h
  cases hl : load w s.path with
  | error e => rw [hl] at h; cases h
  | ok snap =>
    rw [hl] at h
    cases h
    rfl

end Store

end Turnstile.Config
