import Turnstile.Config.Store
import Turnstile.Server.Handler

/-!
# A running service

A session is the service as it runs: the world it reads, the configuration
store, the collector when metrics are wired, and the request handler once the
first request has built it.  It also keeps what an observer of the store sees:
every reload attempt with its trigger and result, and how many times a new
configuration was handed to listeners.

Metrics are wired as the service does it: the collector is made from the
metrics settings of the first configuration, observes that configuration, hears
of every reload attempt, and observes every configuration a reload brings.
-/

namespace Turnstile.Service

open Turnstile.Host Turnstile.Config Turnstile.Metrics Turnstile.Server Turnstile.Health

/-- The service as it runs. -/
structure Session where
  world : World
  store : Store
  collector : Option Collector := none
  handler : Option Handler := none
  info : VersionInfo := {}
  /-- Reload attempts, oldest first, as trigger and result. -/
  reloads : List (String × String) := []
  /-- How many configurations reloads handed to listeners. -/
  changes : Nat := 0
  deriving Inhabited

namespace Session

/-- The active snapshot. -/
def snapshot (s : Session) : Snapshot := s.store.current

/-- Why a session could not start: its configuration did not load, or its
collector could not be made. -/
inductive StartError where
  | load (e : LoadError)
  | collector (message : String)
  deriving Inhabited

/-- Start a session on a path, wiring a collector when `metrics` is set. -/
def start (w : World) (path : String) (metrics : Bool) (info : VersionInfo) :
    Except StartError Session := do
  let store ← (Store.openAt w path).mapError StartError.load
  let collector ← if metrics then
      match Collector.create store.current.config.telemetry.metrics with
      | .ok c => pure (some (c.observe store.version store.current.settings.source))
      | .error m => throw (StartError.collector m)
    else pure none
  return { world := w, store, collector, info }

/-- Replace the world. -/
def setWorld (s : Session) (w : World) : Session := { s with world := w }

/-- What hears of the store's reloads, wired as the service wires them: the
collector and the reload log observe every attempt; the collector, then the
change count, listen for new snapshots. -/
def subscribers : Subscribers Session :=
  ((({} : Subscribers Session).setObserver fun trigger result s =>
      { s with collector := s.collector.map (·.recordReload trigger result),
               reloads := s.reloads ++ [(trigger, result)] }).onChange fun snap s =>
      { s with collector := s.collector.map (·.observe snap.version snap.settings.source) }).onChange
    fun _ s => { s with changes := s.changes + 1 }

/-- Reload the store with a trigger, returning the new version or the failure. -/
def reload (s : Session) (trigger : String) : Session × Except LoadError Nat :=
  let step := s.store.reloadWith s.world trigger subscribers s
  ({ step.1.2 with store := step.1.1 }, step.2)

/-- Serve a request at the instant the world's clock reads, building the
handler first, at that instant, if there is none yet.  A handler that cannot be
built fails the session with its message. -/
def request (s : Session) (req : Http.Request) (freshId : String) :
    Except String (Session × Http.Response) := do
  let h ← match s.handler with
    | some h => pure h
    | none => Handler.build s.snapshot.config s.collector.isSome s.info s.world.clock
  let (resp, collector) := h.serve s.snapshot s.collector req freshId s.world.clock
  return ({ s with handler := some h, collector }, resp)

theorem reload_changes (s : Session) (trigger : String) :
    (s.reload trigger).1.changes = s.changes + (if ((s.reload trigger).2).toBool then 1 else 0) := by
  unfold reload Store.reloadWith
  split <;> simp [Except.toBool, subscribers, Subscribers.notify, Subscribers.record,
    Subscribers.onChange, Subscribers.setObserver]

end Session

end Turnstile.Service
