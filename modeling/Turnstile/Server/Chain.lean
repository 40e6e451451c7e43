import Turnstile.Server.Handler
import Turnstile.Log.Record

/-!
# The middleware chain

Every request passes, outermost first, through recovery, the request ID and the
request log before it reaches the router:

* recovery answers 500 when a handler breaks down; no handler of this model
  breaks down, so it passes every answer on as it is;
* the request ID middleware serves the request under `requestIdOf`, sets that
  ID on the answer before anything below it writes (`Handler.serve` starts every
  answer from it), and hands it on in the request's context;
* the request log writes one record once the answer is complete:
  `request completed`, at error level for a status of 500 or more, at warning
  level for 400 or more and at information level otherwise, with the method,
  path, status, latency, remote address and user agent; the logger adds the
  request ID it finds in the context.

The latency is measured by the clock, so it is given here.
-/

namespace Turnstile.Server

open Turnstile.Http Turnstile.Metrics

/-- The level of the record of a request completed with a status. -/
def completedLevel (status : Nat) : Log.Level :=
  if status ≥ 500 then .error else if status ≥ 400 then .warn else .info

/-- The record the request log writes for a request served under `id` and
completed with `status` after `latencyMs` milliseconds. -/
def completedRecord (req : Request) (id : String) (status : Nat) (latencyMs : Binary64) : Log.Record :=
  { level := completedLevel status
    message := "request completed"
    attrs := [("method", .text req.method), ("path", .text req.path), ("status", .int status),
      ("latency_ms", .float latencyMs), ("remote_addr", .text req.remoteAddr),
      ("user_agent", .text ((req.headers.get? "User-Agent").getD ""))]
    requestId := id }

/-- Serve a request through the whole chain: the answer, the collector after
it, and the record the request log writes for it. -/
def Handler.handle (h : Handler) (snap : Snapshot) (collector : Option Collector) (req : Request)
    (freshId : String) (now : Int) (latencyMs : Binary64) : Response × Option Collector × Log.Record :=
  let id := requestIdOf req freshId
  let (resp, collector) := h.serve snap collector req freshId now
  (resp, collector, completedRecord req id resp.status latencyMs)

end Turnstile.Server
