import Turnstile.Encoding.Json

/-!
# Health reports

Liveness always reports `ok`.  Readiness runs every registered check and
reports `ready`, or `degraded` when any check is unhealthy; the service is
ready when the status is `ok` or `ready`.  Each check reports `ok`, or
`unhealthy` with the message of its failure, and how long it took.

The reports are JSON objects: `status`, then `checks` by name (left out when
there are none), then `timestamp`.  A check writes `status`, then `message`
when it has one, then `duration_ms`.  The version report names the version, the
commit, the build time and the toolchain.
-/

namespace Turnstile.Health

/-- The outcome of one check: its name and its failure, if any. -/
structure CheckResult where
  name : String
  failure : Option String := none
  deriving Inhabited, Repr

/-- The overall readiness status of check results. -/
def readinessStatus (rs : List CheckResult) : String :=
  if rs.any (·.failure.isSome) then "degraded" else "ready"

/-- Whether a status counts as ready. -/
def isReady (status : String) : Bool := status == "ok" || status == "ready"

/-- The JSON of one check result. -/
def CheckResult.json (r : CheckResult) : JsonValue :=
  match r.failure with
  | none => .object [("status", .string "ok"), ("duration_ms", .number "0")]
  | some m => .object [("status", .string "unhealthy"), ("message", .string m), ("duration_ms", .number "0")]

/-- The liveness report. -/
def livenessJson (now : String) : JsonValue :=
  .object [("status", .string "ok"), ("timestamp", .string now)]

/-- Check results sorted by name. -/
def sortResults (rs : List CheckResult) : List CheckResult :=
  rs.mergeSort fun a b => decide (a.name ≤ b.name)

/-- The readiness report. -/
def readinessJson (rs : List CheckResult) (now : String) : JsonValue :=
  let checks := if rs.isEmpty then []
    else [("checks", JsonValue.object ((sortResults rs).map fun r => (r.name, r.json)))]
  .object ([("status", .string (readinessStatus rs))] ++ checks ++ [("timestamp", .string now)])

/-- What the version endpoint reports. -/
structure VersionInfo where
  version : String := ""
  commit : String := ""
  buildTime : String := ""
  goVersion : String := ""
  deriving Inhabited, Repr

/-- The version report. -/
def VersionInfo.json (v : VersionInfo) : JsonValue :=
  .object [("version", .string v.version), ("commit", .string v.commit),
    ("build_time", .string v.buildTime), ("go_version", .string v.goVersion)]

end Turnstile.Health
