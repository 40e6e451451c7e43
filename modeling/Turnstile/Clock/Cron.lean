import Turnstile.Clock.Duration
import Turnstile.Number.Parse
import Turnstile.Text.Blank
import Turnstile.Text.Case
import Turnstile.Clock.Zone

/-!
# Cron schedules

A schedule is either five fields, minute, hour, day of month, month and day of
week, separated by blanks, or a descriptor: `@yearly` (also `@annually`),
`@monthly`, `@weekly`, `@daily` (also `@midnight`), `@hourly`, or `@every`
followed by a duration.  A schedule may start with `TZ=zone` or `CRON_TZ=zone`
and a blank to name its time zone; a zone with no blank after it is not refused
with a message, reading breaks down on it instead.

A field is a comma-separated list of ranges.  A range is `*` (or `?`) for the
whole span, a number, or `low-high`, optionally followed by `/step`; a single
number with a step runs to the end of the span.  Months and days of the week
may also be written by their three-letter English names, in any case.  A
schedule is kept as the set of values each field allows, one bit per value.
-/

namespace Turnstile.Cron

/-- The span of a field and the names its values may be written with. -/
structure Bounds where
  low : Nat
  high : Nat
  names : List (String × Nat) := []

def secondBounds : Bounds := { low := 0, high := 59 }
def minuteBounds : Bounds := { low := 0, high := 59 }
def hourBounds : Bounds := { low := 0, high := 23 }
def dayBounds : Bounds := { low := 1, high := 31 }
def monthBounds : Bounds :=
  { low := 1, high := 12
    names := [("jan", 1), ("feb", 2), ("mar", 3), ("apr", 4), ("may", 5), ("jun", 6),
      ("jul", 7), ("aug", 8), ("sep", 9), ("oct", 10), ("nov", 11), ("dec", 12)] }
def weekdayBounds : Bounds :=
  { low := 0, high := 6
    names := [("sun", 0), ("mon", 1), ("tue", 2), ("wed", 3), ("thu", 4), ("fri", 5), ("sat", 6)] }

/-- The allowed values of second, minute, hour, day of month, month and day of
week, each as a set of bits; bit 63 marks a field written as `*`. -/
structure Fields where
  second : Nat
  minute : Nat
  hour : Nat
  day : Nat
  month : Nat
  weekday : Nat
  deriving DecidableEq, Repr

/-- A schedule: allowed field values with a zone, or a fixed delay. -/
inductive Schedule where
  | fields (f : Fields) (zone : String)
  | every (delay : Duration)
  deriving Repr

/-- The bit that marks a field written as `*`. -/
def starBit : Nat := Nat.pow 2 63

/-- The bits of `start, start + step, …` up to `stop`. -/
def rangeBits (start stop step : Nat) : Nat :=
  ((List.range (stop + 1 - start)).filter (fun k => k % step == 0)).foldl
    (fun acc k => acc ||| Nat.pow 2 (start + k)) 0

/-- Why a text is not a schedule: it is refused with a message, or it names a
zone with no blank after it, where reading breaks down with a slice-bounds
failure. -/
inductive ScheduleError where
  | refused (message : String)
  | zoneUnended
  deriving DecidableEq, Repr

/-- The message of a schedule error; for a breakdown, the failure's own text. -/
def ScheduleError.message : ScheduleError → String
  | .refused m => m
  | .zoneUnended => "runtime error: slice bounds out of range [:-1]"

/-- A non-negative decimal integer. -/
def readCount (expr : String) : Except String Nat :=
  match Number.atoi expr with
  | .error e => .error ("failed to parse int from " ++ expr ++ ": " ++ e)
  | .ok n =>
    if n < 0 then .error ("negative number (" ++ toString n ++ ") not allowed: " ++ expr)
    else .ok n.toNat

/-- A number or, for fields with names, a name. -/
def readValue (expr : String) (b : Bounds) : Except String Nat :=
  match b.names.lookup (Text.toLowerText expr) with
  | some v => .ok v
  | none => readCount expr

/-- The bits of one range. -/
def rangeOf (expr : String) (b : Bounds) : Except String Nat := do
  let rangeAndStep := expr.splitOn "/"
  let lowAndHigh := (rangeAndStep.headD "").splitOn "-"
  let single := lowAndHigh.length == 1
  let first := lowAndHigh.headD ""
  let (start, stop, extra) ← do
    if first == "*" || first == "?" then pure (b.low, b.high, starBit)
    else
      let start ← readValue first b
      match lowAndHigh with
      | [_] => pure (start, start, 0)
      | [_, h] =>
        let stop ← readValue h b
        pure (start, stop, 0)
      | _ => throw ("too many hyphens: " ++ expr)
  let (stop, step, extra) ← match rangeAndStep with
    | [_] => pure (stop, 1, extra)
    | [_, s] => do
      let step ← readCount s
      pure (if single then b.high else stop, step, if step > 1 then 0 else extra)
    | _ => throw ("too many slashes: " ++ expr)
  if start < b.low then
    throw ("beginning of range (" ++ toString start ++ ") below minimum (" ++ toString b.low ++ "): " ++ expr)
  if stop > b.high then
    throw ("end of range (" ++ toString stop ++ ") above maximum (" ++ toString b.high ++ "): " ++ expr)
  if start > stop then
    throw ("beginning of range (" ++ toString start ++ ") beyond end of range (" ++ toString stop ++ "): " ++ expr)
  if step == 0 then throw ("step of range should be a positive number: " ++ expr)
  return rangeBits start stop step ||| extra

/-- The bits of a field: the union of its comma-separated ranges, empty parts
skipped. -/
def fieldOf (field : String) (b : Bounds) : Except String Nat :=
  ((field.splitOn ",").filter (· != "")).foldlM (fun acc r => do
    let bits ← rangeOf r b
    return acc ||| bits) 0

/-- A descriptor schedule. -/
def descriptor (spec zone : String) : Except String Schedule :=
  let all (b : Bounds) : Nat := rangeBits b.low b.high 1 ||| starBit
  let at0 : Nat := 1
  if spec == "@yearly" || spec == "@annually" then
    .ok (.fields ⟨at0, at0, at0, 2, 2, all weekdayBounds⟩ zone)
  else if spec == "@monthly" then .ok (.fields ⟨at0, at0, at0, 2, all monthBounds, all weekdayBounds⟩ zone)
  else if spec == "@weekly" then .ok (.fields ⟨at0, at0, at0, all dayBounds, all monthBounds, 1⟩ zone)
  else if spec == "@daily" || spec == "@midnight" then
    .ok (.fields ⟨at0, at0, at0, all dayBounds, all monthBounds, all weekdayBounds⟩ zone)
  else if spec == "@hourly" then
    .ok (.fields ⟨at0, at0, all hourBounds, all dayBounds, all monthBounds, all weekdayBounds⟩ zone)
  else if spec.startsWith "@every " then
    match Duration.parse (spec.drop 7).toString with
    | .ok d => .ok (.every d)
    | .error e => .error ("failed to parse duration " ++ spec ++ ": " ++ e)
  else .error ("unrecognized descriptor: " ++ spec)

/-- Read a schedule in the five-field form or as a descriptor, after its
zone, if it names one. -/
def parseFields (spec zone : String) : Except String Schedule := do
  if spec.startsWith "@" then descriptor spec zone
  else
    let fs := Text.fields spec
    if fs.length != 5 then
      throw ("expected exactly 5 fields, found " ++ toString fs.length ++ ": [" ++ " ".intercalate fs ++ "]")
    let second ← fieldOf "0" secondBounds
    let minute ← fieldOf (fs.getD 0 "") minuteBounds
    let hour ← fieldOf (fs.getD 1 "") hourBounds
    let day ← fieldOf (fs.getD 2 "") dayBounds
    let month ← fieldOf (fs.getD 3 "") monthBounds
    let weekday ← fieldOf (fs.getD 4 "") weekdayBounds
    return .fields ⟨second, minute, hour, day, month, weekday⟩ zone

/-- Read a schedule: an optional zone, then five fields or a descriptor. -/
def parseStandard (spec : String) : Except ScheduleError Schedule :=
  if spec.isEmpty then .error (.refused "empty spec string")
  else if spec.startsWith "TZ=" || spec.startsWith "CRON_TZ=" then
    let cs := spec.toList
    match cs.findIdx? (· == ' ') with
    | none => .error .zoneUnended
    | some space =>
      let eq := (cs.findIdx? (· == '=')).getD 0
      let name := String.ofList ((cs.take space).drop (eq + 1))
      match Clock.loadLocation name with
      | .error e => .error (.refused ("provided bad location " ++ name ++ ": " ++ e))
      | .ok () =>
        (parseFields (Text.trimBlank (String.ofList (cs.drop space))) name).mapError .refused
  else (parseFields spec "Local").mapError .refused

end Turnstile.Cron
