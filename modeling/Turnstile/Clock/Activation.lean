import Turnstile.Clock.Recurrence
import Turnstile.Clock.Timestamp

/-!
# Activations of a schedule

An instant is a count of nanoseconds since 1970-01-01 00:00:00 UTC; dates are
read on the proleptic Gregorian calendar in UTC.

The next activation of a five-field schedule after an instant is the earliest
whole second strictly after the instant whose month, day, hour, minute and
second the schedule allows.  The search runs through the fifth year after the
year of that first whole second; when it finds nothing the answer is the zero
instant, the first second of the year 1.  A schedule with a fixed delay fires
that long after the start of the second that holds the instant, the delay
being at least one second and cut to whole seconds.

The search goes field by field, from the year down to the second: a field takes
the least value it allows from its starting point on for which the fields below
it can still be filled, starting from their own starting point when the field
kept its starting value and from their first value otherwise.  This is the
lexicographically least allowed second at or after the starting point.

The freshness window of a schedule at an instant is three times the gap between
its first two activations after the instant, when that gap is positive.  A
schedule whose gaps vary, such as one firing on the first and second day of
each month, has later gaps longer than the window.  A fixed-delay schedule has
no such gaps: its consecutive activations lie exactly one delay apart
(`next_every_gap`).
-/

namespace Turnstile.Cron

/-- Nanoseconds in a second. -/
def nanosPerSecond : Int := 1000000000

/-- Seconds in a day. -/
def secondsPerDay : Int := 86400

/-- Whether a year of the Gregorian calendar is a leap year. -/
def leapYear (y : Int) : Bool := y % 4 == 0 && (y % 100 != 0 || y % 400 == 0)

/-- The number of days of month `m` of year `y`. -/
def monthLength (y : Int) (m : Nat) : Nat :=
  if m == 2 then (if leapYear y then 29 else 28) else longestMonth m

/-- The number of days from 1970-01-01 to a date, counted in four-hundred-year
eras that begin on the first of March. -/
def daysFromCivil (y : Int) (m d : Nat) : Int :=
  let y := if m ≤ 2 then y - 1 else y
  let era := y / 400
  let yoe := y - era * 400
  let mp : Int := if m > 2 then (m : Int) - 3 else (m : Int) + 9
  let doy := (153 * mp + 2) / 5 + d - 1
  let doe := yoe * 365 + yoe / 4 - yoe / 100 + doy
  era * 146097 + doe - 719468

/-- The date (year, month, day) a number of days after 1970-01-01. -/
def civilOfDays (z : Int) : Int × Nat × Nat :=
  let z := z + 719468
  let era := z / 146097
  let doe := z - era * 146097
  let yoe := (doe - doe / 1460 + doe / 36524 - doe / 146096) / 365
  let doy := doe - (365 * yoe + yoe / 4 - yoe / 100)
  let mp := (5 * doy + 2) / 153
  let d := doy - (153 * mp + 2) / 5 + 1
  let m := if mp < 10 then mp + 3 else mp - 9
  (yoe + era * 400 + (if m ≤ 2 then 1 else 0), m.toNat, d.toNat)

/-- The day of the week a number of days after 1970-01-01, a Thursday;
Sunday is 0. -/
def weekdayOfDays (z : Int) : Nat := ((z + 4) % 7).toNat

/-- A whole second on the calendar. -/
structure CivilSecond where
  year : Int
  month : Nat
  day : Nat
  hour : Nat
  minute : Nat
  second : Nat
  deriving DecidableEq, Repr

namespace CivilSecond

/-- The calendar second of an instant (nanoseconds since 1970-01-01 00:00:00
UTC), the fraction of a second dropped. -/
def ofInstant (t : Int) : CivilSecond :=
  let s := t / nanosPerSecond
  let (year, month, day) := civilOfDays (s / secondsPerDay)
  let clock := (s % secondsPerDay).toNat
  { year, month, day, hour := clock / 3600, minute := clock / 60 % 60, second := clock % 60 }

/-- The instant at which a calendar second begins. -/
def toInstant (c : CivilSecond) : Int :=
  ((daysFromCivil c.year c.month c.day) * secondsPerDay + (c.hour * 3600 + c.minute * 60 + c.second : Nat)) *
    nanosPerSecond

/-- A calendar second as RFC 3339 writes it, without a fraction or a zone. -/
def text (c : CivilSecond) : String :=
  Timestamp.yearText c.year ++ "-" ++ Timestamp.padded 2 c.month ++ "-" ++ Timestamp.padded 2 c.day ++
    "T" ++ Timestamp.padded 2 c.hour ++ ":" ++ Timestamp.padded 2 c.minute ++ ":" ++
    Timestamp.padded 2 c.second

end CivilSecond

/-- An instant as an RFC 3339 text in UTC, the fraction of its second written
without trailing zeros. -/
def instantText (t : Int) : String :=
  (CivilSecond.ofInstant t).text ++ Timestamp.fractionText (t % nanosPerSecond).toNat ++ "Z"

/-- An instant as an RFC 3339 text in UTC, truncated to the millisecond and
written with exactly three digits after the point. -/
def instantMillisText (t : Int) : String :=
  (CivilSecond.ofInstant t).text ++ "." ++ Timestamp.padded 3 ((t % nanosPerSecond).toNat / 1000000) ++ "Z"

/-- The zero instant: the first second of the year 1. -/
def zeroInstant : Int := CivilSecond.toInstant ⟨1, 1, 1, 0, 0, 0⟩

/-- Whether the day-of-month and day-of-week fields allow a date: both must
when either was written as `*`, otherwise either may. -/
def Fields.allowsDate (f : Fields) (y : Int) (m d : Nat) : Bool :=
  let ofMonth := allows f.day d
  let ofWeek := allows f.weekday (weekdayOfDays (daysFromCivil y m d))
  if allows f.day 63 || allows f.weekday 63 then ofMonth && ofWeek else ofMonth || ofWeek

/-- The values from `lo` to `hi`, in order. -/
def valuesFrom (lo hi : Nat) : List Nat := (List.range (hi + 1 - lo)).map (· + lo)

/-- The least allowed value `v` of a field from `lo` to `hi` for which
`below v` fills the lower fields, with that filling. -/
def firstFilled {α : Type} (allowed : Nat → Bool) (lo hi : Nat) (below : Nat → Option α) :
    Option (Nat × α) :=
  (valuesFrom lo hi).findSome? fun v =>
    if allowed v then (below v).map (v, ·) else none

namespace Fields

/-- The earliest allowed second of a minute at or after `s`. -/
def secondFrom (f : Fields) (s : Nat) : Option Nat :=
  (valuesFrom s 59).find? (allows f.second)

/-- The earliest allowed minute and second of an hour at or after `m:s`. -/
def minuteFrom (f : Fields) (m s : Nat) : Option (Nat × Nat) :=
  firstFilled (allows f.minute) m 59 fun v => f.secondFrom (if v == m then s else 0)

/-- The earliest allowed time of a day at or after `h:m:s`. -/
def timeFrom (f : Fields) (h m s : Nat) : Option (Nat × Nat × Nat) :=
  firstFilled (allows f.hour) h 23 fun v =>
    if v == h then f.minuteFrom m s else f.minuteFrom 0 0

/-- The earliest allowed day and time of month `mo` of year `y` at or after
day `d` at `h:m:s`. -/
def dayFrom (f : Fields) (y : Int) (mo d h m s : Nat) : Option (Nat × Nat × Nat × Nat) :=
  firstFilled (f.allowsDate y mo) d (monthLength y mo) fun v =>
    if v == d then f.timeFrom h m s else f.timeFrom 0 0 0

/-- The earliest allowed second of year `y` at or after a month, day and time. -/
def monthFrom (f : Fields) (y : Int) (mo d h m s : Nat) : Option CivilSecond :=
  (firstFilled (allows f.month) mo 12 fun v =>
    if v == mo then f.dayFrom y mo d h m s else f.dayFrom y v 1 0 0 0).map
    fun (mo, d, h, m, s) => ⟨y, mo, d, h, m, s⟩

/-- The earliest allowed second at or after `c`, within `years` years after
the year of `c`. -/
def secondAtOrAfter (f : Fields) (c : CivilSecond) (years : Nat) : Option CivilSecond :=
  (List.range (years + 1)).findSome? fun (k : Nat) =>
    if k == 0 then f.monthFrom c.year c.month c.day c.hour c.minute c.second
    else f.monthFrom (c.year + (k : Int)) 1 1 0 0 0

end Fields

/-- How many years after the first candidate second the search runs. -/
def searchYears : Nat := 5

/-- The delay of a fixed-delay schedule: at least one second, cut to whole
seconds. -/
def fixedDelay (d : Duration) : Int :=
  if d.nanos < nanosPerSecond then nanosPerSecond else d.nanos - d.nanos % nanosPerSecond

/-- The start of the second that holds an instant. -/
def secondStart (t : Int) : Int := t - t % nanosPerSecond

/-- The next activation of a schedule after an instant. -/
def Schedule.next : Schedule → Int → Int
  | .every d, t => secondStart t + fixedDelay d
  | .fields f _, t =>
    match f.secondAtOrAfter (CivilSecond.ofInstant (secondStart t + nanosPerSecond)) searchYears with
    | some c => c.toInstant
    | none => zeroInstant

/-- A fixed delay is at least a second. -/
theorem nanosPerSecond_le_fixedDelay (d : Duration) : nanosPerSecond ≤ fixedDelay d := by
  unfold fixedDelay nanosPerSecond
  split <;> omega

/-- A fixed delay is a whole number of seconds. -/
theorem fixedDelay_emod (d : Duration) : fixedDelay d % nanosPerSecond = 0 := by
  unfold fixedDelay nanosPerSecond
  split <;> omega

/-- Consecutive activations of a fixed-delay schedule lie one delay apart. -/
theorem next_every_gap (d : Duration) (t : Int) :
    (Schedule.every d).next ((Schedule.every d).next t) - (Schedule.every d).next t = fixedDelay d := by
  have h := fixedDelay_emod d
  show secondStart (secondStart t + fixedDelay d) + fixedDelay d - (secondStart t + fixedDelay d) =
    fixedDelay d
  generalize fixedDelay d = f at *
  unfold secondStart
  unfold nanosPerSecond at *
  omega

/-- The least and greatest durations. -/
def durationLow : Int := -Int.pow 2 63
def durationHigh : Int := Int.pow 2 63 - 1

/-- The duration from `a` to `b`, held within the range of durations. -/
def between (a b : Int) : Int := max durationLow (min durationHigh (b - a))

/-- A duration rounded to the nearest whole second, a half second away from
zero, held within the range of durations. -/
def roundSecond (d : Int) : Int :=
  let r : Int := (d.tmod nanosPerSecond).natAbs
  if d < 0 then
    if 2 * r < nanosPerSecond then d + r else max durationLow (d - nanosPerSecond + r)
  else
    if 2 * r < nanosPerSecond then d - r else min durationHigh (d + nanosPerSecond - r)

/-- Three times a duration, wrapping around the 64-bit range. -/
def triple (d : Int) : Int := Int.bmod (3 * d) (Nat.pow 2 64)

/-- The freshness window of a schedule at an instant: three times the gap
between its first two activations after the instant, when that gap is
positive. -/
def Schedule.freshnessWindow (s : Schedule) (now : Int) : Option Duration :=
  let first := s.next now
  let gap := between first (s.next first)
  if gap ≤ 0 then none else some ⟨triple gap⟩

/-- The freshness window of a schedule written as text: none when the text is
empty or is not a schedule. -/
def freshnessWindow (spec : String) (now : Int) : Option Duration :=
  if spec.isEmpty then none
  else match parseStandard spec with
    | .ok s => s.freshnessWindow now
    | .error _ => none

end Turnstile.Cron
