import Turnstile.Clock.Cron

/-!
# Whether a schedule recurs

A schedule with a fixed delay always fires again.  A five-field schedule fires
when each of its second, minute and hour fields allows some value, some month it
allows has a day it allows, counting the 29th of February of leap years.  The
day is allowed by the day-of-month and day-of-week fields together: when either
of them was written as `*` both must allow the day, otherwise either may.  A
weekday falls on every date some year, so a day-of-week field allows a day
exactly when it allows some weekday.

A schedule that never fires, such as the 30th of February, has no period, and
so no freshness window.
-/

namespace Turnstile.Cron

/-- Whether bit `i` of a field is set. -/
def allows (bits i : Nat) : Bool := (bits >>> i) % 2 == 1

/-- The most days a month can have. -/
def longestMonth (m : Nat) : Nat :=
  if m == 2 then 29 else if m == 4 || m == 6 || m == 9 || m == 11 then 30 else 31

/-- Whether a day-of-month field allows a day of month `m`. -/
def someDay (day m : Nat) : Bool := (List.range (longestMonth m)).any fun d => allows day (d + 1)

/-- Whether a day-of-week field allows some weekday. -/
def someWeekday (weekday : Nat) : Bool := (List.range 7).any (allows weekday)

/-- Whether a schedule fires at least once, and so again. -/
def Schedule.recurs : Schedule → Bool
  | .every _ => true
  | .fields f _ =>
    let months := (List.range 12).map (· + 1) |>.filter (allows f.month)
    let star := allows f.day 63 || allows f.weekday 63
    let dayOk (m : Nat) :=
      if star then someDay f.day m && someWeekday f.weekday else someDay f.day m || someWeekday f.weekday
    (List.range 60).any (allows f.second) && (List.range 60).any (allows f.minute) &&
      (List.range 24).any (allows f.hour) && months.any dayOk

end Turnstile.Cron
