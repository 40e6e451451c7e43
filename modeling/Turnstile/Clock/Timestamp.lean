/-!
# Timestamps

A timestamp is a civil date and time of day with nanoseconds, together with the
offset of its zone from UTC and the zone's name. The universal zone is named
`UTC`; a zone known only by its offset has an empty name.

A timestamp is written as `YYYY-MM-DD hh:mm:ss[.fraction] ±hhmm ZONE`: the
fraction keeps only its significant digits and is left out when zero, and an
unnamed zone is written by its offset a second time.
-/

namespace Turnstile

/-- A civil date and time in a zone given by its offset (in seconds east of UTC)
and its name (empty for a zone known only by its offset). -/
structure Timestamp where
  year : Int
  month : Nat
  day : Nat
  hour : Nat
  minute : Nat
  second : Nat
  nanos : Nat
  offset : Int
  zoneName : String
  deriving DecidableEq, Repr

namespace Timestamp

/-- `n` in decimal with at least `width` digits. -/
def padded (width : Nat) (n : Nat) : String :=
  let ds := Nat.toDigits 10 n
  String.ofList (List.replicate (width - ds.length) '0' ++ ds)

/-- The significant digits of a nanosecond count, after a point; empty for zero. -/
def fractionText (nanos : Nat) : String :=
  if nanos = 0 then ""
  else
    let ds := (Nat.toDigits 10 nanos)
    let ds := List.replicate (9 - ds.length) '0' ++ ds
    "." ++ String.ofList (ds.reverse.dropWhile (· = '0')).reverse

/-- An offset as `±hhmm`. -/
def offsetText (offset : Int) : String :=
  let minutes := offset.natAbs / 60
  (if offset < 0 then "-" else "+") ++ padded 2 (minutes / 60) ++ padded 2 (minutes % 60)

/-- The year with at least four digits, a minus sign before a negative one. -/
def yearText (year : Int) : String :=
  (if year < 0 then "-" else "") ++ padded 4 year.natAbs

/-- The text of a timestamp. -/
def render (t : Timestamp) : String :=
  yearText t.year ++ "-" ++ padded 2 t.month ++ "-" ++ padded 2 t.day ++ " " ++
    padded 2 t.hour ++ ":" ++ padded 2 t.minute ++ ":" ++ padded 2 t.second ++
    fractionText t.nanos ++ " " ++ offsetText t.offset ++ " " ++
    (if t.zoneName.isEmpty then offsetText t.offset else t.zoneName)

end Timestamp

end Turnstile
