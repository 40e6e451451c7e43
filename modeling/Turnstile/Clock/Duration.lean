import Turnstile.Number.Arith
import Turnstile.Text.Quoted

/-!
# Durations

A duration is a signed count of nanoseconds that fits in 64 bits.

A duration is written as an optional sign and one or more terms, each a
decimal number (digits, a point, or both, with at least one digit) followed by
a unit: `ns`, `us` (also with the micro sign or the Greek mu), `ms`, `s`, `m`
or `h`.  The text `0` alone, with or without a sign, is zero.  The whole part of
a term must stay within `2 ^ 63` after scaling by its unit.  The fraction part
is scaled in binary64 arithmetic, as `fraction · (unit / 10 ^ digits)` rounded
at each step and then truncated, so a fraction of a large unit may be off by a
nanosecond from the exact value; fraction digits past the 63-bit range are
ignored.  The total must stay within the signed 64-bit range.

A duration is written back as hours, minutes and seconds with the fraction of
its second (`72h0m0.5s`), leading zero units left out, or under a second as
nanoseconds, microseconds or milliseconds with a fraction (`1.5ms`), and `0s`
for zero (`text`).
-/

namespace Turnstile

/-- A signed count of nanoseconds. -/
structure Duration where
  nanos : Int
  deriving DecidableEq, Repr, Inhabited

namespace Duration

def nanosecond : Nat := 1
def microsecond : Nat := 1000
def millisecond : Nat := 1000000
def second : Nat := 1000000000
def minute : Nat := 60 * second
def hour : Nat := 60 * minute

/-- The units and their lengths. -/
def units : List (String × Nat) :=
  [("ns", nanosecond), ("us", microsecond), ("\u00B5s", microsecond), ("\u03BCs", microsecond),
   ("ms", millisecond), ("s", second), ("m", minute), ("h", hour)]

/-- Quote a text as duration messages do: printable ASCII as it is with `"`
and `\` escaped, other characters as the `\x` escapes of their UTF-8 bytes. -/
def quoteText (s : String) : String :=
  let body := s.toList.foldl (fun acc c =>
    if c.toNat ≥ 128 || c.toNat < 32 then
      (String.toUTF8 (String.singleton c)).toList.foldl (fun a b =>
        a ++ "\\x" ++ String.ofList (Text.hexByte b)) acc
    else if c == '"' || c == '\\' then acc ++ "\\" ++ String.singleton c
    else acc.push c) ""
  "\"" ++ body ++ "\""

/-- Leading decimal digits with their value; none when the value passes
`2 ^ 63`. -/
def leadingInt (cs : List Char) : Option (Nat × List Char) :=
  let ds := cs.takeWhile (fun c => '0' ≤ c && c ≤ '9')
  let v := ds.foldl (fun acc c => acc * 10 + (c.toNat - 48)) 0
  if v > Nat.pow 2 63 then none else some (v, cs.drop ds.length)

/-- Leading fraction digits: their value and power of ten, digits that would
pass the 63-bit range being dropped. -/
def leadingFraction (cs : List Char) : Nat × Nat × List Char :=
  let ds := cs.takeWhile (fun c => '0' ≤ c && c ≤ '9')
  let (x, scale, _) := ds.foldl (fun (acc : Nat × Nat × Bool) c =>
    let (x, scale, full) := acc
    if full then acc
    else if x > (Nat.pow 2 63 - 1) / 10 then (x, scale, true)
    else
      let y := x * 10 + (c.toNat - 48)
      if y > Nat.pow 2 63 then (x, scale, true) else (y, scale * 10, false)) (0, 1, false)
  (x, scale, cs.drop ds.length)

/-- The nanoseconds a fraction of a unit adds, in binary64 arithmetic. -/
def fractionNanos (f scale unit : Nat) : Nat :=
  let factor := Binary64.div (Binary64.ofInt unit) (Binary64.ofInt scale)
  (Binary64.mul (Binary64.ofInt f) factor).truncate.toNat

/-- Read the terms of a duration, adding them to `total`. -/
def readTerms (orig : String) : Nat → List Char → Nat → Except String Nat
  | 0, _, total => .ok total
  | n + 1, cs, total =>
    if cs.isEmpty then .ok total
    else
      let invalid : Except String Nat := .error ("time: invalid duration " ++ quoteText orig)
      match cs with
      | c :: _ =>
        if !(c == '.' || ('0' ≤ c && c ≤ '9')) then invalid
        else
          match leadingInt cs with
          | none => invalid
          | some (v, rest) =>
            let pre := rest.length != cs.length
            let (f, scale, rest, post) := match rest with
              | '.' :: r =>
                let (f, scale, r') := leadingFraction r
                (f, scale, r', r'.length != r.length)
              | r => (0, 1, r, false)
            if !pre && !post then invalid
            else
              let unitChars := rest.takeWhile (fun c => !(c == '.' || ('0' ≤ c && c ≤ '9')))
              let rest := rest.drop unitChars.length
              let u := String.ofList unitChars
              if unitChars.isEmpty then .error ("time: missing unit in duration " ++ quoteText orig)
              else match units.lookup u with
                | none => .error ("time: unknown unit " ++ quoteText u ++ " in duration " ++ quoteText orig)
                | some unit =>
                  if v > Nat.pow 2 63 / unit then invalid
                  else
                    let v := v * unit
                    let v := if f > 0 then v + fractionNanos f scale unit else v
                    if v > Nat.pow 2 63 then invalid
                    else
                      let total := total + v
                      if total > Nat.pow 2 63 then invalid else readTerms orig n rest total
      | [] => .ok total

/-- Read a duration. -/
def parse (s : String) : Except String Duration :=
  let cs := s.toList
  let (neg, body) := match cs with
    | '-' :: rest => (true, rest)
    | '+' :: rest => (false, rest)
    | _ => (false, cs)
  if body == ['0'] then .ok ⟨0⟩
  else if body.isEmpty then .error ("time: invalid duration " ++ quoteText s)
  else
    match readTerms s (body.length + 1) body 0 with
    | .error e => .error e
    | .ok d =>
      if neg then .ok ⟨-(d : Int)⟩
      else if d > Nat.pow 2 63 - 1 then .error ("time: invalid duration " ++ quoteText s)
      else .ok ⟨d⟩

/-- The fraction of `v / 10 ^ prec`: a point and its digits without trailing
zeros, or nothing when it is zero. -/
def fractionDigits (v prec : Nat) : String :=
  let f := v % Nat.pow 10 prec
  if f = 0 then ""
  else
    let ds := Nat.toDigits 10 f
    let ds := List.replicate (prec - ds.length) '0' ++ ds
    "." ++ String.ofList (ds.reverse.dropWhile (· = '0')).reverse

/-- The text of a duration. -/
def text (d : Duration) : String :=
  let u := d.nanos.natAbs
  let body :=
    if u = 0 then "0s"
    else if u < microsecond then toString u ++ "ns"
    else if u < millisecond then toString (u / microsecond) ++ fractionDigits u 3 ++ "µs"
    else if u < second then toString (u / millisecond) ++ fractionDigits u 6 ++ "ms"
    else
      let secs := u / second
      let seconds := toString (secs % 60) ++ fractionDigits u 9 ++ "s"
      let mins := secs / 60
      if mins = 0 then seconds
      else
        let minutes := toString (mins % 60) ++ "m" ++ seconds
        if mins / 60 = 0 then minutes else toString (mins / 60) ++ "h" ++ minutes
  if d.nanos < 0 then "-" ++ body else body

example : text ⟨0⟩ = "0s" ∧ text ⟨1500000⟩ = "1.5ms" ∧ text ⟨-90 * second⟩ = "-1m30s" ∧
    text ⟨(72 * 3600 + 1) * second + second / 2⟩ = "72h0m1.5s" := by decide

end Duration

end Turnstile
