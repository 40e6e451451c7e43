import Turnstile.Number.Binary64
import Turnstile.Text.Quoted

/-!
# Reading numbers

Integers are read in a base from 2 to 36, or with base zero from their prefix:
`0x` for hexadecimal, `0o` and a bare leading `0` for octal, `0b` for binary,
decimal otherwise.  A prefix counts only when at least one character follows it,
so `0x` alone is the octal digit `0` followed by the invalid digit `x`.  A
signed integer takes an optional `+` or `-` and must fit in 64 bits.

A decimal number is an optional sign, digits with at most one point and at
least one digit, and an optional exponent: `e` or `E`, an optional sign and at
least one digit.  It is rounded to the nearest binary64 number, ties to even; a
finite text that rounds beyond the largest number is out of range.  The words
`inf`, `infinity` and `nan`, in any case and the first two with a sign, are read
as themselves.
-/

namespace Turnstile.Number

/-- The value of a digit or letter as a digit, letters from ten on. -/
def digitValue (c : Char) : Option Nat :=
  if '0' ≤ c && c ≤ '9' then some (c.toNat - '0'.toNat)
  else if 'a' ≤ c && c ≤ 'z' then some (c.toNat - 'a'.toNat + 10)
  else if 'A' ≤ c && c ≤ 'Z' then some (c.toNat - 'A'.toNat + 10)
  else none

/-- The value of digits in a base; none when one is not a digit of the base.
No digits at all read as zero. -/
def digitsValue (base : Nat) (cs : List Char) : Option Nat :=
  cs.foldlM (fun acc c => do
    let d ← digitValue c
    if d < base then some (acc * base + d) else none) 0

/-- The base a base-zero integer is written in and its digits. -/
def splitPrefix (cs : List Char) : Nat × List Char :=
  match cs with
  | '0' :: p :: d :: rest =>
    if p == 'b' || p == 'B' then (2, d :: rest)
    else if p == 'o' || p == 'O' then (8, d :: rest)
    else if p == 'x' || p == 'X' then (16, d :: rest)
    else (8, p :: d :: rest)
  | '0' :: rest => (8, rest)
  | _ => (10, cs)

/-- An unsigned integer below `2 ^ 64`, in `base` or by its prefix when `base`
is zero. -/
def parseUnsigned (s : String) (base : Nat) : Option Nat :=
  let cs := s.toList
  if cs.isEmpty then none
  else
    let (b, ds) := if base = 0 then splitPrefix cs else (base, cs)
    match digitsValue b ds with
    | some n => if n < Nat.pow 2 64 then some n else none
    | none => none

/-- A signed integer within the 64-bit range, in `base` or by its prefix when
`base` is zero. -/
def parseSigned (s : String) (base : Nat) : Option Int :=
  let cs := s.toList
  let (neg, body) := match cs with
    | '+' :: rest => (false, rest)
    | '-' :: rest => (true, rest)
    | _ => (false, cs)
  if body.isEmpty then none
  else
    let (b, ds) := if base = 0 then splitPrefix body else (base, body)
    match digitsValue b ds with
    | some n =>
      let v : Int := if neg then -(n : Int) else n
      if -(Int.pow 2 63) ≤ v ∧ v < Int.pow 2 63 then some v else none
    | none => none

/-- The parts of a decimal number: its sign, its digits as one natural, and the
power of ten that scales them. -/
structure DecimalText where
  negative : Bool
  mantissa : Nat
  scale : Int
  deriving Repr

/-- Split leading decimal digits from the rest. -/
def leadingDigits (cs : List Char) : List Char × List Char :=
  (cs.takeWhile (fun c => '0' ≤ c && c ≤ '9'), cs.dropWhile (fun c => '0' ≤ c && c ≤ '9'))

/-- The value of decimal digits. -/
def decimalValue (ds : List Char) : Nat :=
  ds.foldl (fun acc c => acc * 10 + (c.toNat - '0'.toNat)) 0

/-- Read the exponent part of a decimal number: empty, or `e`/`E`, a sign and
digits. -/
def readExponent (cs : List Char) : Option Int :=
  match cs with
  | [] => some 0
  | e :: rest =>
    if e == 'e' || e == 'E' then
      let (neg, body) := match rest with
        | '+' :: r => (false, r)
        | '-' :: r => (true, r)
        | r => (false, r)
      let (ds, tail) := leadingDigits body
      if ds.isEmpty || !tail.isEmpty then none
      else
        let v : Int := decimalValue ds
        some (if neg then -v else v)
    else none

/-- Read a decimal number written in the syntax above. -/
def readDecimal (s : String) : Option DecimalText :=
  let cs := s.toList
  let (neg, body) := match cs with
    | '+' :: rest => (false, rest)
    | '-' :: rest => (true, rest)
    | _ => (false, cs)
  let (whole, rest) := leadingDigits body
  let (frac, rest) := match rest with
    | '.' :: r => leadingDigits r
    | r => ([], r)
  if whole.isEmpty && frac.isEmpty then none
  else
    match readExponent rest with
    | some e => some ⟨neg, decimalValue (whole ++ frac), e - frac.length⟩
    | none => none

/-- Whether a text is one of the special words, and which value it names. -/
def specialFloat (s : String) : Option Binary64 :=
  let lower := String.ofList (s.toList.map Char.toLower)
  if lower == "inf" || lower == "+inf" || lower == "infinity" || lower == "+infinity" then
    some (Binary64.infinity false)
  else if lower == "-inf" || lower == "-infinity" then some (Binary64.infinity true)
  else if lower == "nan" then some Binary64.nan
  else none

/-- A decimal number rounded to binary64; none on bad syntax or when the text
is out of range. -/
def parseFloat (s : String) : Option Binary64 :=
  match specialFloat s with
  | some v => some v
  | none =>
    match readDecimal s with
    | some d =>
      let v := Binary64.ofDecimal d.negative d.mantissa d.scale
      if v.isInfinite then none else some v
    | none => none

/-- How reading a decimal integer failed. -/
inductive IntError where
  | malformed
  | outOfRange
  deriving DecidableEq, Repr

/-- Read unsigned decimal digits, failing at the first character that is not a
digit or at the first digit that takes the value to `2 ^ 64` or beyond,
whichever comes first. -/
def decimalDigits : List Char → Nat → Except IntError Nat
  | [], acc => .ok acc
  | c :: rest, acc =>
    if !('0' ≤ c && c ≤ '9') then .error .malformed
    else
      let acc := acc * 10 + (c.toNat - 48)
      if acc ≥ Nat.pow 2 64 then .error .outOfRange else decimalDigits rest acc

/-- A signed decimal integer within 64 bits, with the reason when it is not. -/
def decimalInt (s : String) : Except IntError Int :=
  let cs := s.toList
  let (neg, body) := match cs with
    | '+' :: rest => (false, rest)
    | '-' :: rest => (true, rest)
    | _ => (false, cs)
  if body.isEmpty then .error .malformed
  else
    match decimalDigits body 0 with
    | .error e => .error e
    | .ok n =>
      if !neg && n ≥ Nat.pow 2 63 then .error .outOfRange
      else if neg && n > Nat.pow 2 63 then .error .outOfRange
      else .ok (if neg then -(n : Int) else n)

/-- Read a decimal integer as `Atoi` does, with its error message. -/
def atoi (s : String) : Except String Int :=
  match decimalInt s with
  | .ok v => .ok v
  | .error e =>
    let why := if e == .malformed then "invalid syntax" else "value out of range"
    .error ("strconv.Atoi: parsing " ++ Text.quote s ++ ": " ++ why)

/-- The value of an integer as a binary64 number. -/
def floatOfInt (i : Int) : Binary64 := Binary64.ofInt i

end Turnstile.Number
