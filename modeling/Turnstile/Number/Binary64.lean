/-!
# Binary64 numbers

A binary64 number (IEEE 754 double precision) is kept as its 64-bit pattern:
one sign bit, eleven bits of biased exponent and fifty-two fraction bits. A
finite number is `± significand · 2 ^ exponent`; the significand carries the
implicit leading bit unless the biased exponent is zero.

This module reads a pattern into those parts, orders numbers as the standard
does (a NaN is unordered and the two zeros are equal), and rounds an exact
ratio of naturals to the nearest number, a tie going to the even significand.
A ratio at or beyond the rounding boundary of the largest finite number becomes
an infinity, and one below half the least subnormal becomes a zero.
-/

namespace Turnstile

/-- A binary64 number, as its bit pattern. -/
structure Binary64 where
  bits : UInt64
  deriving DecidableEq, Repr, Inhabited

namespace Binary64

/-- The sign bit. -/
def negative (x : Binary64) : Bool := decide (Nat.pow 2 63 ≤ x.bits.toNat)

/-- The eleven-bit biased exponent field. -/
def biased (x : Binary64) : Nat := x.bits.toNat / Nat.pow 2 52 % Nat.pow 2 11

/-- The fifty-two-bit fraction field. -/
def fraction (x : Binary64) : Nat := x.bits.toNat % Nat.pow 2 52

def isNaN (x : Binary64) : Bool := x.biased == 2047 && x.fraction != 0

def isInfinite (x : Binary64) : Bool := x.biased == 2047 && x.fraction == 0

def isFinite (x : Binary64) : Bool := x.biased < 2047

def isZero (x : Binary64) : Bool := x.biased == 0 && x.fraction == 0

/-- The significand of a finite number, with its implicit bit. -/
def significand (x : Binary64) : Nat :=
  if x.biased = 0 then x.fraction else x.fraction + Nat.pow 2 52

/-- The binary exponent of a finite number: its magnitude is
`significand * 2 ^ exponent`. -/
def exponent (x : Binary64) : Int :=
  if x.biased = 0 then -1074 else (x.biased : Int) - 1075

/-- The pattern with the given sign, biased exponent and fraction. -/
def ofParts (neg : Bool) (biasedExp frac : Nat) : Binary64 :=
  ⟨UInt64.ofNat ((if neg then Nat.pow 2 63 else 0) + biasedExp * Nat.pow 2 52 + frac)⟩

def infinity (neg : Bool) : Binary64 := ofParts neg 2047 0

/-- The quiet NaN with the least payload bit set. -/
def nan : Binary64 := ⟨0x7FF8000000000001⟩

def zero (neg : Bool) : Binary64 := ofParts neg 0 0

/-- The number with the opposite sign. -/
def negate (x : Binary64) : Binary64 := ⟨x.bits ^^^ 0x8000000000000000⟩

/-- The magnitude pattern, read as a signed integer: larger magnitudes give
larger keys, the two zeros give the same key. -/
def orderKey (x : Binary64) : Int :=
  let m : Int := x.bits.toNat % Int.pow 2 63
  if x.negative then -m else m

/-- `x < y` as the standard orders numbers: false when either is a NaN. -/
def lt (x y : Binary64) : Bool := !x.isNaN && !y.isNaN && decide (x.orderKey < y.orderKey)

/-- `x ≤ y` as the standard orders numbers: false when either is a NaN. -/
def le (x y : Binary64) : Bool := !x.isNaN && !y.isNaN && decide (x.orderKey ≤ y.orderKey)

/-- `x = y` as the standard compares numbers: the zeros are equal, a NaN equals nothing. -/
def eq (x y : Binary64) : Bool := !x.isNaN && !y.isNaN && decide (x.orderKey = y.orderKey)

/-- The quotient `a / b` rounded to the nearest natural, a tie to the even one. -/
def roundHalfEven (a b : Nat) : Nat :=
  let q := a / b
  let r := a % b
  if 2 * r > b ∨ (2 * r = b ∧ q % 2 = 1) then q + 1 else q

/-- Whether `num / den ≥ 2 ^ b`. -/
def atLeastPow2 (num den : Nat) (b : Int) : Bool :=
  if 0 ≤ b then decide (den * Nat.pow 2 b.toNat ≤ num) else decide (den ≤ num * Nat.pow 2 (-b).toNat)

/-- `⌊log₂ (num / den)⌋` for positive `num` and `den`. The difference of the two
logarithms is that floor or one more. -/
def floorLog2 (num den : Nat) : Int :=
  let b : Int := (Nat.log2 num : Int) - Nat.log2 den
  if atLeastPow2 num den b then b else b - 1

/-- The number nearest to `num / den` with the given sign, a tie to the even
significand. -/
def ofRatio (neg : Bool) (num den : Nat) : Binary64 :=
  if num = 0 ∨ den = 0 then zero neg
  else
    let e : Int := max (floorLog2 num den - 52) (-1074)
    let s := if 0 ≤ e then roundHalfEven num (den * Nat.pow 2 e.toNat)
      else roundHalfEven (num * Nat.pow 2 (-e).toNat) den
    let (s, e) := if s = Nat.pow 2 53 then (Nat.pow 2 52, e + 1) else (s, e)
    if e > 971 then infinity neg
    else if s < Nat.pow 2 52 then ofParts neg 0 s
    else ofParts neg (e + 1075).toNat (s - Nat.pow 2 52)

/-- The number of decimal digits of a positive natural. -/
def decimalLength (m : Nat) : Nat := (Nat.toDigits 10 m).length

/-- The number nearest to `± m · 10 ^ q`. Decimals far beyond the range go to an
infinity or a zero without computing their powers. -/
def ofDecimal (neg : Bool) (m : Nat) (q : Int) : Binary64 :=
  if m = 0 then zero neg
  else if (decimalLength m : Int) + q > 330 then infinity neg
  else if (decimalLength m : Int) + q < -330 then zero neg
  else if 0 ≤ q then ofRatio neg (m * Nat.pow 10 q.toNat) 1
  else ofRatio neg m (Nat.pow 10 (-q).toNat)

/-- The number nearest to an integer. -/
def ofInt (i : Int) : Binary64 := ofDecimal (decide (i < 0)) i.natAbs 0

/-- Whether a finite number is an integer. -/
def isIntegral (x : Binary64) : Bool :=
  x.isFinite && (0 ≤ x.exponent || x.significand % Nat.pow 2 (-x.exponent).toNat == 0)

/-- The integer part of a finite number, rounded toward zero. -/
def truncate (x : Binary64) : Int :=
  let m : Nat := if 0 ≤ x.exponent then x.significand * Nat.pow 2 x.exponent.toNat
    else x.significand / Nat.pow 2 (-x.exponent).toNat
  if x.negative then -(m : Int) else m

example : ofDecimal false 1 0 = ⟨0x3FF0000000000000⟩ := by decide
example : ofDecimal false 1 (-1) = ⟨0x3FB999999999999A⟩ := by decide

end Binary64

end Turnstile
