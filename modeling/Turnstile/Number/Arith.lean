import Turnstile.Number.Binary64

/-!
# Binary64 products and quotients

A finite binary64 number is exactly `± significand · 2 ^ exponent`, a rational
number.  The product and the quotient of two finite numbers are computed on
those rationals exactly and then rounded once to the nearest number, ties to
even, which is what the hardware operations give.  Infinities and NaN follow
the usual rules: NaN spreads, an infinity times zero or an infinity over an
infinity is NaN, and a finite number over zero is an infinity with the sign of
the quotient.
-/

namespace Turnstile.Binary64

/-- The magnitude of a finite number as a numerator and a denominator. -/
def magnitude (x : Binary64) : Nat × Nat :=
  if 0 ≤ x.exponent then (x.significand * Nat.pow 2 x.exponent.toNat, 1)
  else (x.significand, Nat.pow 2 (-x.exponent).toNat)

/-- The correctly rounded product. -/
def mul (x y : Binary64) : Binary64 :=
  let neg := x.negative != y.negative
  if x.isNaN || y.isNaN then nan
  else if x.isInfinite || y.isInfinite then
    if x.isZero || y.isZero then nan else infinity neg
  else
    let (a, b) := x.magnitude
    let (c, d) := y.magnitude
    ofRatio neg (a * c) (b * d)

/-- The correctly rounded quotient. -/
def div (x y : Binary64) : Binary64 :=
  let neg := x.negative != y.negative
  if x.isNaN || y.isNaN then nan
  else if x.isInfinite then (if y.isInfinite then nan else infinity neg)
  else if y.isInfinite then zero neg
  else if y.isZero then (if x.isZero then nan else infinity neg)
  else
    let (a, b) := x.magnitude
    let (c, d) := y.magnitude
    ofRatio neg (a * d) (b * c)

example : mul (ofInt 3) (ofInt 4) = ofInt 12 := by decide
example : div (ofInt 1) (ofInt 10) = ofDecimal false 1 (-1) := by decide

end Turnstile.Binary64
