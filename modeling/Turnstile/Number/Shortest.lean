import Turnstile.Number.Binary64

/-!
# Shortest decimal of a binary64 number

Every finite non-zero binary64 number `v` is the rounding of all reals in an
interval around it: half-way to each neighbour, the ends included when the
significand is even. The shortest decimal of `v` is a decimal `d · 10 ^ k` in
that interval with the fewest significant digits; among those of that length
the one nearest `v` wins, and an exact tie goes to the even `d`.

The search tries one, two, … seventeen digits. For `n` digits the grid is
`10 ^ (E - n + 1)`, where `E = ⌊log₁₀ v⌋`, and only the two grid points around
`v` can be nearest. Seventeen digits always hit, so the search ends there.
All comparisons are exact, in natural numbers.
-/

namespace Turnstile

/-- A positive decimal `digits · 10 ^ exponent`. -/
structure Decimal where
  digits : Nat
  exponent : Int
  deriving DecidableEq, Repr

namespace Decimal

/-- Compare `a · 10 ^ k` with `b · 2 ^ p`. -/
def comparePowers (a : Nat) (k : Int) (b : Nat) (p : Int) : Ordering :=
  let lhs := a * (if 0 ≤ k then Nat.pow 10 k.toNat else 1) * (if p < 0 then Nat.pow 2 (-p).toNat else 1)
  let rhs := b * (if k < 0 then Nat.pow 10 (-k).toNat else 1) * (if 0 ≤ p then Nat.pow 2 p.toNat else 1)
  compare lhs rhs

/-- `⌊log₁₀ (s · 2 ^ e)⌋` for a positive `s`: an estimate from the binary
logarithm, corrected by one step each way. -/
def floorLog10 (s : Nat) (e : Int) : Int :=
  let b : Int := (Nat.log2 s : Int) + e
  let guess : Int := Int.fdiv (b * 30103) 100000
  let up := if comparePowers 1 (guess + 1) s e != .gt then guess + 1 else guess
  if comparePowers 1 up s e == .gt then up - 1 else up

/-- Remove trailing zeros of the digits, raising the exponent. -/
def normalize (d : Decimal) : Decimal :=
  if d.digits = 0 then d
  else if d.digits % 10 = 0 then normalize ⟨d.digits / 10, d.exponent + 1⟩
  else d
termination_by d.digits
decreasing_by omega

/-- The rounding interval of `s · 2 ^ e` in quarter units of `2 ^ e`: the lower
end, the upper end, and whether the ends belong to it. -/
structure Interval where
  low : Nat
  high : Nat
  closed : Bool

/-- The candidate `c · 10 ^ k` lies in the interval `⟨low, high⟩ · 2 ^ p`. -/
def inside (iv : Interval) (p : Int) (c : Nat) (k : Int) : Bool :=
  let lowOk := match comparePowers c k iv.low p with
    | .gt => true
    | .eq => iv.closed
    | .lt => false
  let highOk := match comparePowers c k iv.high p with
    | .lt => true
    | .eq => iv.closed
    | .gt => false
  lowOk && highOk

/-- Try `n`, `n + 1`, … digits (at most `fuel` more) for the value `s · 2 ^ e`
with log `E` and interval `iv` (in units of `2 ^ (e - 2)`). -/
def search (s : Nat) (e : Int) (E : Int) (iv : Interval) (n : Nat) : Nat → Decimal
  | 0 => ⟨s, e⟩
  | fuel + 1 =>
    let k : Int := E - n + 1
    let num := s * (if 0 ≤ e then Nat.pow 2 e.toNat else 1) * (if k < 0 then Nat.pow 10 (-k).toNat else 1)
    let den := (if e < 0 then Nat.pow 2 (-e).toNat else 1) * (if 0 ≤ k then Nat.pow 10 k.toNat else 1)
    let lo := num / den
    let hi := lo + 1
    let p := e - 2
    let loIn := inside iv p lo k
    let hiIn := inside iv p hi k
    if loIn && hiIn then
      -- both are in: the nearer wins; at an exact tie the even one
      match comparePowers (2 * lo + 1) k (4 * s) (e - 1) with
      | .gt => ⟨lo, k⟩
      | .lt => ⟨hi, k⟩
      | .eq => if lo % 2 = 0 then ⟨lo, k⟩ else ⟨hi, k⟩
    else if loIn then ⟨lo, k⟩
    else if hiIn then ⟨hi, k⟩
    else search s e E iv (n + 1) fuel

/-- The shortest decimal of a finite non-zero number's magnitude. -/
def shortest (x : Binary64) : Decimal :=
  let s := x.significand
  let e := x.exponent
  let boundary := x.fraction = 0 ∧ x.biased > 1
  let iv : Interval :=
    ⟨if boundary then 4 * s - 1 else 4 * s - 2, 4 * s + 2, s % 2 == 0⟩
  normalize (search s e (floorLog10 s e) iv 1 17)

end Decimal

end Turnstile
