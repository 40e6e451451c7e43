import Turnstile.Number.Shortest

/-!
# Writing binary64 numbers

A finite non-zero number is written from its shortest decimal (see
`Turnstile.Number.Shortest`), either positionally (`0.001`, `1500`) or in
scientific form (`1.5e+06`). A `FloatStyle` fixes where scientific form begins,
by the decimal exponent `x` of the leading digit, and how the exponent is written.

* `FloatStyle.general` is scientific for `x < -4` or `x ≥ 6`, with a signed
  exponent of at least two digits: `1e-05`, `1e+06`, `1.5`, `100000`. It is the
  form of settings values, configuration dumps and text log lines.
* `FloatStyle.json` is scientific for `x < -6` or `x ≥ 21`, with the exponent
  as short as possible: `1e-7`, `1e+21`, `12345678901234567000`.

Zero is `0` or `-0`; infinities are `+Inf` and `-Inf`; a NaN is `NaN`.
-/

namespace Turnstile

/-- Where scientific form begins and how its exponent is written. -/
structure FloatStyle where
  /-- Leading exponents below this are scientific. -/
  sciBelow : Int
  /-- Leading exponents at or above this are scientific. -/
  sciFrom : Int
  /-- The exponent has at least two digits. -/
  padExponent : Bool

/-- Settings values, configuration dumps and text log lines. -/
def FloatStyle.general : FloatStyle := ⟨-4, 6, true⟩

/-- Numbers inside JSON documents. -/
def FloatStyle.json : FloatStyle := ⟨-6, 21, false⟩

namespace Binary64

/-- The decimal digits of a natural, most significant first. -/
def digitChars (n : Nat) : List Char := Nat.toDigits 10 n

/-- A decimal `digits · 10 ^ exponent` in positional form. -/
def positional (ds : List Char) (point : Int) : List Char :=
  if point ≤ 0 then
    '0' :: '.' :: (List.replicate (-point).toNat '0' ++ ds)
  else if ds.length ≤ point.toNat then
    ds ++ List.replicate (point.toNat - ds.length) '0'
  else
    ds.take point.toNat ++ '.' :: ds.drop point.toNat

/-- A decimal in scientific form with leading exponent `x`. -/
def scientific (style : FloatStyle) (ds : List Char) (x : Int) : List Char :=
  let mantissa := match ds with
    | [] => ['0']
    | [d] => [d]
    | d :: rest => d :: '.' :: rest
  let expDigits := digitChars x.natAbs
  let expDigits := if style.padExponent && expDigits.length < 2 then '0' :: expDigits else expDigits
  mantissa ++ 'e' :: (if x < 0 then '-' else '+') :: expDigits

/-- A finite non-zero magnitude in the given style. -/
def writeDecimal (style : FloatStyle) (d : Decimal) : List Char :=
  let ds := digitChars d.digits
  let point : Int := ds.length + d.exponent
  let x := point - 1
  if x < style.sciBelow || style.sciFrom ≤ x then scientific style ds x
  else positional ds point

/-- A number in the given style. -/
def render (style : FloatStyle) (v : Binary64) : String :=
  if v.isNaN then "NaN"
  else if v.isInfinite then (if v.negative then "-Inf" else "+Inf")
  else if v.isZero then (if v.negative then "-0" else "0")
  else
    let body := writeDecimal style (Decimal.shortest v)
    String.ofList (if v.negative then '-' :: body else body)

end Binary64

end Turnstile
