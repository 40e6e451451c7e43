/-!
# Hexadecimal text

Bytes and numbers written in base sixteen with the lower-case digits `0-9a-f`.
A byte is always two digits, so a byte string of length `n` becomes a text of
length `2 * n`; `hexWidth w n` writes `n` with at least `w` digits.
-/

namespace Turnstile.Text

/-- The lower-case hexadecimal digit of a number below sixteen. -/
def hexDigit (n : Nat) : Char :=
  if n < 10 then Char.ofNat (48 + n) else Char.ofNat (87 + n)

/-- The two digits of a byte. -/
def hexByte (b : UInt8) : List Char :=
  [hexDigit (b.toNat / 16), hexDigit (b.toNat % 16)]

/-- A byte string in lower-case hexadecimal, two digits per byte. -/
def hexOfBytes (bs : List UInt8) : String :=
  String.ofList (bs.flatMap hexByte)

/-- The hexadecimal digits of `n`, most significant first, at least `width` of them. -/
def hexDigits (width : Nat) (n : Nat) : List Char :=
  let ds := (Nat.toDigits 16 n)
  List.replicate (width - ds.length) '0' ++ ds

/-- `n` in hexadecimal with at least `width` digits. -/
def hexWidth (width : Nat) (n : Nat) : String :=
  String.ofList (hexDigits width n)

end Turnstile.Text
