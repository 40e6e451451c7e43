/-!
# Reading bytes as text

Bytes are read as UTF-8, one character at a time.  A byte that does not start
a well-formed sequence, or starts one that the following bytes break off,
stands for one replacement character `U+FFFD`, and reading goes on at the next
byte.  Well-formed means the shortest encoding of a character that is not a
surrogate: a lead byte `C2`–`DF` takes one continuation byte, `E0`–`EF` two
(after `E0` at least `A0`, after `ED` at most `9F`), and `F0`–`F4` three (after
`F0` at least `90`, after `F4` at most `8F`); continuation bytes are `80`–`BF`.
-/

namespace Turnstile.Text

/-- Whether a byte continues a sequence within the given bounds. -/
def continues (lo hi : Nat) (b : UInt8) : Bool := lo ≤ b.toNat && b.toNat ≤ hi

/-- The lowest and highest allowed second byte after a lead byte. -/
def secondRange (lead : Nat) : Nat × Nat :=
  if lead = 0xE0 then (0xA0, 0xBF)
  else if lead = 0xED then (0x80, 0x9F)
  else if lead = 0xF0 then (0x90, 0xBF)
  else if lead = 0xF4 then (0x80, 0x8F)
  else (0x80, 0xBF)

/-- Read bytes as UTF-8, each byte that is not part of a well-formed sequence
read as `U+FFFD`. -/
def decodeLossy : List UInt8 → List Char
  | [] => []
  | b :: rest =>
    let n := b.toNat
    let lo := (secondRange n).1
    let hi := (secondRange n).2
    if n < 0x80 then Char.ofNat n :: decodeLossy rest
    else if 0xC2 ≤ n && n ≤ 0xDF then
      match h : rest with
      | c :: more =>
        if continues 0x80 0xBF c then Char.ofNat ((n - 0xC0) * 64 + (c.toNat - 0x80)) :: decodeLossy more
        else '�' :: decodeLossy rest
      | [] => ['�']
    else if 0xE0 ≤ n && n ≤ 0xEF then
      match h : rest with
      | c :: d :: more =>
        if continues lo hi c && continues 0x80 0xBF d then
          Char.ofNat ((n - 0xE0) * 4096 + (c.toNat - 0x80) * 64 + (d.toNat - 0x80)) :: decodeLossy more
        else '�' :: decodeLossy rest
      | _ => '�' :: decodeLossy rest
    else if 0xF0 ≤ n && n ≤ 0xF4 then
      match h : rest with
      | c :: d :: e :: more =>
        if continues lo hi c && continues 0x80 0xBF d && continues 0x80 0xBF e then
          Char.ofNat ((n - 0xF0) * 262144 + (c.toNat - 0x80) * 4096 + (d.toNat - 0x80) * 64 +
            (e.toNat - 0x80)) :: decodeLossy more
        else '�' :: decodeLossy rest
      | _ => '�' :: decodeLossy rest
    else '�' :: decodeLossy rest
termination_by bs => bs.length
decreasing_by all_goals (simp_all; try omega)

/-- The text bytes spell, read as UTF-8 with replacement characters. -/
def textOfUtf8 (bs : List UInt8) : String := String.ofList (decodeLossy bs)

end Turnstile.Text
