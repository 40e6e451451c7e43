import Turnstile.Text.Utf8

/-!
# Base64

The standard base64 alphabet `A`–`Z`, `a`–`z`, `0`–`9`, `+`, `/` with `=`
padding.  Decoding first drops every carriage return and line feed, then reads
groups of four characters as three bytes.  The last group may be padded: two
characters and `==` give one byte, three characters and `=` give two.  Any
other character, a group cut short, padding elsewhere, or anything after the
padding makes the text invalid.  Bits below the last whole byte of a padded
group are not checked.
-/

namespace Turnstile.Base64

/-- The alphabet, in value order. -/
def alphabet : List Char :=
  "ABCDEFGHIJKLMNOPQRSTUVWXYZabcdefghijklmnopqrstuvwxyz0123456789+/".toList

/-- The six-bit value of a character of the alphabet. -/
def sextet (c : Char) : Option Nat := alphabet.idxOf? c

/-- Decode groups of four characters. -/
def decodeGroups : List Char → Option (List UInt8)
  | [] => some []
  | [a, b, '=', '='] => do
    let v := (← sextet a) * 64 + (← sextet b)
    return [(v / 16).toUInt8]
  | [a, b, c, '='] => do
    let v := ((← sextet a) * 64 + (← sextet b)) * 64 + (← sextet c)
    return [(v / 1024).toUInt8, (v / 4 % 256).toUInt8]
  | a :: b :: c :: d :: rest => do
    let v := (((← sextet a) * 64 + (← sextet b)) * 64 + (← sextet c)) * 64 + (← sextet d)
    let more ← decodeGroups rest
    return (v / 65536).toUInt8 :: (v / 256 % 256).toUInt8 :: (v % 256).toUInt8 :: more
  | _ => none

/-- The bytes a base64 text stands for, if it is valid. -/
def decode (s : String) : Option (List UInt8) :=
  decodeGroups (s.toList.filter fun c => c != '\n' && c != '\r')

/-- The text a base64 text stands for, read as UTF-8, if it is valid. -/
def decodeText (s : String) : Option String := (decode s).map Text.textOfUtf8

end Turnstile.Base64
