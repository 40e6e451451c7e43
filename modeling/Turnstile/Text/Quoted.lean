import Turnstile.Text.Printable
import Turnstile.Text.Hex

/-!
# Quoted text

A text is quoted by putting it between double quotes. Inside, a double quote
and a backslash get a backslash before them, printable characters stand for
themselves, the seven controls with letter escapes are written `\a \b \f \n \r
\t \v`, other ASCII controls and delete are written `\xhh`, and every other
character that is not printable is written `\uhhhh` or, beyond the basic plane,
`\Uhhhhhhhh`, with lower-case hexadecimal digits.
-/

namespace Turnstile.Text

/-- The quoted form of one character, without the surrounding quotes. -/
def escapeChar (c : Char) : List Char :=
  if c == '"' then ['\\', '"']
  else if c == '\\' then ['\\', '\\']
  else if isPrintable c then [c]
  else if c == '\x07' then ['\\', 'a']
  else if c == '\x08' then ['\\', 'b']
  else if c == '\x0c' then ['\\', 'f']
  else if c == '\n' then ['\\', 'n']
  else if c == '\r' then ['\\', 'r']
  else if c == '\t' then ['\\', 't']
  else if c == '\x0b' then ['\\', 'v']
  else if c.toNat < 0x20 || c.toNat == 0x7F then '\\' :: 'x' :: hexDigits 2 c.toNat
  else if c.toNat < 0x10000 then '\\' :: 'u' :: hexDigits 4 c.toNat
  else '\\' :: 'U' :: hexDigits 8 c.toNat

/-- A text between double quotes, with escapes. -/
def quote (s : String) : String :=
  String.ofList ('"' :: s.toList.flatMap escapeChar ++ ['"'])

end Turnstile.Text
