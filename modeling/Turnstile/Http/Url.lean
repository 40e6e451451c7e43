import Turnstile.Path.Slash
import Turnstile.Text.Quoted

/-!
# Request targets

A request names its resource by a target such as `/auth/admin?x=1#top`.  The
part from `#` on is the fragment and is dropped; the part after the first `?`
is the query, kept as written; the rest is the path, with each `%` escape (a
percent sign and two hex digits) replaced by the byte it names.  A `%` not
followed by two hex digits makes the target invalid.

Writing a path back escapes every byte other than letters, digits, the marks
`-_.~` and the reserved characters `$&+,/:;=@`, as `%` and two upper-case hex
digits.

A request path is cleaned as a path that starts at the root: the empty path is
`/`, a missing leading slash is added, and a trailing slash is kept.
-/

namespace Turnstile.Http

/-- The value of a hex digit. -/
def hexValue (c : Char) : Option Nat :=
  if '0' ≤ c && c ≤ '9' then some (c.toNat - 48)
  else if 'a' ≤ c && c ≤ 'f' then some (c.toNat - 87)
  else if 'A' ≤ c && c ≤ 'F' then some (c.toNat - 55)
  else none

/-- The upper-case hex digit of a number below sixteen. -/
def upperHexDigit (n : Nat) : Char :=
  if n < 10 then Char.ofNat (48 + n) else Char.ofNat (55 + n)

/-- A byte written as `%XX`. -/
def percentByte (b : UInt8) : List Char :=
  ['%', upperHexDigit (b.toNat / 16), upperHexDigit (b.toNat % 16)]

/-- Text from bytes: UTF-8 when the bytes are valid UTF-8, one character per
byte otherwise. -/
def textOfBytes (bs : List UInt8) : String :=
  match String.fromUTF8? (ByteArray.mk bs.toArray) with
  | some s => s
  | none => String.ofList (bs.map fun b => Char.ofNat b.toNat)

/-- The bytes of a text. -/
def bytesOf (s : String) : List UInt8 := s.toUTF8.toList

/-- Replace `%XX` escapes in bytes; fail at a malformed escape with the at most
three bytes it starts. -/
def unescapeBytes : List UInt8 → Except (List UInt8) (List UInt8)
  | [] => .ok []
  | b :: rest =>
    if b = 37 then
      match rest with
      | h :: l :: more =>
        match hexValue (Char.ofNat h.toNat), hexValue (Char.ofNat l.toNat) with
        | some x, some y =>
          match unescapeBytes more with
          | .ok out => .ok ((x * 16 + y).toUInt8 :: out)
          | .error e => .error e
        | _, _ => .error (b :: (rest.take 2))
      | _ => .error (b :: rest)
    else
      match unescapeBytes rest with
      | .ok out => .ok (b :: out)
      | .error e => .error e

/-- A path with its escapes replaced. -/
def unescapePath (s : String) : Except String String :=
  match unescapeBytes (bytesOf s) with
  | .ok bs => .ok (textOfBytes bs)
  | .error bad => .error ("invalid URL escape " ++ Text.quote (textOfBytes bad))

/-- Whether a byte is written as itself in a path. -/
def pathSafe (b : UInt8) : Bool :=
  let c := Char.ofNat b.toNat
  ('a' ≤ c && c ≤ 'z') || ('A' ≤ c && c ≤ 'Z') || ('0' ≤ c && c ≤ '9') ||
    "-_.~$&+,/:;=@".toList.contains c

/-- A path with the bytes that need it escaped. -/
def escapePath (s : String) : String :=
  String.ofList ((bytesOf s).flatMap fun b =>
    if pathSafe b then [Char.ofNat b.toNat] else percentByte b)

/-- Escape the bytes of a text that are not ASCII. -/
def escapeNonAscii (s : String) : String :=
  String.ofList ((bytesOf s).flatMap fun b =>
    if b < 128 then [Char.ofNat b.toNat] else percentByte b)

/-- A text made safe inside HTML. -/
def htmlEscape (s : String) : String :=
  String.join (s.toList.map fun c =>
    if c = '&' then "&amp;"
    else if c = '<' then "&lt;"
    else if c = '>' then "&gt;"
    else if c = '"' then "&#34;"
    else if c = '\'' then "&#39;"
    else String.singleton c)

/-- The path and query of a target; the fragment is dropped. -/
structure Target where
  path : String
  rawQuery : String
  deriving Inhabited, Repr, DecidableEq

/-- Read a target. -/
def Target.parse (target : String) : Except String Target :=
  let beforeFragment := (target.splitOn "#").headD ""
  let (rawPath, rawQuery) := match beforeFragment.splitOn "?" with
    | [] => ("", "")
    | [p] => (p, "")
    | p :: rest => (p, "?".intercalate rest)
  match unescapePath rawPath with
  | .ok path => .ok { path, rawQuery }
  | .error e => .error e

/-- The target written back from a path and a query. -/
def Target.render (t : Target) : String :=
  escapePath t.path ++ (if t.rawQuery.isEmpty then "" else "?" ++ t.rawQuery)

/-- A request path cleaned from the root, keeping a trailing slash. -/
def cleanRequestPath (p : String) : String :=
  if p.isEmpty then "/"
  else
    let rooted := if p.startsWith "/" then p else "/" ++ p
    let np := Path.clean rooted
    if rooted.endsWith "/" && np != "/" then np ++ "/" else np

end Turnstile.Http
