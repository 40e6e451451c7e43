/-!
# Header fields

A header field name is written canonically when every character is a token
character (an ASCII letter or digit, or one of the marks allowed in tokens): the
first letter and each letter after a dash are upper case, the other letters
lower case (`content-type` becomes `Content-Type`). A name with any other
character, a space or a non-ASCII character for instance, is kept as it is.

A header map keeps, for each canonical name, its values in the order they were
added; names keep the order of their first addition. Reading a name gives its
first value.
-/

namespace Turnstile.Http

/-- The marks allowed in tokens besides letters and digits. -/
def tokenMarks : List Char :=
  ['!', '#', '$', '%', '&', '\'', '*', '+', '-', '.', '^', '_', Char.ofNat 96, '|', '~']

/-- A character of a token. -/
def isTokenChar (c : Char) : Bool :=
  ('a' ≤ c && c ≤ 'z') || ('A' ≤ c && c ≤ 'Z') || ('0' ≤ c && c ≤ '9') || tokenMarks.contains c

/-- Upper-case the first letter and each letter after a dash; lower-case the rest. -/
def canonicalChars : Bool → List Char → List Char
  | _, [] => []
  | upper, c :: rest =>
    let c' := if upper && 'a' ≤ c && c ≤ 'z' then Char.ofNat (c.toNat - 32)
      else if !upper && 'A' ≤ c && c ≤ 'Z' then Char.ofNat (c.toNat + 32)
      else c
    c' :: canonicalChars (c' == '-') rest

/-- The canonical form of a header name. -/
def canonicalName (name : String) : String :=
  if name.toList.all isTokenChar then String.ofList (canonicalChars true name.toList) else name

/-- A header map: canonical names with their values, in order of first addition. -/
structure Headers where
  entries : List (String × List String)
  deriving Inhabited, Repr

namespace Headers

def empty : Headers := ⟨[]⟩

/-- The values of a name. -/
def values (h : Headers) (name : String) : List String :=
  (h.entries.lookup (canonicalName name)).getD []

/-- The first value of a name. -/
def get? (h : Headers) (name : String) : Option String := (h.values name).head?

/-- Add a value after the name's other values. -/
def add (h : Headers) (name value : String) : Headers :=
  let key := canonicalName name
  if (h.entries.lookup key).isSome then
    ⟨h.entries.map (fun e => if e.1 == key then (e.1, e.2 ++ [value]) else e)⟩
  else ⟨h.entries ++ [(key, [value])]⟩

/-- Replace all values of a name by one value. -/
def set (h : Headers) (name value : String) : Headers :=
  let key := canonicalName name
  if (h.entries.lookup key).isSome then
    ⟨h.entries.map (fun e => if e.1 == key then (e.1, [value]) else e)⟩
  else ⟨h.entries ++ [(key, [value])]⟩

/-- Remove a name. -/
def erase (h : Headers) (name : String) : Headers :=
  let key := canonicalName name
  ⟨h.entries.filter (fun e => e.1 != key)⟩

/-- The map built by adding pairs in order. -/
def ofPairs (pairs : List (String × String)) : Headers :=
  pairs.foldl (fun h p => h.add p.1 p.2) empty

end Headers

end Turnstile.Http
