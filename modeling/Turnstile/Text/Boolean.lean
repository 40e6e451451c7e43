/-!
# Truth words

The words read as truth values: `1 t T TRUE true True` are true and
`0 f F FALSE false False` are false. Every other text, including other mixes of
case such as `tRUE`, is not a truth word.
-/

namespace Turnstile.Text

/-- The truth value a word spells, if it spells one. -/
def parseBool? (s : String) : Option Bool :=
  if s == "1" || s == "t" || s == "T" || s == "TRUE" || s == "true" || s == "True" then some true
  else if s == "0" || s == "f" || s == "F" || s == "FALSE" || s == "false" || s == "False" then
    some false
  else none

/-- The word for a truth value. -/
def boolWord (b : Bool) : String := if b then "true" else "false"

theorem parseBool?_boolWord (b : Bool) : parseBool? (boolWord b) = some b := by
  cases b <;> decide

end Turnstile.Text
