/-!
# Texts inside texts

`containsChars sub cs` says whether `sub` occurs in `cs` as a block of adjacent
characters; the empty block occurs in every list.
-/

namespace Turnstile.Text

/-- Whether `sub` occurs in `cs` as a block of adjacent characters. -/
def containsChars (sub : List Char) : List Char → Bool
  | [] => sub.isEmpty
  | c :: rest => sub.isPrefixOf (c :: rest) || containsChars sub rest

/-- Whether `sub` occurs in `s`. -/
def containsText (s sub : String) : Bool := containsChars sub.toList s.toList

theorem containsChars_nil (cs : List Char) : containsChars [] cs = true := by
  cases cs <;> simp [containsChars, List.isPrefixOf]

end Turnstile.Text
