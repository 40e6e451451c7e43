/-!
# Blank characters

A character is blank when it has the Unicode White_Space property: the ASCII
controls from tab to carriage return, the space, next line, no-break space, the
ogham space mark, the spaces from en quad to hair space, the line and paragraph
separators, the narrow no-break space, the medium mathematical space and the
ideographic space. Zero-width characters, the byte-order mark and the ASCII
information separators are not blank.

`trimBlank` removes blanks at both ends of a text and `fields` cuts a text at
runs of blanks. `isAsciiBlank` is the smaller class of pattern-language
whitespace: tab, line feed, form feed, carriage return and space.
-/

namespace Turnstile.Text

/-- A character is blank when it has the Unicode White_Space property. -/
def isBlank (c : Char) : Bool :=
  let n := c.toNat
  (0x09 ≤ n && n ≤ 0x0D) || n == 0x20 || n == 0x85 || n == 0xA0 || n == 0x1680 ||
    (0x2000 ≤ n && n ≤ 0x200A) || n == 0x2028 || n == 0x2029 || n == 0x202F ||
    n == 0x205F || n == 0x3000

/-- Tab, line feed, form feed, carriage return and space: the whitespace class of
search patterns. Vertical tab is not in it. -/
def isAsciiBlank (c : Char) : Bool :=
  c == '\t' || c == '\n' || c == '\x0c' || c == '\r' || c == ' '

/-- The characters of a list with the blanks at both ends removed. -/
def trimBlankList (cs : List Char) : List Char :=
  ((cs.dropWhile isBlank).reverse.dropWhile isBlank).reverse

/-- A text with the blanks at both ends removed. -/
def trimBlank (s : String) : String :=
  String.ofList (trimBlankList s.toList)

/-- A text with the given characters removed from its end. -/
def trimEndBy (p : Char → Bool) (s : String) : String :=
  String.ofList (s.toList.reverse.dropWhile p).reverse

/-- Cut a character list at runs of characters satisfying `p`, keeping the
non-empty pieces in order. `word` holds the current piece, reversed. -/
def splitRunsFrom (p : Char → Bool) (word : List Char) : List Char → List (List Char)
  | [] => if word.isEmpty then [] else [word.reverse]
  | c :: rest =>
    if p c then
      if word.isEmpty then splitRunsFrom p [] rest
      else word.reverse :: splitRunsFrom p [] rest
    else splitRunsFrom p (c :: word) rest

/-- Cut a character list at runs of characters satisfying `p`. -/
def splitRuns (p : Char → Bool) (cs : List Char) : List (List Char) :=
  splitRunsFrom p [] cs

/-- The words of a text: the pieces between runs of blanks. -/
def fields (s : String) : List String :=
  (splitRuns isBlank s.toList).map String.ofList

theorem trimBlankList_nil : trimBlankList [] = [] := rfl

example : trimBlank " 　key\u0085 " = "key" := by decide
example : trimBlank "\u200Bkey" = "\u200Bkey" := by decide

end Turnstile.Text
