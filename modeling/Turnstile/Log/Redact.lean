import Turnstile.Text.Blank
import Turnstile.Text.Case
import Turnstile.Text.Infix

/-!
# Redaction

Log text is cleaned of credentials by three rewrites, applied in turn to the
whole text, each replacing its leftmost matches from left to right:

1. a bearer credential: `bearer` in any case, pattern whitespace, a run of token
   characters (ASCII letters and digits, `- . _ ~ + /`, and the two characters
   that fold to ASCII letters) and any trailing `=`, becomes `Bearer ***`;
2. a public token: `public-` and sixty-four hexadecimal digits becomes `public-***`;
3. a password assignment: `password`, `passwd` or `pwd` in any case, then `:` or
   `=`, optional pattern whitespace and a run of other characters, becomes the
   word as written followed by `=***`.

Pattern whitespace is tab, line feed, form feed, carriage return and space.

A key is sensitive when its lower-case form contains one of the words of
`sensitiveWords`; the value of a sensitive key is always written `***`.
-/

namespace Turnstile.Log

open Turnstile.Text

/-- The mark written in place of a secret. -/
def redactedMark : String := "***"

/-- Whether the characters start with the ASCII lower-case word, folding case. -/
def startsFolded (word : List Char) (cs : List Char) : Bool :=
  decide (word.length ≤ cs.length) && (List.zip cs word).all (fun p => foldsToAscii p.1 p.2)

/-- The length of the longest prefix whose characters satisfy `p`. -/
def runLength (p : Char → Bool) (cs : List Char) : Nat := (cs.takeWhile p).length

/-- A character of a bearer token, folding case. -/
def isBearerTokenChar (c : Char) : Bool :=
  ('a' ≤ c && c ≤ 'z') || ('A' ≤ c && c ≤ 'Z') || ('0' ≤ c && c ≤ '9') ||
    c == '-' || c == '.' || c == '_' || c == '~' || c == '+' || c == '/' ||
    c == '\u212A' || c == '\u017F'

/-- A hexadecimal digit of either case. -/
def isHexDigit (c : Char) : Bool :=
  ('0' ≤ c && c ≤ '9') || ('a' ≤ c && c ≤ 'f') || ('A' ≤ c && c ≤ 'F')

/-- A match at the head of a text: how many characters it takes, less one, and
what replaces them. -/
structure Hit where
  extra : Nat
  replacement : List Char

/-- A bearer credential at the head of a text. -/
def bearerHit (cs : List Char) : Option Hit :=
  if !startsFolded "bearer".toList cs then none
  else
    let afterWord := cs.drop 6
    let spaces := runLength isAsciiBlank afterWord
    let afterSpaces := afterWord.drop spaces
    let token := runLength isBearerTokenChar afterSpaces
    let pads := runLength (· == '=') (afterSpaces.drop token)
    if spaces = 0 ∨ token = 0 then none
    else some ⟨5 + spaces + token + pads, "Bearer ***".toList⟩

/-- A public token at the head of a text. -/
def publicHit (cs : List Char) : Option Hit :=
  if cs.take 7 == "public-".toList && runLength isHexDigit (cs.drop 7) ≥ 64 then
    some ⟨70, "public-***".toList⟩
  else none

/-- A password assignment after the given word at the head of a text. -/
def assignmentHit (word : List Char) (cs : List Char) : Option Hit :=
  if !startsFolded word cs then none
  else match cs.drop word.length with
    | c :: rest =>
      if c == ':' || c == '=' then
        let spaces := runLength isAsciiBlank rest
        let value := runLength (fun x => !isAsciiBlank x) (rest.drop spaces)
        if value = 0 then none
        else some ⟨word.length + spaces + value, cs.take word.length ++ "=***".toList⟩
      else none
    | [] => none

/-- A password assignment at the head of a text, trying the words in order. -/
def passwordHit (cs : List Char) : Option Hit :=
  (assignmentHit "password".toList cs).orElse fun _ =>
    (assignmentHit "passwd".toList cs).orElse fun _ => assignmentHit "pwd".toList cs

/-- Replace every leftmost match of a rule, scanning from left to right. -/
def rewriteAll (rule : List Char → Option Hit) : List Char → List Char
  | [] => []
  | c :: rest =>
    match rule (c :: rest) with
    | some h => h.replacement ++ rewriteAll rule (rest.drop h.extra)
    | none => c :: rewriteAll rule rest
termination_by cs => cs.length
decreasing_by
  all_goals simp only [List.length_cons, List.length_drop]
  all_goals omega

/-- A text with credentials replaced by marks. -/
def redactText (s : String) : String :=
  String.ofList (rewriteAll passwordHit (rewriteAll publicHit (rewriteAll bearerHit s.toList)))

/-- The words that make a key sensitive. -/
def sensitiveWords : List String :=
  ["password", "passwd", "secret", "token", "api_key", "apikey", "app_key", "public_key",
   "private_key", "authorization", "credential"]

/-- Whether a key is sensitive: its lower-case form contains a sensitive word. -/
def isSensitiveKey (key : String) : Bool :=
  let lower := toLowerText key
  sensitiveWords.any (fun w => containsText lower w)

end Turnstile.Log
