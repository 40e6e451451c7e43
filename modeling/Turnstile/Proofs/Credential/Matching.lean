import Mathlib.Tactic.IntervalCases
import Turnstile.Proofs.Credential.Table
import Turnstile.Text.Case

/-!
# Matching follows its reference

Matching a presented token against a configured key is stated here a second
time, as the rule reads (`referenceMatch`): with `t` the key trimmed of its
blanks, an empty `t` matches nothing; otherwise the token matches exactly when
it is `t`, byte for byte, and by hash when it is the derived token of `t`
(`derivedToken`): `public-` and the lower-case hexadecimal SHA-256 digest of
`grok2api-public:` and `t`.

The matcher differs from the rule in two places: it tests the `public-` prefix
before comparing with the derived token, and it derives the token from a key it
trims once more.  Neither changes an answer, since every derived token starts
with the prefix and trimming twice trims once (`matchKey_eq_referenceMatch`).

From the rule:

* an unset key matches nothing, not even its own text or the derived token of
  the empty key;
* a token with a blank at either end matches nothing, since a trimmed key has
  none there and a derived token has no blank at all;
* the digest written in upper case, or without its prefix, is no derived token,
  so it matches only where it is the trimmed key itself;
* the public token of any key that trims to the same set key is accepted.
-/

namespace Turnstile.Credential

open Turnstile.Text

/-! ## The rule -/

/-- The derived token of a trimmed key. -/
def derivedToken (t : String) : String :=
  publicTokenPrefix ++ hexOfBytes (Digest.Sha256.digest (publicHashMarker ++ t).toUTF8.toList)

/-- How a token matches a key, as the rule states it. -/
def referenceMatch (presented key : String) : MatchKind :=
  if trimBlank key = "" then .none
  else if presented = trimBlank key then .exact
  else if presented = derivedToken (trimBlank key) then .hashed
  else .none

/-- A token with a blank as its first or its last character. -/
def Padded (presented : String) : Prop :=
  presented.toList.head?.any isBlank ∨ presented.toList.getLast?.any isBlank

theorem publicToken_eq_derivedToken (key : String) :
    publicToken key = derivedToken (trimBlank key) := rfl

theorem derivedToken_eq_keyDigest (key : String) :
    derivedToken (trimBlank key) = publicTokenPrefix ++ keyDigest key := rfl

theorem startsWith_append_self (a b : String) : (a ++ b).startsWith a = true := by
  rw [String.startsWith_eq_startsWith_toSlice, String.Slice.startsWith_string_iff]
  simp

/-- An empty token matches no key. -/
theorem matchKey_empty (key : String) : matchKey "" key = .none := by
  have hPrefix : "".startsWith publicTokenPrefix = false := rfl
  simp [matchKey, hPrefix]

/-! ## The matcher is the rule -/

/-- The prefix test and the second trimming change no answer. -/
theorem matchKey_eq_referenceMatch (presented key : String) :
    matchKey presented key = referenceMatch presented key := by
  -- the matcher derives the token of the trimmed key, which is that of the key
  have hToken : publicToken (trimBlank key) = derivedToken (trimBlank key) := by
    rw [publicToken_eq_derivedToken, trimBlank_trimBlank]
  unfold matchKey referenceMatch
  by_cases hUnset : trimBlank key = ""
  · simp [hUnset]
  by_cases hExact : presented = trimBlank key
  · simp [hUnset, hExact]
  by_cases hHashed : presented = derivedToken (trimBlank key)
  · -- the derived token passes the prefix test
    have hPrefix : publicTokenPrefix.toList <+: (derivedToken (trimBlank key)).toList := by
      simp [derivedToken]
    subst hHashed
    simp [hUnset, hExact, hToken, hPrefix]
  · simp [hUnset, hHashed, hToken]

/-! ## No blank in a derived token, none at the ends of a trimmed key -/

/-- A lower-case hexadecimal digit. -/
def isLowerHexDigit (c : Char) : Bool :=
  ('0' ≤ c && c ≤ '9') || ('a' ≤ c && c ≤ 'f')

theorem isLowerHexDigit_hexDigit {n : Nat} (hn : n < 16) : isLowerHexDigit (hexDigit n) = true := by
  interval_cases n <;> decide

theorem isLowerHexDigit_of_mem_hexOfBytes {bs : List UInt8} {c : Char}
    (hc : c ∈ (hexOfBytes bs).toList) : isLowerHexDigit c = true := by
  simp only [hexOfBytes, String.toList_ofList, List.mem_flatMap] at hc
  obtain ⟨b, -, hb⟩ := hc
  have hHigh : b.toNat / 16 < 16 := by have := b.toNat_lt; omega
  have hLow : b.toNat % 16 < 16 := Nat.mod_lt _ (by decide)
  simp only [hexByte, List.mem_cons, List.not_mem_nil, or_false] at hb
  rcases hb with rfl | rfl
  · exact isLowerHexDigit_hexDigit hHigh
  · exact isLowerHexDigit_hexDigit hLow

/-- Both digit ranges lie between `0` (48) and `f` (102). -/
theorem isLowerHexDigit_range {c : Char} (hc : isLowerHexDigit c = true) :
    48 ≤ c.toNat ∧ c.toNat ≤ 102 := by
  simp only [isLowerHexDigit, Bool.or_eq_true, Bool.and_eq_true, decide_eq_true_eq, Char.le_def,
    UInt32.le_iff_toNat_le, Char.toNat_val] at hc
  have h0 : ('0' : Char).toNat = 48 := rfl
  have h9 : ('9' : Char).toNat = 57 := rfl
  have ha : ('a' : Char).toNat = 97 := rfl
  have hf : ('f' : Char).toNat = 102 := rfl
  omega

theorem isBlank_of_isLowerHexDigit {c : Char} (hc : isLowerHexDigit c = true) :
    isBlank c = false := by
  -- the digits lie between `0` and `f`, where no blank is
  have hRange := isLowerHexDigit_range hc
  simp only [isBlank, Bool.or_eq_false_iff, Bool.and_eq_false_iff, beq_eq_false_iff_ne,
    decide_eq_false_iff_not]
  omega

/-- A derived token holds no blank. -/
theorem isBlank_of_mem_derivedToken {t : String} {c : Char} (hc : c ∈ (derivedToken t).toList) :
    isBlank c = false := by
  simp only [derivedToken, String.toList_append, List.mem_append] at hc
  rcases hc with hc | hc
  · -- the characters of `public-`, one by one
    have hList : publicTokenPrefix.toList = ['p', 'u', 'b', 'l', 'i', 'c', '-'] := by
      simp [publicTokenPrefix]
    rw [hList] at hc
    simp only [List.mem_cons, List.not_mem_nil, or_false] at hc
    rcases hc with rfl | rfl | rfl | rfl | rfl | rfl | rfl <;> rfl
  · exact isBlank_of_isLowerHexDigit (isLowerHexDigit_of_mem_hexOfBytes hc)

/-- A trimmed key starts with no blank. -/
theorem head?_trimBlank (key : String) : (trimBlank key).toList.head?.any isBlank = false := by
  have hFront := dropWhile_rdropWhile_dropWhile isBlank key.toList
  have hTrim : (trimBlank key).toList = List.rdropWhile isBlank (key.toList.dropWhile isBlank) := by
    simp [trimBlank, trimBlankList, List.rdropWhile]
  rw [hTrim]
  generalize List.rdropWhile isBlank (key.toList.dropWhile isBlank) = cs at hFront
  cases cs with
  | nil => rfl
  | cons c rest =>
    -- a list that dropping blanks leaves alone does not start with one
    cases hc : isBlank c with
    | false => simp [hc]
    | true =>
      have := congrArg List.length hFront
      simp [hc] at this
      have := List.length_dropWhile_le isBlank rest
      omega

/-- A trimmed key ends with no blank. -/
theorem getLast?_trimBlank (key : String) : (trimBlank key).toList.getLast?.any isBlank = false := by
  have hTrim : (trimBlank key).toList =
      ((key.toList.dropWhile isBlank).reverse.dropWhile isBlank).reverse := by
    simp [trimBlank, trimBlankList]
  rw [hTrim, List.getLast?_reverse]
  generalize (key.toList.dropWhile isBlank).reverse = cs
  cases hd : cs.dropWhile isBlank with
  | nil => rfl
  | cons c rest =>
    have hne : cs.dropWhile isBlank ≠ [] := by simp [hd]
    have := List.head_dropWhile_not isBlank hne
    simp only [hd, List.head_cons] at this
    simp [this]

/-- A padded token is neither a trimmed key nor a derived token. -/
theorem ne_of_padded {presented : String} (hPad : Padded presented) (key : String) :
    presented ≠ trimBlank key ∧ presented ≠ derivedToken (trimBlank key) := by
  constructor
  · rintro rfl
    rcases hPad with hHead | hLast
    · rw [head?_trimBlank] at hHead
      cases hHead
    · rw [getLast?_trimBlank] at hLast
      cases hLast
  · rintro hEq
    -- the padding blank would be a character of the derived token
    obtain ⟨c, hc, hBlank⟩ : ∃ c ∈ presented.toList, isBlank c = true := by
      rcases hPad with hHead | hLast
      · obtain ⟨c, hc, hBlank⟩ := (Option.any_eq_true _ _).1 hHead
        exact ⟨c, List.mem_of_mem_head? hc, hBlank⟩
      · obtain ⟨c, hc, hBlank⟩ := (Option.any_eq_true _ _).1 hLast
        exact ⟨c, List.mem_of_getLast? hc, hBlank⟩
    rw [hEq] at hc
    rw [isBlank_of_mem_derivedToken hc] at hBlank
    cases hBlank

/-! ## What the rule gives -/

/-- Matching follows the rule for every token and key.  An unset key matches
nothing; a padded token matches nothing; the digest in upper case or without
its prefix matches only where it is the trimmed key itself; the public token of
every key that trims to the same set key is accepted; and a token is accepted
exactly when it matches in some way. -/
theorem matchKey_follows_reference :
    (∀ presented key, matchKey presented key = referenceMatch presented key) ∧
    (∀ presented key, trimBlank key = "" → matchKey presented key = .none) ∧
    (∀ presented key, Padded presented → matchKey presented key = .none) ∧
    (∀ key, toUpperText (keyDigest key) ≠ keyDigest key →
      matchKey (publicTokenPrefix ++ toUpperText (keyDigest key)) key = .none ∨
        publicTokenPrefix ++ toUpperText (keyDigest key) = trimBlank key) ∧
    (∀ key, matchKey (keyDigest key) key = .none ∨ keyDigest key = trimBlank key) ∧
    (∀ key key', trimBlank key' = trimBlank key → trimBlank key ≠ "" →
      matchKey (publicToken key') key ≠ .none) ∧
    (∀ presented key, matchesKey presented key = (matchKey presented key != .none)) := by
  refine ⟨matchKey_eq_referenceMatch, ?_, ?_, ?_, ?_, ?_, fun _ _ => rfl⟩
  · intro presented key hUnset
    simp [matchKey_eq_referenceMatch, referenceMatch, hUnset]
  · intro presented key hPad
    obtain ⟨hExact, hHashed⟩ := ne_of_padded hPad key
    simp [matchKey_eq_referenceMatch, referenceMatch, hExact, hHashed]
  · intro key hUpper
    -- only the prefixes agree, so the upper-case form is no derived token
    have hHashed : publicTokenPrefix ++ toUpperText (keyDigest key) ≠ derivedToken (trimBlank key) := by
      rw [derivedToken_eq_keyDigest]
      intro hEq
      have hList := congrArg String.toList hEq
      simp only [String.toList_append, List.append_cancel_left_eq] at hList
      exact hUpper (String.toList_inj.1 hList)
    by_cases hExact : publicTokenPrefix ++ toUpperText (keyDigest key) = trimBlank key
    · exact Or.inr hExact
    · left
      simp [matchKey_eq_referenceMatch, referenceMatch, hExact, hHashed]
  · intro key
    -- a derived token is seven characters longer than its digest
    have hHashed : keyDigest key ≠ derivedToken (trimBlank key) := by
      rw [derivedToken_eq_keyDigest]
      intro hEq
      have hLength := congrArg String.length hEq
      simp only [String.length_append] at hLength
      have hPrefix : publicTokenPrefix.length = 7 := rfl
      omega
    by_cases hExact : keyDigest key = trimBlank key
    · exact Or.inr hExact
    · left
      simp [matchKey_eq_referenceMatch, referenceMatch, hExact, hHashed]
  · intro key key' hSame hSet
    rw [matchKey_eq_referenceMatch, referenceMatch, publicToken_eq_derivedToken, hSame]
    by_cases hExact : derivedToken (trimBlank key) = trimBlank key <;> simp [hSet, hExact]

end Turnstile.Credential
