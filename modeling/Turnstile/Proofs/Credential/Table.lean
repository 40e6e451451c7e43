import Mathlib.Data.List.DropRight
import Turnstile.Credential.Verify

/-!
# The decision table of the verifiers

Each tier's verifier reads its settings from one source, every setting with the
default used when its key is absent (`Keys.read`): no admin key, the login key
`grok2api`, no public key, and the public switch off.  The contract of the three
verifiers is a table with one row per case (`Decides`):

* admin: an unset admin key opens the tier, whatever is presented; otherwise an
  absent credential is missing, the trimmed admin key is an exact match, a token
  that the public key accepts is accepted with that match, and any other token is
  invalid;
* login: an unset login key is not configured, whatever is presented; otherwise
  an absent credential is missing and only the trimmed login key itself is
  accepted, never a derived token;
* public: an unset public key opens the tier when the switch is on and disables
  it when it is off, whatever is presented; otherwise an absent credential is
  missing, a token the key accepts is accepted with that match, and any other
  token is invalid.

A key is unset when it is empty after trimming its blanks.  The rows of a tier
exclude each other (`Decides.unique`) and every answer of a verifier is the row
of its case (`decides_verifyTier`), so a verifier answers `r` exactly when the
table does (`verifyTier_eq_iff_decides`).

The rows read the public key as it is configured, while the public verifier
matches against it trimmed.  The two agree because matching trims the key itself
and trimming twice trims once (`matchKey_trimBlank`).
-/

namespace Turnstile.Credential

open Turnstile.Text

/-! ## Trimming and matching -/

/-- After the blanks at the front are gone, dropping blanks from the end
exposes none at the front: what is left starts where the front-trimmed list
starts. -/
theorem dropWhile_rdropWhile_dropWhile (p : Char → Bool) (cs : List Char) :
    (List.rdropWhile p (cs.dropWhile p)).dropWhile p = List.rdropWhile p (cs.dropWhile p) := by
  obtain ⟨rest, hrest⟩ := List.rdropWhile_prefix (p := p) (l := cs.dropWhile p)
  cases hr : List.rdropWhile p (cs.dropWhile p) with
  | nil => rfl
  | cons a r =>
    -- `a` heads the front-trimmed list too, so it is no blank
    have hhead : p a = false := by
      have hne : cs.dropWhile p ≠ [] := by
        intro h
        rw [hr, h] at hrest
        simp at hrest
      have hnot := List.head_dropWhile_not p hne
      rw [hr] at hrest
      simpa [← hrest] using hnot
    simp [hhead]

/-- Trimming a trimmed list changes nothing. -/
theorem trimBlankList_trimBlankList (cs : List Char) :
    trimBlankList (trimBlankList cs) = trimBlankList cs := by
  change List.rdropWhile isBlank ((List.rdropWhile isBlank (cs.dropWhile isBlank)).dropWhile isBlank) =
    List.rdropWhile isBlank (cs.dropWhile isBlank)
  rw [dropWhile_rdropWhile_dropWhile, List.rdropWhile_idempotent]

@[simp]
theorem trimBlank_trimBlank (s : String) : trimBlank (trimBlank s) = trimBlank s := by
  simp [trimBlank, trimBlankList_trimBlankList]

/-- Matching trims the key, so a key matches as its trimmed form does. -/
@[simp]
theorem matchKey_trimBlank (presented key : String) :
    matchKey presented (trimBlank key) = matchKey presented key := by
  simp [matchKey]

/-- An unset key matches nothing. -/
theorem matchKey_of_unset {key : String} (hKey : trimBlank key = "") (presented : String) :
    matchKey presented key = .none := by
  simp [matchKey, hKey]

/-- A set key matches its trimmed form exactly. -/
theorem matchKey_trimBlank_self {key : String} (hKey : trimBlank key ≠ "") :
    matchKey (trimBlank key) key = .exact := by
  simp [matchKey, hKey]

/-! ## The table -/

/-- The four settings the verifiers read. -/
structure Keys where
  adminKey : String
  loginKey : String
  publicKey : String
  publicEnabled : Bool

/-- The settings read from a source, each with the default of an absent key. -/
def Keys.read (src : Source) : Keys where
  adminKey := src.text adminKeySetting ""
  loginKey := src.text loginKeySetting defaultLoginKey
  publicKey := src.text publicKeySetting ""
  publicEnabled := src.flag publicEnabledSetting false

/-- The verifiers' contract: under the settings `k`, the row of tier `t` for the
credential `c` answers `r`. -/
inductive Decides (k : Keys) : Tier → Presented → Except Denial Decision → Prop
  | adminOpen (c : Presented) (hA : trimBlank k.adminKey = "") :
      Decides k .admin c (.ok { tier := .admin })
  | adminMissing (hA : trimBlank k.adminKey ≠ "") :
      Decides k .admin .absent (.error .missingCredential)
  | adminExact (token : String) (hA : trimBlank k.adminKey ≠ "")
      (hEq : token = trimBlank k.adminKey) :
      Decides k .admin (.bearer token) (.ok (accepted .admin token .exact))
  | adminPublic (token : String) (m : MatchKind) (hA : trimBlank k.adminKey ≠ "")
      (hNe : token ≠ trimBlank k.adminKey) (hMatch : matchKey token k.publicKey = m)
      (hSome : m ≠ .none) :
      Decides k .admin (.bearer token) (.ok (accepted .admin token m))
  | adminInvalid (token : String) (hA : trimBlank k.adminKey ≠ "")
      (hNe : token ≠ trimBlank k.adminKey) (hMatch : matchKey token k.publicKey = .none) :
      Decides k .admin (.bearer token) (.error .invalidCredential)
  | loginUnset (c : Presented) (hL : trimBlank k.loginKey = "") :
      Decides k .login c (.error .notConfigured)
  | loginMissing (hL : trimBlank k.loginKey ≠ "") :
      Decides k .login .absent (.error .missingCredential)
  | loginExact (token : String) (hL : trimBlank k.loginKey ≠ "")
      (hEq : token = trimBlank k.loginKey) :
      Decides k .login (.bearer token) (.ok (accepted .login token .exact))
  | loginInvalid (token : String) (hL : trimBlank k.loginKey ≠ "")
      (hNe : token ≠ trimBlank k.loginKey) :
      Decides k .login (.bearer token) (.error .invalidCredential)
  | publicOpen (c : Presented) (hP : trimBlank k.publicKey = "") (hOn : k.publicEnabled = true) :
      Decides k .public c (.ok { tier := .public })
  | publicDisabled (c : Presented) (hP : trimBlank k.publicKey = "")
      (hOff : k.publicEnabled = false) :
      Decides k .public c (.error .accessDisabled)
  | publicMissing (hP : trimBlank k.publicKey ≠ "") :
      Decides k .public .absent (.error .missingCredential)
  | publicMatch (token : String) (m : MatchKind) (hP : trimBlank k.publicKey ≠ "")
      (hMatch : matchKey token k.publicKey = m) (hSome : m ≠ .none) :
      Decides k .public (.bearer token) (.ok (accepted .public token m))
  | publicInvalid (token : String) (hP : trimBlank k.publicKey ≠ "")
      (hMatch : matchKey token k.publicKey = .none) :
      Decides k .public (.bearer token) (.error .invalidCredential)

/-- The rows of a tier exclude each other: the table answers at most once. -/
theorem Decides.unique {k : Keys} {t : Tier} {c : Presented} {r r' : Except Denial Decision}
    (h : Decides k t c r) (h' : Decides k t c r') : r = r' := by
  cases h <;> cases h' <;> simp_all

/-! ## The verifiers follow the table -/

section Verifiers

variable (src : Source)

theorem decides_verifyAdmin (c : Presented) :
    Decides (Keys.read src) .admin c (verifyAdmin src c) := by
  by_cases hA : trimBlank (src.text adminKeySetting "") = ""
  · have hv : verifyAdmin src c = .ok { tier := .admin } := by simp [verifyAdmin, adminVerdict, hA]
    rw [hv]
    exact .adminOpen c hA
  cases c with
  | absent =>
    have hv : verifyAdmin src .absent = .error .missingCredential := by simp [verifyAdmin, adminVerdict, hA]
    rw [hv]
    exact .adminMissing hA
  | bearer token =>
    by_cases hEq : token = trimBlank (src.text adminKeySetting "")
    · have hv : verifyAdmin src (.bearer token) = .ok (accepted .admin token .exact) := by
        rw [hEq]
        simp [verifyAdmin, adminVerdict, hA]
      rw [hv]
      exact .adminExact token hA hEq
    -- past the admin key, the public key decides
    cases hm : matchKey token (src.text publicKeySetting "") with
    | none =>
      have hv : verifyAdmin src (.bearer token) = .error .invalidCredential := by
        simp [verifyAdmin, adminVerdict, hA, hEq, hm]
      rw [hv]
      exact .adminInvalid token hA hEq hm
    | exact =>
      have hv : verifyAdmin src (.bearer token) = .ok (accepted .admin token .exact) := by
        simp [verifyAdmin, adminVerdict, hA, hEq, hm]
      rw [hv]
      exact .adminPublic token .exact hA hEq hm (by decide)
    | hashed =>
      have hv : verifyAdmin src (.bearer token) = .ok (accepted .admin token .hashed) := by
        simp [verifyAdmin, adminVerdict, hA, hEq, hm]
      rw [hv]
      exact .adminPublic token .hashed hA hEq hm (by decide)

theorem decides_verifyLogin (c : Presented) :
    Decides (Keys.read src) .login c (verifyLogin src c) := by
  by_cases hL : trimBlank (src.text loginKeySetting defaultLoginKey) = ""
  · have hv : verifyLogin src c = .error .notConfigured := by simp [verifyLogin, loginVerdict, hL]
    rw [hv]
    exact .loginUnset c hL
  cases c with
  | absent =>
    have hv : verifyLogin src .absent = .error .missingCredential := by simp [verifyLogin, loginVerdict, hL]
    rw [hv]
    exact .loginMissing hL
  | bearer token =>
    by_cases hEq : token = trimBlank (src.text loginKeySetting defaultLoginKey)
    · have hv : verifyLogin src (.bearer token) = .ok (accepted .login token .exact) := by
        rw [hEq]
        simp [verifyLogin, loginVerdict, hL]
      rw [hv]
      exact .loginExact token hL hEq
    · have hv : verifyLogin src (.bearer token) = .error .invalidCredential := by
        simp [verifyLogin, loginVerdict, hL, hEq]
      rw [hv]
      exact .loginInvalid token hL hEq

theorem decides_verifyPublic (c : Presented) :
    Decides (Keys.read src) .public c (verifyPublic src c) := by
  by_cases hP : trimBlank (src.text publicKeySetting "") = ""
  · -- an unset key leaves the switch to decide
    cases hOn : src.flag publicEnabledSetting false with
    | true =>
      have hv : verifyPublic src c = .ok { tier := .public } := by simp [verifyPublic, publicVerdict, hP, hOn]
      rw [hv]
      exact .publicOpen c hP hOn
    | false =>
      have hv : verifyPublic src c = .error .accessDisabled := by simp [verifyPublic, publicVerdict, hP, hOn]
      rw [hv]
      exact .publicDisabled c hP hOn
  cases c with
  | absent =>
    have hv : verifyPublic src .absent = .error .missingCredential := by simp [verifyPublic, publicVerdict, hP]
    rw [hv]
    exact .publicMissing hP
  | bearer token =>
    -- the verifier matches against the trimmed key, the table against the key
    have hTrim := matchKey_trimBlank token (src.text publicKeySetting "")
    cases hm : matchKey token (src.text publicKeySetting "") with
    | none =>
      have hv : verifyPublic src (.bearer token) = .error .invalidCredential := by
        simp [verifyPublic, publicVerdict, hP, hTrim, hm]
      rw [hv]
      exact .publicInvalid token hP hm
    | exact =>
      have hv : verifyPublic src (.bearer token) = .ok (accepted .public token .exact) := by
        simp [verifyPublic, publicVerdict, hP, hTrim, hm]
      rw [hv]
      exact .publicMatch token .exact hP hm (by decide)
    | hashed =>
      have hv : verifyPublic src (.bearer token) = .ok (accepted .public token .hashed) := by
        simp [verifyPublic, publicVerdict, hP, hTrim, hm]
      rw [hv]
      exact .publicMatch token .hashed hP hm (by decide)

/-- Every answer of a verifier is the row of its case. -/
theorem decides_verifyTier : ∀ (t : Tier) (c : Presented),
    Decides (Keys.read src) t c (verifyTier src t c)
  | .admin, c => decides_verifyAdmin src c
  | .login, c => decides_verifyLogin src c
  | .public, c => decides_verifyPublic src c

variable {src}

/-- A row of the table gives the verifier's answer. -/
theorem verifyTier_eq_of_decides {t : Tier} {c : Presented} {r : Except Denial Decision}
    (h : Decides (Keys.read src) t c r) : verifyTier src t c = r :=
  (decides_verifyTier src t c).unique h

end Verifiers

/-- Each tier's verifier is the decision table over the settings read from its
source. -/
theorem verifyTier_eq_iff_decides (src : Source) (t : Tier) (c : Presented)
    (r : Except Denial Decision) :
    verifyTier src t c = r ↔ Decides (Keys.read src) t c r := by
  constructor
  · rintro rfl
    exact decides_verifyTier src t c
  · exact verifyTier_eq_of_decides

end Turnstile.Credential
