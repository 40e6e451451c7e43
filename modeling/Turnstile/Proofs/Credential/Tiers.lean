import Turnstile.Credential.State
import Turnstile.Proofs.Credential.Table

/-!
# How the tiers relate

The state of a tier is computed from the settings on its own, without asking
the verifier.  It still names what the verifier does with every credential
(`Behaves`):

* `open`: every credential, absent or not, is let through without identity
  (`OpensAll`);
* `disabled`: every credential is refused with one and the same denial
  (`RefusesAll`), `not_configured` for login and `access_disabled` for public;
  the admin tier is never disabled;
* `protected`: an absent credential is missing and the tier's trimmed key is
  accepted with identity (`Guards`); then everything let through is
  authenticated.

These behaviours exclude each other (`Behaves.unique`), so the state is the
only one the verifier shows (`stateOf_eq_iff_behaves`).  A name that names no
tier is disabled, and verifying for it fails as an unknown tier.

The tiers overlap in one direction only.  A credential the public tier accepts
with identity is accepted by the admin tier as well, with the same match unless
it is the admin key itself; when the admin key is unset the admin tier is open.
The login tier accepts exactly its own trimmed key, so no other key and no
derived token opens it.
-/

namespace Turnstile.Credential

open Turnstile.Text

/-! ## What a verifier does with every credential -/

section Behaviour

variable (f : Presented → Except Denial Decision)

/-- Every credential is let through without identity. -/
def OpensAll : Prop :=
  ∀ c, ∃ d, f c = .ok d ∧ d.authenticated = false

/-- Every credential is refused with the same denial. -/
def RefusesAll : Prop :=
  ∃ e, ∀ c, f c = .error e

/-- An absent credential is missing, and `key` is accepted with identity. -/
def Guards (key : String) : Prop :=
  f .absent = .error .missingCredential ∧ ∃ d, f (.bearer key) = .ok d ∧ d.authenticated = true

/-- Everything let through is authenticated. -/
def OnlyAuthenticated : Prop :=
  ∀ c d, f c = .ok d → d.authenticated = true

/-- The behaviour a tier state names, for a tier whose key is `key`. -/
def Behaves (key : String) : TierState → Prop
  | .open => OpensAll f
  | .disabled => RefusesAll f
  | .protected => Guards f key

variable {f}

/-- A verifier shows at most one of the behaviours: an absent credential is
either let through or refused, and a refusal of it either depends on nothing or
asks for a credential that is then accepted. -/
theorem Behaves.unique {key : String} {s s' : TierState} (h : Behaves f key s)
    (h' : Behaves f key s') : s = s' := by
  cases s <;> cases s'
  all_goals first
    | rfl
    | simp only [Behaves, OpensAll, RefusesAll, Guards] at h h'
  · obtain ⟨d, hd, -⟩ := h' .absent
    rw [h.1] at hd
    cases hd
  · obtain ⟨e, he⟩ := h'
    obtain ⟨d, hd, -⟩ := h.2
    rw [he] at hd
    cases hd
  · obtain ⟨d, hd, -⟩ := h .absent
    rw [h'.1] at hd
    cases hd
  · obtain ⟨d, hd, -⟩ := h .absent
    obtain ⟨e, he⟩ := h'
    rw [he] at hd
    cases hd
  · obtain ⟨e, he⟩ := h
    obtain ⟨d, hd, -⟩ := h'.2
    rw [he] at hd
    cases hd
  · obtain ⟨e, he⟩ := h
    obtain ⟨d, hd, -⟩ := h' .absent
    rw [he] at hd
    cases hd

end Behaviour

/-! ## The state agrees with the verifier -/

/-- The key a tier is guarded by. -/
def Keys.keyOf (k : Keys) : Tier → String
  | .admin => k.adminKey
  | .login => k.loginKey
  | .public => k.publicKey

section State

variable (src : Source)

/-- A key set by `keySet` is one that trims to a non-empty text. -/
theorem keySet_eq_true_iff (setting fallback : String) :
    keySet src setting fallback = true ↔ trimBlank (src.text setting fallback) ≠ "" := by
  simp [keySet]

/-- The verifier shows the behaviour its tier's state names. -/
theorem behaves_stateOf (t : Tier) :
    Behaves (verifyTier src t) (trimBlank ((Keys.read src).keyOf t)) (stateOf src t) := by
  -- name the state, so that the goal does not compute with the settings
  generalize hs : stateOf src t = s
  cases t with
  | admin =>
    by_cases hA : trimBlank (src.text adminKeySetting "") = ""
    · obtain rfl : s = .open := by simp [← hs, stateOf, keySet, hA]
      exact fun c => ⟨_, verifyTier_eq_of_decides (.adminOpen c hA), rfl⟩
    · obtain rfl : s = .protected := by simp [← hs, stateOf, keySet, hA]
      exact ⟨verifyTier_eq_of_decides (.adminMissing hA),
        _, verifyTier_eq_of_decides (.adminExact _ hA rfl), rfl⟩
  | login =>
    by_cases hL : trimBlank (src.text loginKeySetting defaultLoginKey) = ""
    · obtain rfl : s = .disabled := by simp [← hs, stateOf, keySet, hL]
      exact ⟨.notConfigured, fun c => verifyTier_eq_of_decides (.loginUnset c hL)⟩
    · obtain rfl : s = .protected := by simp [← hs, stateOf, keySet, hL]
      exact ⟨verifyTier_eq_of_decides (.loginMissing hL),
        _, verifyTier_eq_of_decides (.loginExact _ hL rfl), rfl⟩
  | «public» =>
    by_cases hP : trimBlank (src.text publicKeySetting "") = ""
    · -- an unset public key leaves the switch to decide
      cases hOn : src.flag publicEnabledSetting false with
      | true =>
        obtain rfl : s = .open := by simp [← hs, stateOf, keySet, hP, hOn]
        exact fun c => ⟨_, verifyTier_eq_of_decides (.publicOpen c hP hOn), rfl⟩
      | false =>
        obtain rfl : s = .disabled := by simp [← hs, stateOf, keySet, hP, hOn]
        exact ⟨.accessDisabled, fun c => verifyTier_eq_of_decides (.publicDisabled c hP hOn)⟩
    · obtain rfl : s = .protected := by simp [← hs, stateOf, keySet, hP]
      exact ⟨verifyTier_eq_of_decides (.publicMissing hP),
        _, verifyTier_eq_of_decides (.publicMatch _ .exact hP (matchKey_trimBlank_self hP) (by decide)),
        rfl⟩

/-- The state is the behaviour the verifier shows. -/
theorem stateOf_eq_iff_behaves (t : Tier) (s : TierState) :
    stateOf src t = s ↔ Behaves (verifyTier src t) (trimBlank ((Keys.read src).keyOf t)) s := by
  constructor
  · rintro rfl
    exact behaves_stateOf src t
  · exact (behaves_stateOf src t).unique

/-- A set key is what makes a tier protected. -/
theorem keyOf_set_of_protected {t : Tier} (h : stateOf src t = .protected) :
    trimBlank ((Keys.read src).keyOf t) ≠ "" := by
  intro hUnset
  cases t <;> simp only [Keys.keyOf, Keys.read] at hUnset
  · simp [stateOf, keySet, hUnset] at h
  · simp [stateOf, keySet, hUnset] at h
  · cases hOn : src.flag publicEnabledSetting false <;> simp [stateOf, keySet, hUnset, hOn] at h

/-- Under a set key only the accepting rows let a credential through. -/
theorem authenticated_of_decides {k : Keys} {t : Tier} {c : Presented} {d : Decision}
    (h : Decides k t c (.ok d)) (hKey : trimBlank (k.keyOf t) ≠ "") : d.authenticated = true := by
  cases h <;> simp_all [Keys.keyOf, accepted]

/-- A protected tier lets through only authenticated credentials. -/
theorem onlyAuthenticated_of_protected {t : Tier} (h : stateOf src t = .protected) :
    OnlyAuthenticated (verifyTier src t) := by
  intro c d hd
  have hRow := decides_verifyTier src t c
  rw [hd] at hRow
  exact authenticated_of_decides hRow (keyOf_set_of_protected src h)

/-- The admin tier is never disabled. -/
theorem stateOf_admin_ne_disabled : stateOf src .admin ≠ .disabled := by
  simp only [stateOf]
  split <;> simp

/-- A disabled tier refuses with the denial of its kind: the login tier as not
configured, the public tier as access disabled. -/
theorem verifyTier_of_disabled {t : Tier} (h : stateOf src t = .disabled) (c : Presented) :
    verifyTier src t c = .error (if t = .login then .notConfigured else .accessDisabled) := by
  cases t with
  | admin => exact absurd h (stateOf_admin_ne_disabled src)
  | login =>
    have hL : trimBlank (src.text loginKeySetting defaultLoginKey) = "" := by
      simpa [stateOf, keySet] using h
    exact verifyTier_eq_of_decides (.loginUnset c hL)
  | «public» =>
    have hP : trimBlank (src.text publicKeySetting "") = "" := by
      by_contra hSet
      simp [stateOf, keySet, hSet] at h
    have hOff : src.flag publicEnabledSetting false = false := by
      simpa [stateOf, keySet, hP] using h
    exact verifyTier_eq_of_decides (.publicDisabled c hP hOff)

/-- A name that names no tier is disabled, and verifying for it fails. -/
theorem unknown_tier {name : String} (h : Tier.ofName? name = none) (c : Presented) :
    stateOfName src name = .disabled ∧ verify src name c = .error (.unknownTier name) := by
  simp [stateOfName, verify, namedVerdict, h]

end State

/-- The state of every tier agrees with its verifier over every credential:
`open` exactly when everything is let through without identity, `disabled`
exactly when everything is refused alike (as not configured for login and as
access disabled for public, while admin is never disabled), and `protected`
exactly when an absent credential is missing and the tier's trimmed key is
accepted with identity, in which case everything let through is authenticated.
Names that name no tier are disabled and fail to verify. -/
theorem stateOf_agrees_with_verifiers (src : Source) :
    (∀ t : Tier,
      (stateOf src t = .open ↔ OpensAll (verifyTier src t)) ∧
      (stateOf src t = .disabled ↔ RefusesAll (verifyTier src t)) ∧
      (stateOf src t = .protected ↔
        Guards (verifyTier src t) (trimBlank ((Keys.read src).keyOf t))) ∧
      (stateOf src t = .protected → OnlyAuthenticated (verifyTier src t))) ∧
    stateOf src .admin ≠ .disabled ∧
    (stateOf src .login = .disabled → ∀ c, verifyTier src .login c = .error .notConfigured) ∧
    (stateOf src .public = .disabled → ∀ c, verifyTier src .public c = .error .accessDisabled) ∧
    (∀ name, Tier.ofName? name = none →
      stateOfName src name = .disabled ∧ ∀ c, verify src name c = .error (.unknownTier name)) := by
  refine ⟨fun t => ⟨stateOf_eq_iff_behaves src t .open, stateOf_eq_iff_behaves src t .disabled,
    stateOf_eq_iff_behaves src t .protected, onlyAuthenticated_of_protected src⟩,
    stateOf_admin_ne_disabled src, ?_, ?_, ?_⟩
  · intro h c
    simpa using verifyTier_of_disabled src h c
  · intro h c
    simpa using verifyTier_of_disabled src h c
  · intro name h
    exact ⟨(unknown_tier src h .absent).1, fun c => (unknown_tier src h c).2⟩

/-! ## Overlap and isolation -/

/-- A credential the public tier accepts with identity is a bearer token that
the set public key matches, and the decision carries that match. -/
theorem verifyPublic_authenticated {src : Source} {c : Presented} {d : Decision}
    (hd : verifyPublic src c = .ok d) (hAuth : d.authenticated = true) :
    ∃ token m, c = .bearer token ∧ d = accepted .public token m ∧
      trimBlank (src.text publicKeySetting "") ≠ "" ∧
      matchKey token (src.text publicKeySetting "") = m ∧ m ≠ .none := by
  have hRow := decides_verifyPublic src c
  rw [hd] at hRow
  cases hRow with
  | publicOpen _ hP hOn => simp at hAuth
  | publicMatch token m hP hMatch hSome => exact ⟨token, m, rfl, rfl, hP, hMatch, hSome⟩

/-- A credential the public tier accepts with identity passes the admin tier:
with the same match unless it is the trimmed admin key, which matches exactly,
and as the open decision when the admin key is unset. -/
theorem verifyAdmin_of_public_authenticated {src : Source} {c : Presented} {d : Decision}
    (hd : verifyPublic src c = .ok d) (hAuth : d.authenticated = true) :
    ∃ token, c = .bearer token ∧
      verifyAdmin src c =
        if trimBlank (src.text adminKeySetting "") = "" then .ok { tier := .admin }
        else .ok (accepted .admin token
          (if token = trimBlank (src.text adminKeySetting "") then .exact else d.matchKind)) := by
  obtain ⟨token, m, rfl, rfl, -, hMatch, hSome⟩ := verifyPublic_authenticated hd hAuth
  refine ⟨token, rfl, ?_⟩
  change verifyTier src .admin (.bearer token) = _
  -- the admin tier decides by its own key first, then by the same public key
  by_cases hA : trimBlank (src.text adminKeySetting "") = ""
  · rw [if_pos hA]
    exact verifyTier_eq_of_decides (.adminOpen _ hA)
  rw [if_neg hA]
  by_cases hEq : token = trimBlank (src.text adminKeySetting "")
  · rw [if_pos hEq]
    exact verifyTier_eq_of_decides (.adminExact token hA hEq)
  · rw [if_neg hEq]
    exact verifyTier_eq_of_decides (.adminPublic token m hA hEq hMatch hSome)

/-- The login tier accepts exactly a credential that is its trimmed key, set. -/
theorem verifyLogin_ok_iff (src : Source) (c : Presented) :
    (∃ d, verifyLogin src c = .ok d) ↔
      ∃ token, c = .bearer token ∧ token = trimBlank (src.text loginKeySetting defaultLoginKey) ∧
        trimBlank (src.text loginKeySetting defaultLoginKey) ≠ "" := by
  constructor
  · rintro ⟨d, hd⟩
    have hRow := decides_verifyLogin src c
    rw [hd] at hRow
    cases hRow with
    | loginExact token hL hEq => exact ⟨token, rfl, hEq, hL⟩
  · rintro ⟨token, rfl, hEq, hL⟩
    change ∃ d, verifyTier src .login (.bearer token) = .ok d
    exact ⟨_, verifyTier_eq_of_decides (.loginExact token hL hEq)⟩

/-- The public tier's accepted credentials lie within the admin tier's, and the
login tier stands apart with its own key. -/
theorem public_within_admin_login_apart (src : Source) :
    (∀ c d, verifyPublic src c = .ok d → d.authenticated = true →
      ∃ token, c = .bearer token ∧
        verifyAdmin src c =
          if trimBlank (src.text adminKeySetting "") = "" then .ok { tier := .admin }
          else .ok (accepted .admin token
            (if token = trimBlank (src.text adminKeySetting "") then .exact else d.matchKind))) ∧
    (∀ c, (∃ d, verifyLogin src c = .ok d) ↔
      ∃ token, c = .bearer token ∧ token = trimBlank (src.text loginKeySetting defaultLoginKey) ∧
        trimBlank (src.text loginKeySetting defaultLoginKey) ≠ "") :=
  ⟨fun _ _ hd hAuth => verifyAdmin_of_public_authenticated hd hAuth, verifyLogin_ok_iff src⟩

end Turnstile.Credential
