import Turnstile.Proofs.Credential.Matching

/-!
# Every decision is well formed

A verifier returns a decision, and beside it the refusal when it refused
(`Verdict`).  Whatever the settings, the tier and the credential, the verdict
has one of three shapes:

* a refusal comes with the bare decision of the tier it was asked for: not
  authenticated, no identity, no match (`tierVerdict_bare_of_refused`);
* a decision that authenticates records how the token matched, and names as
  its identity a token that was presented and is not empty;
* a decision that lets a request through without authenticating names nobody
  and records no match (`WellFormed`).

Verifying by name labels the decision with the name, also for a name that
names no tier, which is refused as unknown with the bare decision under that
name (`namedVerdict_bare_of_refused`).

The non-empty identity rests on two facts: a key that is set trims to a
non-empty text, and an empty token matches no key (`matchKey_empty`).  The
table of the verifiers (`decides_verifyTier`) then gives every decision that
is not refused, one row at a time (`wellFormed_of_decides`).

So the outcome label of a verification tells its shape exactly
(`namedVerdict_well_formed`): `accepted` for an authenticated decision, `open`
for one that lets the request through without identity, the denial's kind for
a refused credential, and `error` only for a tier name that names no tier.
-/

namespace Turnstile.Credential

open Turnstile.Text

/-! ## The shapes of a decision -/

/-- What a decision for the tier labelled `t` says of the credential `c` it was
made for. -/
structure WellFormed {τ : Type} (t : τ) (c : Presented) (d : Decision τ) : Prop where
  tier : d.tier = t
  authenticated_iff : d.authenticated = true ↔ d.matchKind ≠ .none
  identity_of_authenticated :
    d.authenticated = true → ∃ token, c = .bearer token ∧ token ≠ "" ∧ d.identity = token
  bare_of_not_authenticated : d.authenticated = false → d.identity = "" ∧ d.matchKind = .none

/-- The bare decision of a tier lets a request through without identity. -/
theorem wellFormed_bare {τ : Type} (t : τ) (c : Presented) : WellFormed t c { tier := t } where
  tier := rfl
  authenticated_iff := by simp
  identity_of_authenticated := by simp
  bare_of_not_authenticated := fun _ => ⟨rfl, rfl⟩

/-- Accepting a presented, non-empty token with a match authenticates it. -/
theorem wellFormed_accepted {t : Tier} {token : String} {m : MatchKind} (hToken : token ≠ "")
    (hMatch : m ≠ .none) : WellFormed t (.bearer token) (accepted t token m) where
  tier := rfl
  authenticated_iff := by simp [accepted, hMatch]
  identity_of_authenticated := fun _ => ⟨token, rfl, hToken, rfl⟩
  bare_of_not_authenticated := by simp [accepted]

/-- A token that some key matches is not empty. -/
theorem ne_empty_of_matchKey {token key : String} (h : matchKey token key ≠ .none) : token ≠ "" := by
  rintro rfl
  exact h (matchKey_empty key)

/-- Every row of the table that lets a request through gives a well-formed
decision. -/
theorem wellFormed_of_decides {k : Keys} {t : Tier} {c : Presented} {d : Decision}
    (h : Decides k t c (.ok d)) : WellFormed t c d := by
  cases h with
  | adminOpen c _ => exact wellFormed_bare Tier.admin c
  | adminExact token hA hEq =>
    -- the token is the trimmed admin key, which is set
    exact wellFormed_accepted (hEq ▸ hA) (by decide)
  | adminPublic token m _ _ hMatch hSome =>
    exact wellFormed_accepted (ne_empty_of_matchKey (hMatch ▸ hSome)) hSome
  | loginExact token hL hEq => exact wellFormed_accepted (hEq ▸ hL) (by decide)
  | publicOpen c _ _ => exact wellFormed_bare Tier.public c
  | publicMatch token m _ hMatch hSome =>
    exact wellFormed_accepted (ne_empty_of_matchKey (hMatch ▸ hSome)) hSome

/-- Every decision of a verifier is well formed. -/
theorem wellFormed_verifyTier {src : Source} {t : Tier} {c : Presented} {d : Decision}
    (h : verifyTier src t c = .ok d) : WellFormed t c d :=
  wellFormed_of_decides (h ▸ decides_verifyTier src t c)

/-- Labelling a decision with its tier's name keeps its shape. -/
theorem WellFormed.named {t : Tier} {c : Presented} {d : Decision} (h : WellFormed t c d) :
    WellFormed t.name c d.named where
  tier := by simp [Decision.named, h.tier]
  authenticated_iff := h.authenticated_iff
  identity_of_authenticated := h.identity_of_authenticated
  bare_of_not_authenticated := h.bare_of_not_authenticated

/-! ## Verdicts -/

/-- A verdict that does not refuse reads as its decision. -/
theorem Verdict.result_of_decided {τ ε : Type} {v : Verdict τ ε} (h : v.refusal = none) :
    v.result = .ok v.decision := by
  simp [Verdict.result, h]

section Refusals

variable (src : Source) {e : Denial}

/-- Both refusing exits of the admin verifier, a missing credential and a
token no key matches, return the bare decision of the tier. -/
theorem adminVerdict_bare_of_refused (c : Presented) (h : (adminVerdict src c).refusal = some e) :
    (adminVerdict src c).decision = { tier := .admin } := by
  unfold adminVerdict at h ⊢
  by_cases hA : (trimBlank (src.text adminKeySetting "")).isEmpty = true
  · simp [hA] at h
  cases c with
  | absent => simp [hA]
  | bearer token =>
    by_cases hEq : (token == trimBlank (src.text adminKeySetting "")) = true
    · simp [hA, hEq] at h
    cases hm : matchKey token (src.text publicKeySetting "") <;> simp_all

/-- The refusing exits of the login verifier return the bare decision of the
tier. -/
theorem loginVerdict_bare_of_refused (c : Presented) (h : (loginVerdict src c).refusal = some e) :
    (loginVerdict src c).decision = { tier := .login } := by
  unfold loginVerdict at h ⊢
  by_cases hL : (trimBlank (src.text loginKeySetting defaultLoginKey)).isEmpty = true
  · simp [hL]
  cases c with
  | absent => simp [hL]
  | bearer token =>
    by_cases hEq : (token == trimBlank (src.text loginKeySetting defaultLoginKey)) = true
    · simp [hL, hEq] at h
    · simp [hL, hEq]

/-- The refusing exits of the public verifier return the bare decision of the
tier. -/
theorem publicVerdict_bare_of_refused (c : Presented) (h : (publicVerdict src c).refusal = some e) :
    (publicVerdict src c).decision = { tier := .public } := by
  unfold publicVerdict at h ⊢
  by_cases hP : (trimBlank (src.text publicKeySetting "")).isEmpty = true
  · by_cases hOn : src.flag publicEnabledSetting false = true <;> simp_all
  cases c with
  | absent => simp [hP]
  | bearer token =>
    cases hm : matchKey token (trimBlank (src.text publicKeySetting "")) <;> simp_all

/-- Every exit of a tier's verifier that refuses returns the bare decision of
the tier. -/
theorem tierVerdict_bare_of_refused (t : Tier) (c : Presented) (h : (tierVerdict src t c).refusal = some e) :
    (tierVerdict src t c).decision = { tier := t } := by
  cases t <;> simp only [tierVerdict] at h ⊢
  · exact adminVerdict_bare_of_refused src c h
  · exact loginVerdict_bare_of_refused src c h
  · exact publicVerdict_bare_of_refused src c h

end Refusals

/-- A tier's verdict that does not refuse holds a well-formed decision. -/
theorem tierVerdict_wellFormed (src : Source) (t : Tier) (c : Presented)
    (h : (tierVerdict src t c).refusal = none) : WellFormed t c (tierVerdict src t c).decision :=
  wellFormed_verifyTier ((verifyTier_eq_result src t c).trans (Verdict.result_of_decided h))

/-! ## Verifying by name -/

theorem name_of_ofName? {name : String} {t : Tier} (h : Tier.ofName? name = some t) : t.name = name := by
  unfold Tier.ofName? at h
  -- every branch that answers has compared the name with its tier's name
  split_ifs at h with hAdmin hLogin hPublic <;> cases h
  · exact (beq_iff_eq.1 hAdmin).symm
  · exact (beq_iff_eq.1 hLogin).symm
  · exact (beq_iff_eq.1 hPublic).symm

/-- A refusal by name comes with the bare decision under the name, whether the
name names a tier, whose verifier refused, or none. -/
theorem namedVerdict_bare_of_refused (src : Source) (name : String) (c : Presented) {e : VerifyError}
    (h : (namedVerdict src name c).refusal = some e) :
    (namedVerdict src name c).decision = { tier := name } := by
  unfold namedVerdict at h ⊢
  cases hName : Tier.ofName? name with
  | none => rfl
  | some t =>
    simp only [hName, Option.map_eq_some_iff] at h ⊢
    obtain ⟨denial, hDenied, -⟩ := h
    rw [tierVerdict_bare_of_refused src t c hDenied, ← name_of_ofName? hName]
    rfl

/-- A verdict by name that does not refuse holds a well-formed decision under
the name. -/
theorem namedVerdict_wellFormed (src : Source) (name : String) (c : Presented)
    (h : (namedVerdict src name c).refusal = none) :
    WellFormed name c (namedVerdict src name c).decision := by
  unfold namedVerdict at h ⊢
  cases hName : Tier.ofName? name with
  | none => simp [hName] at h
  | some t =>
    simp only [hName, Option.map_eq_none_iff] at h ⊢
    rw [← name_of_ofName? hName]
    exact (tierVerdict_wellFormed src t c h).named

/-- Only a name that names no tier is refused as unknown, and under that name. -/
theorem namedVerdict_unknown_iff (src : Source) (name : String) (c : Presented) (n : String) :
    (namedVerdict src name c).refusal = some (.unknownTier n) ↔ Tier.ofName? name = none ∧ n = name := by
  unfold namedVerdict
  cases hName : Tier.ofName? name with
  | none => simp [eq_comm]
  | some t => simp

/-! ## Outcome labels -/

/-- No denial is labelled like a decision or an unknown tier. -/
theorem kind_ne (e : Denial) : e.kind ≠ "accepted" ∧ e.kind ≠ "open" ∧ e.kind ≠ "error" := by
  cases e <;> decide

section Outcome

variable {τ : Type} (v : Verdict τ VerifyError)

theorem outcome_eq_accepted_iff :
    outcome v.result = "accepted" ↔ v.refusal = none ∧ v.decision.authenticated = true := by
  obtain ⟨d, _ | _ | _⟩ := v
  · cases hAuth : d.authenticated <;> simp [outcome, hAuth]
  · simp [outcome, (kind_ne _).1]
  · simp [outcome]

theorem outcome_eq_open_iff :
    outcome v.result = "open" ↔ v.refusal = none ∧ v.decision.authenticated = false := by
  obtain ⟨d, _ | _ | _⟩ := v
  · cases hAuth : d.authenticated <;> simp [outcome, hAuth]
  · simp [outcome, (kind_ne _).2.1]
  · simp [outcome]

theorem outcome_of_denied {e : Denial} (h : v.refusal = some (.denied e)) : outcome v.result = e.kind := by
  obtain ⟨d, r⟩ := v
  simp only at h
  simp [h, outcome]

theorem outcome_eq_error_iff : outcome v.result = "error" ↔ ∃ n, v.refusal = some (.unknownTier n) := by
  obtain ⟨d, _ | _ | _⟩ := v
  · cases hAuth : d.authenticated <;> simp [outcome, hAuth]
  · simp [outcome, (kind_ne _).2.2]
  · simp [outcome]

end Outcome

/-- Whatever the settings, the tier name and the credential, verifying by name
refuses with the bare decision under the name, or returns a well-formed
decision under the name; and its outcome label tells which: `accepted` exactly
for an authenticated decision, `open` exactly for one that does not
authenticate, the denial's kind for a refused credential, and `error` exactly
when the name names no tier. -/
theorem namedVerdict_well_formed (src : Source) (name : String) (c : Presented) :
    (∀ e, (namedVerdict src name c).refusal = some e →
      (namedVerdict src name c).decision = { tier := name }) ∧
    ((namedVerdict src name c).refusal = none → WellFormed name c (namedVerdict src name c).decision) ∧
    (outcome (verify src name c) = "accepted" ↔
      (namedVerdict src name c).refusal = none ∧ (namedVerdict src name c).decision.authenticated = true) ∧
    (outcome (verify src name c) = "open" ↔
      (namedVerdict src name c).refusal = none ∧ (namedVerdict src name c).decision.authenticated = false) ∧
    (∀ e, (namedVerdict src name c).refusal = some (.denied e) → outcome (verify src name c) = e.kind) ∧
    (outcome (verify src name c) = "error" ↔ Tier.ofName? name = none) := by
  refine ⟨fun _ h => namedVerdict_bare_of_refused src name c h, namedVerdict_wellFormed src name c,
    outcome_eq_accepted_iff _, outcome_eq_open_iff _, fun _ h => outcome_of_denied _ h, ?_⟩
  -- the one refusal labelled `error` is the unknown name
  rw [verify, outcome_eq_error_iff]
  constructor
  · rintro ⟨n, hn⟩
    exact ((namedVerdict_unknown_iff src name c n).1 hn).1
  · intro hName
    exact ⟨name, (namedVerdict_unknown_iff src name c name).2 ⟨hName, rfl⟩⟩

end Turnstile.Credential
