import Turnstile.Credential.Match
import Turnstile.Text.Quoted

/-!
# Verifying a credential for a tier

Each tier has its own procedure over the settings read from one `Source`.

* **admin**: an unset admin key opens the tier. Otherwise a credential is
  required; the trimmed admin key matches exactly, and failing that the token
  may match the public key (exactly or by hash).
* **login**: an unset login key disables the tier. Otherwise a credential is
  required and must be the trimmed login key; no hashed form is accepted.
* **public**: an unset public key opens the tier when the public switch is on
  and disables it otherwise. Otherwise a credential is required and must match
  the public key, exactly or by hash.

An accepted credential gives an authenticated decision whose identity is the
token; an open tier gives an unauthenticated decision with no match.  Like the
service's verifiers, each returns its decision beside its refusal
(`Verdict`): a refusal comes with the bare decision of the tier.  A tier name
that names no tier is refused as unknown, with the bare decision under that
name.
-/

namespace Turnstile.Credential

open Turnstile.Text

/-- Why verifying failed: a refused credential, or a tier name that names no tier. -/
inductive VerifyError where
  | denied (d : Denial)
  | unknownTier (name : String)
  deriving DecidableEq, Repr, Inhabited

/-- The message of a verification failure. -/
def VerifyError.detail : VerifyError → String
  | .denied d => d.detail
  | .unknownTier name => "unknown tier: " ++ quote name

/-- The decision for an accepted credential. -/
def accepted (tier : Tier) (token : String) (m : MatchKind) : Decision :=
  { tier := tier, authenticated := true, identity := token, matchKind := m }

/-- What a verifier returns: a decision, and the refusal when it refused.  A
refusal comes with a decision too, the bare decision of the tier it was asked
for. -/
structure Verdict (τ ε : Type) where
  decision : Decision τ
  refusal : Option ε := none

/-- A verdict read as a result: the decision, or the refusal when there is one. -/
def Verdict.result {τ ε : Type} (v : Verdict τ ε) : Except ε (Decision τ) :=
  match v.refusal with
  | none => .ok v.decision
  | some e => .error e

@[simp] theorem Verdict.result_decided {τ ε : Type} (d : Decision τ) :
    (⟨d, none⟩ : Verdict τ ε).result = .ok d := rfl

@[simp] theorem Verdict.result_refused {τ ε : Type} (d : Decision τ) (e : ε) :
    (⟨d, some e⟩ : Verdict τ ε).result = .error e := rfl

/-- The admin tier's verdict on a credential. -/
def adminVerdict (src : Source) (cred : Presented) : Verdict Tier Denial :=
  let adminKey := trimBlank (src.text adminKeySetting "")
  if adminKey.isEmpty then ⟨{ tier := .admin }, none⟩
  else match cred with
    | .absent => ⟨{ tier := .admin }, some .missingCredential⟩
    | .bearer token =>
      if token == adminKey then ⟨accepted .admin token .exact, none⟩
      else match matchKey token (src.text publicKeySetting "") with
        | .none => ⟨{ tier := .admin }, some .invalidCredential⟩
        | m => ⟨accepted .admin token m, none⟩

/-- The login tier's verdict on a credential. -/
def loginVerdict (src : Source) (cred : Presented) : Verdict Tier Denial :=
  let loginKey := trimBlank (src.text loginKeySetting defaultLoginKey)
  if loginKey.isEmpty then ⟨{ tier := .login }, some .notConfigured⟩
  else match cred with
    | .absent => ⟨{ tier := .login }, some .missingCredential⟩
    | .bearer token =>
      if token == loginKey then ⟨accepted .login token .exact, none⟩
      else ⟨{ tier := .login }, some .invalidCredential⟩

/-- The public tier's verdict on a credential. -/
def publicVerdict (src : Source) (cred : Presented) : Verdict Tier Denial :=
  let publicKey := trimBlank (src.text publicKeySetting "")
  if publicKey.isEmpty then
    if src.flag publicEnabledSetting false then ⟨{ tier := .public }, none⟩
    else ⟨{ tier := .public }, some .accessDisabled⟩
  else match cred with
    | .absent => ⟨{ tier := .public }, some .missingCredential⟩
    | .bearer token =>
      match matchKey token publicKey with
      | .none => ⟨{ tier := .public }, some .invalidCredential⟩
      | m => ⟨accepted .public token m, none⟩

/-- A tier's verdict on a credential. -/
def tierVerdict (src : Source) : Tier → Presented → Verdict Tier Denial
  | .admin => adminVerdict src
  | .login => loginVerdict src
  | .public => publicVerdict src

/-- Verify a credential for the admin tier. -/
def verifyAdmin (src : Source) (cred : Presented) : Except Denial Decision :=
  (adminVerdict src cred).result

/-- Verify a credential for the login tier. -/
def verifyLogin (src : Source) (cred : Presented) : Except Denial Decision :=
  (loginVerdict src cred).result

/-- Verify a credential for the public tier. -/
def verifyPublic (src : Source) (cred : Presented) : Except Denial Decision :=
  (publicVerdict src cred).result

/-- Verify a credential for a tier. -/
def verifyTier (src : Source) : Tier → Presented → Except Denial Decision
  | .admin => verifyAdmin src
  | .login => verifyLogin src
  | .public => verifyPublic src

/-- The verifier of a tier, read as a result, is its verdict read as one. -/
theorem verifyTier_eq_result (src : Source) (t : Tier) (c : Presented) :
    verifyTier src t c = (tierVerdict src t c).result := by
  cases t <;> rfl

/-- A decision labelled with its tier's name. -/
def Decision.named (d : Decision) : Decision String :=
  ⟨d.tier.name, d.authenticated, d.identity, d.matchKind⟩

@[simp] theorem Decision.named_tier (d : Decision) : d.named.tier = d.tier.name := rfl
@[simp] theorem Decision.named_authenticated (d : Decision) : d.named.authenticated = d.authenticated := rfl
@[simp] theorem Decision.named_identity (d : Decision) : d.named.identity = d.identity := rfl
@[simp] theorem Decision.named_matchKind (d : Decision) : d.named.matchKind = d.matchKind := rfl

/-- The verdict on a credential for the tier with the given name: the named
tier's verdict, its decision labelled with the name, or the bare decision under
a name that names no tier, refused as unknown. -/
def namedVerdict (src : Source) (name : String) (cred : Presented) : Verdict String VerifyError :=
  match Tier.ofName? name with
  | some t =>
    let v := tierVerdict src t cred
    ⟨v.decision.named, v.refusal.map .denied⟩
  | none => ⟨{ tier := name }, some (.unknownTier name)⟩

/-- Verify a credential for the tier with the given name. -/
def verify (src : Source) (name : String) (cred : Presented) : Except VerifyError (Decision String) :=
  (namedVerdict src name cred).result

/-- The outcome label of a verification: `accepted` for an authenticated
decision, `open` for an unauthenticated one, the denial's kind, or `error`. -/
def outcome {τ : Type} : Except VerifyError (Decision τ) → String
  | .ok d => if d.authenticated then "accepted" else "open"
  | .error (.denied d) => d.kind
  | .error (.unknownTier _) => "error"

end Turnstile.Credential
