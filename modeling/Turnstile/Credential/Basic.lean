/-!
# Tiers, credentials and decisions

Three tiers guard three kinds of access: `admin` (the management API, guarded
by the admin key), `login` (the web login, guarded by the login key) and
`public` (the public API, guarded by the public key or opened by a switch). A
request presents a bearer credential or none.

Verifying a credential for a tier gives a decision or a denial. A decision says
whether the request was authenticated, by which match, and with which identity;
an unauthenticated decision lets the request through because the tier is open.
A tier's state (protected, open or disabled) says how it treats requests under
the current settings.

The settings are read through a `Source`: a text lookup and a truth lookup, each
with a default for an absent key.
-/

namespace Turnstile.Credential

/-- The access tiers. -/
inductive Tier where
  | admin
  | login
  | «public»
  deriving DecidableEq, Repr, Inhabited

namespace Tier

/-- The name of a tier. -/
def name : Tier → String
  | admin => "admin"
  | login => "login"
  | .public => "public"

/-- The tiers in their fixed order. -/
def all : List Tier := [admin, login, .public]

/-- The tier a name denotes, if any. -/
def ofName? (s : String) : Option Tier :=
  if s == "admin" then some admin
  else if s == "login" then some login
  else if s == "public" then some .public
  else none

theorem ofName?_name (t : Tier) : ofName? t.name = some t := by
  cases t <;> rfl

end Tier

/-- How a tier treats requests: it asks for a credential, lets every request
through, or refuses every request. -/
inductive TierState where
  | «protected»
  | «open»
  | disabled
  deriving DecidableEq, Repr, Inhabited

namespace TierState

def name : TierState → String
  | .protected => "protected"
  | .open => "open"
  | disabled => "disabled"

/-- The states in their fixed order. -/
def all : List TierState := [.protected, .open, disabled]

end TierState

/-- How a presented token matched a key. -/
inductive MatchKind where
  | none
  | exact
  | hashed
  deriving DecidableEq, Repr, Inhabited

def MatchKind.name : MatchKind → String
  | none => "none"
  | exact => "exact"
  | hashed => "hashed"

/-- A bearer credential, or none. -/
inductive Presented where
  | absent
  | bearer (token : String)
  deriving DecidableEq, Repr, Inhabited

/-- Why a credential was refused. -/
inductive Denial where
  | missingCredential
  | invalidCredential
  | notConfigured
  | accessDisabled
  deriving DecidableEq, Repr, Inhabited

namespace Denial

/-- The kind name of a denial. -/
def kind : Denial → String
  | missingCredential => "missing_credential"
  | invalidCredential => "invalid_credential"
  | notConfigured => "not_configured"
  | accessDisabled => "access_disabled"

/-- The detail shown to the client. -/
def detail : Denial → String
  | missingCredential => "Missing authentication token"
  | invalidCredential => "Invalid authentication token"
  | notConfigured => "App key is not configured"
  | accessDisabled => "Public access is disabled"

end Denial

/-- The outcome of verifying: a decision for the tier it was asked for.  The
verifier of a tier labels it with that `Tier`; verifying by name labels it with
the name, which may name no tier. -/
structure Decision (τ : Type := Tier) where
  tier : τ
  authenticated : Bool := false
  identity : String := ""
  matchKind : MatchKind := .none
  deriving DecidableEq, Repr, Inhabited

/-- The settings as the verifiers read them: texts and truth values by key,
each lookup with a default for an absent key. -/
structure Source where
  text : String → String → String
  flag : String → Bool → Bool

/-- The keys the verifiers read. -/
def adminKeySetting : String := "app.api_key"
def loginKeySetting : String := "app.app_key"
def publicKeySetting : String := "app.public_key"
def publicEnabledSetting : String := "app.public_enabled"

/-- The login key when none is configured. -/
def defaultLoginKey : String := "grok2api"

end Turnstile.Credential
