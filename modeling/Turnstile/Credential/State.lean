import Turnstile.Credential.Basic
import Turnstile.Text.Blank

/-!
# Tier states

The state of a tier under the current settings, read from the same `Source` as
the verifiers: a tier with its key set is protected; an admin tier without a key
is open; a login tier without a key is disabled; a public tier without a key is
open when the public switch is on and disabled otherwise. A name that names no
tier is disabled.
-/

namespace Turnstile.Credential

open Turnstile.Text

/-- Whether the key at `setting` is set: non-empty after trimming its blanks. -/
def keySet (src : Source) (setting fallback : String) : Bool :=
  !(trimBlank (src.text setting fallback)).isEmpty

/-- The state of a tier. -/
def stateOf (src : Source) : Tier → TierState
  | .admin => if keySet src adminKeySetting "" then .protected else .open
  | .login => if keySet src loginKeySetting defaultLoginKey then .protected else .disabled
  | .public =>
    if keySet src publicKeySetting "" then .protected
    else if src.flag publicEnabledSetting false then .open
    else .disabled

/-- The state of the tier with the given name; an unknown name is disabled. -/
def stateOfName (src : Source) (name : String) : TierState :=
  match Tier.ofName? name with
  | some t => stateOf src t
  | none => .disabled

end Turnstile.Credential
