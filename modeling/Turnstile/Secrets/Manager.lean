import Turnstile.Secrets.Provider
import Turnstile.Secrets.Reference
import Turnstile.Text.Quoted

/-!
# Looking secrets up

A manager asks its providers in order.  Providers that do not support a name are
skipped; the first that gives a value wins.  When none does, the failure is the
last provider error, named after the secret, or, when no provider supported the
name at all, a "not found" that says so.

Resolving the references of a text replaces each one by its secret.  Every
reference is looked up, and when any fails the whole text fails, listing each
failure in order.
-/

namespace Turnstile.Secrets

open Turnstile.Host

/-- Providers asked in order. -/
structure Manager where
  providers : List Provider
  deriving Inhabited

namespace Manager

/-- Ask providers in order, remembering the last failure. -/
def ask (w : World) (name : String) : List Provider → Option SecretError → Except SecretError String
  | [], some e => .error (e.within ("failed to get secret " ++ Text.quote name ++ ": "))
  | [], none => .error (.notFound ("secret not found: " ++ Text.quote name ++
      " (no provider supports this secret)"))
  | p :: ps, last =>
    if p.supports w name then
      match p.get w name with
      | .ok v => .ok v
      | .error e => ask w name ps (some e)
    else ask w name ps last

/-- The value of a secret from the first provider that has it. -/
def getSecret (m : Manager) (w : World) (name : String) : Except SecretError String :=
  ask w name m.providers none

/-- The value of each piece: its text, or the secret a reference names. -/
def pieceValue (m : Manager) (w : World) : Piece → Except SecretError String
  | .char c => .ok (String.singleton c)
  | p@(.reference _) => m.getSecret w ((p.name?).getD "")

/-- Replace every reference in a text by its secret. -/
def resolveReferences (m : Manager) (w : World) (input : String) : Except String String :=
  let results := (pieces input.toList).map (m.pieceValue w)
  let failures := results.filterMap fun r => match r with
    | .error e => some e.message
    | .ok _ => none
  if failures.isEmpty then
    .ok (String.join (results.map fun r => match r with
      | .ok v => v
      | .error _ => ""))
  else .error ("failed to resolve secret references: " ++ "; ".intercalate failures)

end Manager

end Turnstile.Secrets
