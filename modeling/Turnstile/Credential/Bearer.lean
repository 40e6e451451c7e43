import Turnstile.Credential.Basic
import Turnstile.Text.Case

/-!
# Bearer credentials

A request presents a bearer credential through its first `Authorization` value:
the value is cut at its first space; the part before must be `bearer` in any
case, and the part after, unchanged, is the token. A missing value, a value
without a space, another scheme or an empty token present no credential.
-/

namespace Turnstile.Credential

/-- The credential an `Authorization` value presents. -/
def Presented.ofAuthorization : Option String → Presented
  | none => .absent
  | some v =>
    match v.splitOn " " with
    | scheme :: first :: more =>
      let token := " ".intercalate (first :: more)
      if Text.equalsFoldedAscii scheme "bearer" && !token.isEmpty then .bearer token
      else .absent
    | _ => .absent

end Turnstile.Credential
