import Turnstile.Credential.Basic
import Turnstile.Digest.Sha256
import Turnstile.Text.Blank
import Turnstile.Text.Hex

/-!
# Matching a token against a key

A key is normalised by trimming its blanks; a key that is empty after trimming
is unset and matches nothing. A presented token matches a set key exactly when
it is the trimmed key, byte for byte. It matches by hash when it is the public
token of the key: `public-` followed by the lower-case hexadecimal SHA-256
digest of `grok2api-public:` and the trimmed key. Browser clients present the
public token so that the raw key never leaves the server.
-/

namespace Turnstile.Credential

open Turnstile.Text

/-- The prefix of every public token. -/
def publicTokenPrefix : String := "public-"

/-- The text hashed together with a key. -/
def publicHashMarker : String := "grok2api-public:"

/-- The hexadecimal digest of a key, after trimming its blanks. -/
def keyDigest (key : String) : String :=
  hexOfBytes (Digest.Sha256.digest (publicHashMarker ++ trimBlank key).toUTF8.toList)

/-- The public token of a key. -/
def publicToken (key : String) : String := publicTokenPrefix ++ keyDigest key

/-- How a presented token matches a key. -/
def matchKey (presented key : String) : MatchKind :=
  let k := trimBlank key
  if k.isEmpty then .none
  else if presented == k then .exact
  else if presented.startsWith publicTokenPrefix && presented == publicToken k then .hashed
  else .none

/-- Whether a presented token matches a key at all. -/
def matchesKey (presented key : String) : Bool := matchKey presented key != .none

end Turnstile.Credential
