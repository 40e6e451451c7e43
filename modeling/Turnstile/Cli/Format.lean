import Turnstile.Text.Quoted

/-!
# Output formats

A command writes its result as text or as indented JSON. The format is named
exactly `text` or `json`; any other name is refused.
-/

namespace Turnstile.Cli

/-- The formats of command output. -/
inductive OutputFormat where
  | text
  | json
  deriving DecidableEq, Repr, Inhabited

def OutputFormat.name : OutputFormat → String
  | text => "text"
  | json => "json"

/-- The format a name denotes, or the refusal message. -/
def OutputFormat.parse (name : String) : Except String OutputFormat :=
  if name == "text" then .ok .text
  else if name == "json" then .ok .json
  else .error ("invalid output format " ++ Text.quote name ++ ": must be 'text' or 'json'")

end Turnstile.Cli
