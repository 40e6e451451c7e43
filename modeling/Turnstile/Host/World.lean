import Turnstile.Host.Files

/-!
# The world a reading sees

Reading the configuration consults two things outside the program: the
environment variables and the file tree.  A variable is either set, possibly to
the empty text, or not set at all; reading an unset variable as text gives the
empty text.  The world also holds what its clock reads, the instant at which a
reading or a request happens.
-/

namespace Turnstile.Host

/-- Environment variables, each name at most once. -/
structure Environment where
  vars : List (String × String) := []
  deriving Inhabited

namespace Environment

/-- The value of a variable, when it is set. -/
def lookup? (e : Environment) (name : String) : Option String := e.vars.lookup name

/-- The value of a variable, empty when it is not set. -/
def get (e : Environment) (name : String) : String := (e.lookup? name).getD ""

/-- Whether a variable is set. -/
def isSet (e : Environment) (name : String) : Bool := (e.lookup? name).isSome

end Environment

/-- The environment, the file tree and the clock. -/
structure World where
  env : Environment := {}
  files : FileSystem := {}
  /-- The instant the clock reads, in nanoseconds since the Unix epoch. -/
  clock : Int := 0
  deriving Inhabited

theorem Environment.get_of_lookup (e : Environment) (name v : String)
    (h : e.lookup? name = some v) : e.get name = v := by
  simp [get, h]

end Turnstile.Host
