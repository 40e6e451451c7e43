import Turnstile.Text.Case

/-!
# Log levels

Four levels order log records by severity: debug (-4), info (0), warn (4) and
error (8). A level is named in any case; the empty name is info and `warning` is
warn. Records below the logger's level are dropped.
-/

namespace Turnstile.Log

/-- The severity levels of log records. -/
inductive Level where
  | debug
  | info
  | warn
  | error
  deriving DecidableEq, Repr, Inhabited

namespace Level

/-- The numeric severity of a level. -/
def severity : Level → Int
  | debug => -4
  | info => 0
  | warn => 4
  | error => 8

/-- The upper-case label of a level, as written in log lines. -/
def label : Level → String
  | debug => "DEBUG"
  | info => "INFO"
  | warn => "WARN"
  | error => "ERROR"

end Level

/-- The level a name denotes, folding it to lower case first. -/
def parseLevel (name : String) : Except String Level :=
  let lower := Text.toLowerText name
  if lower == "debug" then .ok .debug
  else if lower == "info" || lower == "" then .ok .info
  else if lower == "warn" || lower == "warning" then .ok .warn
  else if lower == "error" then .ok .error
  else .error ("unknown log level: " ++ name)

end Turnstile.Log
