import Turnstile.Log.Level
import Turnstile.Log.Redact
import Turnstile.Number.Text
import Turnstile.Text.Quoted
import Turnstile.Text.Blank
import Turnstile.Clock.Activation

/-!
# Log records

A logger writes each record at or above its level as one line, in JSON or in
`key=value` text.  A line starts with the level and the message, then the
attributes in the logger's scope: those given to the logger with `With`, in the
groups opened with `WithGroup` before them, and then the record's own, in every
group opened; a group none of whose members is written is left out, and a group
with an empty name is spliced into its parent.  A record made while serving a
request also carries `request_id`.

Attribute values have the kinds of the logging library: texts, signed and
unsigned integers, numbers, truth values, durations, instants, errors, values
of any other kind (a map, a slice, a structure), nothing, and groups of
attributes.  A value of any other kind is given by the two texts it is written
as: its JSON encoding and its printed form.

With redaction on, every attribute that is not a group is rewritten before it
is written, the message included: a sensitive key gets `***` as its value, and
a non-empty text value has its credentials replaced (see `redactText`).  Values
of every other kind, errors included, are written as they are.

In JSON, texts are escaped with backslashes for `"` and `\`, `\n`, `\r` and `\t`
for those controls, `\u00XX` for the other controls, and `\u2028`, `\u2029` for
the two separators; numbers are written in JSON form, a duration as its count
of nanoseconds, an instant as an RFC 3339 text with its nanoseconds, and an
error as the text of its message.  In text, keys, texts, error messages and the
printed forms of other values are quoted when they are empty or hold a blank,
`=`, `"`, a control or a character that is not printable; numbers are written in
general form, a duration as its text and an instant with its milliseconds;
nothing is written `<nil>`; groups become key prefixes joined by dots.

The time of a record is not part of this model: lines are written without it.
Instants are written in UTC.
-/

namespace Turnstile.Log

/-- The value of an attribute, of one of the kinds of the logging library. -/
inductive LogValue where
  | text (s : String)
  | int (i : Int)
  | uint (n : Nat)
  | float (x : Binary64)
  | bool (b : Bool)
  | duration (d : Duration)
  /-- An instant, in nanoseconds since the Unix epoch. -/
  | time (t : Int)
  /-- An error, written as the text of its message. -/
  | error (message : String)
  /-- A value of any other kind, written as its JSON encoding in JSON lines and
  as its printed form in text lines. -/
  | any (json printed : String)
  /-- The value of nothing. -/
  | none
  | group (attrs : List (String × LogValue))
  deriving Inhabited

/-- The forms of log lines. -/
inductive Format where
  | json
  | text
  deriving DecidableEq, Repr, Inhabited

/-- The format a name denotes, in any case; the empty name is JSON. -/
def parseFormat (name : String) : Except String Format :=
  let lower := Text.toLowerText name
  if lower == "json" || lower == "" then .ok .json
  else if lower == "text" then .ok .text
  else .error ("unknown log format: " ++ name)

/-- What a logger is given before its records: attributes added with `With`,
or a group opened with `WithGroup`. -/
inductive Scope where
  | attrs (as : List (String × LogValue))
  | group (name : String)
  deriving Inhabited

/-- A configured logger. -/
structure Logger where
  format : Format
  threshold : Level
  redact : Bool := true
  /-- What the logger was given, first given first. -/
  scope : List Scope := []
  deriving Inhabited

/-- One record. -/
structure Record where
  level : Level := .info
  message : String
  attrs : List (String × LogValue) := []
  requestId : String := ""
  deriving Inhabited

/-- The value of an attribute that is not a group, redacted when redaction is on. -/
def redactAttr (on : Bool) (key : String) (v : LogValue) : LogValue :=
  if !on then v
  else match v with
    | .group _ => v
    | .text s => if isSensitiveKey key then .text redactedMark
        else if s.isEmpty then v else .text (redactText s)
    | _ => if isSensitiveKey key then .text redactedMark else v

/-- The escape of a character in a JSON log text. -/
def jsonEscape (c : Char) : String :=
  if c = '"' then "\\\""
  else if c = '\\' then "\\\\"
  else if c = '\n' then "\\n"
  else if c = '\r' then "\\r"
  else if c = '\t' then "\\t"
  else if c.toNat < 32 then "\\u00" ++ String.ofList (Text.hexDigits 2 c.toNat)
  else if c.toNat = 0x2028 then "\\u2028"
  else if c.toNat = 0x2029 then "\\u2029"
  else String.singleton c

/-- A JSON log text. -/
def jsonText (s : String) : String := "\"" ++ String.join (s.toList.map jsonEscape) ++ "\""

/-- Whether a text must be quoted in a text line. -/
def needsQuoting (s : String) : Bool :=
  s.isEmpty || s.toList.any fun c =>
    if c.toNat < 128 then
      c != '\\' && (c = ' ' || c = '=' || c = '"' || c.toNat < 32 || c.toNat = 127)
    else Text.isBlank c || !Text.isPrintable c

/-- A text as a text line writes it. -/
def plainText (s : String) : String := if needsQuoting s then Text.quote s else s

/-- The message written before an instant whose year has not four digits. -/
def yearRangeError : String := "!ERROR:time.Time year outside of range [0,9999]"

/-- An instant in a JSON line: an RFC 3339 text with its nanoseconds, after an
error text when its year has not four digits. -/
def jsonTime (t : Int) : String :=
  let year := (Cron.CivilSecond.ofInstant t).year
  (if year < 0 || 10000 ≤ year then jsonText yearRangeError else "") ++
    "\"" ++ Cron.instantText t ++ "\""

/-- The JSON member of an attribute that is not a group, redacted. -/
def jsonLeaf (on : Bool) (k : String) (v : LogValue) : List String :=
  match redactAttr on k v with
  | .text s => [jsonText k ++ ":" ++ jsonText s]
  | .int i => [jsonText k ++ ":" ++ toString i]
  | .uint n => [jsonText k ++ ":" ++ toString n]
  | .float x => [jsonText k ++ ":" ++ x.render .json]
  | .bool b => [jsonText k ++ ":" ++ (if b then "true" else "false")]
  | .duration d => [jsonText k ++ ":" ++ toString d.nanos]
  | .time t => [jsonText k ++ ":" ++ jsonTime t]
  | .error m => [jsonText k ++ ":" ++ jsonText m]
  | .any j _ => [jsonText k ++ ":" ++ j]
  | .none => if k.isEmpty then [] else [jsonText k ++ ":null"]
  | .group _ => []

/-- The JSON members of attributes, redacted. -/
def jsonMembers (on : Bool) : List (String × LogValue) → List String
  | [] => []
  | (k, .group attrs) :: rest =>
    let inner := jsonMembers on attrs
    let here := if inner.isEmpty then []
      else if k.isEmpty then inner
      else [jsonText k ++ ":\x7b" ++ ",".intercalate inner ++ "\x7d"]
    here ++ jsonMembers on rest
  | (k, v) :: rest => jsonLeaf on k v ++ jsonMembers on rest

/-- The text pair of an attribute that is not a group, redacted. -/
def textLeaf (on : Bool) (key : String) (k : String) (v : LogValue) : List String :=
  match redactAttr on k v with
  | .text s => [plainText key ++ "=" ++ plainText s]
  | .int i => [plainText key ++ "=" ++ toString i]
  | .uint n => [plainText key ++ "=" ++ toString n]
  | .float x => [plainText key ++ "=" ++ x.render .general]
  | .bool b => [plainText key ++ "=" ++ (if b then "true" else "false")]
  | .duration d => [plainText key ++ "=" ++ d.text]
  | .time t => [plainText key ++ "=" ++ Cron.instantMillisText t]
  | .error m => [plainText key ++ "=" ++ plainText m]
  | .any _ p => [plainText key ++ "=" ++ plainText p]
  | .none => if k.isEmpty then [] else [plainText key ++ "=<nil>"]
  | .group _ => []

/-- The text pairs of attributes under a key prefix, redacted. -/
def textPairs (on : Bool) (base : String) : List (String × LogValue) → List String
  | [] => []
  | (k, .group attrs) :: rest =>
    textPairs on (if k.isEmpty then base else base ++ k ++ ".") attrs ++ textPairs on base rest
  | (k, v) :: rest => textLeaf on (base ++ k) k v ++ textPairs on base rest

/-- The record's own attributes, with its request ID last. -/
def Record.allAttrs (r : Record) : List (String × LogValue) :=
  r.attrs ++ (if r.requestId.isEmpty then [] else [("request_id", .text r.requestId)])

/-- The attributes of a record in a logger's scope, as one list: each set of
attributes given with `With` where it was given, and everything given after a
`WithGroup`, the record's own attributes last, as members of that group. -/
def Scope.nest : List Scope → List (String × LogValue) → List (String × LogValue)
  | [], own => own
  | .attrs as :: rest, own => as ++ Scope.nest rest own
  | .group g :: rest, own => [(g, .group (Scope.nest rest own))]

/-- The line a logger writes for a record, if the record passes its level. -/
def Logger.line (lg : Logger) (r : Record) : Option String :=
  if r.level.severity < lg.threshold.severity then none
  else
    let msg := match redactAttr lg.redact "msg" (.text r.message) with
      | .text s => s
      | _ => r.message
    let attrs := Scope.nest lg.scope r.allAttrs
    match lg.format with
    | .json =>
      let members := ["\"level\":" ++ jsonText r.level.label, "\"msg\":" ++ jsonText msg] ++
        jsonMembers lg.redact attrs
      some ("\x7b" ++ ",".intercalate members ++ "\x7d")
    | .text =>
      let pairs := ["level=" ++ r.level.label, "msg=" ++ plainText msg] ++ textPairs lg.redact "" attrs
      some (" ".intercalate pairs)

end Turnstile.Log
