import Turnstile.Config.Schema
import Turnstile.Settings.Basic

/-!
# Snapshots

A snapshot is one reading of the configuration: the typed configuration and
the flat settings, with the path it was read from and its version.

A YAML text is read twice.  First against the schema, over the defaults; the
defaults are then applied again, so a field the file sets to zero gets its
default back.  Then as plain data: nested mappings are flattened to dotted keys
(`app: {api_key: k}` gives `app.api_key`), other values are leaves, an empty
mapping gives no key, and keys that are not texts are written as their plain
text; of two keys of one mapping written alike, one is kept with what it
holds.  The credentials in the typed configuration are taken from the settings.

A text that fails to read gives the reader's message: a syntax error, a
stopping problem, or the list of type errors.
-/

namespace Turnstile

/-- One reading of the configuration. -/
structure Snapshot where
  config : Config
  settings : Settings
  path : String := ""
  version : Nat := 0
  /-- The instant it was read at, in nanoseconds since the Unix epoch. -/
  loadedAt : Int := 0
  deriving Inhabited

namespace Snapshot

/-- The message of a failed reading. -/
def yamlMessage (detail : String) : String := "yaml: " ++ detail

/-- The message listing type errors. -/
def typeErrorsMessage (errors : Array String) : String :=
  "yaml: unmarshal errors:\n  " ++ "\n  ".intercalate errors.toList

/-- The credentials the settings give. -/
def appOf (s : Settings) : Config.App :=
  { apiKey := s.text "app.api_key" ""
    appKey := s.text "app.app_key" ""
    publicKey := s.text "app.public_key" ""
    publicEnabled := s.flag "app.public_enabled" false }

/-- The plain text of a mapping key. -/
def keyText : Value → String
  | .str s => s
  | v => v.text

mutual
/-- Flatten a value under a dotted prefix: mappings are walked, anything else
is a leaf. -/
def flattenValue (base : String) (v : Value) (acc : Settings) : Settings :=
  match v with
  | .record kvs => flattenRecord base kvs acc
  | .table kvs => flattenTable base kvs acc
  | leaf => acc.insert base leaf

/-- Flatten the fields of a record. -/
def flattenRecord (base : String) : List (String × Value) → Settings → Settings
  | [], acc => acc
  | (k, v) :: rest, acc =>
    let key := if base.isEmpty then k else base ++ "." ++ k
    flattenRecord base rest (flattenValue key v acc)

/-- Flatten the entries of a table, its keys written as text.  The table is
first read as a mapping from those texts, which holds one entry per text: an
entry whose text a later entry repeats is left out, with all it holds. -/
def flattenTable (base : String) : List (Value × Value) → Settings → Settings
  | [], acc => acc
  | (k, v) :: rest, acc =>
    let key := if base.isEmpty then keyText k else base ++ "." ++ keyText k
    if rest.any (fun e => keyText e.1 == keyText k) then flattenTable base rest acc
    else flattenTable base rest (flattenValue key v acc)
end

/-- The flat settings of a decoded document. -/
def flatten (raw : Value) : Settings :=
  match raw with
  | .record kvs => flattenRecord "" kvs ⟨[]⟩
  | .table kvs => flattenTable "" kvs ⟨[]⟩
  | _ => ⟨[]⟩

/-- A snapshot of flat settings over the default configuration. -/
def ofSettings (s : Settings) : Snapshot := { config := Config.default, settings := s }

/-- Decode a document, failing on any type error. -/
def decodeStrict (doc : Yaml.Document) (t : Yaml.Target) (start : Value) : Except String Value :=
  match Yaml.decodeDocument doc t start with
  | .error e => .error (yamlMessage e)
  | .ok (v, errors) => if errors.isEmpty then .ok v else .error (typeErrorsMessage errors)

/-- Read a YAML text into a snapshot.  The empty text gives the defaults. -/
def parse (text : String) : Except String Snapshot :=
  if text.isEmpty then
    .ok { config := { Config.default with app := appOf ⟨[]⟩ }, settings := ⟨[]⟩ }
  else
    match Yaml.readDocument text with
    | .error e => .error (yamlMessage e)
    | .ok doc => do
      let tree ← decodeStrict doc Config.fileTarget (Config.toTree Config.default)
      let raw ← decodeStrict doc .textMap (.record [])
      let settings := flatten raw
      let config := Config.applyDefaults (Config.ofTree (appOf settings) tree)
      return { config, settings }

end Snapshot

end Turnstile
