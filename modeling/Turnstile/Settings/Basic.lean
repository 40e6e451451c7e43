import Turnstile.Value.Basic
import Turnstile.Credential.Basic

/-!
# Settings

The settings are a flat mapping from dotted keys (`app.api_key`) to values. They
are read in two ways, each with a default for an absent key:

* as text (`Settings.text`): nothing reads as the empty text, a text as itself,
  and any other value as its plain text (`Value.text`);
* as a truth value (`Settings.flag`): nothing reads as false, a truth value as
  itself, a text as the truth word it spells (the default when it spells none),
  a number as whether it differs from zero, and anything else as the default.

The keys are listed in sorted order. `Settings.source` is the view the
credential verifiers read.
-/

namespace Turnstile

/-- A flat mapping from dotted keys to values, each key at most once. -/
structure Settings where
  entries : List (String × Value)
  deriving Inhabited

namespace Settings

/-- The value at a key. -/
def find? (s : Settings) (key : String) : Option Value := s.entries.lookup key

/-- Whether the key is present. -/
def has (s : Settings) (key : String) : Bool := (s.find? key).isSome

/-- The keys in sorted order. -/
def keys (s : Settings) : List String :=
  Value.sortBy (fun a b => decide (a ≤ b)) (s.entries.map Prod.fst)

/-- Set a key, replacing its value if present and adding it at the end otherwise. -/
def insert (s : Settings) (key : String) (v : Value) : Settings :=
  if s.has key then ⟨s.entries.map (fun e => if e.1 == key then (key, v) else e)⟩
  else ⟨s.entries ++ [(key, v)]⟩

/-- A value read as text. -/
def valueText : Value → String
  | .null => ""
  | .str t => t
  | v => v.text

/-- A value read as a truth value, with the default for values that spell none. -/
def valueFlag (fallback : Bool) : Value → Bool
  | .null => false
  | .bool b => b
  | .str t => (Text.parseBool? t).getD fallback
  | .int i => i != 0
  | .nat n => n != 0
  | .float x => !(Binary64.eq x (Binary64.zero false))
  | _ => fallback

/-- The text at a key, or `fallback` when the key is absent. -/
def text (s : Settings) (key fallback : String) : String :=
  match s.find? key with
  | none => fallback
  | some v => valueText v

/-- The truth value at a key, or `fallback` when the key is absent. -/
def flag (s : Settings) (key : String) (fallback : Bool) : Bool :=
  match s.find? key with
  | none => fallback
  | some v => valueFlag fallback v

/-- The settings as the credential verifiers read them. -/
def source (s : Settings) : Credential.Source := ⟨s.text, s.flag⟩

end Settings

end Turnstile
