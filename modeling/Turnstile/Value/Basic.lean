import Turnstile.Number.Text
import Turnstile.Clock.Timestamp
import Turnstile.Text.Boolean

/-!
# Setting values

A setting value is what a configuration document holds at a key once it is read
without a schema: nothing, a truth value, a signed or an unsigned 64-bit integer,
a binary64 number, a text, a timestamp, a list, or a mapping. A mapping whose
keys are all texts is a `record`; one with keys of other kinds is a `table`.

`Value.text` is the plain text of a value: texts as they are, integers in
decimal, numbers in the general style, timestamps in their written form, `<nil>`
for nothing, lists as `[a b]` and mappings as `map[k:v]` with the keys sorted.
-/

namespace Turnstile

/-- A value read from a configuration document. -/
inductive Value where
  | null
  | bool (b : Bool)
  /-- A signed 64-bit integer. -/
  | int (i : Int)
  /-- An unsigned 64-bit integer beyond the signed range. -/
  | nat (n : Nat)
  | float (x : Binary64)
  | str (s : String)
  | time (t : Timestamp)
  | list (xs : List Value)
  /-- A mapping with text keys, in document order. -/
  | record (kvs : List (String × Value))
  /-- A mapping with keys of any kind, in document order. -/
  | table (kvs : List (Value × Value))
  deriving Repr, Inhabited

namespace Value

/-- The rank of a key's kind, used to order the keys of a table. -/
def kindRank : Value → Nat
  | null => 0
  | bool _ => 1
  | int _ => 2
  | nat _ => 3
  | float _ => 4
  | str _ => 5
  | time _ => 6
  | list _ => 7
  | record _ => 8
  | table _ => 9

/-- Insert into a list sorted by `le`, after the entries that are not above it. -/
def insertSorted {α : Type} (le : α → α → Bool) (a : α) : List α → List α
  | [] => [a]
  | b :: rest => if le b a then b :: insertSorted le a rest else a :: b :: rest

/-- Sort a list by `le`, keeping equal entries in their order. -/
def sortBy {α : Type} (le : α → α → Bool) (xs : List α) : List α :=
  xs.foldl (fun acc a => insertSorted le a acc) []

/-- The order of table keys: by kind, then numbers by value, texts by code points. -/
def keyLe (a b : Value) : Bool :=
  if a.kindRank != b.kindRank then a.kindRank < b.kindRank
  else match a, b with
    | bool x, bool y => !x || y
    | int x, int y => x ≤ y
    | nat x, nat y => x ≤ y
    | float x, float y => x.isNaN || Binary64.le x y
    | str x, str y => decide (x ≤ y)
    | _, _ => true

mutual
/-- The plain text of a value. -/
def text : Value → String
  | null => "<nil>"
  | bool b => Text.boolWord b
  | int i => toString i
  | nat n => toString n
  | float x => x.render .general
  | str s => s
  | time t => t.render
  | list xs => "[" ++ " ".intercalate (listTexts xs) ++ "]"
  | record kvs =>
    let entries := sortBy (fun a b => decide (a.1 ≤ b.1)) (recordTexts kvs)
    "map[" ++ " ".intercalate (entries.map (fun e => e.1 ++ ":" ++ e.2)) ++ "]"
  | table kvs =>
    let entries := sortBy (fun a b => keyLe a.1 b.1) (tableTexts kvs)
    "map[" ++ " ".intercalate (entries.map (fun e => e.2.1 ++ ":" ++ e.2.2)) ++ "]"

/-- The texts of the members of a list. -/
def listTexts : List Value → List String
  | [] => []
  | v :: rest => text v :: listTexts rest

/-- The keys of a record with the texts of their values. -/
def recordTexts : List (String × Value) → List (String × String)
  | [] => []
  | (k, v) :: rest => (k, text v) :: recordTexts rest

/-- The keys of a table with the texts of the keys and of their values. -/
def tableTexts : List (Value × Value) → List (Value × String × String)
  | [] => []
  | (k, v) :: rest => (k, text k, text v) :: tableTexts rest
end

end Value

end Turnstile
