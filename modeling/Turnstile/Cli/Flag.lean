import Turnstile.Text.Quoted
import Turnstile.Text.Boolean

/-!
# Command-line flags

A flag is a switch or a text.  A switch given alone is on; a text takes a value,
written after `=` or as the next argument.  Long flags are written `--name`;
a flag with a one-letter short name may also be written `-x`, and short
switches may be run together (`-vx`).  A short text flag takes the rest of its
word as its value (`-tadmin`, `-t=admin`) or, at the end of the word, the next
argument.

Reading a command line keeps the words that are not flags, in order, as the
positional arguments; `--` ends the flags and makes every later word
positional, and so does nothing else.  The first flag that cannot be read stops
the reading with its message:

* `bad flag syntax: ---x` for a long flag whose name is empty or starts with `-` or `=`;
* `unknown flag: --name` and `unknown shorthand flag: 'x' in -xyz`;
* `flag needs an argument: --name` and `flag needs an argument: 'x' in -x`;
* `invalid argument "v" for "--name" flag: ...` for a switch given a word that is
  not a truth word.

A short word starting with `test.` is passed over without being read.

The help lists the flags sorted by name, one a line: the short and long names,
`string` for a text flag, then the usage, aligned three columns after the
longest head, and the default value of a text flag that has one.
-/

namespace Turnstile.Cli

open Turnstile.Text

/-- What a flag holds. -/
inductive FlagKind where
  /-- A truth value; given alone it is on. -/
  | switch
  /-- A text; it always takes a value. -/
  | text
  deriving DecidableEq, Repr, Inhabited

/-- A declared flag. -/
structure Flag where
  name : String
  short : Option Char := none
  kind : FlagKind := .text
  usage : String
  /-- The value the flag has when it is not given. -/
  initial : String := ""
  deriving Repr, Inhabited

namespace Flag

/-- A switch, off until given. -/
def switch (name : String) (short : Option Char) (usage : String) : Flag :=
  { name, short, kind := .switch, usage, initial := "false" }

/-- A text flag with its initial value. -/
def text (name : String) (short : Option Char) (usage initial : String) : Flag :=
  { name, short, kind := .text, usage, initial }

/-- How messages name a flag: `-x, --name`, or `--name` without a short name. -/
def spelling (f : Flag) : String :=
  match f.short with
  | some c => "-" ++ String.singleton c ++ ", --" ++ f.name
  | none => "--" ++ f.name

/-- The start of the flag's help line, before the usage. -/
def head (f : Flag) : String :=
  let names := match f.short with
    | some c => "  -" ++ String.singleton c ++ ", --" ++ f.name
    | none => "      --" ++ f.name
  if f.kind = .text then names ++ " string" else names

/-- The usage with the default value of a text flag that has one. -/
def describe (f : Flag) : String :=
  if f.kind = .text && !f.initial.isEmpty then f.usage ++ " (default " ++ quote f.initial ++ ")"
  else f.usage

end Flag

/-- The flag with a long name. -/
def findLong (flags : List Flag) (name : String) : Option Flag := flags.find? (·.name == name)

/-- The flag with a short name. -/
def findShort (flags : List Flag) (c : Char) : Option Flag := flags.find? (·.short == some c)

/-- Whether the flag with a long name is a switch. -/
def isSwitchLong (flags : List Flag) (name : String) : Bool :=
  match findLong flags name with
  | some f => f.kind = .switch
  | none => false

/-- Whether the flag with a short name is a switch. -/
def isSwitchShort (flags : List Flag) (c : Char) : Bool :=
  match findShort flags c with
  | some f => f.kind = .switch
  | none => false

/-- A character between single quotes, escaped as in a character literal. -/
def quoteChar (c : Char) : String :=
  let inner := if c == '\'' then ['\\', '\''] else if c == '"' then ['"'] else escapeChar c
  String.ofList ('\'' :: inner ++ ['\''])

/-- The character a message shows for the first byte of a character: the
character itself when it is ASCII, else the character whose code is that byte. -/
def leadByte (c : Char) : Char :=
  match (String.singleton c).toUTF8.toList with
  | b :: _ => Char.ofNat b.toNat
  | [] => c

/-- The values of the flags of a command line. -/
structure FlagValues where
  /-- Every declared flag with its value. -/
  values : List (String × String)
  /-- The flags given, in the order first given. -/
  given : List String := []
  deriving Inhabited

namespace FlagValues

/-- Every declared flag at its initial value. -/
def initial (flags : List Flag) : FlagValues := { values := flags.map fun f => (f.name, f.initial) }

/-- The value of a flag; the empty text for an undeclared one. -/
def text (vs : FlagValues) (name : String) : String := (vs.values.lookup name).getD ""

/-- Whether a switch is on. -/
def isOn (vs : FlagValues) (name : String) : Bool := vs.text name == "true"

/-- Whether a flag was given. -/
def isGiven (vs : FlagValues) (name : String) : Bool := vs.given.contains name

/-- Give a flag a value. -/
def record (vs : FlagValues) (name value : String) : FlagValues :=
  { values := vs.values.map fun (k, v) => if k == name then (k, value) else (k, v)
    given := if vs.given.contains name then vs.given else vs.given ++ [name] }

end FlagValues

/-- Give a flag a value; a switch takes only truth words. -/
def assign (f : Flag) (value : String) (vs : FlagValues) : Except String FlagValues :=
  match f.kind with
  | .text => .ok (vs.record f.name value)
  | .switch =>
    match parseBool? value with
    | some b => .ok (vs.record f.name (boolWord b))
    | none => .error ("invalid argument " ++ quote value ++ " for " ++ quote f.spelling ++
        " flag: strconv.ParseBool: parsing " ++ quote value ++ ": invalid syntax")

/-- Read one long flag word `--...`, with the argument after it if any; tells
whether that argument was taken as the value. -/
def readLong (flags : List Flag) (word : String) (next : Option String) (vs : FlagValues) :
    Except String (Bool × FlagValues) :=
  let body := (word.drop 2).toString
  if body.isEmpty || body.startsWith "-" || body.startsWith "=" then
    .error ("bad flag syntax: " ++ word)
  else
    let name := String.ofList (body.toList.takeWhile (· != '='))
    let inline := match body.toList.dropWhile (· != '=') with
      | _ :: v => some (String.ofList v)
      | [] => none
    match findLong flags name with
    | none => .error ("unknown flag: --" ++ name)
    | some f =>
      match inline, f.kind, next with
      | some v, _, _ => (assign f v vs).map (false, ·)
      | none, .switch, _ => (assign f "true" vs).map (false, ·)
      | none, .text, some v => (assign f v vs).map (true, ·)
      | none, .text, none => .error ("flag needs an argument: " ++ word)

/-- Read the letters of a short flag word, with the argument after the word if
any; tells whether that argument was taken as a value. -/
def readShort (flags : List Flag) (next : Option String) :
    List Char → FlagValues → Except String (Bool × FlagValues)
  | [], vs => .ok (false, vs)
  | c :: more, vs =>
    if (String.ofList (c :: more)).startsWith "test." then .ok (false, vs)
    else match findShort flags c with
      | none => .error ("unknown shorthand flag: " ++ quoteChar (leadByte c) ++ " in -" ++
          String.ofList (c :: more))
      | some f =>
        match more, f.kind with
        | '=' :: v :: rest, _ => (assign f (String.ofList (v :: rest)) vs).map (false, ·)
        | _, .switch => (assign f "true" vs).bind (readShort flags next more)
        | _ :: _, .text => (assign f (String.ofList more) vs).map (false, ·)
        | [], .text =>
          match next with
          | some v => (assign f v vs).map (true, ·)
          | none => .error ("flag needs an argument: " ++ quoteChar c ++ " in -" ++ String.singleton c)

/-- Read a command line against the declared flags, giving the flag values and
the positional arguments in order. -/
def readFlags (flags : List Flag) : List String → FlagValues → List String →
    Except String (FlagValues × List String)
  | [], vs, pos => .ok (vs, pos)
  | word :: rest, vs, pos =>
    if word.length ≤ 1 || !word.startsWith "-" then readFlags flags rest vs (pos ++ [word])
    else if word == "--" then .ok (vs, pos ++ rest)
    else
      let step := if word.startsWith "--" then readLong flags word rest.head? vs
        else readShort flags rest.head? (word.toList.drop 1) vs
      match step with
      | .error e => .error e
      | .ok (took, vs) => readFlags flags (if took then rest.drop 1 else rest) vs pos
termination_by ws => ws.length
decreasing_by all_goals (try split) <;> simp only [List.length_drop, List.length_cons] <;> omega

/-- The help lines of flags, sorted by name. -/
def flagUsages (flags : List Flag) : String :=
  let sorted := flags.mergeSort fun a b => decide (a.name ≤ b.name)
  let width := sorted.foldl (fun m f => max m f.head.length) 0
  String.join (sorted.map fun f =>
    f.head ++ String.ofList (List.replicate (width - f.head.length + 3) ' ') ++ f.describe ++ "\n")

end Turnstile.Cli
