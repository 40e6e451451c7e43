import Turnstile.Cli.Flag
import Turnstile.Text.Blank
import Turnstile.Text.Case
import Turnstile.Text.Infix

/-!
# Command trees

A program's command line names a path in a tree of commands, then gives flags
and arguments.  Reading it goes in steps:

1. **Finding the command.**  From the root, the first word that is neither a
   flag nor a flag's value names a child; the search moves to that child with
   the word removed, and stops at a command with no child of that name.  Which
   words are flag values is judged by the flags known so far: a flag word
   without `=` takes the next word unless it names a switch, and an unknown flag
   counts as taking one.  At a root that takes any arguments, a word left over
   is an unknown command, reported with the commands it is close to.
2. **Reading the flags** of the command: its own, the persistent flags of the
   commands above it, `--help` (`-h`) and, on a command with a version,
   `--version`.
3. **Asking for help or the version**: `--help` wins over everything after the
   flags are read; a command that does nothing by itself shows its help.
4. **Checking** the number of arguments, the required flags, and that no two
   flags of an exclusive group were given.

The built-in `help` command shows the help of the command its arguments name,
or, when they name none, the root's usage on the error stream.

A command's help is its long description (or its short one) with trailing
blanks removed, then its usage: how to call it, its subcommands with their
short descriptions, its own flags and the flags it inherits, each list in the
form of `flagUsages`.
-/

namespace Turnstile.Cli

open Turnstile.Text

/-- How many positional arguments a command takes. -/
inductive Arity where
  /-- Any number; a root with subcommands refuses a word that names no command. -/
  | any
  /-- None: the first argument is an unknown command. -/
  | none
  /-- At most this many. -/
  | atMost (n : Nat)
  deriving DecidableEq, Repr, Inhabited

/-- A command of a tree. -/
structure Command where
  /-- The name, then how the arguments are written, such as `hash [secret]`. -/
  use : String
  short : String := ""
  long : String := ""
  arity : Arity := .any
  /-- Whether the command does something itself. -/
  runnable : Bool := true
  /-- Whether this is the built-in help command. -/
  isHelp : Bool := false
  flags : List Flag := []
  /-- Flags this command shares with every command below it. -/
  persistent : List Flag := []
  required : List String := []
  /-- Groups of flags of which at most one may be given. -/
  exclusive : List (List String) := []
  version : String := ""
  /-- Whether the usage line ends with `[flags]`. -/
  flagsInUse : Bool := true
  deriving Inhabited

/-- The name of a command: the first word of its use. -/
def Command.name (c : Command) : String := String.ofList (c.use.toList.takeWhile (· != ' '))

/-- A command with the commands below it, in the order they were added. -/
inductive CommandTree where
  | node (cmd : Command) (children : List CommandTree)
  deriving Inhabited

namespace CommandTree

def cmd : CommandTree → Command
  | node c _ => c

def children : CommandTree → List CommandTree
  | node _ ks => ks

mutual
/-- Whether a command is listed and suggested: it is not the help command, and
it does something or has a child that is available. -/
def available : CommandTree → Bool
  | node c ks => !c.isHelp && (c.runnable || anyAvailable ks)

/-- Whether some tree of a list is available. -/
def anyAvailable : List CommandTree → Bool
  | [] => false
  | t :: ts => available t || anyAvailable ts
end

end CommandTree

/-- A command in its tree: the commands above it, root first, and its subtree. -/
structure Place where
  above : List Command := []
  tree : CommandTree
  deriving Inhabited

namespace Place

def cmd (p : Place) : Command := p.tree.cmd

def children (p : Place) : List CommandTree := p.tree.children

/-- Move to a child. -/
def descend (p : Place) (t : CommandTree) : Place := { above := p.above ++ [p.cmd], tree := t }

/-- The names from the root to the command, joined by blanks. -/
def path (p : Place) : String := " ".intercalate ((p.above ++ [p.cmd]).map Command.name)

/-- The persistent flags of the commands above. -/
def inherited (p : Place) : List Flag := p.above.flatMap (·.persistent)

/-- The flags known before the built-in ones are added. -/
def known (p : Place) : List Flag := p.cmd.flags ++ p.cmd.persistent ++ p.inherited

/-- The built-in flags: `--help`, and `--version` on a command with a version;
each takes its short name only when no other flag has it. -/
def builtIn (p : Place) : List Flag :=
  let help := if (findLong p.known "help").isSome then []
    else [Flag.switch "help" (if (findShort p.known 'h').isSome then none else some 'h')
      ("help for " ++ p.cmd.name)]
  let before := p.known ++ help
  let version := if p.cmd.version.isEmpty || (findLong before "version").isSome then []
    else [Flag.switch "version" (if (findShort before 'v').isSome then none else some 'v')
      ("version for " ++ p.cmd.name)]
  help ++ version

/-- Every flag the command reads. -/
def allFlags (p : Place) : List Flag := p.known ++ p.builtIn

/-- The flags listed as the command's own, with or without the built-in ones. -/
def ownFlags (p : Place) (withBuiltIn : Bool) : List Flag :=
  p.cmd.flags ++ p.cmd.persistent ++ (if withBuiltIn then p.builtIn else [])

/-- The inherited flags not shadowed by one of the command's own. -/
def inheritedShown (p : Place) : List Flag :=
  p.inherited.filter fun f => (findLong (p.ownFlags true) f.name).isNone

end Place

/-- Whether a word is a flag that takes the next word as its value, as judged
while finding the command. -/
def takesValue (flags : List Flag) (word : String) : Bool :=
  match word.toList with
  | '-' :: '-' :: rest => !rest.contains '=' && !isSwitchLong flags (String.ofList rest)
  | ['-', c] => c != '=' && c.toNat < 128 && !isSwitchShort flags c
  | _ => false

/-- The words of a command line that are neither flags nor flag values, up to `--`. -/
def commandWords (flags : List Flag) : List String → List String
  | [] => []
  | w :: rest =>
    if w == "--" then []
    else if takesValue flags w then
      match rest with
      | [] => []
      | _ :: more => if more.isEmpty then [] else commandWords flags more
    else if !w.isEmpty && !w.startsWith "-" then w :: commandWords flags rest
    else commandWords flags rest

/-- A command line without the first occurrence of a command word. -/
def withoutWord (flags : List Flag) (x : String) : List String → List String
  | [] => []
  | w :: rest =>
    if w == "--" then w :: rest
    else if takesValue flags w then
      match rest with
      | v :: more => w :: v :: withoutWord flags x more
      | [] => [w]
    else if !w.startsWith "-" && w == x then rest
    else w :: withoutWord flags x rest

/-- Find the command a command line names, with the words left for it.  Each
step removes one word, so a fuel of one more than the number of words is
enough. -/
def findFrom : Nat → Place → List String → Place × List String
  | 0, p, args => (p, args)
  | fuel + 1, p, args =>
    match commandWords p.known args with
    | [] => (p, args)
    | next :: _ =>
      match p.children.find? (·.cmd.name == next) with
      | some t => findFrom fuel (p.descend t) (withoutWord p.known next args)
      | none => (p, args)

/-- Find the command a command line names from the root. -/
def findCommand (root : CommandTree) (args : List String) : Place × List String :=
  findFrom (args.length + 1) { tree := root } args

/-- The next row of the edit-distance table for one more byte of the first text. -/
def editRowFrom (a : UInt8) : List UInt8 → List Nat → Nat → List Nat
  | b :: bs, diag :: up :: more, left =>
    let here := if a == b then diag else 1 + min up (min left diag)
    here :: editRowFrom a bs (up :: more) here
  | _, _, _ => []

/-- The edit distance between two byte strings: the fewest insertions,
deletions and substitutions that turn one into the other. -/
def editDistance (s t : List UInt8) : Nat :=
  let last := s.foldl (fun prev a =>
    match prev with
    | [] => []
    | p0 :: _ => (p0 + 1) :: editRowFrom a t prev (p0 + 1)) (List.range (t.length + 1))
  last.getLast?.getD 0

/-- The available children a mistyped name may have meant: those within two
edits of it, or starting with it, ignoring case. -/
def suggestions (p : Place) (typed : String) : List String :=
  let lower := toLowerText typed
  (p.children.filter (·.available)).filterMap fun t =>
    let name := toLowerText t.cmd.name
    if editDistance lower.toUTF8.toList name.toUTF8.toList ≤ 2 || name.startsWith lower then
      some t.cmd.name
    else none

/-- The text added to an unknown command error. -/
def suggestionText (p : Place) (typed : String) : String :=
  match suggestions p typed with
  | [] => ""
  | names => "\n\nDid you mean this?\n" ++ String.join (names.map fun n => "\t" ++ n ++ "\n")

/-- The refusal of a root that takes any arguments but has subcommands, when a
word names no command. -/
def leftoverWord (p : Place) (rest : List String) : Option String :=
  if p.cmd.arity = .any && !p.children.isEmpty && p.above.isEmpty then
    match commandWords p.known rest with
    | w :: _ => some ("unknown command " ++ quote w ++ " for " ++ quote p.path ++ suggestionText p w)
    | [] => none
  else none

/-- The refusal of arguments the command does not take. -/
def arityProblem (p : Place) (args : List String) : Option String :=
  match p.cmd.arity, args with
  | .none, a :: _ => some ("unknown command " ++ quote a ++ " for " ++ quote p.path)
  | .atMost n, _ =>
    if args.length > n then
      some ("accepts at most " ++ toString n ++ " arg(s), received " ++ toString args.length)
    else none
  | _, _ => none

/-- Texts in increasing order. -/
def sortTexts (xs : List String) : List String := xs.mergeSort fun a b => decide (a ≤ b)

/-- The refusal naming the required flags that were not given. -/
def missingFlags (p : Place) (vs : FlagValues) : Option String :=
  match (sortTexts p.cmd.required).filter (!vs.isGiven ·) with
  | [] => none
  | names => some ("required flag(s) \"" ++ "\", \"".intercalate names ++ "\" not set")

/-- The refusal of the first exclusive group, in order of its names, with more
than one flag given. -/
def exclusiveConflict (p : Place) (vs : FlagValues) : Option String :=
  let groups := (p.cmd.exclusive.map (" ".intercalate ·)).mergeSort fun a b => decide (a ≤ b)
  groups.findSome? fun key =>
    match sortTexts ((key.splitOn " ").filter vs.isGiven) with
    | set@(_ :: _ :: _) =>
      some ("if any flags in the group [" ++ key ++ "] are set none of the others can be; [" ++
        " ".intercalate set ++ "] were all set")
    | _ => none

/-- A text padded with blanks to a width. -/
def padRight (s : String) (width : Nat) : String :=
  s ++ String.ofList (List.replicate (width - s.length) ' ')

/-- How to call the command: its path and use, and `[flags]`. -/
def Place.useLine (p : Place) : String :=
  let base := if p.above.isEmpty then p.cmd.use
    else " ".intercalate (p.above.map Command.name) ++ " " ++ p.cmd.use
  if p.cmd.flagsInUse && !containsText base "[flags]" then base ++ " [flags]" else base

/-- The usage of a command, with or without its built-in flags. -/
def usageText (p : Place) (withBuiltIn : Bool) : String :=
  let hasSubs := CommandTree.anyAvailable p.children
  let width := max 11 (p.children.foldl (fun m t => max m t.cmd.name.length) 0)
  let listed := (p.children.filter fun t => t.available || t.cmd.name == "help").mergeSort
    fun a b => decide (a.cmd.name ≤ b.cmd.name)
  let own := p.ownFlags withBuiltIn
  let inherited := p.inheritedShown
  "Usage:" ++
    (if p.cmd.runnable then "\n  " ++ p.useLine else "") ++
    (if hasSubs then "\n  " ++ p.path ++ " [command]" else "") ++
    (if hasSubs then "\n\nAvailable Commands:" ++
      String.join (listed.map fun t => "\n  " ++ padRight t.cmd.name width ++ " " ++ t.cmd.short)
      else "") ++
    (if own.isEmpty then "" else "\n\nFlags:\n" ++ trimEndBy isBlank (flagUsages own)) ++
    (if inherited.isEmpty then "" else "\n\nGlobal Flags:\n" ++ trimEndBy isBlank (flagUsages inherited)) ++
    (if hasSubs then "\n\nUse \"" ++ p.path ++ " [command] --help\" for more information about a command."
      else "") ++
    "\n"

/-- The help of a command. -/
def helpText (p : Place) : String :=
  let about := if p.cmd.long.isEmpty then p.cmd.short else p.cmd.long
  (if about.isEmpty then "" else trimEndBy isBlank about ++ "\n\n") ++
    (if p.cmd.runnable || !p.children.isEmpty then usageText p true else "")

/-- What a process writes and the status it exits with. -/
structure Outcome where
  exit : Nat := 0
  stdout : String := ""
  stderr : String := ""
  deriving Inhabited

/-- A refusal: its message on the error stream, and status 1. -/
def Outcome.refusal (message : String) : Outcome := { exit := 1, stderr := message ++ "\n" }

/-- Whether a word may be written between backquotes. -/
def backquotable (s : String) : Bool :=
  s.toList.all fun c =>
    c.toNat != 0xFEFF && c.toNat != 96 && c.toNat != 0x7F && (c.toNat ≥ 0x20 || c == '\t')

/-- A list of words as help names an unknown topic. -/
def topicText (words : List String) : String :=
  let tick := String.singleton (Char.ofNat 96)
  "[" ++ " ".intercalate (words.map fun w => if backquotable w then tick ++ w ++ tick else quote w) ++ "]"

/-- What the built-in help command writes for its arguments. -/
def helpTopic (root : CommandTree) (words : List String) : Outcome :=
  let (p, rest) := findCommand root words
  match leftoverWord p rest with
  | some _ =>
    { stderr := "Unknown help topic " ++ topicText words ++ "\n" ++ usageText { tree := root } false }
  | none => { stdout := helpText p }

/-- What a command line asks for: an outcome already decided, or running a
command with its flag values and arguments. -/
inductive Invocation where
  | done (o : Outcome)
  | run (p : Place) (values : FlagValues) (args : List String)
  deriving Inhabited

/-- Read a command line against a tree of commands. -/
def readCommandLine (root : CommandTree) (args : List String) : Invocation :=
  let (p, rest) := findCommand root args
  match leftoverWord p rest with
  | some e => .done (.refusal e)
  | none =>
    match readFlags p.allFlags rest (FlagValues.initial p.allFlags) [] with
    | .error e => .done (.refusal e)
    | .ok (vs, words) =>
      if vs.isOn "help" then .done { stdout := helpText p }
      else if !p.cmd.version.isEmpty && vs.isOn "version" then
        .done { stdout := p.cmd.name ++ " version " ++ p.cmd.version ++ "\n" }
      else if !p.cmd.runnable then .done { stdout := helpText p }
      else match arityProblem p words <|> missingFlags p vs <|> exclusiveConflict p vs with
        | some e => .done (.refusal e)
        | none => if p.cmd.isHelp then .done (helpTopic root words) else .run p vs words

end Turnstile.Cli
