/-!
# YAML syntax: positions, tokens, events and syntax errors

A YAML text is read in three layers.  The scanner turns characters into
tokens, the parser turns tokens into events, and the composer turns events into
a node graph.  This module holds what the layers pass to each other.

Positions count characters from zero: `index` in the whole text, `line` and
`column` within it.  A syntax error names the layer that found it, a problem
and where, and optionally the construct being read when it was found (its
context) and where that construct began.  Its message names one line, one
based: the context's line when that is not the first line, else the problem's
line when that is not the first line, else none.  A scanner error reports the
line of its mark plus one, a parser error the line as it stands, which is the
rule the messages of this reader follow.
-/

namespace Turnstile.Yaml

/-- A position in the text, every part counted from zero. -/
structure Mark where
  index : Nat := 0
  line : Nat := 0
  column : Nat := 0
  deriving Inhabited, Repr, DecidableEq

/-- How a scalar was written. -/
inductive ScalarStyle where
  | plain
  | singleQuoted
  | doubleQuoted
  | literal
  | folded
  deriving Inhabited, Repr, DecidableEq

/-- What a token is, with the text it carries. -/
inductive TokenKind where
  | streamStart
  | streamEnd
  | versionDirective (major minor : Nat)
  | tagDirective (handle tagPrefix : String)
  | documentStart
  | documentEnd
  | blockSequenceStart
  | blockMappingStart
  | blockEnd
  | flowSequenceStart
  | flowSequenceEnd
  | flowMappingStart
  | flowMappingEnd
  | blockEntry
  | flowEntry
  | key
  | value
  | aliasOf (name : String)
  | anchor (name : String)
  | tag (handle suffix : String)
  | scalar (text : String) (style : ScalarStyle)
  deriving Inhabited, Repr

/-- A token and the stretch of text it covers. -/
structure Token where
  kind : TokenKind
  start : Mark
  stop : Mark
  deriving Inhabited, Repr

namespace TokenKind

/-- A small number per kind of token, for comparing kinds and ignoring payloads. -/
def rank : TokenKind → Nat
  | streamStart => 0
  | streamEnd => 1
  | versionDirective _ _ => 2
  | tagDirective _ _ => 3
  | documentStart => 4
  | documentEnd => 5
  | blockSequenceStart => 6
  | blockMappingStart => 7
  | blockEnd => 8
  | flowSequenceStart => 9
  | flowSequenceEnd => 10
  | flowMappingStart => 11
  | flowMappingEnd => 12
  | blockEntry => 13
  | flowEntry => 14
  | key => 15
  | value => 16
  | aliasOf _ => 17
  | anchor _ => 18
  | tag _ _ => 19
  | scalar _ _ => 20

/-- Whether two tokens are of the same kind, whatever they carry. -/
def sameKind (a b : TokenKind) : Bool := a.rank == b.rank

end TokenKind

/-- What an event is.  A node event carries its anchor and resolved tag, empty
when absent. -/
inductive EventKind where
  | streamStart
  | streamEnd
  | documentStart
  | documentEnd
  | aliasOf (name : String)
  | scalar (anchor tag text : String) (style : ScalarStyle)
  | sequenceStart (anchor tag : String) (flow : Bool)
  | sequenceEnd
  | mappingStart (anchor tag : String) (flow : Bool)
  | mappingEnd
  deriving Inhabited, Repr

/-- An event and where it starts. -/
structure Event where
  kind : EventKind
  start : Mark
  deriving Inhabited, Repr

/-- The layer that found a syntax error. -/
inductive Stage where
  | reader
  | scanner
  | parser
  deriving Inhabited, Repr, DecidableEq

/-- A syntax error: the layer, the construct being read and where it began, and
the problem and where it was found. -/
structure SyntaxError where
  stage : Stage
  context : String := ""
  contextMark : Mark := {}
  problem : String
  problemMark : Mark := {}
  deriving Inhabited, Repr

namespace SyntaxError

/-- The one-based line an error message names, zero for none. -/
def line (e : SyntaxError) : Nat :=
  let bump := if e.stage = .scanner then 1 else 0
  if e.contextMark.line ≠ 0 then e.contextMark.line + bump
  else if e.problemMark.line ≠ 0 then e.problemMark.line + bump
  else 0

/-- The text of the error, without the leading `yaml: `. -/
def detail (e : SyntaxError) : String :=
  let where_ := if e.line = 0 then "" else "line " ++ toString e.line ++ ": "
  let msg := if e.problem.isEmpty then "unknown problem parsing YAML content" else e.problem
  where_ ++ msg

end SyntaxError

end Turnstile.Yaml
