import Turnstile.Yaml.Parser
import Turnstile.Yaml.Resolve

/-!
# Composing the node graph

The composer reads the events of the first document and builds its nodes.
Nodes live in one array and refer to their children, and an alias to the node
its anchor names, by position; an alias may thus point to a node that contains
it, which only the decoder, if it follows the alias, reports.

Each node gets a tag.  An explicit tag other than `!` is kept in its short
form.  Otherwise a sequence is `!!seq`, a mapping `!!map`, a quoted or block
scalar `!!str`, the plain scalar `<<` is a merge key, and any other plain scalar
gets the tag its text resolves to.

Only the first document of a stream is read: after it the parser is asked for
its end and no more, so a later error is found only if the scanner, looking
ahead, reaches it.
-/

namespace Turnstile.Yaml

/-- The kinds of nodes. -/
inductive NodeKind where
  | scalar
  | sequence
  | mapping
  | aliasOf
  deriving Inhabited, Repr, DecidableEq

/-- A node.  A collection lists its children by position (a mapping's keys and
values alternate); an alias names its target by position. -/
structure Node where
  kind : NodeKind
  tag : String
  value : String
  style : ScalarStyle := .plain
  tagged : Bool := false
  line : Nat
  column : Nat
  children : Array Nat := #[]
  target : Option Nat := none
  deriving Inhabited, Repr

/-- The nodes of a document and its root, if the stream had a document. -/
structure Document where
  nodes : Array Node
  root : Option Nat
  deriving Inhabited

/-- The composer's state: the parser, the event read ahead, the nodes built and
the anchors seen. -/
structure Composer where
  parser : Parser
  pending : Option Event := none
  nodes : Array Node := #[]
  anchors : List (String × Nat) := []
  deriving Inhabited

/-- The composer's computations; an error is a message. -/
abbrev ComposeM := StateT Composer (Except String)

/-- The event read ahead, reading one if needed. -/
def peekEvent : ComposeM Event := do
  let c ← get
  match c.pending with
  | some e => pure e
  | none =>
    match nextEvent.run c.parser with
    | .ok (some e, p) =>
      set { c with parser := p, pending := some e }
      pure e
    | .ok (none, _) => throw "attempted to parse unknown event (please report): none"
    | .error err => throw err.detail

/-- The name of an event's kind, as messages give it. -/
def eventName : EventKind → String
  | .streamStart => "STREAM-START"
  | .streamEnd => "STREAM-END"
  | .documentStart => "DOCUMENT-START"
  | .documentEnd => "DOCUMENT-END"
  | .aliasOf _ => "ALIAS"
  | .scalar .. => "SCALAR"
  | .sequenceStart .. => "SEQUENCE-START"
  | .sequenceEnd => "SEQUENCE-END"
  | .mappingStart .. => "MAPPING-START"
  | .mappingEnd => "MAPPING-END"

/-- Consume the event read ahead, which must be of the named kind. -/
def expectEvent (name : String) : ComposeM Unit := do
  let e ← peekEvent
  if eventName e.kind == "STREAM-END" then
    throw "attempted to go past the end of stream; corrupted value?"
  if eventName e.kind != name then
    throw ("expected " ++ name ++ " event but got " ++ eventName e.kind)
  modify fun c => { c with pending := none }

/-- The tag of a new node: an explicit tag other than `!`, else the default,
else for a scalar the tag its text resolves to.  Also whether it was explicit. -/
def nodeTag (kind : NodeKind) (defaultTag tag value : String) : String × Bool :=
  if tag != "" && tag != "!" then (shortTag tag, true)
  else if defaultTag != "" then (defaultTag, false)
  else if kind == .scalar then (plainTag value, false)
  else ("", false)

/-- Add a node, returning its position. -/
def addNode (n : Node) : ComposeM Nat := do
  let c ← get
  set { c with nodes := c.nodes.push n }
  return c.nodes.size

/-- Record an anchor for a node, replacing an earlier one of the same name. -/
def addAnchor (name : String) (id : Nat) : ComposeM Unit :=
  if name.isEmpty then pure ()
  else modify fun c => { c with anchors := (name, id) :: c.anchors.filter (·.1 != name) }

/-- Append a child to a collection node. -/
def addChild (parent child : Nat) : ComposeM Unit :=
  modify fun c =>
    { c with nodes := c.nodes.modify parent fun n => { n with children := n.children.push child } }

/-- A new node for the event read ahead. -/
def freshNode (e : Event) (kind : NodeKind) (defaultTag tag value : String)
    (style : ScalarStyle := .plain) : Node :=
  let (t, tagged) := nodeTag kind defaultTag tag value
  { kind, tag := t, value, style, tagged, line := e.start.line + 1, column := e.start.column + 1 }

mutual

/-- Compose the node the next events describe; `fuel` bounds the events read. -/
def composeNode : Nat → ComposeM Nat
  | 0 => throw "document is too large"
  | fuel + 1 => do
    let e ← peekEvent
    match e.kind with
    | .scalar anchor tag text style =>
      let defaultTag := if style == .plain then (if text == "<<" then mergeTag else "") else strTag
      let id ← addNode (freshNode e .scalar defaultTag tag text style)
      addAnchor anchor id
      expectEvent "SCALAR"
      return id
    | .aliasOf name =>
      let n := freshNode e .aliasOf "" "" name
      match (← get).anchors.lookup name with
      | none => throw ("unknown anchor '" ++ name ++ "' referenced")
      | some target =>
        let id ← addNode { n with target := some target }
        expectEvent "ALIAS"
        return id
    | .sequenceStart anchor tag _ =>
      let id ← addNode (freshNode e .sequence seqTag tag "")
      addAnchor anchor id
      expectEvent "SEQUENCE-START"
      composeItems id "SEQUENCE-END" fuel
      expectEvent "SEQUENCE-END"
      return id
    | .mappingStart anchor tag _ =>
      let id ← addNode (freshNode e .mapping mapTag tag "")
      addAnchor anchor id
      expectEvent "MAPPING-START"
      composeItems id "MAPPING-END" fuel
      expectEvent "MAPPING-END"
      return id
    | k => throw ("attempted to parse unknown event (please report): " ++ eventName k)

/-- Compose the children of a collection up to its end event. -/
def composeItems (parent : Nat) (stop : String) : Nat → ComposeM Unit
  | 0 => throw "document is too large"
  | fuel + 1 => do
    let e ← peekEvent
    if eventName e.kind == stop then return
    let child ← composeNode fuel
    addChild parent child
    composeItems parent stop fuel

end

/-- Compose the first document of the stream, if there is one. -/
def composeFirst (fuel : Nat) : ComposeM (Option Nat) := do
  expectEvent "STREAM-START"
  let e ← peekEvent
  match e.kind with
  | .streamEnd => return none
  | .documentStart =>
    expectEvent "DOCUMENT-START"
    let root ← composeNode fuel
    let _ ← peekEvent
    expectEvent "DOCUMENT-END"
    return some root
  | _ => return some (← composeNode fuel)

/-- Whether a character may not appear in a YAML text. -/
def forbiddenChar (c : Char) : Bool := !isAllowedChar c

/-- Read the first document of a YAML text.  A text holding a character that
may not appear fails before anything is read; a leading byte order mark is
dropped. -/
def readDocument (text : String) : Except String Document :=
  let cs := text.toList
  if cs.any forbiddenChar then .error "control characters are not allowed"
  else
    let cs := match cs with
      | '\uFEFF' :: rest => rest
      | _ => cs
    let input := cs.toArray
    let start : Composer := { parser := { scanner := Scanner.start input } }
    match (composeFirst (8 * (input.size + 8))).run start with
    | .ok (root, c) => .ok { nodes := c.nodes, root }
    | .error e => .error e

end Turnstile.Yaml
