import Turnstile.Yaml.Scanner

/-!
# YAML event parser

The parser reads tokens and produces events, one per call, following the YAML
grammar with a stack of states: each state says what may come next, and a node
that opens a collection pushes the state to return to once the collection is
closed.  Missing keys and values are produced as empty plain scalars, as the
grammar allows them to be left out.

Tags are resolved here: a handle is replaced by the prefix a `%TAG` directive
or the two defaults (`!` and `!!`, the latter standing for the YAML core
schema's `tag:yaml.org,2002:`) give it.
-/

namespace Turnstile.Yaml

/-- What the parser expects next. -/
inductive ParseState where
  | streamStart
  | implicitDocumentStart
  | documentStart
  | documentContent
  | documentEnd
  | blockNode
  | blockNodeOrIndentlessSequence
  | flowNode
  | blockSequenceFirstEntry
  | blockSequenceEntry
  | indentlessSequenceEntry
  | blockMappingFirstKey
  | blockMappingKey
  | blockMappingValue
  | flowSequenceFirstEntry
  | flowSequenceEntry
  | flowSequenceEntryMappingKey
  | flowSequenceEntryMappingValue
  | flowSequenceEntryMappingEnd
  | flowMappingFirstKey
  | flowMappingKey
  | flowMappingValue
  | flowMappingEmptyValue
  | finished
  deriving Inhabited, Repr, DecidableEq

/-- The parser's state: the scanner, the state stack, the marks where the open
collections began and the tag handles in force. -/
structure Parser where
  scanner : Scanner
  state : ParseState := .streamStart
  states : List ParseState := []
  marks : List Mark := []
  tagDirectives : List (String × String) := []
  streamEnded : Bool := false
  deriving Inhabited

/-- The parser's computations. -/
abbrev ParseM := StateT Parser (Except SyntaxError)

/-- The tag handles every document has. -/
def defaultTagDirectives : List (String × String) :=
  [("!", "!"), ("!!", "tag:yaml.org,2002:")]

/-- Run a scanner step inside the parser. -/
def liftScan (act : ScanM α) : ParseM α := do
  let p ← get
  match act.run p.scanner with
  | .ok (a, s) =>
    set { p with scanner := s }
    pure a
  | .error e => throw e

/-- The next token. -/
def peekTok : ParseM Token := liftScan peekToken

/-- Take the next token. -/
def skipTok : ParseM Unit := do
  let t ← peekTok
  liftScan takeToken
  if t.kind.sameKind .streamEnd then modify fun p => { p with streamEnded := true }

/-- Fail with a parser error. -/
def parseError (problem : String) (problemMark : Mark) : ParseM α :=
  throw { stage := .parser, problem, problemMark }

/-- Fail with a parser error that names the construct being read. -/
def parseErrorIn (context : String) (contextMark : Mark) (problem : String) (problemMark : Mark) :
    ParseM α :=
  throw { stage := .parser, context, contextMark, problem, problemMark }

/-- Return to the state on top of the stack. -/
def popState : ParseM Unit := modify fun p =>
  match p.states with
  | s :: rest => { p with state := s, states := rest }
  | [] => p

/-- Push a state to return to. -/
def pushState (s : ParseState) : ParseM Unit := modify fun p => { p with states := s :: p.states }

/-- Set the next state. -/
def goTo (s : ParseState) : ParseM Unit := modify fun p => { p with state := s }

/-- Remember where a collection began. -/
def pushMark (m : Mark) : ParseM Unit := modify fun p => { p with marks := m :: p.marks }

/-- Forget where the innermost collection began, returning it. -/
def popMark : ParseM Mark := do
  let p ← get
  match p.marks with
  | m :: rest =>
    set { p with marks := rest }
    pure m
  | [] => pure {}

/-- An empty plain scalar at a mark. -/
def emptyScalar (m : Mark) : Event := { kind := .scalar "" "" "" .plain, start := m }

/-- Add a tag handle unless it is already defined; a repeated one is an error
unless duplicates are allowed. -/
def addTagDirective (handle tagPrefix : String) (allowDuplicates : Bool) (m : Mark) :
    ParseM Unit := do
  let p ← get
  if (p.tagDirectives.lookup handle).isSome then
    if allowDuplicates then return
    parseError "found duplicate %TAG directive" m
  set { p with tagDirectives := p.tagDirectives ++ [(handle, tagPrefix)] }

/-- Read the directives before a document, then add the default handles. -/
def processDirectives : Nat → Bool → ParseM Unit
  | 0, _ => pure ()
  | n + 1, seenVersion => do
    let t ← peekTok
    match t.kind with
    | .versionDirective major minor =>
      if seenVersion then parseError "found duplicate %YAML directive" t.start
      if major != 1 || minor != 1 then parseError "found incompatible YAML document" t.start
      skipTok
      processDirectives n true
    | .tagDirective handle tagPrefix =>
      addTagDirective handle tagPrefix false t.start
      skipTok
      processDirectives n seenVersion
    | _ =>
      for (h, pfx) in defaultTagDirectives do
        addTagDirective h pfx true t.start

/-- A bound on the number of tokens, for loops over tokens. -/
def tokenFuel : ParseM Nat := return (← get).scanner.fuel + 8

/-- The start of the stream. -/
def parseStreamStart : ParseM Event := do
  let t ← peekTok
  if !t.kind.sameKind .streamStart then
    parseError "did not find expected <stream-start>" t.start
  goTo .implicitDocumentStart
  skipTok
  return { kind := .streamStart, start := t.start }

/-- Skip document end markers. -/
def skipDocumentEnds : Nat → ParseM Token
  | 0 => peekTok
  | n + 1 => do
    let t ← peekTok
    if t.kind.sameKind .documentEnd then
      skipTok
      skipDocumentEnds n
    else pure t

/-- The start of a document, implicit or after `---`, or the end of the stream. -/
def parseDocumentStart (implicit : Bool) : ParseM Event := do
  let t ← if implicit then peekTok else skipDocumentEnds (← tokenFuel)
  let k := t.kind
  let isDirective := k.sameKind (.versionDirective 0 0) || k.sameKind (.tagDirective "" "")
  if implicit && !isDirective && !k.sameKind .documentStart && !k.sameKind .streamEnd then
    processDirectives (← tokenFuel) false
    pushState .documentEnd
    goTo .blockNode
    return { kind := .documentStart, start := t.start }
  else if !k.sameKind .streamEnd then
    processDirectives (← tokenFuel) false
    let t ← peekTok
    if !t.kind.sameKind .documentStart then
      parseError "did not find expected <document start>" t.start
    pushState .documentEnd
    goTo .documentContent
    skipTok
    return { kind := .documentStart, start := t.start }
  else
    goTo .finished
    skipTok
    return { kind := .streamEnd, start := t.start }

/-- The content of an explicit document, empty when the document is. -/
def parseDocumentContent (parseNode : Bool → Bool → ParseM Event) : ParseM Event := do
  let t ← peekTok
  let k := t.kind
  if k.sameKind (.versionDirective 0 0) || k.sameKind (.tagDirective "" "") ||
      k.sameKind .documentStart || k.sameKind .documentEnd || k.sameKind .streamEnd then
    popState
    return emptyScalar t.start
  parseNode true false

/-- The end of a document, with or without `...`. -/
def parseDocumentEnd : ParseM Event := do
  let t ← peekTok
  if t.kind.sameKind .documentEnd then skipTok
  modify fun p => { p with tagDirectives := [] }
  goTo .documentStart
  return { kind := .documentEnd, start := t.start }

/-- A node: an alias, or an optional anchor and tag followed by a scalar, a
collection start, or nothing (an empty scalar). -/
def parseNode (block indentless : Bool) : ParseM Event := do
  let t ← peekTok
  if let .aliasOf name := t.kind then
    popState
    skipTok
    return { kind := .aliasOf name, start := t.start }
  let startMark := t.start
  let mut anchor := ""
  let mut handle := ""
  let mut suffix := ""
  let mut tagged := false
  let mut tagMark := t.start
  let mut t := t
  if let .anchor name := t.kind then
    anchor := name
    skipTok
    t ← peekTok
    if let .tag h s := t.kind then
      tagged := true
      handle := h
      suffix := s
      tagMark := t.start
      skipTok
      t ← peekTok
  else if let .tag h s := t.kind then
    tagged := true
    handle := h
    suffix := s
    tagMark := t.start
    skipTok
    t ← peekTok
    if let .anchor name := t.kind then
      anchor := name
      skipTok
      t ← peekTok
  let mut tag := ""
  if tagged then
    if handle.isEmpty then tag := suffix
    else
      match (← get).tagDirectives.lookup handle with
      | some pfx => tag := pfx ++ suffix
      | none => pure ()
      if tag.isEmpty then
        parseErrorIn "while parsing a node" startMark "found undefined tag handle" tagMark
  if indentless && t.kind.sameKind .blockEntry then
    goTo .indentlessSequenceEntry
    return { kind := .sequenceStart anchor tag false, start := startMark }
  match t.kind with
  | .scalar text style =>
    popState
    skipTok
    return { kind := .scalar anchor tag text style, start := startMark }
  | .flowSequenceStart =>
    goTo .flowSequenceFirstEntry
    return { kind := .sequenceStart anchor tag true, start := startMark }
  | .flowMappingStart =>
    goTo .flowMappingFirstKey
    return { kind := .mappingStart anchor tag true, start := startMark }
  | .blockSequenceStart =>
    if block then
      goTo .blockSequenceFirstEntry
      return { kind := .sequenceStart anchor tag false, start := startMark }
  | .blockMappingStart =>
    if block then
      goTo .blockMappingFirstKey
      return { kind := .mappingStart anchor tag false, start := startMark }
  | _ => pure ()
  if !anchor.isEmpty || !tag.isEmpty then
    popState
    return { kind := .scalar anchor tag "" .plain, start := startMark }
  parseErrorIn (if block then "while parsing a block node" else "while parsing a flow node")
    startMark "did not find expected node content" t.start

/-- An entry of a block sequence, or its end. -/
def parseBlockSequenceEntry (first : Bool) : ParseM Event := do
  if first then
    let t ← peekTok
    pushMark t.start
    skipTok
  let t ← peekTok
  if t.kind.sameKind .blockEntry then
    let m := t.stop
    skipTok
    let t ← peekTok
    if !t.kind.sameKind .blockEntry && !t.kind.sameKind .blockEnd then
      pushState .blockSequenceEntry
      return ← parseNode true false
    goTo .blockSequenceEntry
    return emptyScalar m
  if t.kind.sameKind .blockEnd then
    popState
    let _ ← popMark
    skipTok
    return { kind := .sequenceEnd, start := t.start }
  let cm ← popMark
  parseErrorIn "while parsing a block collection" cm "did not find expected '-' indicator" t.start

/-- An entry of a sequence written at its mapping key's indentation. -/
def parseIndentlessSequenceEntry : ParseM Event := do
  let t ← peekTok
  if t.kind.sameKind .blockEntry then
    let m := t.stop
    skipTok
    let t ← peekTok
    let k := t.kind
    if !k.sameKind .blockEntry && !k.sameKind .key && !k.sameKind .value && !k.sameKind .blockEnd then
      pushState .indentlessSequenceEntry
      return ← parseNode true false
    goTo .indentlessSequenceEntry
    return emptyScalar m
  popState
  return { kind := .sequenceEnd, start := t.start }

/-- A key of a block mapping, or its end. -/
def parseBlockMappingKey (first : Bool) : ParseM Event := do
  if first then
    let t ← peekTok
    pushMark t.start
    skipTok
  let t ← peekTok
  if t.kind.sameKind .key then
    let m := t.stop
    skipTok
    let t ← peekTok
    let k := t.kind
    if !k.sameKind .key && !k.sameKind .value && !k.sameKind .blockEnd then
      pushState .blockMappingValue
      return ← parseNode true true
    goTo .blockMappingValue
    return emptyScalar m
  if t.kind.sameKind .blockEnd then
    popState
    let _ ← popMark
    skipTok
    return { kind := .mappingEnd, start := t.start }
  let cm ← popMark
  parseErrorIn "while parsing a block mapping" cm "did not find expected key" t.start

/-- A value of a block mapping. -/
def parseBlockMappingValue : ParseM Event := do
  let t ← peekTok
  if t.kind.sameKind .value then
    let m := t.stop
    skipTok
    let t ← peekTok
    let k := t.kind
    if !k.sameKind .key && !k.sameKind .value && !k.sameKind .blockEnd then
      pushState .blockMappingKey
      return ← parseNode true true
    goTo .blockMappingKey
    return emptyScalar m
  goTo .blockMappingKey
  return emptyScalar t.start

/-- An entry of a flow sequence, or its end. -/
def parseFlowSequenceEntry (first : Bool) : ParseM Event := do
  if first then
    let t ← peekTok
    pushMark t.start
    skipTok
  let mut t ← peekTok
  if !t.kind.sameKind .flowSequenceEnd then
    if !first then
      if t.kind.sameKind .flowEntry then
        skipTok
        t ← peekTok
      else
        let cm ← popMark
        parseErrorIn "while parsing a flow sequence" cm "did not find expected ',' or ']'" t.start
    if t.kind.sameKind .key then
      goTo .flowSequenceEntryMappingKey
      skipTok
      return { kind := .mappingStart "" "" true, start := t.start }
    else if !t.kind.sameKind .flowSequenceEnd then
      pushState .flowSequenceEntry
      return ← parseNode false false
  popState
  let _ ← popMark
  skipTok
  return { kind := .sequenceEnd, start := t.start }

/-- The key of a single-pair mapping inside a flow sequence. -/
def parseFlowSequenceEntryMappingKey : ParseM Event := do
  let t ← peekTok
  let k := t.kind
  if !k.sameKind .value && !k.sameKind .flowEntry && !k.sameKind .flowSequenceEnd then
    pushState .flowSequenceEntryMappingValue
    return ← parseNode false false
  let m := t.stop
  skipTok
  goTo .flowSequenceEntryMappingValue
  return emptyScalar m

/-- The value of a single-pair mapping inside a flow sequence. -/
def parseFlowSequenceEntryMappingValue : ParseM Event := do
  let mut t ← peekTok
  if t.kind.sameKind .value then
    skipTok
    t ← peekTok
    if !t.kind.sameKind .flowEntry && !t.kind.sameKind .flowSequenceEnd then
      pushState .flowSequenceEntryMappingEnd
      return ← parseNode false false
  goTo .flowSequenceEntryMappingEnd
  return emptyScalar t.start

/-- The end of a single-pair mapping inside a flow sequence. -/
def parseFlowSequenceEntryMappingEnd : ParseM Event := do
  let t ← peekTok
  goTo .flowSequenceEntry
  return { kind := .mappingEnd, start := t.start }

/-- A key of a flow mapping, or its end. -/
def parseFlowMappingKey (first : Bool) : ParseM Event := do
  if first then
    let t ← peekTok
    pushMark t.start
    skipTok
  let mut t ← peekTok
  if !t.kind.sameKind .flowMappingEnd then
    if !first then
      if t.kind.sameKind .flowEntry then
        skipTok
        t ← peekTok
      else
        let cm ← popMark
        parseErrorIn "while parsing a flow mapping" cm "did not find expected ',' or '\x7d'" t.start
    if t.kind.sameKind .key then
      skipTok
      let t' ← peekTok
      let k := t'.kind
      if !k.sameKind .value && !k.sameKind .flowEntry && !k.sameKind .flowMappingEnd then
        pushState .flowMappingValue
        return ← parseNode false false
      goTo .flowMappingValue
      return emptyScalar t'.start
    else if !t.kind.sameKind .flowMappingEnd then
      pushState .flowMappingEmptyValue
      return ← parseNode false false
  popState
  let _ ← popMark
  skipTok
  return { kind := .mappingEnd, start := t.start }

/-- A value of a flow mapping; `empty` when the key stood alone. -/
def parseFlowMappingValue (empty : Bool) : ParseM Event := do
  let mut t ← peekTok
  if empty then
    goTo .flowMappingKey
    return emptyScalar t.start
  if t.kind.sameKind .value then
    skipTok
    t ← peekTok
    if !t.kind.sameKind .flowEntry && !t.kind.sameKind .flowMappingEnd then
      pushState .flowMappingKey
      return ← parseNode false false
  goTo .flowMappingKey
  return emptyScalar t.start

/-- The next event, or none after the end of the stream. -/
def nextEvent : ParseM (Option Event) := do
  let p ← get
  if p.streamEnded || p.state == .finished then return none
  let e ← match p.state with
    | .streamStart => parseStreamStart
    | .implicitDocumentStart => parseDocumentStart true
    | .documentStart => parseDocumentStart false
    | .documentContent => parseDocumentContent parseNode
    | .documentEnd => parseDocumentEnd
    | .blockNode => parseNode true false
    | .blockNodeOrIndentlessSequence => parseNode true true
    | .flowNode => parseNode false false
    | .blockSequenceFirstEntry => parseBlockSequenceEntry true
    | .blockSequenceEntry => parseBlockSequenceEntry false
    | .indentlessSequenceEntry => parseIndentlessSequenceEntry
    | .blockMappingFirstKey => parseBlockMappingKey true
    | .blockMappingKey => parseBlockMappingKey false
    | .blockMappingValue => parseBlockMappingValue
    | .flowSequenceFirstEntry => parseFlowSequenceEntry true
    | .flowSequenceEntry => parseFlowSequenceEntry false
    | .flowSequenceEntryMappingKey => parseFlowSequenceEntryMappingKey
    | .flowSequenceEntryMappingValue => parseFlowSequenceEntryMappingValue
    | .flowSequenceEntryMappingEnd => parseFlowSequenceEntryMappingEnd
    | .flowMappingFirstKey => parseFlowMappingKey true
    | .flowMappingKey => parseFlowMappingKey false
    | .flowMappingValue => parseFlowMappingValue false
    | .flowMappingEmptyValue => parseFlowMappingValue true
    | .finished => pure { kind := .streamEnd, start := {} }
  return some e

end Turnstile.Yaml
