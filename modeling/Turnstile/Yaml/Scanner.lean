import Turnstile.Yaml.Syntax

/-!
# YAML scanner

The scanner turns the characters of a YAML text into tokens, on demand: the
parser asks for the next token and the scanner reads just far enough to be sure
of it.  How far is part of the behaviour, because an error further on in the
text is reported only once the scanner reaches it.  The scanner keeps at least
three tokens ahead of the parser, and more while the first of them may still
turn out to be a mapping key.

Indentation opens and closes block collections: a key or a `-` entry at a
column deeper than the current indentation emits a collection start, and a line
that begins left of it emits one block end per level it leaves.  A key written
without `?` (a simple key) is recognised only when a `:` follows on the same
line within 1024 characters; the key token is then inserted back in front of
the key's first token.  A simple key at the indentation column is required:
losing it is the error `could not find expected ':'`.

Every loop here reads at least one character per round, so each runs on a fuel
of the text's length.
-/

namespace Turnstile.Yaml

/-- A place where a simple key may start. -/
structure SimpleKey where
  possible : Bool := false
  required : Bool := false
  tokenNumber : Nat := 0
  mark : Mark := {}
  deriving Inhabited, Repr

/-- The scanner's state.  `tokens` holds every token made so far, in order;
the parser has taken the first `taken` of them. -/
structure Scanner where
  input : Array Char
  mark : Mark := {}
  tokens : Array Token := #[]
  taken : Nat := 0
  started : Bool := false
  indent : Int := -1
  indents : List Int := []
  simpleKeyAllowed : Bool := false
  simpleKeys : Array SimpleKey := #[]
  flowLevel : Nat := 0
  newlines : Nat := 0
  deriving Inhabited

/-- The scanner's computations: they update the scanner or fail. -/
abbrev ScanM := StateT Scanner (Except SyntaxError)

/-- A line break character. -/
def isBreakChar (c : Char) : Bool :=
  c == '\r' || c == '\n' || c == '\u0085' || c == '\u2028' || c == '\u2029'

/-- A space or a tab. -/
def isBlankChar (c : Char) : Bool := c == ' ' || c == '\t'

/-- The end of the text, seen as the character zero. -/
def isEndChar (c : Char) : Bool := c == '\x00'

/-- A line break or the end of the text. -/
def isBreakOrEnd (c : Char) : Bool := isBreakChar c || isEndChar c

/-- A blank, a line break or the end of the text. -/
def isBlankOrEnd (c : Char) : Bool := isBlankChar c || isBreakOrEnd c

/-- A character of a word: an ASCII letter or digit, `_` or `-`. -/
def isWordChar (c : Char) : Bool :=
  ('0' ≤ c && c ≤ '9') || ('A' ≤ c && c ≤ 'Z') || ('a' ≤ c && c ≤ 'z') || c == '_' || c == '-'

/-- An ASCII digit. -/
def isDigitChar (c : Char) : Bool := '0' ≤ c && c ≤ '9'

/-- A hexadecimal digit. -/
def isHexChar (c : Char) : Bool :=
  ('0' ≤ c && c ≤ '9') || ('A' ≤ c && c ≤ 'F') || ('a' ≤ c && c ≤ 'f')

/-- The value of a hexadecimal digit. -/
def hexValue (c : Char) : Nat :=
  if '0' ≤ c && c ≤ '9' then c.toNat - '0'.toNat
  else if 'A' ≤ c && c ≤ 'F' then c.toNat - 'A'.toNat + 10
  else c.toNat - 'a'.toNat + 10

/-- Whether a character may stand in a YAML text: tab, line feed, carriage
return, printable ASCII, next line, and the rest of Unicode except the C1
controls, surrogates and the two non-characters at the end of the basic plane. -/
def isAllowedChar (c : Char) : Bool :=
  let n := c.toNat
  n == 0x09 || n == 0x0A || n == 0x0D || (0x20 ≤ n && n ≤ 0x7E) || n == 0x85 ||
    (0xA0 ≤ n && n ≤ 0xD7FF) || (0xE000 ≤ n && n ≤ 0xFFFD) || (0x10000 ≤ n && n ≤ 0x10FFFF)

/-- A character that may appear in a tag: word characters and the URI marks. -/
def isUriChar (verbatim : Bool) (c : Char) : Bool :=
  isWordChar c || ";/?:@&=+$.!~*'()%".toList.contains c ||
    (verbatim && (c == ',' || c == '[' || c == ']'))

namespace Scanner

/-- A scanner at the start of a text. -/
def start (input : Array Char) : Scanner := { input }

/-- The character `k` places ahead, the character zero past the end. -/
def peek (s : Scanner) (k : Nat) : Char := s.input.getD (s.mark.index + k) '\x00'

/-- Characters left to read, a bound on every loop. -/
def fuel (s : Scanner) : Nat := s.input.size + 1

end Scanner

/-- The character `k` places ahead. -/
def ahead (k : Nat) : ScanM Char := return (← get).peek k

/-- The current character. -/
def current : ScanM Char := ahead 0

/-- Fail with a scanner error at the current position. -/
def scanError (context : String) (contextMark : Mark) (problem : String) : ScanM α := do
  throw { stage := .scanner, context, contextMark, problem, problemMark := (← get).mark }

/-- Step over one character that is not a line break. -/
def skip : ScanM Unit := modify fun s =>
  { s with
    mark := { s.mark with index := s.mark.index + 1, column := s.mark.column + 1 }
    newlines := if isBlankChar (s.peek 0) then s.newlines else 0 }

/-- Step over a line break, a carriage return and line feed counting as one. -/
def skipLine : ScanM Unit := modify fun s =>
  if s.peek 0 == '\r' && s.peek 1 == '\n' then
    { s with
      mark := { index := s.mark.index + 2, line := s.mark.line + 1, column := 0 }
      newlines := s.newlines + 1 }
  else if isBreakChar (s.peek 0) then
    { s with
      mark := { index := s.mark.index + 1, line := s.mark.line + 1, column := 0 }
      newlines := s.newlines + 1 }
  else s

/-- Read the current character, stepping over it. -/
def readChar : ScanM Char := do
  let c ← current
  skip
  return c

/-- Read a line break: carriage return, line feed, both, and next line read as
a line feed; the line and paragraph separators read as themselves. -/
def readBreak : ScanM String := do
  let c ← current
  if c == '\u2028' || c == '\u2029' then
    skipLine
    return String.singleton c
  else if isBreakChar c then
    skipLine
    return "\n"
  else return ""

/-- Step over characters while they satisfy `p`. -/
def skipWhile (p : Char → Bool) : Nat → ScanM Unit
  | 0 => pure ()
  | n + 1 => do
    if p (← current) then
      skip
      skipWhile p n
    else pure ()

/-- Read characters while they satisfy `p`, appending them to `acc`. -/
def readWhile (p : Char → Bool) (acc : String) : Nat → ScanM String
  | 0 => pure acc
  | n + 1 => do
    let c ← current
    if p c then
      skip
      readWhile p (acc.push c) n
    else pure acc

/-- Step forward to the absolute position `target`, over breaks and other
characters alike. -/
def advanceTo (target : Nat) : Nat → ScanM Unit
  | 0 => pure ()
  | n + 1 => do
    let s ← get
    if s.mark.index ≥ target then pure ()
    else
      if isBreakOrEnd (s.peek 0) then skipLine else skip
      advanceTo target n

/-- The first offset below 512 whose character is not a blank, if any. -/
def firstNonBlank (s : Scanner) : Option Nat :=
  (List.range 512).find? fun k => !isBlankChar (s.peek k)

/-- The first offset below 512 whose character is neither a blank nor a line
break, if any. -/
def firstNonSpace (s : Scanner) : Option Nat :=
  (List.range 512).find? fun k => !isBlankChar (s.peek k) && !isBreakChar (s.peek k)

/-- Step over a comment that starts at the current character and over every
comment after it that lies within 512 characters across blanks and line
breaks. -/
def skipComments : Nat → ScanM Unit
  | 0 => pure ()
  | n + 1 => do
    skipWhile (fun c => !isBreakOrEnd c) (← get).fuel
    let s ← get
    match firstNonSpace s with
    | some k =>
      if k > 0 && s.peek k == '#' then
        advanceTo (s.mark.index + k) (← get).fuel
        skipComments n
      else pure ()
    | none => pure ()

/-- After a token, step over a comment on the rest of its line. -/
def skipLineComment : ScanM Unit := do
  let s ← get
  if s.newlines > 0 then return
  match firstNonBlank s with
  | some k =>
    if s.peek k == '#' then
      advanceTo (s.mark.index + k) s.fuel
      skipWhile (fun c => !isBreakOrEnd c) (← get).fuel
  | none => pure ()

/-- Append a token. -/
def pushToken (t : Token) : ScanM Unit := modify fun s => { s with tokens := s.tokens.push t }

/-- Insert a token at an absolute position of the token list. -/
def insertToken (pos : Nat) (t : Token) : ScanM Unit :=
  modify fun s => { s with tokens := s.tokens.insertIdxIfInBounds pos t }

/-- Replace the simple key on top of the stack. -/
def setTopKey (k : SimpleKey) : ScanM Unit :=
  modify fun s => { s with simpleKeys := s.simpleKeys.pop.push k }

/-- Drop the simple key of the current flow level; a required one is an error. -/
def removeSimpleKey : ScanM Unit := do
  let s ← get
  match s.simpleKeys.back? with
  | some k =>
    if k.possible then
      if k.required then scanError "while scanning a simple key" k.mark "could not find expected ':'"
      setTopKey { k with possible := false }
  | none => pure ()

/-- Remember that a simple key may start here, when one may. -/
def saveSimpleKey : ScanM Unit := do
  let s ← get
  if s.simpleKeyAllowed then
    let key : SimpleKey :=
      { possible := true
        required := s.flowLevel == 0 && s.indent == (s.mark.column : Int)
        tokenNumber := s.tokens.size
        mark := s.mark }
    removeSimpleKey
    setTopKey key

/-- Whether the simple key at stack position `i` may still be a key.  A key
left behind by a line break or by 1024 characters is dropped, and is an error
when required. -/
def checkSimpleKey (i : Nat) : ScanM Bool := do
  let s ← get
  match s.simpleKeys[i]? with
  | none => return false
  | some k =>
    if !k.possible then return false
    if k.mark.line < s.mark.line || k.mark.index + 1024 < s.mark.index then
      if k.required then scanError "while scanning a simple key" k.mark "could not find expected ':'"
      modify fun s => { s with simpleKeys := s.simpleKeys.set! i { k with possible := false } }
      return false
    return true

/-- Enter a flow collection. -/
def increaseFlowLevel : ScanM Unit := modify fun s =>
  { s with simpleKeys := s.simpleKeys.push { mark := s.mark }, flowLevel := s.flowLevel + 1 }

/-- Leave a flow collection. -/
def decreaseFlowLevel : ScanM Unit := modify fun s =>
  if s.flowLevel > 0 then { s with flowLevel := s.flowLevel - 1, simpleKeys := s.simpleKeys.pop }
  else s

/-- In the block context, open a collection at `column` when it is deeper than
the current indentation, putting its start token at `number` or at the end. -/
def rollIndent (column : Nat) (number : Option Nat) (kind : TokenKind) (mark : Mark) :
    ScanM Unit := do
  let s ← get
  if s.flowLevel > 0 then return
  if s.indent < (column : Int) then
    set { s with indents := s.indent :: s.indents, indent := column }
    let t : Token := { kind, start := mark, stop := mark }
    match number with
    | none => pushToken t
    | some n => insertToken n t

/-- Close every block collection deeper than `column`. -/
def closeLevels (column : Int) (m : Mark) : Int → List Int → Array Token → Int × List Int × Array Token
  | indent, i :: rest, toks =>
    if indent > column then closeLevels column m i rest (toks.push { kind := .blockEnd, start := m, stop := m })
    else (indent, i :: rest, toks)
  | indent, [], toks => (indent, [], toks)

/-- In the block context, emit a block end for every level deeper than
`column`; the ends are marked one character before `scanMark`. -/
def unrollIndent (column : Int) (scanMark : Mark) : ScanM Unit := do
  let s ← get
  if s.flowLevel > 0 then return
  let m := { scanMark with index := scanMark.index - 1 }
  let (indent, indents, tokens) := closeLevels column m s.indent s.indents s.tokens
  set { s with indent, indents, tokens }

/-- Step over blanks, comments and line breaks up to the next token.  Tabs
count as blanks only in a flow collection or where no simple key may start. -/
def scanToNextToken : Nat → ScanM Unit
  | 0 => pure ()
  | n + 1 => do
    let s ← get
    if s.mark.column == 0 && s.peek 0 == '\uFEFF' then skip
    let s ← get
    let tabs := s.flowLevel > 0 || !s.simpleKeyAllowed
    skipWhile (fun c => c == ' ' || (tabs && c == '\t')) s.fuel
    if (← current) == '#' then skipComments (← get).fuel
    if isBreakChar (← current) then
      skipLine
      if (← get).flowLevel == 0 then modify fun s => { s with simpleKeyAllowed := true }
      scanToNextToken n
    else pure ()

/-! ## Simple tokens -/

/-- The stream start. -/
def fetchStreamStart : ScanM Unit := do
  modify fun s =>
    { s with indent := -1, simpleKeys := #[{}], simpleKeyAllowed := true, started := true }
  let m := (← get).mark
  pushToken { kind := .streamStart, start := m, stop := m }

/-- The stream end, on a line of its own. -/
def fetchStreamEnd : ScanM Unit := do
  modify fun s =>
    if s.mark.column != 0 then
      { s with mark := { s.mark with column := 0, line := s.mark.line + 1 } }
    else s
  unrollIndent (-1) (← get).mark
  removeSimpleKey
  modify fun s => { s with simpleKeyAllowed := false }
  let m := (← get).mark
  pushToken { kind := .streamEnd, start := m, stop := m }

/-- Step over one character and emit a token covering it. -/
def singleCharToken (kind : TokenKind) : ScanM Unit := do
  let start := (← get).mark
  skip
  pushToken { kind, start, stop := (← get).mark }

/-- A document start `---` or end `...`. -/
def fetchDocumentIndicator (kind : TokenKind) : ScanM Unit := do
  unrollIndent (-1) (← get).mark
  removeSimpleKey
  modify fun s => { s with simpleKeyAllowed := false }
  let start := (← get).mark
  skip; skip; skip
  pushToken { kind, start, stop := (← get).mark }

/-- A flow collection start `[` or `{`. -/
def fetchFlowCollectionStart (kind : TokenKind) : ScanM Unit := do
  saveSimpleKey
  increaseFlowLevel
  modify fun s => { s with simpleKeyAllowed := true }
  singleCharToken kind

/-- A flow collection end `]` or `}`. -/
def fetchFlowCollectionEnd (kind : TokenKind) : ScanM Unit := do
  removeSimpleKey
  decreaseFlowLevel
  modify fun s => { s with simpleKeyAllowed := false }
  singleCharToken kind

/-- A flow entry separator `,`. -/
def fetchFlowEntry : ScanM Unit := do
  removeSimpleKey
  modify fun s => { s with simpleKeyAllowed := true }
  singleCharToken .flowEntry

/-- A block entry `-`. -/
def fetchBlockEntry : ScanM Unit := do
  let s ← get
  if s.flowLevel == 0 then
    if !s.simpleKeyAllowed then
      scanError "" s.mark "block sequence entries are not allowed in this context"
    rollIndent s.mark.column none .blockSequenceStart s.mark
  removeSimpleKey
  modify fun s => { s with simpleKeyAllowed := true }
  singleCharToken .blockEntry

/-- A complex key indicator `?`. -/
def fetchKey : ScanM Unit := do
  let s ← get
  if s.flowLevel == 0 then
    if !s.simpleKeyAllowed then
      scanError "" s.mark "mapping keys are not allowed in this context"
    rollIndent s.mark.column none .blockMappingStart s.mark
  removeSimpleKey
  modify fun s => { s with simpleKeyAllowed := s.flowLevel == 0 }
  singleCharToken .key

/-- A value indicator `:`.  When a simple key is pending, its key token is
inserted in front of it, together with a mapping start when it opens a block
mapping. -/
def fetchValue : ScanM Unit := do
  let s ← get
  let top := s.simpleKeys.size - 1
  let k := s.simpleKeys.getD top {}
  if ← checkSimpleKey top then
    insertToken k.tokenNumber { kind := .key, start := k.mark, stop := k.mark }
    rollIndent k.mark.column (some k.tokenNumber) .blockMappingStart k.mark
    setTopKey { k with possible := false }
    modify fun s => { s with simpleKeyAllowed := false }
  else
    let s ← get
    if s.flowLevel == 0 then
      if !s.simpleKeyAllowed then
        scanError "" s.mark "mapping values are not allowed in this context"
      rollIndent s.mark.column none .blockMappingStart s.mark
    modify fun s => { s with simpleKeyAllowed := s.flowLevel == 0 }
  singleCharToken .value

/-! ## Anchors and tags -/

/-- An anchor `&name` or an alias `*name`. -/
def fetchAnchor (isAlias : Bool) : ScanM Unit := do
  saveSimpleKey
  modify fun s => { s with simpleKeyAllowed := false }
  let start := (← get).mark
  skip
  let name ← readWhile isWordChar "" (← get).fuel
  let c ← current
  let ends := isBlankOrEnd c || "?:,]\x7d%@".toList.contains c || c == Char.ofNat 96
  if name.isEmpty || !ends then
    scanError (if isAlias then "while scanning an alias" else "while scanning an anchor") start
      "did not find expected alphabetic or numeric character"
  let kind := if isAlias then TokenKind.aliasOf name else .anchor name
  pushToken { kind, start, stop := (← get).mark }

/-- The context named by tag errors. -/
def tagContext (directive : Bool) : String :=
  if directive then "while parsing a %TAG directive" else "while parsing a tag"

/-- The number of bytes a UTF-8 sequence has, from its first byte; zero when the
byte cannot start one. -/
def utf8Width (b : Nat) : Nat :=
  if b < 0x80 then 1 else if b &&& 0xE0 == 0xC0 then 2
  else if b &&& 0xF0 == 0xE0 then 3 else if b &&& 0xF8 == 0xF0 then 4 else 0

/-- Read the `%XX` escapes of one UTF-8 sequence. -/
def readUriEscapes (directive : Bool) (start : Mark) : Nat → Nat → List UInt8 → ScanM (List UInt8)
  | 0, _, acc => pure acc
  | fuel + 1, left, acc => do
    let s ← get
    if !(s.peek 0 == '%' && isHexChar (s.peek 1) && isHexChar (s.peek 2)) then
      scanError (tagContext directive) start "did not find URI escaped octet"
    let octet := hexValue (s.peek 1) * 16 + hexValue (s.peek 2)
    let width := if left == 0 then utf8Width octet else left
    if left == 0 && width == 0 then
      scanError (tagContext directive) start "found an incorrect leading UTF-8 octet"
    if left != 0 && octet &&& 0xC0 != 0x80 then
      scanError (tagContext directive) start "found an incorrect trailing UTF-8 octet"
    skip; skip; skip
    let acc := acc ++ [octet.toUInt8]
    if width - 1 == 0 then pure acc else readUriEscapes directive start fuel (width - 1) acc

/-- Read the characters of a tag, its escapes decoded, after `head` without its
leading `!`. -/
def readTagUri (verbatim directive : Bool) (head : String) (start : Mark) :
    Nat → String → Bool → ScanM String
  | 0, acc, hasTag => do
    if !hasTag then scanError (tagContext directive) start "did not find expected tag URI"
    pure acc
  | n + 1, acc, hasTag => do
    let c ← current
    if isUriChar verbatim c then
      if c == '%' then
        let bytes ← readUriEscapes directive start (← get).fuel 0 []
        let text := (String.fromUTF8? (ByteArray.mk bytes.toArray)).getD ""
        readTagUri verbatim directive head start n (acc ++ text) true
      else
        skip
        readTagUri verbatim directive head start n (acc.push c) true
    else
      if !hasTag then scanError (tagContext directive) start "did not find expected tag URI"
      pure acc

/-- Read a tag handle: `!`, `!!` or `!word!`; without a closing `!` only the
word is read, which is then part of the suffix. -/
def readTagHandle (directive : Bool) (start : Mark) : ScanM String := do
  if (← current) != '!' then
    scanError (tagContext directive) start "did not find expected '!'"
  skip
  let s ← readWhile isWordChar "!" (← get).fuel
  if (← current) == '!' then
    skip
    return s.push '!'
  if directive && s != "!" then
    scanError (tagContext directive) start "did not find expected '!'"
  return s

/-- A tag: `!<uri>`, `!suffix`, `!handle!suffix` or `!` alone. -/
def fetchTag : ScanM Unit := do
  saveSimpleKey
  modify fun s => { s with simpleKeyAllowed := false }
  let start := (← get).mark
  let (handle, suffix) ← do
    if (← ahead 1) == '<' then
      skip; skip
      let suffix ← readTagUri true false "" start (← get).fuel "" false
      if (← current) != '>' then
        scanError "while scanning a tag" start "did not find the expected '>'"
      skip
      pure ("", suffix)
    else
      let handle ← readTagHandle false start
      if handle.length > 1 && handle.startsWith "!" && handle.endsWith "!" then
        let suffix ← readTagUri false false "" start (← get).fuel "" false
        pure (handle, suffix)
      else
        let rest := handle.drop 1
        let suffix ← readTagUri false false handle start (← get).fuel rest.toString
          (!handle.isEmpty)
        if suffix.isEmpty then pure ("", "!") else pure ("!", suffix)
  let s ← get
  let c := s.peek 0
  if !isBlankOrEnd c then
    if s.flowLevel == 0 || c != ',' then
      scanError "while scanning a tag" start "did not find expected whitespace or line break"
  pushToken { kind := .tag handle suffix, start, stop := (← get).mark }

/-! ## Directives -/

/-- Read the digits of a version number, at most two. -/
def readVersionNumber (start : Mark) : Nat → Nat → Nat → ScanM Nat
  | 0, _, value => pure value
  | n + 1, length, value => do
    let c ← current
    if isDigitChar c then
      if length + 1 > 2 then
        scanError "while scanning a %YAML directive" start "found extremely long version number"
      skip
      readVersionNumber start n (length + 1) (value * 10 + (c.toNat - '0'.toNat))
    else
      if length == 0 then
        scanError "while scanning a %YAML directive" start "did not find expected version number"
      pure value

/-- A directive: `%YAML major.minor` or `%TAG handle prefix`. -/
def fetchDirective : ScanM Unit := do
  unrollIndent (-1) (← get).mark
  removeSimpleKey
  modify fun s => { s with simpleKeyAllowed := false }
  let start := (← get).mark
  skip
  let name ← readWhile isWordChar "" (← get).fuel
  if name.isEmpty then
    scanError "while scanning a directive" start "could not find expected directive name"
  if !isBlankOrEnd (← current) then
    scanError "while scanning a directive" start "found unexpected non-alphabetical character"
  let kind ← do
    if name == "YAML" then
      skipWhile isBlankChar (← get).fuel
      let major ← readVersionNumber start (← get).fuel 0 0
      if (← current) != '.' then
        scanError "while scanning a %YAML directive" start
          "did not find expected digit or '.' character"
      skip
      let minor ← readVersionNumber start (← get).fuel 0 0
      pure (TokenKind.versionDirective major minor)
    else if name == "TAG" then
      skipWhile isBlankChar (← get).fuel
      let handle ← readTagHandle true start
      if !isBlankChar (← current) then
        scanError "while scanning a %TAG directive" start "did not find expected whitespace"
      skipWhile isBlankChar (← get).fuel
      let tagPrefix ← readTagUri true true "" start (← get).fuel "" false
      if !isBlankOrEnd (← current) then
        scanError "while scanning a %TAG directive" start
          "did not find expected whitespace or line break"
      pure (TokenKind.tagDirective handle tagPrefix)
    else
      scanError "while scanning a directive" start "found unknown directive name"
  let stop := (← get).mark
  skipWhile isBlankChar (← get).fuel
  if (← current) == '#' then skipWhile (fun c => !isBreakOrEnd c) (← get).fuel
  if !isBreakOrEnd (← current) then
    scanError "while scanning a directive" start "did not find expected comment or line break"
  if isBreakChar (← current) then skipLine
  pushToken { kind, start, stop }

/-! ## Block scalars -/

/-- Step over indentation and empty lines before a block scalar line, reading
the breaks, and settle the indentation when it is still open (zero): the
deepest blank run seen, at least one more than the enclosing level and at least
one.  Returns the indentation, the breaks and the end mark. -/
def blockScalarBreaks (start : Mark) (indent : Nat) (maxIndent : Nat) (breaks : String)
    (stop : Mark) : Nat → ScanM (Nat × String × Mark)
  | 0 => pure (indent, breaks, stop)
  | n + 1 => do
    let s ← get
    skipWhile (fun c => c == ' ') (if indent == 0 then s.fuel
      else min s.fuel (indent - min indent s.mark.column))
    let s ← get
    let maxIndent := max maxIndent s.mark.column
    if (indent == 0 || s.mark.column < indent) && s.peek 0 == '\t' then
      scanError "while scanning a block scalar" start
        "found a tab character where an indentation space is expected"
    if !isBreakChar (s.peek 0) then
      let indent := if indent == 0 then
        let outer := s.indent + 1
        let chosen : Int := max (max (maxIndent : Int) outer) 1
        chosen.toNat
      else indent
      pure (indent, breaks, stop)
    else
      let b ← readBreak
      blockScalarBreaks start indent maxIndent (breaks ++ b) (← get).mark n

/-- Read the lines of a block scalar at its indentation, folding line breaks
between lines that start with no blank when `literal` is false.  Returns the
text, the last line break read, the empty lines after it and the end mark. -/
def blockScalarLines (literal : Bool) (start : Mark) (indent : Nat) :
    Nat → String → String → String → Bool → Mark → ScanM (String × String × String × Mark)
  | 0, text, leading, trailing, _, stop => pure (text, leading, trailing, stop)
  | n + 1, text, leading, trailing, leadingBlank, stop => do
    let s ← get
    if !(s.mark.column == indent && !isEndChar (s.peek 0)) then
      return (text, leading, trailing, stop)
    let trailingBlank := isBlankChar (s.peek 0)
    let text :=
      if !literal && !leadingBlank && !trailingBlank && leading.startsWith "\n" then
        if trailing.isEmpty then text.push ' ' else text
      else text ++ leading
    let text := text ++ trailing
    let leadingBlank := isBlankChar (s.peek 0)
    let text ← readWhile (fun c => !isBreakOrEnd c) text s.fuel
    let leading ← readBreak
    let (_, trailing, stop) ← blockScalarBreaks start indent 0 "" (← get).mark (← get).fuel
    blockScalarLines literal start indent n text leading trailing leadingBlank stop

/-- A literal `|` or folded `>` block scalar, with its chomping and indentation
indicators. -/
def fetchBlockScalar (literal : Bool) : ScanM Unit := do
  removeSimpleKey
  modify fun s => { s with simpleKeyAllowed := true }
  let start := (← get).mark
  skip
  let zeroIndent : ScanM Unit :=
    scanError "while scanning a block scalar" start "found an indentation indicator equal to 0"
  let mut chomping : Int := 0
  let mut increment : Nat := 0
  let c ← current
  if c == '+' || c == '-' then
    chomping := if c == '+' then 1 else -1
    skip
    let d ← current
    if isDigitChar d then
      if d == '0' then zeroIndent
      increment := d.toNat - '0'.toNat
      skip
  else if isDigitChar c then
    if c == '0' then zeroIndent
    increment := c.toNat - '0'.toNat
    skip
    let d ← current
    if d == '+' || d == '-' then
      chomping := if d == '+' then 1 else -1
      skip
  skipWhile isBlankChar (← get).fuel
  if (← current) == '#' then skipWhile (fun c => !isBreakOrEnd c) (← get).fuel
  if !isBreakOrEnd (← current) then
    scanError "while scanning a block scalar" start "did not find expected comment or line break"
  if isBreakChar (← current) then skipLine
  let s ← get
  let indent : Nat :=
    if increment > 0 then
      if s.indent ≥ 0 then (s.indent + increment).toNat else increment
    else 0
  let (indent, trailing, stop) ← blockScalarBreaks start indent 0 "" s.mark (← get).fuel
  let (text, leading, trailing, stop) ←
    blockScalarLines literal start indent (← get).fuel "" "" trailing false stop
  let text := if chomping != -1 then text ++ leading else text
  let text := if chomping == 1 then text ++ trailing else text
  pushToken { kind := .scalar text (if literal then .literal else .folded), start, stop }

/-! ## Quoted scalars -/

/-- The text a one-character escape stands for, if it is one. -/
def simpleEscape (c : Char) : Option String :=
  match c with
  | '0' => some (String.singleton (Char.ofNat 0))
  | 'a' => some (String.singleton (Char.ofNat 7))
  | 'b' => some (String.singleton (Char.ofNat 8))
  | 't' => some "\t"
  | '\t' => some "\t"
  | 'n' => some "\n"
  | 'v' => some (String.singleton (Char.ofNat 11))
  | 'f' => some (String.singleton (Char.ofNat 12))
  | 'r' => some "\r"
  | 'e' => some (String.singleton (Char.ofNat 27))
  | ' ' => some " "
  | '"' => some "\""
  | '\'' => some "'"
  | '\\' => some "\\"
  | '/' => some "/"
  | 'N' => some "\u0085"
  | '_' => some "\u00A0"
  | 'L' => some "\u2028"
  | 'P' => some "\u2029"
  | _ => none

/-- The number of hexadecimal digits a numeric escape takes. -/
def codeLength (c : Char) : Nat :=
  match c with
  | 'x' => 2
  | 'u' => 4
  | 'U' => 8
  | _ => 0

/-- Read the non-blank run of a quoted scalar up to a blank, a line break or
the closing quote.  Returns the text and whether an escaped line break ended
the run. -/
def quotedRun (single : Bool) (start : Mark) : Nat → String → ScanM (String × Bool)
  | 0, acc => pure (acc, false)
  | n + 1, acc => do
    let s ← get
    let c := s.peek 0
    if isBlankOrEnd c then return (acc, false)
    if single && c == '\'' && s.peek 1 == '\'' then
      skip; skip
      quotedRun single start n (acc.push '\'')
    else if single && c == '\'' then return (acc, false)
    else if !single && c == '"' then return (acc, false)
    else if !single && c == '\\' && isBreakChar (s.peek 1) then
      skip
      skipLine
      return (acc, true)
    else if !single && c == '\\' then
      let e := s.peek 1
      let width := codeLength e
      let acc ← do
        if width > 0 then pure acc
        else match simpleEscape e with
          | some t => pure (acc ++ t)
          | none => scanError "while parsing a quoted scalar" start "found unknown escape character"
      skip; skip
      if width > 0 then
        let s ← get
        let digits := (List.range width).map s.peek
        if !digits.all isHexChar then
          scanError "while parsing a quoted scalar" start "did not find expected hexdecimal number"
        let value := digits.foldl (fun v d => v * 16 + hexValue d) 0
        if (0xD800 ≤ value && value ≤ 0xDFFF) || value > 0x10FFFF then
          scanError "while parsing a quoted scalar" start "found invalid Unicode character escape code"
        for _ in List.range width do skip
        quotedRun single start n (acc.push (Char.ofNat value))
      else quotedRun single start n acc
    else
      skip
      quotedRun single start n (acc.push c)

/-- Read the blanks and line breaks between runs of a quoted scalar.  Blanks
before the first break are kept; after it they are dropped.  Returns the
blanks, the first break, the later breaks and whether a break was read. -/
def quotedGap : Nat → String → String → String → Bool → ScanM (String × String × String × Bool)
  | 0, ws, leading, trailing, seen => pure (ws, leading, trailing, seen)
  | n + 1, ws, leading, trailing, seen => do
    let c ← current
    if isBlankChar c then
      skip
      quotedGap n (if seen then ws else ws.push c) leading trailing seen
    else if isBreakChar c then
      if !seen then
        let b ← readBreak
        quotedGap n "" b trailing true
      else
        let b ← readBreak
        quotedGap n ws leading (trailing ++ b) true
    else pure (ws, leading, trailing, seen)

/-- Whether the text at the current position is a document marker at the start
of a line. -/
def atDocumentMarker (s : Scanner) : Bool :=
  s.mark.column == 0 &&
    ((s.peek 0 == '-' && s.peek 1 == '-' && s.peek 2 == '-') ||
      (s.peek 0 == '.' && s.peek 1 == '.' && s.peek 2 == '.')) &&
    isBlankOrEnd (s.peek 3)

/-- The body of a quoted scalar, up to its closing quote. -/
def quotedBody (single : Bool) (start : Mark) : Nat → String → ScanM String
  | 0, acc => pure acc
  | n + 1, acc => do
    let s ← get
    if atDocumentMarker s then
      scanError "while scanning a quoted scalar" start "found unexpected document indicator"
    if isEndChar (s.peek 0) then
      scanError "while scanning a quoted scalar" start "found unexpected end of stream"
    let (acc, escapedBreak) ← quotedRun single start (← get).fuel acc
    let c ← current
    if (single && c == '\'') || (!single && c == '"') then return acc
    let (ws, leading, trailing, seen) ← quotedGap (← get).fuel "" "" "" escapedBreak
    let acc :=
      if seen then
        if leading.startsWith "\n" then
          if trailing.isEmpty then acc.push ' ' else acc ++ trailing
        else acc ++ leading ++ trailing
      else acc ++ ws
    quotedBody single start n acc

/-- A single- or double-quoted scalar. -/
def fetchFlowScalar (single : Bool) : ScanM Unit := do
  saveSimpleKey
  modify fun s => { s with simpleKeyAllowed := false }
  let start := (← get).mark
  skip
  let text ← quotedBody single start (← get).fuel ""
  skip
  pushToken
    { kind := .scalar text (if single then .singleQuoted else .doubleQuoted), start,
      stop := (← get).mark }

/-! ## Plain scalars -/

/-- Whether a character ends the non-blank run of a plain scalar. -/
def endsPlainRun (s : Scanner) : Bool :=
  let c := s.peek 0
  (c == ':' && isBlankOrEnd (s.peek 1)) ||
    (s.flowLevel > 0 && (c == ',' || c == '?' || c == '[' || c == ']' || c == '{' || c == '}'))

/-- Read a non-blank run of a plain scalar, first joining the pending blanks or
folded breaks to the text.  Returns the text, whether anything was read, and
the end mark. -/
def plainRun (ws leading trailing : String) (pendingBreak : Bool) :
    Nat → String → Bool → Mark → ScanM (String × Bool × Mark)
  | 0, acc, any, stop => pure (acc, any, stop)
  | n + 1, acc, any, stop => do
    let s ← get
    if isBlankOrEnd (s.peek 0) || endsPlainRun s then return (acc, any, stop)
    let acc :=
      if any then acc
      else if pendingBreak then
        if leading.startsWith "\n" then
          if trailing.isEmpty then acc.push ' ' else acc ++ trailing
        else acc ++ leading ++ trailing
      else acc ++ ws
    let c ← readChar
    plainRun ws leading trailing pendingBreak n (acc.push c) true (← get).mark

/-- Read the blanks and line breaks after a run of a plain scalar.  A tab in
the indentation of a continuation line is an error. -/
def plainGap (start : Mark) (indent : Nat) :
    Nat → String → String → String → Bool → ScanM (String × String × String × Bool)
  | 0, ws, leading, trailing, seen => pure (ws, leading, trailing, seen)
  | n + 1, ws, leading, trailing, seen => do
    let s ← get
    let c := s.peek 0
    if isBlankChar c then
      if seen && s.mark.column < indent && c == '\t' then
        scanError "while scanning a plain scalar" start
          "found a tab character that violates indentation"
      skip
      plainGap start indent n (if seen then ws else ws.push c) leading trailing seen
    else if isBreakChar c then
      let b ← readBreak
      if !seen then plainGap start indent n "" b trailing true
      else plainGap start indent n ws leading (trailing ++ b) true
    else pure (ws, leading, trailing, seen)

/-- The body of a plain scalar: runs separated by blanks and folded line
breaks, ending before a comment, a document marker, an indicator, or a line
indented less than the enclosing level plus one.  Returns the text, the end
mark and whether the scalar ended after a line break. -/
def plainBody (start : Mark) (indent : Nat) :
    Nat → String → String → String → String → Bool → Mark → ScanM (String × Mark × Bool)
  | 0, acc, _, _, _, pending, stop => pure (acc, stop, pending)
  | n + 1, acc, ws, leading, trailing, pending, stop => do
    let s ← get
    if atDocumentMarker s then return (acc, stop, pending)
    if s.peek 0 == '#' then return (acc, stop, pending)
    let (acc', any, stop) ← plainRun ws leading trailing pending s.fuel acc false stop
    let (ws, leading, trailing, pending) :=
      if any then ("", "", "", false) else (ws, leading, trailing, pending)
    let c ← current
    if !(isBlankChar c || isBreakChar c) then return (acc', stop, pending)
    let (ws, leading, trailing, pending) ← plainGap start indent (← get).fuel ws leading trailing pending
    let s ← get
    if s.flowLevel == 0 && s.mark.column < indent then return (acc', stop, pending)
    plainBody start indent n acc' ws leading trailing pending stop

/-- A plain scalar.  After one that ends across a line break a simple key may
start again. -/
def fetchPlainScalar : ScanM Unit := do
  saveSimpleKey
  modify fun s => { s with simpleKeyAllowed := false }
  let s ← get
  let indent := (s.indent + 1).toNat
  let (text, stop, afterBreak) ← plainBody s.mark indent s.fuel "" "" "" "" false s.mark
  if afterBreak then modify fun s => { s with simpleKeyAllowed := true }
  pushToken { kind := .scalar text .plain, start := s.mark, stop }

/-! ## The next token -/

/-- Whether a plain scalar may start at the current character. -/
def startsPlain (s : Scanner) : Bool :=
  let c := s.peek 0
  let indicator := isBlankOrEnd c || "-?:,[]\x7b\x7d#&*!|>'\"%@".toList.contains c || c == Char.ofNat 96
  !indicator || (c == '-' && !isBlankChar (s.peek 1)) ||
    (s.flowLevel == 0 && (c == '?' || c == ':') && !isBlankOrEnd (s.peek 1))

/-- Scan a token that may carry a comment on the rest of its line. -/
def fetchContent : ScanM Unit := do
  let s ← get
  let c := s.peek 0
  let next := s.peek 1
  if c == '[' then fetchFlowCollectionStart .flowSequenceStart
  else if c == '{' then fetchFlowCollectionStart .flowMappingStart
  else if c == ']' then fetchFlowCollectionEnd .flowSequenceEnd
  else if c == '}' then fetchFlowCollectionEnd .flowMappingEnd
  else if c == ',' then fetchFlowEntry
  else if c == '-' && isBlankOrEnd next then fetchBlockEntry
  else if c == '?' && (s.flowLevel > 0 || isBlankOrEnd next) then fetchKey
  else if c == ':' && (s.flowLevel > 0 || isBlankOrEnd next) then fetchValue
  else if c == '*' then fetchAnchor true
  else if c == '&' then fetchAnchor false
  else if c == '!' then fetchTag
  else if c == '|' && s.flowLevel == 0 then fetchBlockScalar true
  else if c == '>' && s.flowLevel == 0 then fetchBlockScalar false
  else if c == '\'' then fetchFlowScalar true
  else if c == '"' then fetchFlowScalar false
  else if startsPlain s then fetchPlainScalar
  else scanError "while scanning for the next token" s.mark "found character that cannot start any token"

/-- Scan the next token. -/
def fetchNext : ScanM Unit := do
  let s ← get
  if !s.started then
    fetchStreamStart
    return
  let scanMark := s.mark
  scanToNextToken s.fuel
  unrollIndent (← get).mark.column scanMark
  let s ← get
  let c := s.peek 0
  if isEndChar c then fetchStreamEnd
  else if s.mark.column == 0 && c == '%' then fetchDirective
  else if s.mark.column == 0 && c == '-' && s.peek 1 == '-' && s.peek 2 == '-' &&
      isBlankOrEnd (s.peek 3) then fetchDocumentIndicator .documentStart
  else if s.mark.column == 0 && c == '.' && s.peek 1 == '.' && s.peek 2 == '.' &&
      isBlankOrEnd (s.peek 3) then fetchDocumentIndicator .documentEnd
  else
    fetchContent
    match (← get).tokens.back? with
    | some t => if !t.kind.sameKind .blockEntry then skipLineComment
    | none => skipLineComment

/-- Whether the parser's next token may still turn out to be a simple key. -/
def headIsSimpleKey : ScanM Bool := do
  let s ← get
  match s.simpleKeys.findIdx? (fun k => k.possible && k.tokenNumber == s.taken) with
  | some i => checkSimpleKey i
  | none => return false

/-- Scan until three tokens wait for the parser and the first of them is
settled. -/
def fetchMore : Nat → ScanM Unit
  | 0 => pure ()
  | n + 1 => do
    let s ← get
    if s.taken + 2 < s.tokens.size then
      if !(← headIsSimpleKey) then return
    fetchNext
    fetchMore n

/-- The parser's next token, scanning as far as needed. -/
def peekToken : ScanM Token := do
  fetchMore ((← get).fuel + 8)
  let s ← get
  return s.tokens.getD s.taken { kind := .streamEnd, start := s.mark, stop := s.mark }

/-- Hand the next token to the parser. -/
def takeToken : ScanM Unit := modify fun s => { s with taken := s.taken + 1 }

end Turnstile.Yaml
