import Turnstile.Yaml.Compose
import Turnstile.Clock.Duration
import Turnstile.Text.Quoted
import Turnstile.Encoding.Base64

/-!
# Decoding a document

A document is decoded against a target type.  The targets are: any value, a
text, a truth value, an integer, a duration, a number, a list of numbers, a
mapping with text keys, and records with named fields.

A value that does not fit its target is a type error: it is recorded, with the
node's line, tag, a short form of its text and the target's type name, and
decoding goes on; the whole decode then fails with every error in order.  A few
problems stop decoding at once instead: an alias that contains itself, a merge
of something other than mappings, a collection used as a key of a general
mapping, a tag the text does not fit, and too many aliases.

The rules follow the decoder the configuration format was defined with:

* null leaves a text, truth value, number or record as it was, and empties a
  list or a mapping;
* a `!!binary` scalar stands for the text its base64 spells, and fails the
  whole decode when it is not valid base64;
* a text takes the scalar's text as written; a duration takes a text in the
  duration syntax, never a number; an integer takes integers and numbers up to
  `2 ^ 63`, truncated; a truth value also takes the words `y`, `yes`, `on`,
  `n`, `no`, `off` in three spellings;
* the elements of a list that fail are dropped;
* a mapping whose keys repeat (same kind and text) is an error for each repeat
  and is not decoded;
* record keys not among the fields are ignored, and a field set twice is an
  error;
* merge keys `<<` are applied after the explicit keys, which win; among merged
  mappings the first wins.
-/

namespace Turnstile.Yaml

/-- What a node is decoded into. -/
inductive Target where
  | any
  | text
  | flag
  | whole
  | span
  | real
  | reals
  | textMap
  | anyMap
  | record (typeName : String) (fields : List (String × Target))
  deriving Inhabited

/-- The type name a target has in messages. -/
def Target.typeName : Target → String
  | .any => "interface \x7b\x7d"
  | .text => "string"
  | .flag => "bool"
  | .whole => "int"
  | .span => "time.Duration"
  | .real => "float64"
  | .reals => "[]float64"
  | .textMap => "map[string]interface \x7b\x7d"
  | .anyMap => "map[interface \x7b\x7d]interface \x7b\x7d"
  | .record name _ => name

/-- The decoder's state: the type errors so far, the aliases being followed,
the keys already set while merging, and counts of decoded nodes and of those
reached through aliases. -/
structure DecodeState where
  errors : Array String := #[]
  following : List Nat := []
  merged : Option (List Value) := none
  decodes : Nat := 0
  aliased : Nat := 0
  depth : Nat := 0

/-- The decoder's computations; an error stops decoding. -/
abbrev DecodeM := StateT DecodeState (Except String)

/-- Whether two decoded keys are the same key. -/
def keyEq : Value → Value → Bool
  | .null, .null => true
  | .bool a, .bool b => a == b
  | .int a, .int b => a == b
  | .nat a, .nat b => a == b
  | .float a, .float b => Binary64.eq a b
  | .str a, .str b => a == b
  | .time a, .time b => decide (a = b)
  | _, _ => false

/-- Whether a key is among keys. -/
def keyIn (k : Value) (ks : List Value) : Bool := ks.any (keyEq k)

/-- Set a key of a mapping, replacing its value when present. -/
def setEntry (entries : List (Value × Value)) (k v : Value) : List (Value × Value) :=
  if entries.any (fun e => keyEq e.1 k) then entries.map (fun e => if keyEq e.1 k then (k, v) else e)
  else entries ++ [(k, v)]

mutual
/-- A value in the syntax of the language the format was defined in, as key
errors show it. -/
def goSyntax : Value → String
  | .null => "interface \x7b\x7d(nil)"
  | .bool b => if b then "true" else "false"
  | .int i => toString i
  | .nat n => toString n
  | .float x => x.render .general
  | .str s => Text.quote s
  | .time t => t.render
  | .list xs => "[]interface \x7b\x7d" ++ "\x7b" ++ ", ".intercalate (goSyntaxList xs) ++ "\x7d"
  | .record kvs => "map[string]interface \x7b\x7d" ++ "\x7b" ++ ", ".intercalate (goSyntaxFields kvs) ++ "\x7d"
  | .table kvs => "map[interface \x7b\x7d]interface \x7b\x7d" ++ "\x7b" ++ ", ".intercalate (goSyntaxPairs kvs) ++ "\x7d"

/-- The members of a list in that syntax. -/
def goSyntaxList : List Value → List String
  | [] => []
  | v :: rest => goSyntax v :: goSyntaxList rest

/-- The fields of a record in that syntax. -/
def goSyntaxFields : List (String × Value) → List String
  | [] => []
  | (k, v) :: rest => (Text.quote k ++ ":" ++ goSyntax v) :: goSyntaxFields rest

/-- The entries of a table in that syntax. -/
def goSyntaxPairs : List (Value × Value) → List String
  | [] => []
  | (k, v) :: rest => (goSyntax k ++ ":" ++ goSyntax v) :: goSyntaxPairs rest
end

/-- The first `n` bytes of a text; a character cut in the middle leaves one
replacement character per byte kept. -/
def bytePrefix (s : String) (n : Nat) : String :=
  let step := fun (acc : String × Nat) (c : Char) =>
    let (out, used) := acc
    let w := (String.singleton c).utf8ByteSize
    if used ≥ n then acc
    else if used + w ≤ n then (out.push c, used + w)
    else ((List.replicate (n - used) '\uFFFD').foldl String.push out, n)
  (s.toList.foldl step ("", 0)).1

namespace Decoder

variable (doc : Document)

/-- The node at a position. -/
def node (i : Nat) : Node := doc.nodes.getD i { kind := .scalar, tag := "", value := "", line := 0, column := 0 }

/-- The short tag of a node, through an alias to its target. -/
def nodeShortTag (i : Nat) : String :=
  let n := node doc i
  let n := match n.kind, n.target with
    | .aliasOf, some t => node doc t
    | _, _ => n
  if n.tag == "" || n.tag == "!" then
    match n.kind with
    | .mapping => mapTag
    | .sequence => seqTag
    | .scalar => plainTag n.value
    | .aliasOf => ""
  else shortTag n.tag

/-- Whether a node is a merge key. -/
def isMergeKey (n : Node) : Bool :=
  n.kind == .scalar && n.value == "<<" && (n.tag == "" || n.tag == "!" || shortTag n.tag == mergeTag)

/-- Whether every key of a mapping node is a text or a merge key. -/
def isTextMap (n : Node) : Bool :=
  (List.range (n.children.size / 2)).all fun k =>
    let t := nodeShortTag doc (n.children.getD (2 * k) 0)
    t == strTag || t == mergeTag

/-- The key and value pairs of a mapping node. -/
def pairs (n : Node) : List (Nat × Nat) :=
  (List.range (n.children.size / 2)).map fun k => (n.children.getD (2 * k) 0, n.children.getD (2 * k + 1) 0)

end Decoder

/-- Record a type error. -/
def typeError (n : Node) (tag : String) (t : Target) : DecodeM Unit := do
  let tag := if n.tag != "" then n.tag else tag
  let value :=
    if tag == seqTag || tag == mapTag then ""
    else if n.value.utf8ByteSize > 10 then " " ++ backtick ++ bytePrefix n.value 7 ++ "..." ++ backtick
    else " " ++ backtick ++ n.value ++ backtick
  let msg := "line " ++ toString n.line ++ ": cannot unmarshal " ++ shortTag tag ++ value ++
    " into " ++ t.typeName
  modify fun s => { s with errors := s.errors.push msg }

/-- Count a decoded node, failing when aliases account for too much of the work. -/
def countDecode : DecodeM Unit := do
  let s ← get
  let decodes := s.decodes + 1
  let aliased := if s.depth > 0 then s.aliased + 1 else s.aliased
  set { s with decodes, aliased }
  if aliased > 100 && decodes > 1000 then
    let low := 400000
    let high := 4000000
    let excessive :=
      if decodes ≤ low then 100 * aliased > 99 * decodes
      else if decodes ≥ high then 10 * aliased > decodes
      else
        -- the allowed share falls from 0.99 to 0.10 across the range
        100 * (high - low) * aliased > (99 * (high - low) - 89 * (decodes - low)) * decodes
    if excessive then throw "document contains excessive aliasing"

/-- The integer a number converts to: truncated, or the least 64-bit integer
when out of range. -/
def toWhole (x : Binary64) : Int :=
  let t := x.truncate
  if x.isFinite && -(Int.pow 2 63) ≤ t && t < Int.pow 2 63 then t else -(Int.pow 2 63)

/-- The words a truth value also takes. -/
def truthWord (s : String) : Option Bool :=
  if ["y", "Y", "yes", "Yes", "YES", "on", "On", "ON"].contains s then some true
  else if ["n", "N", "no", "No", "NO", "off", "Off", "OFF"].contains s then some false
  else none

/-- Decode null into a target: lists and mappings become empty, any value
becomes null, other targets are left as they were. -/
def decodeNull (t : Target) (cur : Value) : Bool × Value :=
  match t with
  | .any => (true, .null)
  | .reals => (true, .list [])
  | .textMap => (true, .record [])
  | .anyMap => (true, .table [])
  | _ => (false, cur)

/-- Decode a scalar node. -/
def decodeScalar (n : Node) (t : Target) (cur : Value) : DecodeM (Bool × Value) := do
  let (tag, resolved) ←
    if n.kind == .scalar && shortTag n.tag == strTag then pure (strTag, Value.str n.value)
    else match resolve n.tag n.value with
      | .ok r => pure r
      | .error e => throw e
  let resolved ←
    if tag == binaryTag then
      match resolved with
      | .str s =>
        match Base64.decodeText s with
        | some d => pure (Value.str d)
        | none => throw "!!binary value contains invalid base64 data"
      | v => pure v
    else pure resolved
  let fail : DecodeM (Bool × Value) := do
    typeError n tag t
    return (false, cur)
  match resolved with
  | .null => return decodeNull t cur
  | _ =>
  match t with
  | .any => return (true, resolved)
  | .text => return (true, if tag == binaryTag then resolved else .str n.value)
  | .whole =>
    match resolved with
    | .int i => return (true, .int i)
    | .float x =>
      if !x.isNaN && Binary64.le x (Binary64.ofDecimal false (Nat.pow 2 63) 0) then return (true, .int (toWhole x))
      else fail
    | _ => fail
  | .span =>
    match resolved with
    | .str s =>
      match Duration.parse s with
      | .ok d => return (true, .int d.nanos)
      | .error _ => fail
    | _ => fail
  | .flag =>
    match resolved with
    | .bool b => return (true, .bool b)
    | .str s =>
      match truthWord s with
      | some b => return (true, .bool b)
      | none => fail
    | _ => fail
  | .real =>
    match resolved with
    | .int i => return (true, .float (Binary64.ofInt i))
    | .nat m => return (true, .float (Binary64.ofInt m))
    | .float x => return (true, .float x)
    | _ => fail
  | _ => fail

/-- The repeated keys of a mapping node, as errors. -/
def repeatedKeys (doc : Document) (n : Node) : List String :=
  let keys := (Decoder.pairs n).map fun p => Decoder.node doc p.1
  let indexed := keys.zipIdx
  indexed.flatMap fun (ni, i) =>
    (indexed.filter fun (nj, j) => j > i && ni.kind == nj.kind && ni.value == nj.value).map
      fun (nj, _) => "line " ++ toString nj.line ++ ": mapping key " ++ Text.quote nj.value ++
        " already defined at line " ++ toString ni.line

/-- The fields of a record value. -/
def fieldsOf : Value → List (String × Value)
  | .record kvs => kvs
  | _ => []

/-- The entries of a mapping value. -/
def entriesOf : Value → List (Value × Value)
  | .record kvs => kvs.map fun kv => (.str kv.1, kv.2)
  | .table kvs => kvs
  | _ => []

/-- A mapping value with text keys. -/
def textRecord (entries : List (Value × Value)) : Value :=
  .record (entries.map fun e => (match e.1 with
    | .str s => s
    | v => v.text, e.2))

/-- Whether a decoded key is a collection, which a mapping cannot have as key. -/
def isCollection : Value → Bool
  | .list _ | .record _ | .table _ => true
  | _ => false

mutual

/-- Decode the node at `i` into a target, starting from the current value.
Returns whether the value was set, and the value. -/
def decode (doc : Document) : Nat → Target → Value → Nat → DecodeM (Bool × Value)
  | 0, _, _, _ => throw "document is too deeply nested"
  | fuel + 1, t, cur, i => do
    countDecode
    let n := Decoder.node doc i
    match n.kind with
    | .aliasOf =>
      if (← get).following.contains i then
        throw ("anchor '" ++ n.value ++ "' value contains itself")
      modify fun s => { s with following := i :: s.following, depth := s.depth + 1 }
      let r ← decode doc fuel t cur (n.target.getD i)
      modify fun s => { s with following := s.following.erase i, depth := s.depth - 1 }
      return r
    | .scalar => decodeScalar n t cur
    | .sequence =>
      match t with
      | .reals => return (true, .list (← decodeItems doc fuel .real n.children.toList))
      | .any => return (true, .list (← decodeItems doc fuel .any n.children.toList))
      | _ =>
        typeError n seqTag t
        return (false, cur)
    | .mapping =>
      let repeats := repeatedKeys doc n
      if !repeats.isEmpty then
        modify fun s => { s with errors := s.errors ++ repeats.toArray }
        return (false, cur)
      match t with
      | .record typeName fields =>
        let saved := (← get).merged
        modify fun s => { s with merged := none }
        let fs ← decodeFields doc fuel typeName fields (fieldsOf cur) [] saved (Decoder.pairs n)
        let (fs, saved) := fs
        modify fun s => { s with merged := saved }
        let result ← mergeInto doc fuel t (.record fs) n
        return (true, result)
      | .textMap =>
        let entries ← decodeMapEntries doc fuel n .text (entriesOf cur)
        return (true, textRecord entries)
      | .anyMap => return (true, .table (← decodeMapEntries doc fuel n .any (entriesOf cur)))
      | .any =>
        if Decoder.isTextMap doc n then
          return (true, textRecord (← decodeMapEntries doc fuel n .text []))
        else return (true, .table (← decodeMapEntries doc fuel n .any []))
      | _ =>
        typeError n mapTag t
        return (false, cur)

/-- Decode the elements of a sequence, dropping those that fail. -/
def decodeItems (doc : Document) : Nat → Target → List Nat → DecodeM (List Value)
  | 0, _, _ => throw "document is too deeply nested"
  | _ + 1, _, [] => return []
  | fuel + 1, t, i :: rest => do
    let start := match t with
      | .real => Value.float (Binary64.zero false)
      | _ => .null
    let (good, v) ← decode doc fuel t start i
    let tail ← decodeItems doc fuel t rest
    return (if good then v :: tail else tail)

/-- Decode the pairs of a mapping into a mapping value, applying merge keys
last. -/
def decodeMapEntries (doc : Document) : Nat → Node → Target → List (Value × Value) →
    DecodeM (List (Value × Value))
  | 0, _, _, _ => throw "document is too deeply nested"
  | fuel + 1, n, keyTarget, entries => do
    let saved := (← get).merged
    modify fun s => { s with merged := none }
    let (entries, saved, mergeNode) ← decodePairs doc fuel keyTarget entries saved none (Decoder.pairs n)
    modify fun s => { s with merged := saved }
    match mergeNode with
    | none => return entries
    | some m =>
      let target := match keyTarget with
        | .text => Target.textMap
        | _ => .anyMap
      let merged ← mergeFrom doc fuel target (match keyTarget with
        | .text => textRecord entries
        | _ => .table entries) n m
      return entriesOf merged

/-- Decode mapping pairs one by one. -/
def decodePairs (doc : Document) : Nat → Target → List (Value × Value) → Option (List Value) →
    Option Nat → List (Nat × Nat) → DecodeM (List (Value × Value) × Option (List Value) × Option Nat)
  | 0, _, _, _, _, _ => throw "document is too deeply nested"
  | _ + 1, _, entries, merged, mergeNode, [] => return (entries, merged, mergeNode)
  | fuel + 1, keyTarget, entries, merged, mergeNode, (k, v) :: rest => do
    if Decoder.isMergeKey (Decoder.node doc k) then
      return ← decodePairs doc fuel keyTarget entries merged (some v) rest
    let (good, key) ← decode doc fuel keyTarget (.str "") k
    if !good then return ← decodePairs doc fuel keyTarget entries merged mergeNode rest
    let (skip, merged) := match merged with
      | some ms => if keyIn key ms then (true, some ms) else (false, some (ms ++ [key]))
      | none => (false, none)
    if skip then return ← decodePairs doc fuel keyTarget entries merged mergeNode rest
    if isCollection key then throw ("invalid map key: " ++ goSyntax key)
    let (good, val) ← decode doc fuel .any .null v
    let present := entries.any fun e => keyEq e.1 key
    let entries :=
      if good || (Decoder.nodeShortTag doc v == nullTag && !present) then setEntry entries key val
      else entries
    decodePairs doc fuel keyTarget entries merged mergeNode rest

/-- Decode the pairs of a mapping into record fields.  Returns the fields and
the keys set while merging. -/
def decodeFields (doc : Document) : Nat → String → List (String × Target) →
    List (String × Value) → List String → Option (List Value) → List (Nat × Nat) →
    DecodeM (List (String × Value) × Option (List Value))
  | 0, _, _, _, _, _, _ => throw "document is too deeply nested"
  | _ + 1, _, _, fs, _, merged, [] => return (fs, merged)
  | fuel + 1, typeName, fields, fs, done, merged, (k, v) :: rest => do
    let kn := Decoder.node doc k
    if Decoder.isMergeKey kn then
      return ← decodeFields doc fuel typeName fields fs done merged rest
    let (good, key) ← decode doc fuel .text (.str "") k
    let name := match key with
      | .str s => s
      | _ => ""
    if !good then return ← decodeFields doc fuel typeName fields fs done merged rest
    let (skip, merged) := match merged with
      | some ms =>
        if keyIn (Value.str name) ms then (true, some ms) else (false, some (ms ++ [Value.str name]))
      | none => (false, none)
    if skip then return ← decodeFields doc fuel typeName fields fs done merged rest
    match fields.lookup name with
    | none => decodeFields doc fuel typeName fields fs done merged rest
    | some ft =>
      if done.contains name then
        modify fun s => { s with errors := s.errors.push ("line " ++ toString kn.line ++
          ": field " ++ name ++ " already set in type " ++ typeName) }
        return ← decodeFields doc fuel typeName fields fs done merged rest
      let cur := (fs.lookup name).getD .null
      let (_, val) ← decode doc fuel ft cur v
      let fs := fs.map fun (f : String × Value) => if f.1 == name then (name, val) else f
      decodeFields doc fuel typeName fields fs (name :: done) merged rest

/-- Apply the merge key of a record mapping, if it has one. -/
def mergeInto (doc : Document) : Nat → Target → Value → Node → DecodeM Value
  | 0, _, _, _ => throw "document is too deeply nested"
  | fuel + 1, t, cur, n =>
    match (Decoder.pairs n).reverse.find? (fun p => Decoder.isMergeKey (Decoder.node doc p.1)) with
    | none => return cur
    | some (_, m) => mergeFrom doc fuel t cur n m

/-- Merge the mapping, alias of a mapping, or sequence of those at `m` into a
value, keeping the keys the parent mapping `parent` sets. -/
def mergeFrom (doc : Document) : Nat → Target → Value → Node → Nat → DecodeM Value
  | 0, _, _, _, _ => throw "document is too deeply nested"
  | fuel + 1, t, cur, parent, m => do
    let saved := (← get).merged
    if saved.isNone then
      let keys ← decodeItems doc fuel .any ((Decoder.pairs parent).map Prod.fst)
      modify fun s => { s with merged := some keys }
    let wantMap : DecodeM Value := throw "map merge requires map or sequence of maps as the value"
    let mn := Decoder.node doc m
    let targetKind (x : Node) : NodeKind := match x.target with
      | some j => (Decoder.node doc j).kind
      | none => .scalar
    let result ← match mn.kind with
      | .mapping => do
        let (_, v) ← decode doc fuel t cur m
        pure v
      | .aliasOf =>
        if targetKind mn != .mapping then wantMap
        else do
          let (_, v) ← decode doc fuel t cur m
          pure v
      | .sequence => mergeEach doc fuel t cur mn.children.toList
      | .scalar => wantMap
    modify fun s => { s with merged := saved }
    return result

/-- Merge each mapping of a sequence in turn. -/
def mergeEach (doc : Document) : Nat → Target → Value → List Nat → DecodeM Value
  | 0, _, _, _ => throw "document is too deeply nested"
  | _ + 1, _, cur, [] => return cur
  | fuel + 1, t, cur, i :: rest => do
    let x := Decoder.node doc i
    let ok := match x.kind with
      | .aliasOf => match x.target with
        | some j => (Decoder.node doc j).kind == .mapping
        | none => false
      | .mapping => true
      | _ => false
    if !ok then throw "map merge requires map or sequence of maps as the value"
    let (_, v) ← decode doc fuel t cur i
    mergeEach doc fuel t v rest

end

/-- Decode a whole document into a target from a starting value.  A stream
without a document leaves the value as it is.  Type errors are returned with
the value; other problems fail. -/
def decodeDocument (doc : Document) (t : Target) (start : Value) : Except String (Value × Array String) :=
  match doc.root with
  | none => .ok (start, #[])
  | some r =>
    match (decode doc (4 * Nat.pow (doc.nodes.size + 4) 2) t start r).run {} with
    | .ok ((_, v), s) => .ok (v, s.errors)
    | .error e => .error e

end Turnstile.Yaml
