import Turnstile.Text.Hex

/-!
# JSON documents

The program writes JSON for response bodies and command output.  A document
keeps the members of an object in the order they are written, and numbers as
the text they are written with.

Strings are written between double quotes with these escapes:

* `"` and `\` are preceded by a backslash;
* backspace, form feed, newline, carriage return and tab are written `\b`,
  `\f`, `\n`, `\r` and `\t`;
* the other control characters, and `<`, `>` and `&` when the HTML-safe form
  is asked for, are written `\u00XX` with lower-case hex digits;
* the line and paragraph separators U+2028 and U+2029 are written as `\u2028` and
  `\u2029`;
* every other character is written as itself.

The compact form has no blanks.  The indented form puts each member and item on
a line of its own, indented by a unit per level; empty arrays and objects stay
`[]` and `{}`.
-/

namespace Turnstile

/-- A JSON document. -/
inductive JsonValue where
  | null
  | bool (b : Bool)
  | number (text : String)
  | string (s : String)
  | array (items : List JsonValue)
  | object (members : List (String × JsonValue))
  deriving Inhabited, Repr

namespace JsonValue

/-- A JSON integer. -/
def int (i : Int) : JsonValue := .number (toString i)

/-- The escape of a character inside a string. -/
def escapeChar (htmlSafe : Bool) (c : Char) : String :=
  if c = '"' then "\\\""
  else if c = '\\' then "\\\\"
  else if c = '\n' then "\\n"
  else if c = '\r' then "\\r"
  else if c = '\t' then "\\t"
  else if c.toNat = 8 then "\\b"
  else if c.toNat = 12 then "\\f"
  else if c.toNat < 32 || (htmlSafe && (c = '<' || c = '>' || c = '&')) then
    "\\u00" ++ String.ofList (Text.hexDigits 2 c.toNat)
  else if c.toNat = 0x2028 then "\\u2028"
  else if c.toNat = 0x2029 then "\\u2029"
  else String.singleton c

/-- A string written as JSON. -/
def quote (htmlSafe : Bool) (s : String) : String :=
  "\"" ++ String.join (s.toList.map (escapeChar htmlSafe)) ++ "\""

mutual
/-- The compact form of a document. -/
def compact (htmlSafe : Bool) : JsonValue → String
  | .null => "null"
  | .bool b => if b then "true" else "false"
  | .number t => t
  | .string s => quote htmlSafe s
  | .array items => "[" ++ compactItems htmlSafe items ++ "]"
  | .object members => "\x7b" ++ compactMembers htmlSafe members ++ "\x7d"

/-- The compact items of an array, separated by commas. -/
def compactItems (htmlSafe : Bool) : List JsonValue → String
  | [] => ""
  | [v] => compact htmlSafe v
  | v :: rest => compact htmlSafe v ++ "," ++ compactItems htmlSafe rest

/-- The compact members of an object, separated by commas. -/
def compactMembers (htmlSafe : Bool) : List (String × JsonValue) → String
  | [] => ""
  | [(k, v)] => quote htmlSafe k ++ ":" ++ compact htmlSafe v
  | (k, v) :: rest => quote htmlSafe k ++ ":" ++ compact htmlSafe v ++ "," ++ compactMembers htmlSafe rest
end

mutual
/-- The indented form of a document at a depth, `unit` per level. -/
def indented (htmlSafe : Bool) (unit : String) (depth : Nat) : JsonValue → String
  | .array [] => "[]"
  | .object [] => "\x7b\x7d"
  | .array items =>
    "[\n" ++ indentedItems htmlSafe unit (depth + 1) items ++ "\n" ++
      String.join (List.replicate depth unit) ++ "]"
  | .object members =>
    "\x7b\n" ++ indentedMembers htmlSafe unit (depth + 1) members ++ "\n" ++
      String.join (List.replicate depth unit) ++ "\x7d"
  | v => compact htmlSafe v

/-- The indented items of an array, one a line. -/
def indentedItems (htmlSafe : Bool) (unit : String) (depth : Nat) : List JsonValue → String
  | [] => ""
  | [v] => String.join (List.replicate depth unit) ++ indented htmlSafe unit depth v
  | v :: rest =>
    String.join (List.replicate depth unit) ++ indented htmlSafe unit depth v ++ ",\n" ++
      indentedItems htmlSafe unit depth rest

/-- The indented members of an object, one a line. -/
def indentedMembers (htmlSafe : Bool) (unit : String) (depth : Nat) :
    List (String × JsonValue) → String
  | [] => ""
  | [(k, v)] =>
    String.join (List.replicate depth unit) ++ quote htmlSafe k ++ ": " ++ indented htmlSafe unit depth v
  | (k, v) :: rest =>
    String.join (List.replicate depth unit) ++ quote htmlSafe k ++ ": " ++
      indented htmlSafe unit depth v ++ ",\n" ++ indentedMembers htmlSafe unit depth rest
end

/-- A document as a response body: compact, HTML-safe, and ended by a newline. -/
def body (v : JsonValue) : String := compact true v ++ "\n"

end JsonValue

end Turnstile
