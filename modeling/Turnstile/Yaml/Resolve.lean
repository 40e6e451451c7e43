import Turnstile.Value.Basic
import Turnstile.Number.Parse

/-!
# Resolving scalars

A plain scalar without a tag gets its tag, and its value, from its text:

* `~`, `null`, `Null`, `NULL` and the empty text are null;
* `true`, `True`, `TRUE`, `false`, `False`, `FALSE` are truth values;
* `.nan`, `.inf`, `-.inf` and `+.inf` in three spellings each are the special
  numbers;
* a text that starts with a point and reads as a decimal number is a number;
* a text that starts with a digit or a sign is, in this order, a timestamp
  (four digits and a dash first), an integer (underscores ignored, any base
  prefix, signed 64-bit or else unsigned 64-bit), or a number in the YAML float
  syntax that stays in range;
* everything else is a text.

A scalar with an explicit tag of the core schema is checked against it: any
text may be a `!!str`, an integer may be a `!!float`, and otherwise the text
must resolve to the tag it names.  Other tags are kept with the text as it is.

Timestamps follow four layouts: date, `T` (or `t`), time with an optional
fraction and a zone (`Z` or `±hh:mm`); date, blanks, time with an optional
fraction; and the date alone.  Months and days take one or two digits.
-/

namespace Turnstile.Yaml

/-- The tags of the core schema, in their short form. -/
def nullTag : String := "!!null"
def boolTag : String := "!!bool"
def strTag : String := "!!str"
def intTag : String := "!!int"
def floatTag : String := "!!float"
def timestampTag : String := "!!timestamp"
def seqTag : String := "!!seq"
def mapTag : String := "!!map"
def binaryTag : String := "!!binary"
def mergeTag : String := "!!merge"

/-- The long prefix the short `!!` form stands for. -/
def longTagPrefix : String := "tag:yaml.org,2002:"

/-- A tag in its short form. -/
def shortTag (tag : String) : String :=
  if tag.startsWith longTagPrefix then "!!" ++ (tag.drop longTagPrefix.length).toString else tag

/-- Whether a tag is one the resolver checks. -/
def resolvableTag (tag : String) : Bool :=
  tag == "" || tag == strTag || tag == boolTag || tag == intTag || tag == floatTag ||
    tag == timestampTag || tag == nullTag

/-- The words with a fixed meaning, with their tags and values. -/
def fixedWords : List (String × String × Value) :=
  [("true", boolTag, .bool true), ("True", boolTag, .bool true), ("TRUE", boolTag, .bool true),
   ("false", boolTag, .bool false), ("False", boolTag, .bool false),
   ("FALSE", boolTag, .bool false),
   ("", nullTag, .null), ("~", nullTag, .null), ("null", nullTag, .null),
   ("Null", nullTag, .null), ("NULL", nullTag, .null),
   (".nan", floatTag, .float Binary64.nan), (".NaN", floatTag, .float Binary64.nan),
   (".NAN", floatTag, .float Binary64.nan),
   (".inf", floatTag, .float (Binary64.infinity false)),
   (".Inf", floatTag, .float (Binary64.infinity false)),
   (".INF", floatTag, .float (Binary64.infinity false)),
   ("+.inf", floatTag, .float (Binary64.infinity false)),
   ("+.Inf", floatTag, .float (Binary64.infinity false)),
   ("+.INF", floatTag, .float (Binary64.infinity false)),
   ("-.inf", floatTag, .float (Binary64.infinity true)),
   ("-.Inf", floatTag, .float (Binary64.infinity true)),
   ("-.INF", floatTag, .float (Binary64.infinity true))]

/-- What the first character of a text suggests it may be. -/
inductive Hint where
  | none
  | sign
  | digit
  | word
  | point
  deriving DecidableEq

/-- The hint of a text: the empty text may be null. -/
def hintOf (s : String) : Hint :=
  match s.toList with
  | [] => .word
  | c :: _ =>
    if c == '+' || c == '-' then .sign
    else if '0' ≤ c && c ≤ '9' then .digit
    else if "yYnNtTfFoO~".toList.contains c then .word
    else if c == '.' then .point
    else .none

/-- Whether a text has the YAML float syntax: a sign, then digits with an
optional point and fraction or a point and digits, then an optional exponent. -/
def isYamlFloat (s : String) : Bool :=
  let cs := s.toList
  let body := match cs with
    | '+' :: r => r
    | '-' :: r => r
    | r => r
  let (whole, rest) := Number.leadingDigits body
  let mantissaRest : Option (List Char) :=
    if whole.isEmpty then
      match rest with
      | '.' :: r =>
        let (frac, r') := Number.leadingDigits r
        if frac.isEmpty then none else some r'
      | _ => none
    else
      match rest with
      | '.' :: r => some (Number.leadingDigits r).2
      | r => some r
  match mantissaRest with
  | none => false
  | some r => (Number.readExponent r).isSome

/-! ## Timestamps -/

/-- One or two leading digits; with `fixed` exactly two. -/
def takeNumber (fixed : Bool) (cs : List Char) : Option (Nat × List Char) :=
  let isDigit (c : Char) : Bool := '0' ≤ c && c ≤ '9'
  match cs with
  | a :: b :: rest =>
    if !isDigit a then none
    else if isDigit b then some ((a.toNat - 48) * 10 + (b.toNat - 48), rest)
    else if fixed then none
    else some (a.toNat - 48, b :: rest)
  | [a] => if isDigit a && !fixed then some (a.toNat - 48, []) else none
  | [] => none

/-- Expect one character. -/
def expectChar (c : Char) (cs : List Char) : Option (List Char) :=
  match cs with
  | d :: rest => if d == c then some rest else none
  | [] => none

/-- A layout space: one or more spaces, or the end of the text. -/
def expectSpaces (cs : List Char) : Option (List Char) :=
  match cs with
  | [] => some []
  | ' ' :: _ => some (cs.dropWhile (· == ' '))
  | _ => none

/-- The days of a month. -/
def daysIn (month : Nat) (year : Int) : Nat :=
  if month == 2 then
    if (year % 4 == 0 && year % 100 != 0) || year % 400 == 0 then 29 else 28
  else if month == 4 || month == 6 || month == 9 || month == 11 then 30
  else 31

/-- The date part: four-digit year, month and day. -/
def takeDate (cs : List Char) : Option ((Int × Nat × Nat) × List Char) := do
  let ys := cs.take 4
  if ys.length < 4 || !ys.all (fun c => '0' ≤ c && c ≤ '9') then none
  let rest ← expectChar '-' (cs.drop 4)
  let (month, rest) ← takeNumber false rest
  if month == 0 || month > 12 then none
  let rest ← expectChar '-' rest
  let (day, rest) ← takeNumber false rest
  some ((Number.decimalValue ys, month, day), rest)

/-- The time part: hour, minute, second and an optional fraction. -/
def takeTime (cs : List Char) : Option ((Nat × Nat × Nat × Nat) × List Char) := do
  let (hour, rest) ← takeNumber false cs
  if hour ≥ 24 then none
  let rest ← expectChar ':' rest
  let (minute, rest) ← takeNumber false rest
  if minute ≥ 60 then none
  let rest ← expectChar ':' rest
  let (second, rest) ← takeNumber false rest
  if second ≥ 60 then none
  match rest with
  | p :: d :: more =>
    if (p == '.' || p == ',') && '0' ≤ d && d ≤ '9' then
      let (ds, tail) := Number.leadingDigits (d :: more)
      let kept := ds.take 9
      let nanos := Number.decimalValue kept * Nat.pow 10 (9 - kept.length)
      some ((hour, minute, second, nanos), tail)
    else some ((hour, minute, second, 0), rest)
  | _ => some ((hour, minute, second, 0), rest)

/-- The zone part: `Z`, or a sign, two-digit hours, a colon and two-digit
minutes.  Returns the offset in seconds, none for `Z`. -/
def takeZone (cs : List Char) : Option (Option Int × List Char) :=
  match cs with
  | 'Z' :: rest => some (none, rest)
  | s :: h1 :: h2 :: ':' :: m1 :: m2 :: rest => do
    let (h, _) ← takeNumber true [h1, h2]
    let (m, _) ← takeNumber true [m1, m2]
    if h > 24 || m > 60 then none
    let off : Int := ((h * 60 + m) * 60 : Nat)
    if s == '+' then some (some off, rest)
    else if s == '-' then some (some (-off), rest)
    else none
  | _ => none

/-- A timestamp with a zone given by its offset; the zero offset is the
universal zone. -/
def zoned (date : Int × Nat × Nat) (time : Nat × Nat × Nat × Nat) (offset : Option Int) :
    Timestamp :=
  let (year, month, day) := date
  let (hour, minute, second, nanos) := time
  match offset with
  | none => { year, month, day, hour, minute, second, nanos, offset := 0, zoneName := "UTC" }
  | some off =>
    { year, month, day, hour, minute, second, nanos, offset := off,
      zoneName := if off == 0 then "UTC" else "" }

/-- The date is a real one. -/
def validDate (date : Int × Nat × Nat) : Bool :=
  1 ≤ date.2.2 && date.2.2 ≤ daysIn date.2.1 date.1

/-- Read a timestamp in the date, `T` or `t`, time and zone layout. -/
def timestampWithZone (sep : Char) (cs : List Char) : Option Timestamp := do
  let (date, rest) ← takeDate cs
  let rest ← expectChar sep rest
  let (time, rest) ← takeTime rest
  let (zone, rest) ← takeZone rest
  if !rest.isEmpty || !validDate date then none
  some (zoned date time zone)

/-- Read a timestamp in the date, blanks and time layout. -/
def timestampSpaced (cs : List Char) : Option Timestamp := do
  let (date, rest) ← takeDate cs
  let rest ← expectSpaces rest
  let (time, rest) ← takeTime rest
  if !rest.isEmpty || !validDate date then none
  some (zoned date time (some 0))

/-- Read a date alone. -/
def timestampDate (cs : List Char) : Option Timestamp := do
  let (date, rest) ← takeDate cs
  if !rest.isEmpty || !validDate date then none
  some (zoned date (0, 0, 0, 0) (some 0))

/-- A timestamp in one of the four layouts, tried in order. -/
def parseTimestamp (s : String) : Option Timestamp :=
  let cs := s.toList
  let digits := cs.takeWhile (fun c => '0' ≤ c && c ≤ '9')
  if digits.length != 4 || (cs.drop 4).head? != some '-' then none
  else
    (timestampWithZone 'T' cs).orElse fun _ =>
      (timestampWithZone 't' cs).orElse fun _ =>
        (timestampSpaced cs).orElse fun _ => timestampDate cs

/-! ## Resolution -/

/-- The value of an integer as the resolver gives it: signed when it fits,
unsigned otherwise. -/
def integerValue (s : String) : Option Value :=
  match Number.parseSigned s 0 with
  | some i => some (.int i)
  | none =>
    match Number.parseUnsigned s 0 with
    | some n => some (.nat n)
    | none => none

/-- The tag and value of a plain scalar's text, with no tag given. -/
def resolvePlain (allowTimestamp : Bool) (s : String) : String × Value :=
  if hintOf s == .none then (strTag, .str s) else
  match (fixedWords.find? (fun w => w.1 == s)) with
  | some (_, tag, v) => (tag, v)
  | none =>
    match hintOf s with
    | .point =>
      match Number.parseFloat s with
      | some x => (floatTag, .float x)
      | none => (strTag, .str s)
    | .digit | .sign =>
      match (if allowTimestamp then parseTimestamp s else none) with
      | some t => (timestampTag, .time t)
      | none =>
        let plain := String.ofList (s.toList.filter (· != '_'))
        match integerValue plain with
        | some v => (intTag, v)
        | none =>
          if isYamlFloat plain then
            match Number.parseFloat plain with
            | some x => (floatTag, .float x)
            | none => (strTag, .str s)
          else (strTag, .str s)
    | _ => (strTag, .str s)

/-- The back quote that encloses values in messages. -/
def backtick : String := String.singleton (Char.ofNat 96)

/-- The tag and value of a scalar with the given tag.  A core tag the text does
not fit is an error, naming the resolved and the requested tag. -/
def resolve (tag text : String) : Except String (String × Value) :=
  let tag := shortTag tag
  if !resolvableTag tag then .ok (tag, .str text)
  else
    let (rtag, v) :=
      if tag == strTag || tag == binaryTag then (strTag, .str text)
      else resolvePlain (tag == "" || tag == timestampTag) text
    let mismatch : Except String (String × Value) :=
      .error ("cannot decode " ++ shortTag rtag ++ " " ++ backtick ++ text ++ backtick ++
        " as a " ++ shortTag tag)
    if tag == "" || tag == rtag || tag == strTag || tag == binaryTag then .ok (rtag, v)
    else if tag == floatTag && rtag == intTag then
      match v with
      | .int i => .ok (floatTag, .float (Number.floatOfInt i))
      | _ => mismatch
    else mismatch

/-- The tag a plain scalar without a tag resolves to. -/
def plainTag (text : String) : String := (resolvePlain true text).1

end Turnstile.Yaml
