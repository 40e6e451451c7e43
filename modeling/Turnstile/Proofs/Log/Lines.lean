import Turnstile.Proofs.Log.Redacted

/-!
# Public tokens in log lines

A public token reaches a line only through a key, a group name, or a text that
is written as it is given.  Without redaction, a line holds no public token
when the keys, group names and texts of its attributes and its message hold
none (`line_public_free_of_parts`):

* escaping for JSON and quoting for text lines add none, since every escape
  starts with a backslash, at which no token runs, and writes no `p`
  (`jsonEscape_cases`, `escapeChar_cases`);
* numbers, truth values, durations, instants and the fixed words of a line
  write no `p`;
* the pieces of a line meet at characters no token holds: a quote, a colon, a
  comma, a brace, `=`, a space, or the dot between group names.

A redacting logger writes what a plain logger writes for the redacted record.
Its texts and its message hold no public token, but errors and values of any
other kind are written as they are unless their key is sensitive.  So its line
holds none when the keys and group names it was given hold none and neither do
the errors and other values under keys that are not sensitive
(`line_public_free`).  Keys and those values are written as given: a public
token in either is in the line (`public_token_written_as_given`).
-/

namespace Turnstile.Log

open Turnstile.Text

/-! ## Where a public token runs -/

section Public

theorem publicShapes_nonempty : ∀ σ, publicShapes σ → σ ≠ [] := by
  rintro σ rfl
  simp [publicShape]

theorem not_occurs_public_nil : ¬Occurs publicShapes [] :=
  not_occurs_of_not_opens publicShapes_nonempty (by simp)

/-- A public token starts at a `p`. -/
theorem not_opens_public {x : Char} (hx : x ≠ 'p') : ¬Opens publicShapes x := by
  rintro ⟨P, σ, hS, hPx⟩
  simp only [publicShapes, publicShape, publicWord, List.map_cons, List.cons_append,
    List.cons.injEq] at hS
  rw [hS.1] at hPx
  exact hx (beq_iff_eq.1 hPx)

/-- A text without a `p` holds no public token. -/
theorem not_occurs_public_of_not_mem {cs : List Char} (h : 'p' ∉ cs) :
    ¬Occurs publicShapes cs :=
  not_occurs_of_not_opens publicShapes_nonempty fun _ hx => not_opens_public fun hp => h (hp ▸ hx)

/-- A character in none of the classes of a public token stops it. -/
theorem stops_public {z : Char} (hz : (publicClasses.all fun P => !P z) = true) :
    Stops publicShapes z :=
  stops_of_classes publicClasses_cover fun P hP => by
    simpa using List.all_eq_true.1 hz P hP

/-- A fixed label without `p` that ends on a character no public token holds
(the `"level":` or `msg=` before a value) adds no public token to the text
after it. -/
theorem not_occurs_public_label {w cs : List Char} {z : Char} (hp : 'p' ∉ w)
    (hLast : w.getLast? = some z) (hz : (publicClasses.all fun P => !P z) = true)
    (h : ¬Occurs publicShapes cs) : ¬Occurs publicShapes (w ++ cs) :=
  not_occurs_append_of_getLast? (not_occurs_public_of_not_mem hp)
    (fun z' hz' => by
      rw [hLast, Option.mem_some_iff] at hz'
      exact hz' ▸ stops_public hz) h

/-- Escapes that are the character itself, or a backslash and no `p`, add no
public token. -/
theorem not_occurs_public_flatMap {esc : Char → List Char}
    (hEsc : ∀ c, esc c = [c] ∨ ∃ t, esc c = '\\' :: t ∧ 'p' ∉ t) {cs : List Char}
    (h : ¬Occurs publicShapes cs) : ¬Occurs publicShapes (cs.flatMap esc) := by
  refine not_occurs_flatMap_escape (e := '\\') (stops_public (by decide)) (fun c => ?_) h
  rcases hEsc c with hc | ⟨t, ht, hp⟩
  · exact Or.inl hc
  · exact Or.inr ⟨t, ht, fun x hx => not_opens_public fun hxp => hp (hxp ▸ hx)⟩

/-- Texts without public tokens joined by a one-character separator that stops
them. -/
theorem not_occurs_public_intercalate {sep : String} {z : Char} (hsep : sep.toList = [z])
    (hz : Stops publicShapes z) {ms : List String}
    (h : ∀ m ∈ ms, ¬Occurs publicShapes m.toList) :
    ¬Occurs publicShapes (sep.intercalate ms).toList := by
  rw [String.toList_intercalate, hsep]
  refine not_occurs_intercalate not_occurs_public_nil hz ?_
  intro p hp
  obtain ⟨m, hm, rfl⟩ := List.mem_map.1 hp
  exact h m hm

end Public

/-! ## The characters of numbers and escapes -/

theorem mem_toDigitsCore {b fuel n : Nat} {acc : List Char} {c : Char}
    (h : c ∈ Nat.toDigitsCore b fuel n acc) : c ∈ acc ∨ ∃ d, c = Nat.digitChar d := by
  induction fuel generalizing n acc with
  | zero =>
    simp only [Nat.toDigitsCore] at h
    exact Or.inl h
  | succ fuel ih =>
    simp only [Nat.toDigitsCore] at h
    split at h
    · rcases List.mem_cons.1 h with rfl | h
      · exact Or.inr ⟨_, rfl⟩
      · exact Or.inl h
    · rcases ih h with h | h
      · rcases List.mem_cons.1 h with rfl | h
        · exact Or.inr ⟨_, rfl⟩
        · exact Or.inl h
      · exact Or.inr h

theorem p_not_mem_toDigits (b n : Nat) : 'p' ∉ Nat.toDigits b n := by
  intro h
  rcases mem_toDigitsCore h with h | ⟨d, hd⟩
  · cases h
  · exact Nat.digitChar_ne 'p' rfl hd.symm

theorem p_not_mem_hexDigits (w n : Nat) : 'p' ∉ hexDigits w n := by
  simp only [hexDigits, List.mem_append, List.mem_replicate, not_or]
  exact ⟨fun h => absurd h.2 (by decide), p_not_mem_toDigits 16 n⟩

theorem p_not_mem_int (i : Int) : 'p' ∉ (toString i).toList := by
  rw [Int.toString_eq_repr]
  cases i with
  | ofNat m => simpa [Int.repr, Nat.repr] using p_not_mem_toDigits 10 m
  | negSucc m => simpa [Int.repr, Nat.repr] using p_not_mem_toDigits 10 (m + 1)

theorem p_not_mem_repr (n : Nat) : 'p' ∉ n.repr.toList := by
  simpa [Nat.repr] using p_not_mem_toDigits 10 n

theorem p_not_mem_nat (n : Nat) : 'p' ∉ (toString n).toList := p_not_mem_repr n

/-- Digits after a run of zeros. -/
theorem p_not_mem_zeroPadded (w n : Nat) : 'p' ∉ List.replicate w '0' ++ Nat.toDigits 10 n := by
  simp only [List.mem_append, List.mem_replicate, not_or]
  exact ⟨fun h => absurd h.2 (by decide), p_not_mem_toDigits 10 n⟩

theorem p_not_mem_padded (w n : Nat) : 'p' ∉ (Timestamp.padded w n).toList := by
  simpa [Timestamp.padded] using p_not_mem_zeroPadded (w - (Nat.toDigits 10 n).length) n

/-- Digits with their trailing zeros dropped. -/
theorem p_not_mem_trimmed {ds : List Char} (h : 'p' ∉ ds) :
    'p' ∉ (ds.reverse.dropWhile (· = '0')).reverse := fun hp =>
  h (List.mem_reverse.1 ((List.dropWhile_sublist _).subset (List.mem_reverse.1 hp)))

theorem p_not_mem_fractionText (n : Nat) : 'p' ∉ (Timestamp.fractionText n).toList := by
  unfold Timestamp.fractionText
  split_ifs
  · simp
  · simpa using p_not_mem_trimmed (p_not_mem_zeroPadded _ n)

theorem p_not_mem_fractionDigits (v prec : Nat) : 'p' ∉ (Duration.fractionDigits v prec).toList := by
  unfold Duration.fractionDigits
  dsimp only
  split_ifs
  · simp
  · simpa using p_not_mem_trimmed (p_not_mem_zeroPadded _ _)

/-- A duration is written with digits, a point, a sign and its units. -/
theorem p_not_mem_durationText (d : Duration) : 'p' ∉ d.text.toList := by
  unfold Duration.text
  dsimp only
  split_ifs <;> simp [p_not_mem_toDigits, p_not_mem_fractionDigits]

theorem p_not_mem_civilText (c : Cron.CivilSecond) : 'p' ∉ c.text.toList := by
  unfold Cron.CivilSecond.text Timestamp.yearText
  split_ifs <;> simp [p_not_mem_padded]

theorem p_not_mem_instantText (t : Int) : 'p' ∉ (Cron.instantText t).toList := by
  simp [Cron.instantText, p_not_mem_civilText, p_not_mem_fractionText]

theorem p_not_mem_instantMillisText (t : Int) : 'p' ∉ (Cron.instantMillisText t).toList := by
  simp [Cron.instantMillisText, p_not_mem_civilText, p_not_mem_padded]

theorem p_not_mem_yearRangeError : 'p' ∉ (jsonText yearRangeError).toList := by decide

theorem p_not_mem_jsonTime (t : Int) : 'p' ∉ (jsonTime t).toList := by
  unfold jsonTime
  dsimp only
  split_ifs <;> simp [p_not_mem_instantText, p_not_mem_yearRangeError]

theorem p_not_mem_positional {ds : List Char} (hds : 'p' ∉ ds) (point : Int) :
    'p' ∉ Binary64.positional ds point := by
  unfold Binary64.positional
  split_ifs
  · simp [hds]
  · simp [hds]
  · simp only [List.mem_append, List.mem_cons, not_or]
    exact ⟨fun h => hds (List.mem_of_mem_take h), by decide,
      fun h => hds (List.mem_of_mem_drop h)⟩

theorem p_not_mem_scientific {ds : List Char} (hds : 'p' ∉ ds) (style : FloatStyle) (x : Int) :
    'p' ∉ Binary64.scientific style ds x := by
  have hExp : 'p' ∉ Binary64.digitChars x.natAbs := p_not_mem_toDigits 10 _
  unfold Binary64.scientific
  simp only [List.mem_append, List.mem_cons, not_or]
  refine ⟨?_, by decide, by split_ifs <;> decide, ?_⟩
  · -- the mantissa is the digits with a point after the first
    rcases ds with _ | ⟨d, _ | ⟨e, rest⟩⟩
    · simp
    · exact hds
    · simp only [List.mem_cons, not_or] at hds ⊢
      exact ⟨hds.1, by decide, hds.2⟩
  · split_ifs
    · simpa using hExp
    · exact hExp

theorem p_not_mem_render (style : FloatStyle) (v : Binary64) :
    'p' ∉ (Binary64.render style v).toList := by
  have hDigits : 'p' ∉ Binary64.digitChars (Decimal.shortest v).digits :=
    p_not_mem_toDigits 10 _
  have hBody : 'p' ∉ Binary64.writeDecimal style (Decimal.shortest v) := by
    unfold Binary64.writeDecimal
    dsimp only
    split_ifs
    · exact p_not_mem_scientific hDigits style _
    · exact p_not_mem_positional hDigits _
  unfold Binary64.render
  split_ifs <;> simp [hBody]

/-- The escape of a character in a JSON text: the character itself, or a
backslash and no `p`. -/
theorem jsonEscape_cases (c : Char) :
    (jsonEscape c).toList = [c] ∨ ∃ t, (jsonEscape c).toList = '\\' :: t ∧ 'p' ∉ t := by
  unfold jsonEscape
  split_ifs
  · exact Or.inr ⟨['"'], by simp, by simp⟩
  · exact Or.inr ⟨['\\'], by simp, by simp⟩
  · exact Or.inr ⟨['n'], by simp, by simp⟩
  · exact Or.inr ⟨['r'], by simp, by simp⟩
  · exact Or.inr ⟨['t'], by simp, by simp⟩
  · exact Or.inr ⟨'u' :: '0' :: '0' :: hexDigits 2 c.toNat, by simp,
      by simp [p_not_mem_hexDigits]⟩
  · exact Or.inr ⟨['u', '2', '0', '2', '8'], by simp, by simp⟩
  · exact Or.inr ⟨['u', '2', '0', '2', '9'], by simp, by simp⟩
  · exact Or.inl (String.toList_singleton c)

/-- A property of both branches of a choice holds of the choice. -/
theorem ite_property {α : Type} {P : α → Prop} {p : Prop} [Decidable p] {x y : α} (hx : P x)
    (hy : P y) : P (if p then x else y) := by
  split
  · exact hx
  · exact hy

/-- The quoted form of a character: the character itself, or a backslash and no
`p`. -/
theorem escapeChar_cases (c : Char) :
    escapeChar c = [c] ∨ ∃ t, escapeChar c = '\\' :: t ∧ 'p' ∉ t := by
  unfold escapeChar
  repeat' refine ite_property (P := fun e => e = [c] ∨ ∃ t, e = '\\' :: t ∧ 'p' ∉ t) ?_ ?_
  all_goals first
    | exact Or.inl rfl
    | exact Or.inr ⟨_, rfl, by simp [p_not_mem_hexDigits]⟩

theorem jsonText_toList (s : String) :
    (jsonText s).toList = '"' :: (s.toList.flatMap fun c => (jsonEscape c).toList) ++ ['"'] := by
  simp [jsonText, String.toList_join, List.flatMap_map]

theorem getLast?_jsonText (s : String) : (jsonText s).toList.getLast? = some '"' := by
  rw [jsonText_toList, List.getLast?_concat]

theorem not_occurs_jsonText {s : String} (h : ¬Occurs publicShapes s.toList) :
    ¬Occurs publicShapes (jsonText s).toList := by
  rw [jsonText_toList]
  exact not_occurs_stop_cons (stops_public (by decide)) (not_occurs_append_stop
    (not_occurs_public_flatMap jsonEscape_cases h) (stops_public (by decide)) not_occurs_public_nil)

theorem not_occurs_plainText {s : String} (h : ¬Occurs publicShapes s.toList) :
    ¬Occurs publicShapes (plainText s).toList := by
  unfold plainText
  split_ifs
  · rw [quote, String.toList_ofList]
    exact not_occurs_stop_cons (stops_public (by decide)) (not_occurs_append_stop
      (not_occurs_public_flatMap escapeChar_cases h) (stops_public (by decide)) not_occurs_public_nil)
  · exact h

/-! ## JSON lines -/

/-- A JSON member: a key, a colon and a value. -/
theorem not_occurs_member {k : String} {X : List Char} (hk : ¬Occurs publicShapes k.toList)
    (hX : ¬Occurs publicShapes X) : ¬Occurs publicShapes ((jsonText k).toList ++ ':' :: X) :=
  not_occurs_append_of_getLast? (not_occurs_jsonText hk)
    (by rw [getLast?_jsonText]; exact fun z hz => (Option.some.inj hz) ▸ stops_public (by decide))
    (not_occurs_stop_cons (stops_public (by decide)) hX)

/-- A JSON object: members joined by commas, between braces. -/
theorem not_occurs_object {ms : List String} (hms : ∀ m ∈ ms, ¬Occurs publicShapes m.toList) :
    ¬Occurs publicShapes ('\x7b' :: (",".intercalate ms).toList ++ ['\x7d']) :=
  not_occurs_stop_cons (stops_public (by decide)) (not_occurs_append_stop
    (not_occurs_public_intercalate (z := ',') (by simp) (stops_public (by decide)) hms)
    (stops_public (by decide)) not_occurs_public_nil)

/-- A group member: a key, and the members of the group as an object. -/
theorem not_occurs_groupMember {k : String} {ms : List String} (hk : ¬Occurs publicShapes k.toList)
    (hms : ∀ m ∈ ms, ¬Occurs publicShapes m.toList) :
    ¬Occurs publicShapes (jsonText k ++ ":\x7b" ++ ",".intercalate ms ++ "\x7d").toList := by
  have hOpen : ":\x7b".toList = [':', '\x7b'] := by simp
  have hClose : "\x7d".toList = ['\x7d'] := by simp
  simp only [String.toList_append, hOpen, hClose, List.append_assoc, List.cons_append,
    List.nil_append]
  exact not_occurs_member hk (not_occurs_object hms)

/-- The texts of a value that redaction leaves as they are: an error's message,
and the JSON encoding and printed form of a value of any other kind. -/
def LogValue.verbatim : LogValue → List String
  | .error m => [m]
  | .any j p => [j, p]
  | _ => []

/-- The texts a value is written from: a text, or the texts redaction leaves. -/
def LogValue.texts : LogValue → List String
  | .text s => [s]
  | v => v.verbatim

theorem not_occurs_jsonLeaf {k : String} {v : LogValue} (hk : ¬Occurs publicShapes k.toList)
    (hv : ∀ s ∈ v.texts, ¬Occurs publicShapes s.toList) :
    ∀ m ∈ jsonLeaf false k v, ¬Occurs publicShapes m.toList := by
  -- every member is the key's text, a colon and a value without a token
  have hMember : ∀ X : String, ¬Occurs publicShapes X.toList →
      ¬Occurs publicShapes (jsonText k ++ ":" ++ X).toList := by
    intro X hX
    simpa [String.toList_append] using not_occurs_member hk hX
  have hPlain : ∀ X : String, 'p' ∉ X.toList → ¬Occurs publicShapes (jsonText k ++ ":" ++ X).toList :=
    fun X hX => hMember X (not_occurs_public_of_not_mem hX)
  intro m hm
  cases v <;> simp only [jsonLeaf, redactAttr_false, List.mem_singleton, List.not_mem_nil] at hm
  case text s => exact hm ▸ hMember _ (not_occurs_jsonText (hv s (by simp [LogValue.texts])))
  case int i => exact hm ▸ hPlain _ (p_not_mem_int i)
  case uint n => exact hm ▸ hPlain _ (p_not_mem_nat n)
  case float x => exact hm ▸ hPlain _ (p_not_mem_render _ x)
  case bool b => exact hm ▸ hPlain _ (by cases b <;> simp)
  case duration d => exact hm ▸ hPlain _ (p_not_mem_int d.nanos)
  case time t => exact hm ▸ hPlain _ (p_not_mem_jsonTime t)
  case error e =>
    exact hm ▸ hMember _ (not_occurs_jsonText (hv e (by simp [LogValue.texts, LogValue.verbatim])))
  case any j _ => exact hm ▸ hMember _ (hv j (by simp [LogValue.texts, LogValue.verbatim]))
  case none =>
    split_ifs at hm
    · cases hm
    · rw [List.mem_singleton] at hm
      have hNull : jsonText k ++ ":null" = jsonText k ++ ":" ++ "null" := by
        rw [String.append_assoc]
        rfl
      rw [hm, hNull]
      exact hPlain _ (by simp)

/-- Attributes whose keys, at any depth, and whose texts hold no public token. -/
structure Tokenless (attrs : List (String × LogValue)) : Prop where
  keys : ∀ k ∈ attrKeys attrs, ¬Occurs publicShapes k.toList
  texts : ∀ p ∈ leaves attrs, ∀ s ∈ p.2.texts, ¬Occurs publicShapes s.toList

namespace Tokenless

variable {k : String} {rest : List (String × LogValue)}

theorem group {attrs : List (String × LogValue)} (h : Tokenless ((k, .group attrs) :: rest)) :
    ¬Occurs publicShapes k.toList ∧ Tokenless attrs ∧ Tokenless rest := by
  obtain ⟨hKeys, hTexts⟩ := h
  simp only [attrKeys, List.mem_cons, List.mem_append] at hKeys
  simp only [leaves, List.mem_append] at hTexts
  exact ⟨hKeys k (Or.inl rfl),
    ⟨fun k' hk' => hKeys k' (Or.inr (Or.inl hk')), fun p hp => hTexts p (Or.inl hp)⟩,
    ⟨fun k' hk' => hKeys k' (Or.inr (Or.inr hk')), fun p hp => hTexts p (Or.inr hp)⟩⟩

theorem leaf {v : LogValue} (hv : IsLeaf v) (h : Tokenless ((k, v) :: rest)) :
    ¬Occurs publicShapes k.toList ∧ (∀ s ∈ v.texts, ¬Occurs publicShapes s.toList) ∧
      Tokenless rest := by
  obtain ⟨hKeys, hTexts⟩ := h
  rw [attrKeys_leaf hv] at hKeys
  rw [leaves_leaf hv] at hTexts
  exact ⟨hKeys k List.mem_cons_self, hTexts (k, v) List.mem_cons_self,
    ⟨fun k' hk' => hKeys k' (List.mem_cons_of_mem _ hk'),
      fun p hp => hTexts p (List.mem_cons_of_mem _ hp)⟩⟩

end Tokenless

/-- The texts a redacted value is written from are redacted, or, under a key
that is not sensitive, the texts of the value that redaction leaves. -/
theorem texts_redactAttr {k : String} {v : LogValue} (hv : IsLeaf v) :
    ∀ s ∈ (redactAttr true k v).texts, Unexposed s ∨ (isSensitiveKey k = false ∧ s ∈ v.verbatim) := by
  intro s hs
  by_cases hText : ∃ t, redactAttr true k v = .text t
  · obtain ⟨t, ht⟩ := hText
    rw [ht] at hs
    simp only [LogValue.texts, List.mem_singleton] at hs
    exact Or.inl (hs ▸ (redacted_redactAttr k hv).unexposed t ht)
  · -- neither rewritten nor marked: the value is kept, under a key that is not sensitive
    have hk : isSensitiveKey k = false := by
      by_contra hk
      exact hText ⟨_, ((redacted_redactAttr k hv).sensitive (by simpa using hk))⟩
    have hKept : redactAttr true k v = v :=
      redactAttr_kept hk fun t ht => hText ⟨redactText t, by rw [ht, redactAttr_text hk]⟩
    rw [hKept] at hs
    cases v with
    | text t => exact absurd ⟨_, hKept⟩ hText
    | _ => exact Or.inr ⟨hk, hs⟩

/-- Redacted attributes hold no public token when their keys hold none, nor the
texts redaction leaves under keys that are not sensitive. -/
theorem tokenless_redactValues {attrs : List (String × LogValue)}
    (hKeys : ∀ k ∈ attrKeys attrs, ¬Occurs publicShapes k.toList)
    (hKept : ∀ p ∈ leaves attrs, isSensitiveKey p.1 = false → ∀ s ∈ p.2.verbatim,
      ¬Occurs publicShapes s.toList) :
    Tokenless (redactValues attrs) where
  keys := by
    rw [attrKeys_redactValues]
    exact hKeys
  texts := by
    rw [leaves_redactValues]
    intro p hp s hs
    obtain ⟨q, hq, rfl⟩ := List.mem_map.1 hp
    rcases texts_redactAttr (isLeaf_of_mem_leaves q hq) s hs with hs | ⟨hk, hs⟩
    · exact hs.1
    · exact hKept q hq hk s hs

theorem not_occurs_jsonMembers (attrs : List (String × LogValue)) :
    Tokenless attrs → ∀ m ∈ jsonMembers false attrs, ¬Occurs publicShapes m.toList := by
  fun_induction jsonMembers false attrs with
  | case1 => simp
  | case2 k attrs rest inner here ihAttrs ihRest =>
    intro h m hm
    obtain ⟨hk, hAttrs, hRest⟩ := h.group
    rcases List.mem_append.1 hm with hm | hm
    · -- a group is written as its members, under its key unless that is empty
      simp only [here, inner] at hm
      split_ifs at hm
      · cases hm
      · exact ihAttrs hAttrs m hm
      · rw [List.mem_singleton] at hm
        exact hm ▸ not_occurs_groupMember hk (ihAttrs hAttrs)
    · exact ihRest hRest m hm
  | case3 k v rest hv ihRest =>
    intro h m hm
    obtain ⟨hk, hText, hRest⟩ := h.leaf hv
    rcases List.mem_append.1 hm with hm | hm
    · exact not_occurs_jsonLeaf hk hText m hm
    · exact ihRest hRest m hm

/-! ## Text lines -/

/-- A key prefix of a text line: no public token, and a stopping character at
its end unless it is empty. -/
def Prefixing (base : String) : Prop :=
  ¬Occurs publicShapes base.toList ∧ ∀ z ∈ base.toList.getLast?, Stops publicShapes z

theorem prefixing_empty : Prefixing "" := ⟨by simpa using not_occurs_public_nil, by simp⟩

theorem prefixing_append {a b : String} (ha : Prefixing a) (hb : Prefixing b) :
    Prefixing (a ++ b) := by
  refine ⟨?_, ?_⟩
  · rw [String.toList_append]
    exact not_occurs_append_of_getLast? ha.1 ha.2 hb.1
  · intro z hz
    rw [String.toList_append, List.getLast?_append] at hz
    cases hb' : b.toList.getLast? with
    | none =>
      rw [hb', Option.none_or] at hz
      exact ha.2 z hz
    | some y =>
      rw [hb', Option.some_or] at hz
      exact hb.2 z (hb' ▸ hz)

/-- A group name and the dot after it. -/
theorem prefixing_dot {g : String} (hg : ¬Occurs publicShapes g.toList) : Prefixing (g ++ ".") := by
  have hDot : (g ++ ".").toList = g.toList ++ ['.'] := by simp
  refine ⟨?_, ?_⟩
  · rw [hDot]
    exact not_occurs_append_stop hg (stops_public (by decide)) not_occurs_public_nil
  · rw [hDot, List.getLast?_concat]
    intro z hz
    exact (Option.some.inj hz) ▸ stops_public (by decide)

/-- A text pair: a key, `=` and a value. -/
theorem not_occurs_pair {key X : String} (hKey : ¬Occurs publicShapes key.toList)
    (hX : ¬Occurs publicShapes X.toList) : ¬Occurs publicShapes (key ++ "=" ++ X).toList := by
  have hEq : (key ++ "=" ++ X).toList = key.toList ++ '=' :: X.toList := by simp
  rw [hEq]
  exact not_occurs_append_stop hKey (stops_public (by decide)) hX

theorem not_occurs_textLeaf {key k : String} {v : LogValue} (hKey : ¬Occurs publicShapes key.toList)
    (hv : ∀ s ∈ v.texts, ¬Occurs publicShapes s.toList) :
    ∀ m ∈ textLeaf false key k v, ¬Occurs publicShapes m.toList := by
  have hKey' := not_occurs_plainText hKey
  have hPlain : ∀ X : String, 'p' ∉ X.toList → ¬Occurs publicShapes (plainText key ++ "=" ++ X).toList :=
    fun X hX => not_occurs_pair hKey' (not_occurs_public_of_not_mem hX)
  intro m hm
  cases v <;> simp only [textLeaf, redactAttr_false, List.mem_singleton, List.not_mem_nil] at hm
  case text s => exact hm ▸ not_occurs_pair hKey' (not_occurs_plainText (hv s (by simp [LogValue.texts])))
  case int i => exact hm ▸ hPlain _ (p_not_mem_int i)
  case uint n => exact hm ▸ hPlain _ (p_not_mem_nat n)
  case float x => exact hm ▸ hPlain _ (p_not_mem_render _ x)
  case bool b => exact hm ▸ hPlain _ (by cases b <;> simp)
  case duration d => exact hm ▸ hPlain _ (p_not_mem_durationText d)
  case time t => exact hm ▸ hPlain _ (p_not_mem_instantMillisText t)
  case error e =>
    exact hm ▸ not_occurs_pair hKey'
      (not_occurs_plainText (hv e (by simp [LogValue.texts, LogValue.verbatim])))
  case any _ q =>
    exact hm ▸ not_occurs_pair hKey'
      (not_occurs_plainText (hv q (by simp [LogValue.texts, LogValue.verbatim])))
  case none =>
    split_ifs at hm
    · cases hm
    · rw [List.mem_singleton] at hm
      have hNil : plainText key ++ "=<nil>" = plainText key ++ "=" ++ "<nil>" := by
        rw [String.append_assoc]
        rfl
      rw [hm, hNil]
      exact hPlain _ (by simp)

theorem not_occurs_textPairs (base : String) (attrs : List (String × LogValue)) :
    Prefixing base → Tokenless attrs →
    ∀ m ∈ textPairs false base attrs, ¬Occurs publicShapes m.toList := by
  -- induction along the pairs; a group extends the key prefix by its name and a dot
  fun_induction textPairs false base attrs with
  | case1 => simp
  | case2 base k attrs rest ihAttrs ihRest =>
    intro hBase h m hm
    obtain ⟨hk, hAttrs, hRest⟩ := h.group
    have hInner : Prefixing (if k.isEmpty then base else base ++ k ++ ".") := by
      split_ifs
      · exact hBase
      · rw [String.append_assoc]
        exact prefixing_append hBase (prefixing_dot hk)
    rcases List.mem_append.1 hm with hm | hm
    · exact ihAttrs hInner hAttrs m hm
    · exact ihRest hBase hRest m hm
  | case3 base k v rest hv ihRest =>
    intro hBase h m hm
    obtain ⟨hk, hText, hRest⟩ := h.leaf hv
    rcases List.mem_append.1 hm with hm | hm
    · have hKey : ¬Occurs publicShapes (base ++ k).toList := by
        rw [String.toList_append]
        exact not_occurs_append_of_getLast? hBase.1 hBase.2 hk
      exact not_occurs_textLeaf hKey hText m hm
    · exact ihRest hBase hRest m hm

/-! ## Lines -/

theorem p_not_mem_label (l : Level) : 'p' ∉ l.label.toList := by
  cases l <;> simp [Level.label]

/-- A line written without redaction holds no public token when the keys, group
names and texts of its attributes and its message hold none. -/
theorem line_public_free_of_parts (lg : Logger) (r : Record) (hOff : lg.redact = false)
    (hAttrs : Tokenless (Scope.nest lg.scope r.allAttrs)) (hMsg : ¬Occurs publicShapes r.message.toList) :
    ∀ line, lg.line r = some line → ¬Occurs publicShapes line.toList := by
  have hLabel := not_occurs_public_of_not_mem (p_not_mem_label r.level)
  intro line hLine
  unfold Logger.line at hLine
  split_ifs at hLine
  simp only [hOff, redactAttr_false] at hLine
  cases hFormat : lg.format with
  | json =>
    rw [hFormat] at hLine
    cases hLine
    -- the level, the message and the attributes' members, between braces
    have hMembers : ∀ m ∈ ["\"level\":" ++ jsonText r.level.label, "\"msg\":" ++ jsonText r.message] ++
        jsonMembers false (Scope.nest lg.scope r.allAttrs), ¬Occurs publicShapes m.toList := by
      intro m hm
      simp only [List.mem_append, List.mem_cons, List.not_mem_nil, or_false] at hm
      rcases hm with (rfl | rfl) | hm
      · rw [String.toList_append]
        exact not_occurs_public_label (z := ':') (by simp) (by simp) (by decide)
          (not_occurs_jsonText hLabel)
      · rw [String.toList_append]
        exact not_occurs_public_label (z := ':') (by simp) (by simp) (by decide)
          (not_occurs_jsonText hMsg)
      · exact not_occurs_jsonMembers _ hAttrs m hm
    have hOpen : "\x7b".toList = ['\x7b'] := by simp
    have hClose : "\x7d".toList = ['\x7d'] := by simp
    simp only [String.toList_append, hOpen, hClose, List.singleton_append]
    exact not_occurs_object hMembers
  | text =>
    rw [hFormat] at hLine
    cases hLine
    refine not_occurs_public_intercalate (z := ' ') (by simp) (stops_public (by decide)) ?_
    intro m hm
    simp only [List.mem_append, List.mem_cons, List.not_mem_nil, or_false] at hm
    rcases hm with (rfl | rfl) | hm
    · exact not_occurs_public_of_not_mem (by simpa using p_not_mem_label r.level)
    · have hEq : ("msg=" ++ plainText r.message).toList =
          ['m', 's', 'g', '='] ++ (plainText r.message).toList := by simp
      rw [hEq]
      exact not_occurs_public_label (z := '=') (by simp) (by simp) (by decide)
        (not_occurs_plainText hMsg)
    · exact not_occurs_textPairs "" _ prefixing_empty hAttrs m hm

/-! ## Lines of a redacting logger -/

/-- The keys of a record's own attributes: those it was given, and `request_id`
when it carries a request ID. -/
theorem attrKeys_allAttrs (r : Record) :
    ∀ k ∈ attrKeys r.allAttrs, k ∈ attrKeys r.attrs ∨ k = "request_id" := by
  intro k hk
  rw [Record.allAttrs, attrKeys_append] at hk
  rcases List.mem_append.1 hk with hk | hk
  · exact Or.inl hk
  · split_ifs at hk
    · simp [attrKeys] at hk
    · simp [attrKeys] at hk
      exact Or.inr hk

/-- The values of a record's own attributes: those it was given, and its
request ID, a text. -/
theorem leaves_allAttrs (r : Record) :
    ∀ p ∈ leaves r.allAttrs, p ∈ leaves r.attrs ∨ p = ("request_id", .text r.requestId) := by
  intro p hp
  rw [Record.allAttrs, leaves_append] at hp
  rcases List.mem_append.1 hp with hp | hp
  · exact Or.inl hp
  · split_ifs at hp
    · simp [leaves] at hp
    · simp [leaves] at hp
      exact Or.inr hp

/-- A line a redacting logger writes holds no public token when the keys and
group names it was given hold none, and neither do the texts that redaction
leaves under keys that are not sensitive: the messages of errors and the forms
of values of any other kind. -/
theorem line_public_free (lg : Logger) (r : Record) (hOn : lg.redact = true)
    (hNames : ∀ k ∈ lg.scope.flatMap Scope.names ++ attrKeys r.attrs, ¬Occurs publicShapes k.toList)
    (hKept : ∀ p ∈ lg.scope.flatMap Scope.values ++ leaves r.attrs, isSensitiveKey p.1 = false →
      ∀ s ∈ p.2.verbatim, ¬Occurs publicShapes s.toList) :
    ∀ line, lg.line r = some line → ¬Occurs publicShapes line.toList := by
  simp only [List.mem_append] at hNames hKept
  -- the keys in the scope are those given, and `request_id`
  have hKeys : ∀ k ∈ attrKeys (Scope.nest lg.scope r.allAttrs), ¬Occurs publicShapes k.toList := by
    intro k hk
    rw [attrKeys_nest, List.mem_append] at hk
    rcases hk with hk | hk
    · exact hNames k (Or.inl hk)
    · rcases attrKeys_allAttrs r k hk with hk | rfl
      · exact hNames k (Or.inr hk)
      · exact not_occurs_public_of_not_mem (by simp)
  -- the values in the scope are those given, and the request ID, a text
  have hValues : ∀ p ∈ leaves (Scope.nest lg.scope r.allAttrs), isSensitiveKey p.1 = false →
      ∀ s ∈ p.2.verbatim, ¬Occurs publicShapes s.toList := by
    intro p hp
    rw [leaves_nest, List.mem_append] at hp
    rcases hp with hp | hp
    · exact hKept p (Or.inl hp)
    · rcases leaves_allAttrs r p hp with hp | rfl
      · exact hKept p (Or.inr hp)
      · simp [LogValue.verbatim]
  rw [line_eq_plain lg r hOn]
  refine line_public_free_of_parts lg.plain r.redacted rfl ?_ (unexposed_redactText r.message).1
  -- the plain logger writes the redacted attributes in the same scope
  have hScope : Scope.nest lg.plain.scope r.redacted.allAttrs =
      redactValues (Scope.nest lg.scope r.allAttrs) := by
    rw [redacted_allAttrs, redactValues_nest]
    rfl
  rw [hScope]
  exact tokenless_redactValues hKeys hValues

/-- What a redacting logger writes for a record. -/
structure WritesRedacted (lg : Logger) (r : Record) : Prop where
  /-- The line is the one written without redaction for the redacted record. -/
  line : lg.line r = lg.plain.line r.redacted
  /-- The values written are those the logger and the record were given, each
  redacted under its key, in the same places. -/
  values : leaves (Scope.nest lg.plain.scope r.redacted.allAttrs) =
    (leaves (Scope.nest lg.scope r.allAttrs)).map redactLeaf
  /-- Keys and group names are written as given. -/
  keys : attrKeys (Scope.nest lg.plain.scope r.redacted.allAttrs) = attrKeys (Scope.nest lg.scope r.allAttrs)
  /-- A redacted value is `***` under a sensitive key, and a text holding no
  public token and no bearer credential. -/
  redacted : ∀ p ∈ leaves (Scope.nest lg.scope r.allAttrs), Redacted (redactLeaf p).1 (redactLeaf p).2
  /-- A value that is not a text, under a key that is not sensitive, is written
  as it is. -/
  kept : ∀ p ∈ leaves (Scope.nest lg.scope r.allAttrs), isSensitiveKey p.1 = false →
    (∀ s, p.2 ≠ .text s) → redactLeaf p = p
  /-- The message is written redacted. -/
  message : Unexposed r.redacted.message
  /-- A public token in the line comes from a key, a group name, or a text that
  redaction leaves under a key that is not sensitive. -/
  publicFree : (∀ k ∈ lg.scope.flatMap Scope.names ++ attrKeys r.attrs, ¬Occurs publicShapes k.toList) →
    (∀ p ∈ lg.scope.flatMap Scope.values ++ leaves r.attrs, isSensitiveKey p.1 = false →
      ∀ s ∈ p.2.verbatim, ¬Occurs publicShapes s.toList) →
    ∀ line, lg.line r = some line → ¬Occurs publicShapes line.toList

/-- A redacting logger writes every text and every value under a sensitive key
redacted, and keys, group names, groups and the values of every other kind as
given; so its line holds a public token only through a key, a group name, an
error or a value of another kind. -/
theorem redacting_logger_writes_redacted (lg : Logger) (r : Record) (hOn : lg.redact = true) :
    WritesRedacted lg r where
  line := line_eq_plain lg r hOn
  values := by
    rw [redacted_allAttrs, Logger.plain, ← redactValues_nest, leaves_redactValues]
  keys := by
    rw [redacted_allAttrs, Logger.plain, ← redactValues_nest, attrKeys_redactValues]
  redacted := fun p hp => redacted_redactAttr p.1 (isLeaf_of_mem_leaves p hp)
  kept := fun p hp hk hText => by
    rw [redactLeaf, redactAttr_kept hk hText]
  message := unexposed_redactText r.message
  publicFree := line_public_free lg r hOn

/-- A redacting JSON logger given a password. -/
theorem redacting_logger_writes_redacted_json :
    WritesRedacted { format := .json, threshold := .info }
      { message := "m", attrs := [("password", .text "hunter2")] } :=
  redacting_logger_writes_redacted _ _ rfl

/-! ## Keys are written as given -/

theorem infix_intercalate_of_mem {sep m : List Char} :
    ∀ {ms : List (List Char)}, m ∈ ms → m <:+: sep.intercalate ms
  | [], h => absurd h List.not_mem_nil
  | [a], h => by
    obtain rfl := List.mem_singleton.1 h
    simpa only [List.intercalate_singleton] using List.infix_refl m
  | a :: b :: rest, h => by
    rw [List.intercalate_cons_cons]
    rcases List.mem_cons.1 h with rfl | h
    · exact (List.prefix_append _ _).isInfix.trans (List.prefix_append _ _).isInfix
    · exact (infix_intercalate_of_mem h).trans (List.suffix_append _ _).isInfix

/-- A JSON logger given nothing writes every member of a record's own
attributes into its line. -/
theorem infix_line_of_mem_own {lg : Logger} {r : Record} {line m : String}
    (hJson : lg.format = .json) (hScope : lg.scope = []) (hLine : lg.line r = some line)
    (hm : m ∈ jsonMembers lg.redact r.allAttrs) : m.toList <:+: line.toList := by
  unfold Logger.line at hLine
  split_ifs at hLine
  simp only [hJson, hScope, Scope.nest, Option.some.injEq] at hLine
  subst hLine
  simp only [String.toList_append, String.toList_intercalate]
  refine List.IsInfix.trans ?_ (List.infix_append _ _ _)
  exact infix_intercalate_of_mem (List.mem_map_of_mem (List.mem_append_right _ hm))

/-- A public token: its prefix and sixty-four `a`s. -/
def sampleToken : String := "public-" ++ String.ofList (List.replicate 64 'a')

theorem sampleToken_toList : sampleToken.toList = publicWord ++ List.replicate 64 'a' := by
  simp [sampleToken, publicWord]

theorem isSensitiveKey_sampleToken : isSensitiveKey sampleToken = false := by
  decide +kernel

/-- JSON leaves the characters of a public token as they are. -/
theorem occurs_jsonText_sampleToken : Occurs publicShapes (jsonText sampleToken).toList := by
  have hPlain : ∀ c ∈ sampleToken.toList, (jsonEscape c).toList = [c] := by
    rw [sampleToken_toList]
    intro c hc
    simp only [publicWord, List.mem_append, List.mem_cons, List.mem_replicate, List.not_mem_nil,
      or_false] at hc
    rcases hc with (rfl | rfl | rfl | rfl | rfl | rfl | rfl) | ⟨-, rfl⟩ <;> simp [jsonEscape]
  have hFits : Fits publicShape (publicWord ++ List.replicate 64 'a') := by
    have hHex := fits_replicate_of (P := isHexDigit) (v := List.replicate 64 'a') (by simp [isHexDigit])
    rw [List.length_replicate] at hHex
    exact List.rel_append (fits_map_beq_self publicWord) hHex
  rw [jsonText_toList, List.flatMap_congr hPlain, List.flatMap_singleton', sampleToken_toList]
  exact ⟨['"'], (publicWord ++ List.replicate 64 'a') ++ ['"'], by simp, publicShape,
    publicWord ++ List.replicate 64 'a', rfl, hFits, List.prefix_append _ _⟩

/-- A JSON logger writes a member that holds a public token into its line. -/
theorem occurs_line_of_member {r : Record} {k X : String} (hLevel : r.level = .info)
    (hm : jsonText k ++ ":" ++ X ∈ jsonMembers true r.allAttrs)
    (hOcc : Occurs publicShapes (jsonText k ++ ":" ++ X).toList) :
    ∃ line, ({ format := .json, threshold := .info } : Logger).line r = some line ∧
      Occurs publicShapes line.toList := by
  obtain ⟨line, hLine⟩ : ∃ line, ({ format := .json, threshold := .info } : Logger).line r = some line := by
    unfold Logger.line
    rw [if_neg (by rw [hLevel]; decide)]
    exact ⟨_, rfl⟩
  exact ⟨line, hLine, occurs_of_infix (infix_line_of_mem_own rfl rfl hLine hm) hOcc⟩

/-- A record whose one attribute redaction keeps is written with that
attribute's member as it is. -/
theorem jsonMembers_single_kept {k : String} {v : LogValue} (hk : isSensitiveKey k = false)
    (hText : ∀ s, v ≠ .text s) (hv : IsLeaf v) :
    jsonMembers true ({ message := "m", attrs := [(k, v)] } : Record).allAttrs = jsonLeaf false k v := by
  rw [show ({ message := "m", attrs := [(k, v)] } : Record).allAttrs = [(k, v)] from List.append_nil _,
    jsonMembers_leaf true hv, jsonLeaf, redactAttr_kept hk hText, jsonMembers, List.append_nil]
  rfl

/-- Keys are written as given, even with redaction on: a public token as the
key of an attribute is in the line. -/
theorem public_token_in_key_written :
    ∃ line, ({ format := .json, threshold := .info } : Logger).line
        { message := "m", attrs := [(sampleToken, .int 1)] } = some line ∧
      Occurs publicShapes line.toList := by
  -- the key is a public token and names no secret
  have hm := jsonMembers_single_kept (v := .int 1) isSensitiveKey_sampleToken (fun _ h => by cases h)
    (fun _ h => by cases h)
  refine occurs_line_of_member (X := toString (1 : Int)) rfl (by rw [hm]; exact List.mem_singleton_self _) ?_
  rw [String.toList_append, String.toList_append]
  exact occurs_append_left (occurs_append_left occurs_jsonText_sampleToken)

/-- An error is written as it is, even with redaction on: a public token as
the message of an error is in the line. -/
theorem public_token_in_error_written :
    ∃ line, ({ format := .json, threshold := .info } : Logger).line
        { message := "m", attrs := [("err", .error sampleToken)] } = some line ∧
      Occurs publicShapes line.toList := by
  -- the error is no text, and its key names no secret
  have hm := jsonMembers_single_kept (k := "err") (v := .error sampleToken) (by decide +kernel)
    (fun _ h => by cases h) (fun _ h => by cases h)
  refine occurs_line_of_member (X := jsonText sampleToken) rfl (by rw [hm]; exact List.mem_singleton_self _) ?_
  rw [String.toList_append]
  exact occurs_append_right occurs_jsonText_sampleToken

/-- Keys, and the values redaction leaves, are written as given, even with
redaction on: a public token as the key of an attribute, or as the message of
an error, is in the line. -/
theorem public_token_written_as_given :
    (∃ line, ({ format := .json, threshold := .info } : Logger).line
        { message := "m", attrs := [(sampleToken, .int 1)] } = some line ∧
      Occurs publicShapes line.toList) ∧
    (∃ line, ({ format := .json, threshold := .info } : Logger).line
        { message := "m", attrs := [("err", .error sampleToken)] } = some line ∧
      Occurs publicShapes line.toList) :=
  ⟨public_token_in_key_written, public_token_in_error_written⟩

end Turnstile.Log
