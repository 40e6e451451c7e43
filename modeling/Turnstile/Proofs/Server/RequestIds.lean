import Turnstile.Server.Chain
import Turnstile.Proofs.Server.AuthRoutes
import Turnstile.Proofs.Credential.Matching

/-!
# Request IDs

A request is served under one ID, taken from its first `X-Request-ID` value or
made fresh.

* The service reads a client's ID byte by byte: it keeps an ID of 1 to 128
  bytes, each a visible ASCII character from `!` (0x21) to `~` (0x7e)
  (`WellFormedId`).  The check made on characters is that byte check
  (`validRequestId_iff`): a character outside ASCII is written with bytes above
  that range.
* A fresh ID is the text form of a UUID, thirty-two lower-case hexadecimal
  digits in groups joined by dashes (`IsUuidText`), and such a text is itself
  a well-formed ID (`wellFormedId_of_isUuidText`).
* Every answer of the router, whatever its route, status or method, carries
  exactly that ID in `X-Request-ID` (`serve_requestId`): the answers start from
  it and only set or add fields of other names.
* Through the whole chain the answer's ID is the one the request log reads from
  the request's context (`handle_request_id`).
-/

namespace Turnstile.Server

open Http Credential

/-! ## IDs read as bytes -/

/-- The bytes of a text are the UTF-8 bytes of its characters, in order. -/
theorem toUTF8_toList (s : String) :
    s.toUTF8.data.toList = s.toList.flatMap String.utf8EncodeChar := by
  rw [String.toUTF8_eq_toByteArray, ← String.utf8Encode_toList, List.utf8Encode,
    List.toList_data_toByteArray]

/-- The number of bytes of a text is its size in UTF-8. -/
theorem toUTF8_size (s : String) : s.toUTF8.size = s.utf8ByteSize := rfl

/-- Whether a code is a visible ASCII character, from `!` (0x21) to `~` (0x7e). -/
def VisibleAscii (n : Nat) : Prop := 0x21 ≤ n ∧ n ≤ 0x7e

instance : DecidablePred VisibleAscii := fun _ => inferInstanceAs (Decidable (_ ∧ _))

/-- A request ID a client may choose, read byte by byte as the service reads
it: 1 to 128 bytes, each a visible ASCII character. -/
def WellFormedId (id : String) : Prop :=
  0 < id.toUTF8.size ∧ id.toUTF8.size ≤ 128 ∧ ∀ b ∈ id.toUTF8.data.toList, VisibleAscii b.toNat

instance : DecidablePred WellFormedId := fun _ => inferInstanceAs (Decidable (_ ∧ _ ∧ _))

/-- An ASCII character is written as one byte, its own code. -/
theorem utf8EncodeChar_of_ascii {c : Char} (h : c.toNat ≤ 0x7f) :
    String.utf8EncodeChar c = [UInt8.ofNat c.toNat] := by
  have hVal : c.val.toNat ≤ 0x7f := h
  simp only [String.utf8EncodeChar, if_pos hVal]
  rfl

/-- The bytes of a character are all visible ASCII exactly when the character
is: any other character starts with a byte of at least 0xc0. -/
theorem utf8EncodeChar_visible_iff (c : Char) :
    (∀ b ∈ String.utf8EncodeChar c, VisibleAscii b.toNat) ↔ VisibleAscii c.toNat := by
  by_cases hAscii : c.toNat ≤ 0x7f
  · rw [utf8EncodeChar_of_ascii hAscii]
    simp only [List.mem_singleton, forall_eq, UInt8.toNat_ofNat', VisibleAscii]
    omega
  · have hWide : ¬ c.val.toNat ≤ 0x7f := hAscii
    refine ⟨fun h => ?_, fun h => absurd h.2 (by omega)⟩
    -- in each of the two-, three- and four-byte forms the first byte alone is
    -- outside the visible range
    simp only [String.utf8EncodeChar, if_neg hWide] at h
    split at h <;> (try split at h) <;>
      exact absurd (List.forall_mem_cons.1 h).1 (by simp only [VisibleAscii, UInt8.toNat_ofNat']; omega)

/-- The bytes of a text are all visible ASCII exactly when its characters are. -/
theorem bytes_visible_iff (s : String) :
    (∀ b ∈ s.toUTF8.data.toList, VisibleAscii b.toNat) ↔ ∀ c ∈ s.toList, VisibleAscii c.toNat := by
  rw [toUTF8_toList]
  simp only [List.mem_flatMap, forall_exists_index, and_imp]
  exact ⟨fun h c hc => (utf8EncodeChar_visible_iff c).1 fun b hb => h b c hc hb,
    fun h b c hc hb => (utf8EncodeChar_visible_iff c).2 (h c hc) b hb⟩

/-- The kept-ID check, made on characters, is the byte check. -/
theorem validRequestId_iff (id : String) : validRequestId id = true ↔ WellFormedId id := by
  have hNonempty : (!id.isEmpty) = true ↔ 0 < id.toUTF8.size := by
    rw [toUTF8_size, Bool.not_eq_true', ← Bool.not_eq_true, String.isEmpty_iff_utf8ByteSize_eq_zero]
    omega
  unfold validRequestId WellFormedId
  rw [bytes_visible_iff]
  simp only [Bool.and_eq_true, hNonempty, decide_eq_true_eq, List.all_eq_true, VisibleAscii, and_assoc]
  rw [toUTF8_size]

/-- ASCII characters are written one byte each, their own codes. -/
theorem flatMap_utf8EncodeChar_of_ascii :
    ∀ {cs : List Char}, (∀ c ∈ cs, c.toNat ≤ 0x7f) →
      cs.flatMap String.utf8EncodeChar = cs.map fun c => UInt8.ofNat c.toNat
  | [], _ => rfl
  | c :: cs, h => by
    rw [List.flatMap_cons, utf8EncodeChar_of_ascii (h c List.mem_cons_self),
      flatMap_utf8EncodeChar_of_ascii fun d hd => h d (List.mem_cons_of_mem c hd)]
    rfl

/-- A text of ASCII characters has one byte per character. -/
theorem toUTF8_size_of_ascii {s : String} (h : ∀ c ∈ s.toList, c.toNat ≤ 0x7f) :
    s.toUTF8.size = s.length := by
  have hLength := congrArg List.length (toUTF8_toList s)
  rw [flatMap_utf8EncodeChar_of_ascii h, List.length_map, String.length_toList,
    Array.length_toList] at hLength
  exact hLength

/-! ## Fresh IDs -/

/-- The text form of a UUID, as its generator writes it
(`xxxxxxxx-xxxx-xxxx-xxxx-xxxxxxxxxxxx`): thirty-two lower-case hexadecimal
digits in groups of 8, 4, 4, 4 and 12, joined by dashes. -/
def IsUuidText (s : String) : Prop :=
  ∃ groups : List String, groups.map String.length = [8, 4, 4, 4, 12] ∧
    (∀ g ∈ groups, ∀ c ∈ g.toList, isLowerHexDigit c = true) ∧ s = "-".intercalate groups

/-- The characters of a UUID text are lower-case hexadecimal digits and dashes,
thirty-six of them. -/
theorem isUuidText_chars {s : String} (h : IsUuidText s) :
    (∀ c ∈ s.toList, isLowerHexDigit c = true ∨ c = '-') ∧ s.length = 36 := by
  obtain ⟨groups, hLengths, hDigits, rfl⟩ := h
  -- the lengths fix five groups
  rcases groups with _ | ⟨g₁, _ | ⟨g₂, _ | ⟨g₃, _ | ⟨g₄, _ | ⟨g₅, _ | ⟨g₆, rest⟩⟩⟩⟩⟩⟩ <;>
    simp only [List.map_cons, List.map_nil, List.cons.injEq, reduceCtorEq, and_false] at hLengths
  obtain ⟨h₁, h₂, h₃, h₄, h₅, -⟩ := hLengths
  have hDash : ("-" : String).toList = ['-'] := rfl
  simp only [String.intercalate_cons_cons, String.intercalate_singleton]
  constructor
  · intro c hc
    simp only [String.toList_append, hDash, List.mem_append, List.mem_singleton, or_assoc] at hc
    have hDigit : ∀ g ∈ [g₁, g₂, g₃, g₄, g₅], ∀ c ∈ g.toList, isLowerHexDigit c = true ∨ c = '-' :=
      fun g hg c hc => .inl (hDigits g hg c hc)
    rcases hc with hc | hc | hc | hc | hc | hc | hc | hc | hc
    · exact hDigit g₁ (by simp) c hc
    · exact .inr hc
    · exact hDigit g₂ (by simp) c hc
    · exact .inr hc
    · exact hDigit g₃ (by simp) c hc
    · exact .inr hc
    · exact hDigit g₄ (by simp) c hc
    · exact .inr hc
    · exact hDigit g₅ (by simp) c hc
  · simp only [String.length_append, h₁, h₂, h₃, h₄, h₅]
    rfl

/-- A lower-case hexadecimal digit or a dash is visible ASCII. -/
theorem visibleAscii_of_uuidChar {c : Char} (h : isLowerHexDigit c = true ∨ c = '-') :
    VisibleAscii c.toNat := by
  rcases h with h | rfl
  · have hRange := isLowerHexDigit_range h
    unfold VisibleAscii
    omega
  · decide

/-- A UUID text is a well-formed ID: thirty-six visible ASCII bytes. -/
theorem wellFormedId_of_isUuidText {s : String} (h : IsUuidText s) : WellFormedId s := by
  obtain ⟨hChars, hLength⟩ := isUuidText_chars h
  have hVisible : ∀ c ∈ s.toList, VisibleAscii c.toNat :=
    fun c hc => visibleAscii_of_uuidChar (hChars c hc)
  have hSize : s.toUTF8.size = 36 := by
    rw [toUTF8_size_of_ascii fun c hc => by have := (hVisible c hc).2; omega, hLength]
  exact ⟨by omega, by omega, (bytes_visible_iff s).2 hVisible⟩

/-! ## Every answer carries the ID -/

section Answers

variable (hs : Headers)

/-! Each answer sets or adds only fields whose canonical names differ from the
ID's, which `decide` tells apart. -/

theorem json_requestId (status : Nat) (v : JsonValue) :
    (Response.json hs status v).headers.values "X-Request-ID" = hs.values "X-Request-ID" := by
  simp +decide [Response.json, Headers.values_set]

theorem plainError_requestId (message : String) (status : Nat) :
    (Response.plainError hs message status).headers.values "X-Request-ID" =
      hs.values "X-Request-ID" := by
  simp +decide [Response.plainError, Headers.values_set]

theorem redirect_requestId (req : Request) (target : String) :
    (Response.redirect hs req target).headers.values "X-Request-ID" = hs.values "X-Request-ID" := by
  simp only [Response.redirect]
  split <;> simp +decide [Headers.values_set]

theorem healthAnswer_requestId (req : Request) (status : Nat) (v : JsonValue) :
    (healthAnswer hs req status v).headers.values "X-Request-ID" = hs.values "X-Request-ID" := by
  unfold healthAnswer
  split
  · simp +decide [plainError_requestId, Headers.values_set]
  · -- a `HEAD` answer drops only the body
    split <;> simp +decide [json_requestId, Headers.values_set]

theorem decisionAnswer_requestId (src : Source) (req : Request) (t : Tier) :
    (decisionAnswer src hs req t).1.headers.values "X-Request-ID" = hs.values "X-Request-ID" := by
  cases hv : verifyTier src t (Presented.ofAuthorization (req.headers.get? "Authorization")) <;>
    simp +decide [decisionAnswer, hv, json_requestId, Headers.values_set, Headers.values_add]

end Answers

theorem serve_requestId (h : Handler) (snap : Snapshot) (collector : Option Metrics.Collector)
    (req : Request) (freshId : String) (now : Int) :
    (h.serve snap collector req freshId now).1.headers.values "X-Request-ID" =
      [requestIdOf req freshId] := by
  have hBase : (Headers.empty.set "X-Request-ID" (requestIdOf req freshId)).values "X-Request-ID" =
      [requestIdOf req freshId] := by
    simp [Headers.values_set]
  unfold Handler.serve
  generalize Headers.empty.set "X-Request-ID" (requestIdOf req freshId) = hs at hBase ⊢
  split
  · rw [redirect_requestId, hBase]
  · rw [plainError_requestId, hBase]
  · rename_i route _
    obtain ⟨endpoint, counted⟩ := route
    cases endpoint <;> cases counted <;>
      simp +decide [decisionAnswer_requestId, healthAnswer_requestId, json_requestId, hBase,
        Headers.values_set]

/-! ## The ID a request is served under -/

/-- A request is served under its first `X-Request-ID` value, the empty text
when it has none, when that value is well formed, and under the fresh ID
otherwise. -/
theorem requestIdOf_eq (req : Request) (freshId : String) :
    requestIdOf req freshId =
      if WellFormedId ((req.headers.values "X-Request-ID").headD "") then
        (req.headers.values "X-Request-ID").headD ""
      else freshId := by
  have hFirst : (req.headers.get? "X-Request-ID").getD "" = (req.headers.values "X-Request-ID").headD "" := by
    rw [Headers.get?, List.headD_eq_head?_getD]
  unfold requestIdOf
  rw [hFirst]
  by_cases hGiven : WellFormedId ((req.headers.values "X-Request-ID").headD "")
  · rw [if_pos ((validRequestId_iff _).2 hGiven), if_pos hGiven]
  · rw [if_neg (mt (validRequestId_iff _).1 hGiven), if_neg hGiven]

/-- What the chain's answer to a request says about its ID; `out` is the
answer, the collector after it and the request log's record. -/
structure ServedUnderId (req : Request) (freshId : String)
    (out : Response × Option Metrics.Collector × Log.Record) : Prop where
  /-- The answer carries exactly the ID the request log reads from the context. -/
  header : out.1.headers.values "X-Request-ID" = [out.2.2.requestId]
  /-- A well-formed first client value is kept. -/
  kept : WellFormedId ((req.headers.values "X-Request-ID").headD "") →
    out.2.2.requestId = (req.headers.values "X-Request-ID").headD ""
  /-- Any other first value, or none, gives way to the fresh ID. -/
  fresh : ¬ WellFormedId ((req.headers.values "X-Request-ID").headD "") → out.2.2.requestId = freshId
  /-- The ID is well formed. -/
  wellFormed : WellFormedId out.2.2.requestId

/-- Whatever the handler, snapshot, collector and request, and whatever the
route, status and method of the answer, a request whose fresh ID is a UUID text
is served under one well-formed ID, carried by the answer and read by the
request log: the client's first `X-Request-ID` value when it is well formed,
the fresh ID otherwise. -/
theorem handle_request_id (h : Handler) (snap : Snapshot) (collector : Option Metrics.Collector)
    (req : Request) {freshId : String} (hFresh : IsUuidText freshId) (now : Int)
    (latencyMs : Binary64) :
    ServedUnderId req freshId (h.handle snap collector req freshId now latencyMs) := by
  have hRecord : (h.handle snap collector req freshId now latencyMs).2.2.requestId =
      requestIdOf req freshId := rfl
  have hAnswer : (h.handle snap collector req freshId now latencyMs).1 =
      (h.serve snap collector req freshId now).1 := rfl
  refine ⟨?_, fun hGiven => ?_, fun hGiven => ?_, ?_⟩ <;> rw [hRecord]
  · rw [hAnswer, serve_requestId]
  · rw [requestIdOf_eq, if_pos hGiven]
  · rw [requestIdOf_eq, if_neg hGiven]
  · -- the kept value is well formed by the check, the fresh one by its form
    rw [requestIdOf_eq]
    split
    · assumption
    · exact wellFormedId_of_isUuidText hFresh

/-- A version-4 UUID whose random bits are all zero is written as a UUID text. -/
theorem isUuidText_zeros : IsUuidText "00000000-0000-4000-8000-000000000000" := by
  refine ⟨["00000000", "0000", "4000", "8000", "000000000000"], by decide, ?_, by decide⟩
  have hDigits : (["00000000", "0000", "4000", "8000", "000000000000"].all
      fun g => g.toList.all isLowerHexDigit) = true := by decide
  simpa only [List.all_eq_true] using hDigits

/-- The handler of the empty configuration serves a readiness request with no
`X-Request-ID` under the fresh UUID, by the contract. -/
theorem handle_request_id_ready :
    IsUuidText "00000000-0000-4000-8000-000000000000" ∧
      ServedUnderId { method := "GET", path := "/ready" } "00000000-0000-4000-8000-000000000000"
        ((⟨⟨routesOf {} false⟩, checksOf {} 0, {}⟩ : Handler).handle { config := {}, settings := ⟨[]⟩ }
          none { method := "GET", path := "/ready" } "00000000-0000-4000-8000-000000000000" 0
          ⟨0⟩) :=
  ⟨isUuidText_zeros, handle_request_id _ _ none _ isUuidText_zeros 0 ⟨0⟩⟩

end Turnstile.Server
