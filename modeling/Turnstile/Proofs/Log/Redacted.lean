import Turnstile.Proofs.Log.Shapes
import Turnstile.Log.Record

/-!
# What a redacting logger writes

Redaction rewrites values and nothing else.  A redacting logger writes, for
every record, the line that the same logger without redaction writes for the
redacted record (`line_eq_plain`): the same keys, the same groups in the same
places, and in place of each value that is not a group its redacted value
(`redactValues`); the message and the request ID are redacted as texts.

The values so written are the values that are not groups, those the logger
was given with `With` and the record's own, each redacted under its own key
(`leaves_redactValues`, `leaves_nest`).  Each of them is `***` when its key is
sensitive, whatever its kind, and a text holding neither a public token nor a
bearer credential when it is a text (`Redacted`); a value of any other kind is
written as it is (`redactAttr_kept`).  A group is no value of its own: it is
kept under its key even when the key is sensitive, and its members are redacted
one by one.
-/

namespace Turnstile.Log

open Turnstile.Text

/-! ## Redacted attributes -/

/-- The attributes as a redacting logger writes them: each value that is not a
group replaced by its redacted value, each group kept under its key. -/
def redactValues : List (String × LogValue) → List (String × LogValue)
  | [] => []
  | (k, .group attrs) :: rest => (k, .group (redactValues attrs)) :: redactValues rest
  | (k, v) :: rest => (k, redactAttr true k v) :: redactValues rest

/-- The attributes that are not groups, at any depth, in the order written. -/
def leaves : List (String × LogValue) → List (String × LogValue)
  | [] => []
  | (_, .group attrs) :: rest => leaves attrs ++ leaves rest
  | (k, v) :: rest => (k, v) :: leaves rest

/-- The keys of attributes at any depth, the keys of groups included. -/
def attrKeys : List (String × LogValue) → List String
  | [] => []
  | (k, .group attrs) :: rest => k :: (attrKeys attrs ++ attrKeys rest)
  | (k, _) :: rest => k :: attrKeys rest

/-- The record that a logger without redaction writes as a redacting logger
writes `r`. -/
def Record.redacted (r : Record) : Record :=
  { r with message := redactText r.message, attrs := redactValues r.attrs,
           requestId := redactText r.requestId }

/-- An attribute that is not a group, as a redacting logger writes it. -/
def redactLeaf (p : String × LogValue) : String × LogValue := (p.1, redactAttr true p.1 p.2)

/-- What a logger was given, as a redacting logger writes it: attributes
redacted, groups kept. -/
def Scope.redact : Scope → Scope
  | .attrs as => .attrs (redactValues as)
  | .group g => .group g

/-- The keys and group names a logger was given at one step. -/
def Scope.names : Scope → List String
  | .attrs as => attrKeys as
  | .group g => [g]

/-- The values that are not groups a logger was given at one step. -/
def Scope.values : Scope → List (String × LogValue)
  | .attrs as => leaves as
  | .group _ => []

/-- The logger without redaction that writes what `lg` writes with it. -/
def Logger.plain (lg : Logger) : Logger :=
  { lg with redact := false, scope := lg.scope.map Scope.redact }

section Equations

variable {k : String} {v : LogValue} {rest : List (String × LogValue)}

/-- A value that is not a group: the values that redaction rewrites. -/
def IsLeaf (v : LogValue) : Prop := ∀ attrs, v ≠ .group attrs

theorem redactValues_leaf (hv : IsLeaf v) :
    redactValues ((k, v) :: rest) = (k, redactAttr true k v) :: redactValues rest := by
  cases v with
  | group attrs => exact absurd rfl (hv attrs)
  | _ => simp [redactValues]

theorem leaves_leaf (hv : IsLeaf v) : leaves ((k, v) :: rest) = (k, v) :: leaves rest := by
  cases v with
  | group attrs => exact absurd rfl (hv attrs)
  | _ => simp [leaves]

theorem attrKeys_leaf (hv : IsLeaf v) : attrKeys ((k, v) :: rest) = k :: attrKeys rest := by
  cases v with
  | group attrs => exact absurd rfl (hv attrs)
  | _ => simp [attrKeys]

theorem jsonMembers_leaf (on : Bool) (hv : IsLeaf v) :
    jsonMembers on ((k, v) :: rest) = jsonLeaf on k v ++ jsonMembers on rest := by
  cases v with
  | group attrs => exact absurd rfl (hv attrs)
  | _ => simp [jsonMembers]

theorem textPairs_leaf (on : Bool) (base : String) (hv : IsLeaf v) :
    textPairs on base ((k, v) :: rest) = textLeaf on (base ++ k) k v ++ textPairs on base rest := by
  cases v with
  | group attrs => exact absurd rfl (hv attrs)
  | _ => simp [textPairs]

@[simp]
theorem redactAttr_false (k : String) (v : LogValue) : redactAttr false k v = v := by
  simp [redactAttr]

/-- Redaction keeps a value that is not a group out of the groups. -/
theorem isLeaf_redactAttr (on : Bool) (hv : IsLeaf v) : IsLeaf (redactAttr on k v) := by
  intro attrs h
  cases on
  · exact hv attrs (by simpa using h)
  · cases v with
    | group a => exact hv a rfl
    | text s =>
      simp only [redactAttr, Bool.not_true] at h
      split_ifs at h
    | _ =>
      simp only [redactAttr, Bool.not_true] at h
      split_ifs at h

/-- A text under a key that is not sensitive is written redacted. -/
theorem redactAttr_text (hk : isSensitiveKey k = false) (s : String) :
    redactAttr true k (.text s) = .text (redactText s) := by
  by_cases hs : s.isEmpty = true
  · rw [String.isEmpty_iff] at hs
    subst hs
    have hEmpty : redactText "" = "" := (redactText_eq_empty_iff "").2 rfl
    simp [redactAttr, hk, hEmpty]
  · simp [redactAttr, hk, hs]

/-- A value that is not a text, under a key that is not sensitive, is written
as it is: redaction rewrites only texts and the values of sensitive keys. -/
theorem redactAttr_kept (hk : isSensitiveKey k = false) (hText : ∀ s, v ≠ .text s) :
    redactAttr true k v = v := by
  cases v with
  | text s => exact absurd rfl (hText s)
  | group attrs => rfl
  | _ => simp [redactAttr, hk]

end Equations

/-! ## Redaction rewrites values only -/

theorem attrKeys_append (a b : List (String × LogValue)) :
    attrKeys (a ++ b) = attrKeys a ++ attrKeys b := by
  induction a with
  | nil => simp [attrKeys]
  | cons p a ih =>
    obtain ⟨k, v⟩ := p
    cases v with
    | group attrs => simp [attrKeys, ih]
    | _ => simp [attrKeys, ih]

theorem redactValues_append (a b : List (String × LogValue)) :
    redactValues (a ++ b) = redactValues a ++ redactValues b := by
  induction a with
  | nil => simp [redactValues]
  | cons p a ih =>
    obtain ⟨k, v⟩ := p
    cases v with
    | group attrs => simp [redactValues, ih]
    | _ => simp [redactValues, ih]

theorem leaves_append (a b : List (String × LogValue)) :
    leaves (a ++ b) = leaves a ++ leaves b := by
  induction a with
  | nil => simp [leaves]
  | cons p a ih =>
    obtain ⟨k, v⟩ := p
    cases v with
    | group attrs => simp [leaves, ih]
    | _ => simp [leaves, ih]

/-- The keys and groups a redacting logger writes are those it was given. -/
theorem attrKeys_redactValues (attrs : List (String × LogValue)) :
    attrKeys (redactValues attrs) = attrKeys attrs := by
  fun_induction redactValues attrs with
  | case1 => simp
  | case2 k attrs rest ihAttrs ihRest => simp [attrKeys, ihAttrs, ihRest]
  | case3 k v rest hv ih =>
    rw [attrKeys_leaf (isLeaf_redactAttr true hv), attrKeys_leaf hv, ih]

/-- The values a redacting logger writes are the values it was given, each
redacted under its own key. -/
theorem leaves_redactValues (attrs : List (String × LogValue)) :
    leaves (redactValues attrs) = (leaves attrs).map redactLeaf := by
  fun_induction redactValues attrs with
  | case1 => simp [leaves]
  | case2 k attrs rest ihAttrs ihRest => simp [leaves, ihAttrs, ihRest]
  | case3 k v rest hv ih =>
    rw [leaves_leaf (isLeaf_redactAttr true hv), leaves_leaf hv, ih, List.map_cons]
    rfl

theorem jsonMembers_redactValues (attrs : List (String × LogValue)) :
    jsonMembers true attrs = jsonMembers false (redactValues attrs) := by
  fun_induction redactValues attrs with
  | case1 => simp [jsonMembers]
  | case2 k attrs rest ihAttrs ihRest => simp only [jsonMembers, ihAttrs, ihRest]
  | case3 k v rest hv ih =>
    rw [jsonMembers_leaf true hv, jsonMembers_leaf false (isLeaf_redactAttr true hv), ih]
    unfold jsonLeaf
    rw [redactAttr_false]

theorem textPairs_redactValues (attrs : List (String × LogValue)) :
    ∀ base, textPairs true base attrs = textPairs false base (redactValues attrs) := by
  fun_induction redactValues attrs with
  | case1 =>
    intro base
    simp [textPairs]
  | case2 k attrs rest ihAttrs ihRest =>
    intro base
    simp only [textPairs, ihAttrs, ihRest]
  | case3 k v rest hv ih =>
    intro base
    rw [textPairs_leaf true base hv, textPairs_leaf false base (isLeaf_redactAttr true hv), ih]
    unfold textLeaf
    rw [redactAttr_false]

/-! ## The scope -/

/-- The keys of the attributes in a scope: the keys and group names the logger
was given, then the record's. -/
theorem attrKeys_nest (sc : List Scope) (own : List (String × LogValue)) :
    attrKeys (Scope.nest sc own) = sc.flatMap Scope.names ++ attrKeys own := by
  induction sc with
  | nil => simp [Scope.nest]
  | cons step sc ih =>
    cases step with
    | attrs as => simp [Scope.nest, Scope.names, attrKeys_append, ih]
    | group g => simp [Scope.nest, Scope.names, attrKeys, ih]

/-- The values in a scope: those the logger was given, then the record's. -/
theorem leaves_nest (sc : List Scope) (own : List (String × LogValue)) :
    leaves (Scope.nest sc own) = sc.flatMap Scope.values ++ leaves own := by
  induction sc with
  | nil => simp [Scope.nest]
  | cons step sc ih =>
    cases step with
    | attrs as => simp [Scope.nest, Scope.values, leaves_append, ih]
    | group g => simp [Scope.nest, Scope.values, leaves, ih]

/-- Redacting the attributes in a scope redacts what the logger was given and
the record's own attributes. -/
theorem redactValues_nest (sc : List Scope) (own : List (String × LogValue)) :
    redactValues (Scope.nest sc own) = Scope.nest (sc.map Scope.redact) (redactValues own) := by
  induction sc with
  | nil => rfl
  | cons step sc ih =>
    cases step with
    | attrs as => simp [Scope.nest, Scope.redact, redactValues_append, ih]
    | group g => simp [Scope.nest, Scope.redact, redactValues, ih]

theorem isSensitiveKey_msg : isSensitiveKey "msg" = false := by decide +kernel

theorem isSensitiveKey_requestId : isSensitiveKey "request_id" = false := by decide +kernel

/-- The record's own attributes, redacted, are those of the redacted record. -/
theorem redacted_allAttrs (r : Record) : r.redacted.allAttrs = redactValues r.allAttrs := by
  have hLeaf : IsLeaf (.text r.requestId) := fun _ h => by cases h
  unfold Record.allAttrs Record.redacted
  rw [redactValues_append]
  by_cases hId : r.requestId = ""
  · simp [hId, (redactText_eq_empty_iff "").2 rfl, redactValues]
  · have hRedacted : redactText r.requestId ≠ "" := fun h => hId ((redactText_eq_empty_iff _).1 h)
    simp only [String.isEmpty_iff, hId, hRedacted, if_false]
    rw [redactValues_leaf hLeaf, redactAttr_text isSensitiveKey_requestId, redactValues]

/-- A redacting logger writes what the same logger without redaction writes for
the redacted record. -/
theorem line_eq_plain (lg : Logger) (r : Record) (hOn : lg.redact = true) :
    lg.line r = lg.plain.line r.redacted := by
  have hMsg := redactAttr_text isSensitiveKey_msg r.message
  unfold Logger.line Logger.plain
  simp only [hOn, hMsg, redactAttr_false, Record.redacted]
  cases lg.format with
  | json =>
    simp only [jsonMembers_redactValues, redactValues_nest]
    rw [← redacted_allAttrs]
    rfl
  | text =>
    simp only [textPairs_redactValues, redactValues_nest]
    rw [← redacted_allAttrs]
    rfl

/-! ## The values written -/

/-- A text that holds neither a public token nor a bearer credential. -/
def Unexposed (s : String) : Prop :=
  ¬Occurs publicShapes s.toList ∧ ¬Occurs bearerShapes s.toList

/-- How a redacting logger writes a value that is not a group, under key `k`. -/
structure Redacted (k : String) (v : LogValue) : Prop where
  sensitive : isSensitiveKey k = true → v = .text redactedMark
  unexposed : ∀ s, v = .text s → Unexposed s

theorem unexposed_redactText (s : String) : Unexposed (redactText s) := redactText_clean s

theorem unexposed_mark : Unexposed redactedMark := by
  have hMark : redactedMark.toList = ['*', '*', '*'] := by simp [redactedMark]
  rw [Unexposed, hMark]
  exact ⟨not_occurs_stop_cons stops_public_star (not_occurs_stop_cons stops_public_star
      (not_occurs_stop_cons stops_public_star (not_occurs_of_not_opens
        (fun σ hS => by rw [hS]; simp [publicShape]) (by simp)))),
    not_occurs_stop_cons stops_bearer_star (not_occurs_stop_cons stops_bearer_star
      (not_occurs_stop_cons stops_bearer_star (not_occurs_of_not_opens
        (fun σ ⟨k, hσ⟩ => by rw [hσ]; simp [bearerShape]) (by simp))))⟩

/-- Every value that is not a group is written redacted. -/
theorem redacted_redactAttr (k : String) {v : LogValue} (hv : IsLeaf v) :
    Redacted k (redactAttr true k v) := by
  cases hk : isSensitiveKey k
  · refine ⟨fun h => absurd (hk.symm.trans h) Bool.false_ne_true, ?_⟩
    intro s hs
    cases v with
    | group a => exact absurd rfl (hv a)
    | text t =>
      rw [redactAttr_text hk] at hs
      cases hs
      exact unexposed_redactText t
    | _ => simp [redactAttr, hk] at hs
  · have hMark : redactAttr true k v = .text redactedMark := by
      cases v with
      | group a => exact absurd rfl (hv a)
      | _ => simp [redactAttr, hk]
    rw [hMark]
    refine ⟨fun _ => rfl, ?_⟩
    intro s hs
    cases hs
    exact unexposed_mark

theorem isLeaf_of_mem_leaves {attrs : List (String × LogValue)} :
    ∀ p ∈ leaves attrs, IsLeaf p.2 := by
  fun_induction leaves attrs with
  | case1 => simp
  | case2 _ attrs rest ihAttrs ihRest =>
    intro p hp
    rcases List.mem_append.1 hp with hp | hp
    · exact ihAttrs p hp
    · exact ihRest p hp
  | case3 k v rest hv ih =>
    intro p hp
    rcases List.mem_cons.1 hp with rfl | hp
    · exact hv
    · exact ih p hp

end Turnstile.Log
