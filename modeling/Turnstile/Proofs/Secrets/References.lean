import Turnstile.Proofs.Secrets.Lookup
import Mathlib.Data.List.Forall2
import Mathlib.Logic.ExistsUnique

/-!
# Resolving the references of a text

A reference is `${secret:` followed by at least one character other than `}`,
then `}` (`IsReferenceAt`).  `Tokenized` reads a text from left to right into
literal characters and references: a character is literal only where no
reference starts.  Every text has exactly one such reading, the one `pieces`
gives (`tokenized_iff`).

Resolving a text against a manager (`ResolvesBySplit`):

* succeeds exactly when the secret named by every reference, without
  surrounding white space, is found, and then gives the literals and those
  values in order (`fill`); the values are inserted as they are, never read
  for references again;
* otherwise fails listing the failure of every reference that was not found,
  in order, joined by `; `;
* gives a text without references back unchanged;
* and the text holds a reference, anywhere, exactly when its reading has one.
-/

namespace Turnstile.Secrets

open Turnstile.Host

/-! ## Where a reference starts -/

/-- A reference at the start of a text: the opening, a body of at least one
character none of which is `}`, the closing `}`, and what follows. -/
def IsReferenceAt (cs body after : List Char) : Prop :=
  cs = opening ++ body ++ '}' :: after ∧ body ≠ [] ∧ '}' ∉ body

theorem splitAtClose_not_mem : ∀ {cs body after : List Char},
    splitAtClose cs = some (body, after) → '}' ∉ body
  | [], _, _, h => by cases h
  | c :: rest, body, after, h => by
    unfold splitAtClose at h
    split at h
    · cases h
      simp
    · rename_i hc
      cases hr : splitAtClose rest with
      | none => rw [hr] at h; cases h
      | some p =>
        rw [hr] at h
        cases h
        simpa [Ne.symm hc] using splitAtClose_not_mem hr

theorem splitAtClose_of_not_mem (after : List Char) :
    ∀ {body : List Char}, '}' ∉ body → splitAtClose (body ++ '}' :: after) = some (body, after)
  | [], _ => by simp [splitAtClose]
  | c :: rest, h => by
    have hc : c ≠ '}' := fun hc => h (hc ▸ List.mem_cons_self)
    have hRest : '}' ∉ rest := fun hr => h (List.mem_cons_of_mem _ hr)
    simp [splitAtClose, hc, splitAtClose_of_not_mem after hRest]

theorem afterOpening_append (rest : List Char) : afterOpening (opening ++ rest) = some rest := by
  simp [afterOpening]

/-- The matcher finds a reference exactly where one starts. -/
theorem referenceAt_eq_some_iff {cs body after : List Char} :
    referenceAt cs = some (body, after) ↔ IsReferenceAt cs body after := by
  constructor
  · intro h
    refine ⟨(referenceAt_spec h).symm, ?_⟩
    unfold referenceAt at h
    split at h
    · cases h
    · split at h
      · rename_i body' after' hs
        split at h
        · cases h
        · rename_i hEmpty
          cases h
          exact ⟨by simpa using hEmpty, splitAtClose_not_mem hs⟩
      · cases h
  · rintro ⟨rfl, hBody, hClose⟩
    have hEmpty : body.isEmpty = false := by simpa using hBody
    simp [referenceAt, List.append_assoc, afterOpening_append, splitAtClose_of_not_mem after hClose,
      hEmpty]

/-! ## Reading a text into literals and references -/

/-- A text read from left to right into literal characters and references,
leftmost reference first: a character is literal only where no reference
starts. -/
inductive Tokenized : List Char → List Piece → Prop
  | nil : Tokenized [] []
  | char {c : Char} {rest : List Char} {ps : List Piece} :
      (∀ body after, ¬ IsReferenceAt (c :: rest) body after) → Tokenized rest ps →
      Tokenized (c :: rest) (.char c :: ps)
  | reference {body after : List Char} {ps : List Piece} :
      body ≠ [] → '}' ∉ body → Tokenized after ps →
      Tokenized (opening ++ body ++ '}' :: after) (.reference body :: ps)

theorem pieces_of_referenceAt {cs body after : List Char} (h : referenceAt cs = some (body, after)) :
    pieces cs = .reference body :: pieces after := by
  rw [pieces.eq_def]
  split
  · rename_i body' after' h'
    rw [h] at h'
    cases h'
    rfl
  · rename_i h'
    rw [h] at h'
    cases h'

theorem pieces_cons_of_referenceAt {c : Char} {rest : List Char} (h : referenceAt (c :: rest) = none) :
    pieces (c :: rest) = .char c :: pieces rest := by
  rw [pieces.eq_def]
  split
  · rename_i body after h'
    rw [h] at h'
    cases h'
  · rfl

@[simp]
theorem pieces_nil : pieces [] = [] := by
  rw [pieces.eq_def]
  rfl

theorem tokenized_pieces (cs : List Char) : Tokenized cs (pieces cs) := by
  induction cs using pieces.induct with
  | case1 cs body after h _ ih =>
    obtain ⟨hCs, hBody, hClose⟩ := referenceAt_eq_some_iff.1 h
    rw [pieces_of_referenceAt h, hCs]
    exact .reference hBody hClose ih
  | case2 h => exact pieces_nil ▸ .nil
  | case3 c rest h ih =>
    rw [pieces_cons_of_referenceAt h]
    refine .char (fun body after hRef => ?_) ih
    rw [referenceAt_eq_some_iff.2 hRef] at h
    cases h

/-- A text has one reading, the one `pieces` gives. -/
theorem tokenized_iff {cs : List Char} {ps : List Piece} : Tokenized cs ps ↔ ps = pieces cs := by
  refine ⟨fun h => ?_, fun h => h ▸ tokenized_pieces cs⟩
  induction h with
  | nil => exact pieces_nil.symm
  | @char c rest ps hNone _ ih =>
    have hAt : referenceAt (c :: rest) = none := by
      cases hr : referenceAt (c :: rest) with
      | none => rfl
      | some r => exact absurd (referenceAt_eq_some_iff.1 hr) (hNone r.1 r.2)
    rw [pieces_cons_of_referenceAt hAt, ih]
  | @reference body after ps hBody hClose _ ih =>
    rw [pieces_of_referenceAt (referenceAt_eq_some_iff.2 ⟨rfl, hBody, hClose⟩), ih]

/-- The names of the references of a reading, in order, without surrounding
white space. -/
def referenceNames (ps : List Piece) : List String := ps.filterMap Piece.name?

@[simp]
theorem referenceNames_nil : referenceNames [] = [] := rfl

@[simp]
theorem referenceNames_char (c : Char) (ps : List Piece) :
    referenceNames (.char c :: ps) = referenceNames ps := rfl

@[simp]
theorem referenceNames_reference (body : List Char) (ps : List Piece) :
    referenceNames (.reference body :: ps) =
      Text.trimBlank (String.ofList body) :: referenceNames ps := rfl

/-- A reading holds a reference exactly when the text holds one somewhere. -/
theorem referenceNames_ne_nil_iff {cs : List Char} {ps : List Piece} (h : Tokenized cs ps) :
    referenceNames ps ≠ [] ↔
      ∃ pre rest body after, cs = pre ++ rest ∧ IsReferenceAt rest body after := by
  induction h with
  | nil =>
    simp only [referenceNames_nil, ne_eq, not_true_eq_false, false_iff, not_exists, not_and]
    rintro pre rest body after hNil ⟨rfl, -, -⟩
    have hLength := congrArg List.length hNil
    simp only [List.length_nil, List.length_append, List.length_cons] at hLength
    omega
  | @char c rest ps hNone _ ih =>
    rw [referenceNames_char, ih]
    constructor
    · rintro ⟨pre, rest', body, after, rfl, hRef⟩
      exact ⟨c :: pre, rest', body, after, rfl, hRef⟩
    · rintro ⟨pre, rest', body, after, hSplit, hRef⟩
      -- no reference starts at the literal, so the one found starts later
      cases pre with
      | nil => exact absurd (by simpa using hSplit ▸ hRef) (hNone body after)
      | cons c' pre =>
        obtain ⟨-, rfl⟩ := List.cons_eq_cons.1 hSplit
        exact ⟨pre, rest', body, after, rfl, hRef⟩
  | @reference body after ps hBody hClose _ _ =>
    simp only [referenceNames_reference, ne_eq, reduceCtorEq, not_false_eq_true, true_iff]
    exact ⟨[], _, body, after, rfl, rfl, hBody, hClose⟩

/-- Whether a text holds a reference is whether its reading has one. -/
theorem hasReferences_iff (s : String) :
    hasReferences s = true ↔ referenceNames (pieces s.toList) ≠ [] := by
  simp [hasReferences, referenceNames, List.filterMap_eq_nil_iff, Option.isSome_iff_ne_none]

/-! ## Resolving -/

/-- The literals of a reading, with its references replaced in order by the
given values. -/
def fill : List Piece → List String → String
  | [], _ => ""
  | .char c :: ps, vs => String.singleton c ++ fill ps vs
  | .reference _ :: ps, vs => vs.headD "" ++ fill ps vs.tail

namespace Manager

variable (m : Manager) (w : World)

/-- The messages of the references whose secret is not found, in order. -/
def failures (names : List String) : List String :=
  names.filterMap fun n => (failureOf (m.getSecret w n)).map SecretError.message

@[simp]
theorem failures_nil : m.failures w [] = [] := rfl

theorem failures_cons_ok {n v : String} (names : List String) (h : m.getSecret w n = .ok v) :
    m.failures w (n :: names) = m.failures w names := by
  simp [failures, failureOf, h]

theorem failures_cons_error {n : String} {e : SecretError} (names : List String)
    (h : m.getSecret w n = .error e) : m.failures w (n :: names) = e.message :: m.failures w names := by
  simp [failures, failureOf, h]

/-- The failures the resolver collects are those of the references' names. -/
theorem filterMap_pieceValue (ps : List Piece) :
    ((ps.map (m.pieceValue w)).filterMap fun r => match r with
      | .error e => some e.message
      | .ok _ => none) = m.failures w (referenceNames ps) := by
  induction ps with
  | nil => rfl
  | cons p ps ih =>
    rw [List.map_cons, List.filterMap_cons]
    cases p with
    | char c => exact ih
    | reference body =>
      have hValue : m.pieceValue w (.reference body) = m.getSecret w (Text.trimBlank (String.ofList body)) :=
        rfl
      rw [hValue, referenceNames_reference]
      cases hg : m.getSecret w (Text.trimBlank (String.ofList body)) with
      | error e => rw [failures_cons_error _ _ _ hg, ih]
      | ok v => rw [failures_cons_ok _ _ _ hg, ih]

/-- No reference fails exactly when every reference has a value. -/
theorem failures_eq_nil_iff (names : List String) :
    m.failures w names = [] ↔ ∃ values, List.Forall₂ (fun n v => m.getSecret w n = .ok v) names values := by
  induction names with
  | nil => simp
  | cons n names ih =>
    cases hg : m.getSecret w n with
    | error e =>
      refine ⟨fun h => by simp [failures_cons_error _ _ _ hg] at h, fun ⟨vs, hvs⟩ => ?_⟩
      obtain ⟨v, _, hv, -, -⟩ := List.forall₂_cons_left_iff.1 hvs
      rw [hg] at hv
      cases hv
    | ok v =>
      rw [failures_cons_ok _ _ _ hg, ih]
      constructor
      · rintro ⟨vs, hvs⟩
        exact ⟨v :: vs, .cons hg hvs⟩
      · rintro ⟨vs, hvs⟩
        obtain ⟨_, vs', -, hvs', -⟩ := List.forall₂_cons_left_iff.1 hvs
        exact ⟨vs', hvs'⟩

/-- When every reference has its value, the resolver joins the literals and the
values in order. -/
theorem join_pieceValue {ps : List Piece} {values : List String}
    (h : List.Forall₂ (fun n v => m.getSecret w n = .ok v) (referenceNames ps) values) :
    String.join ((ps.map (m.pieceValue w)).map fun r => match r with
      | .ok v => v
      | .error _ => "") = fill ps values := by
  induction ps generalizing values with
  | nil => simp [fill]
  | cons p ps ih =>
    cases p with
    | char c =>
      rw [List.map_cons, List.map_cons, String.join_cons, ih h]
      rfl
    | reference body =>
      simp only [referenceNames_reference] at h
      obtain ⟨v, vs, hv, hvs, rfl⟩ := List.forall₂_cons_left_iff.1 h
      have hValue : m.pieceValue w (.reference body) = .ok v := hv
      rw [List.map_cons, List.map_cons, String.join_cons, ih hvs, hValue]
      rfl

/-- The literals of a reading without references are the text itself. -/
theorem fill_of_referenceNames_nil {ps : List Piece} (h : referenceNames ps = []) (vs : List String) :
    fill ps vs = String.ofList (ps.flatMap Piece.source) := by
  induction ps with
  | nil => rfl
  | cons p ps ih =>
    cases p with
    | char c => simp_all [fill, Piece.source]
    | reference body => simp at h

/-- What resolving the references of a text gives, read through the text's
one reading into literals and references. -/
structure ResolvesBySplit (input : String) : Prop where
  /-- The text has exactly one reading. -/
  split : ∃! ps, Tokenized input.toList ps
  /-- Resolving succeeds exactly when every reference's secret is found, and
  gives the literals with those values, in order. -/
  ok_iff : ∀ ps, Tokenized input.toList ps → ∀ out, m.resolveReferences w input = .ok out ↔
    ∃ values, List.Forall₂ (fun n v => m.getSecret w n = .ok v) (referenceNames ps) values ∧
      out = fill ps values
  /-- Otherwise it fails, listing the failure of every reference whose secret
  is not found, in order. -/
  error_iff : ∀ ps, Tokenized input.toList ps → ∀ msg, m.resolveReferences w input = .error msg ↔
    (∃ n ∈ referenceNames ps, ∃ e, m.getSecret w n = .error e) ∧
      msg = "failed to resolve secret references: " ++ "; ".intercalate (m.failures w (referenceNames ps))
  /-- A text without references is given back as it is. -/
  unchanged : ∀ ps, Tokenized input.toList ps → referenceNames ps = [] →
    m.resolveReferences w input = .ok input
  /-- The text holds a reference exactly when its reading has one, which is
  exactly when one starts somewhere in it. -/
  detects : ∀ ps, Tokenized input.toList ps →
    (hasReferences input = true ↔ referenceNames ps ≠ []) ∧
    (hasReferences input = true ↔
      ∃ pre rest body after, input.toList = pre ++ rest ∧ IsReferenceAt rest body after)

/-- No reference fails exactly when none has a failure. -/
theorem failures_eq_nil_iff_none (names : List String) :
    m.failures w names = [] ↔ ∀ n ∈ names, ∀ e, m.getSecret w n ≠ .error e := by
  simp only [failures, List.filterMap_eq_nil_iff, Option.map_eq_none_iff]
  refine forall₂_congr fun n _ => ?_
  cases m.getSecret w n <;> simp [failureOf]

/-- The resolver decides on the failures of the references' names. -/
theorem resolveReferences_eq_ite (input : String) :
    m.resolveReferences w input =
      if m.failures w (referenceNames (pieces input.toList)) = [] then
        .ok (String.join (((pieces input.toList).map (m.pieceValue w)).map fun r => match r with
          | .ok v => v
          | .error _ => ""))
      else .error ("failed to resolve secret references: " ++
        "; ".intercalate (m.failures w (referenceNames (pieces input.toList)))) := by
  unfold resolveReferences
  -- the resolver's own test on each result is the one `failures` is read through
  rw [← filterMap_pieceValue]
  exact if_congr List.isEmpty_iff rfl rfl

/-- Resolving a text follows its reading: the values of all its references, or
the failures of those not found. -/
theorem resolveReferences_follows_split (input : String) : ResolvesBySplit m w input where
  split := ⟨pieces input.toList, tokenized_pieces _, fun _ h => tokenized_iff.1 h⟩
  ok_iff ps h out := by
    rw [tokenized_iff.1 h, resolveReferences_eq_ite]
    split
    · rename_i hNone
      obtain ⟨values, hValues⟩ := (m.failures_eq_nil_iff w _).1 hNone
      rw [m.join_pieceValue w hValues]
      -- the values of the references are determined by their names
      refine ⟨fun hOut => ⟨values, hValues, (Except.ok.inj hOut).symm⟩, ?_⟩
      rintro ⟨values', hValues', rfl⟩
      rw [← m.join_pieceValue w hValues, m.join_pieceValue w hValues']
    · rename_i hSome
      refine ⟨fun hOut => (by cases hOut), fun ⟨values, hValues, _⟩ => ?_⟩
      exact absurd ((m.failures_eq_nil_iff w _).2 ⟨values, hValues⟩) hSome
  error_iff ps h msg := by
    rw [tokenized_iff.1 h, resolveReferences_eq_ite]
    split
    · rename_i hNone
      refine ⟨fun hMsg => (by cases hMsg), fun ⟨⟨n, hn, e, he⟩, _⟩ => ?_⟩
      exact absurd he ((m.failures_eq_nil_iff_none w _).1 hNone n hn e)
    · rename_i hSome
      have hFailed : ∃ n ∈ referenceNames (pieces input.toList), ∃ e, m.getSecret w n = .error e := by
        by_contra hAll
        exact hSome ((m.failures_eq_nil_iff_none w _).2 fun n hn e he => hAll ⟨n, hn, e, he⟩)
      exact ⟨fun hMsg => ⟨hFailed, (Except.error.inj hMsg).symm⟩, fun ⟨_, hMsg⟩ => hMsg ▸ rfl⟩
  unchanged ps h hNames := by
    rw [tokenized_iff.1 h] at hNames
    have hNone : m.failures w (referenceNames (pieces input.toList)) = [] := by
      rw [hNames]
      rfl
    have hValues : List.Forall₂ (fun n v => m.getSecret w n = .ok v) (referenceNames (pieces input.toList)) [] := by
      rw [hNames]
      exact .nil
    rw [resolveReferences_eq_ite, if_pos hNone, m.join_pieceValue w hValues,
      fill_of_referenceNames_nil hNames, pieces_source, String.ofList_toList]
  detects ps h := by
    rw [hasReferences_iff, ← tokenized_iff.1 h]
    exact ⟨Iff.rfl, referenceNames_ne_nil_iff h⟩

end Manager

end Turnstile.Secrets
