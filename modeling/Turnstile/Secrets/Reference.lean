import Turnstile.Text.Blank

/-!
# Secret references

A text may refer to secrets by name as `${secret:name}`: the opening
`${secret:`, at least one character other than `}`, and the closing `}`.  The
name is the text between, with surrounding white space removed.  References are
found from left to right without overlapping, so in `${secret:${secret:a}}` the
one reference names `${secret:a` and the last `}` stays text.

A text splits into pieces: single characters that are not part of a reference,
and references.  Joining the pieces back gives the text.
-/

namespace Turnstile.Secrets

/-- The characters that open a reference. -/
def opening : List Char := "$\x7bsecret:".toList

/-- A piece of a text: a character or a whole reference with its name. -/
inductive Piece where
  | char (c : Char)
  | reference (body : List Char)
  deriving Inhabited, Repr, DecidableEq

/-- The text a piece stands for. -/
def Piece.source : Piece → List Char
  | .char c => [c]
  | .reference body => opening ++ body ++ ['}']

/-- The name a reference gives: its body without surrounding white space. -/
def Piece.name? : Piece → Option String
  | .char _ => none
  | .reference body => some (Text.trimBlank (String.ofList body))

/-- The rest of a text after the opening of a reference, when it starts with one. -/
def afterOpening (cs : List Char) : Option (List Char) :=
  if cs.take opening.length = opening then some (cs.drop opening.length) else none

/-- The characters before the first `}` and those after it, when there is one. -/
def splitAtClose : List Char → Option (List Char × List Char)
  | [] => none
  | c :: rest =>
    if c = '}' then some ([], rest) else (splitAtClose rest).map fun p => (c :: p.1, p.2)

/-- The reference at the start of a text: its body and what follows it. -/
def referenceAt (cs : List Char) : Option (List Char × List Char) :=
  match afterOpening cs with
  | none => none
  | some rest =>
    match splitAtClose rest with
    | some (body, after) => if body.isEmpty then none else some (body, after)
    | none => none

theorem afterOpening_spec {cs rest : List Char} (h : afterOpening cs = some rest) :
    opening ++ rest = cs := by
  unfold afterOpening at h
  split at h
  · rename_i ht
    cases h
    have hs := List.take_append_drop opening.length cs
    rwa [ht] at hs
  · cases h

theorem splitAtClose_spec : ∀ {cs body after : List Char},
    splitAtClose cs = some (body, after) → body ++ '}' :: after = cs
  | [], _, _, h => by cases h
  | c :: rest, body, after, h => by
    unfold splitAtClose at h
    split at h
    · rename_i hc
      cases h
      simp [hc]
    · cases hr : splitAtClose rest with
      | none => rw [hr] at h; cases h
      | some p =>
        rw [hr] at h
        cases h
        simp [splitAtClose_spec hr]

theorem referenceAt_spec {cs body after : List Char} (h : referenceAt cs = some (body, after)) :
    opening ++ body ++ '}' :: after = cs := by
  unfold referenceAt at h
  split at h
  · cases h
  · rename_i rest hrest
    split at h
    · rename_i body' after' hs
      split at h
      · cases h
      · cases h
        rw [List.append_assoc, splitAtClose_spec hs, afterOpening_spec hrest]
    · cases h

theorem referenceAt_shorter {cs body after : List Char}
    (h : referenceAt cs = some (body, after)) : after.length < cs.length := by
  have := congrArg List.length (referenceAt_spec h)
  simp only [List.length_append, List.length_cons] at this
  omega

/-- Split a text into characters and references, leftmost reference first. -/
def pieces (cs : List Char) : List Piece :=
  match h : referenceAt cs with
  | some (body, after) =>
    have : after.length < cs.length := referenceAt_shorter h
    .reference body :: pieces after
  | none =>
    match cs with
    | [] => []
    | c :: rest => .char c :: pieces rest
termination_by cs.length

/-- Whether a text holds a reference. -/
def hasReferences (s : String) : Bool :=
  (pieces s.toList).any fun p => p.name?.isSome

theorem pieces_source (cs : List Char) :
    ((pieces cs).flatMap Piece.source) = cs := by
  induction cs using pieces.induct with
  | case1 cs body after h _ ih =>
    rw [pieces.eq_def]
    split
    · rename_i body' after' h'
      rw [h] at h'
      cases h'
      simp only [List.flatMap_cons, Piece.source, ih]
      rw [← referenceAt_spec h]
      simp
    · rename_i h'
      rw [h] at h'
      cases h'
  | case2 h =>
    rw [pieces.eq_def]
    split
    · rename_i h'
      rw [h] at h'
      cases h'
    · rfl
  | case3 c rest h ih =>
    rw [pieces.eq_def]
    split
    · rename_i h'
      rw [h] at h'
      cases h'
    · simp [Piece.source, ih]

end Turnstile.Secrets
