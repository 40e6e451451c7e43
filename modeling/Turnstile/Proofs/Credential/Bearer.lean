import Mathlib.Data.String.Basic
import Turnstile.Credential.Bearer

/-!
# Reading a bearer credential

An `Authorization` value presents the token `tok` exactly when it is a scheme,
one space and `tok`, where the scheme equals `bearer` without regard to case and
`tok` is not empty (`ofAuthorization_eq_bearer_iff`).  The token is everything
after the first space, unchanged: it may hold spaces of its own.

The value is cut with the text splitter, so the statement rests on what
splitting at a single character does: the pieces are the runs of characters
between the separators (`splitOn_singleton`), and joining them with the
separator gives the text back (`intercalate_splitOn_space`).  A scheme that
folds to `bearer` holds no space (`space_not_mem_of_foldsToBearer`), so the
first space of the value is the one after the scheme.
-/

namespace Turnstile.Text

open String

/-! ## Splitting at one character -/

/-- Splitting from a position inside a text: `l` is already cut, `m` is the
piece being read, and `r` is what is left. -/
theorem splitOnAux_singleton (c : Char) (l m r : List Char) (acc : List String) :
    splitOnAux (ofList (l ++ m ++ r)) (String.singleton c) ⟨utf8Len l⟩
        ⟨utf8Len l + utf8Len m⟩ 0 acc =
      acc.reverse ++ (List.splitOnPPrepend (· == c) r m.reverse).map ofList := by
  induction r generalizing l m acc with
  | nil =>
    rw [splitOnAux]
    simp only [List.append_nil, atEnd_iff, rawEndPos_ofList, utf8Len_append, Pos.Raw.mk_le_mk,
      le_refl, if_true]
    simpa using extract_of_valid l m []
  | cons d r ih =>
    rw [splitOnAux, singleton_eq_ofList]
    have hEnd : ¬ (Pos.Raw.atEnd (ofList (l ++ m ++ d :: r)) ⟨utf8Len l + utf8Len m⟩) := by
      have hPos := d.utf8Size_pos
      simp only [atEnd_iff, rawEndPos_ofList, utf8Len_append, utf8Len_cons, Pos.Raw.mk_le_mk]
      omega
    have hGet : Pos.Raw.get (ofList (l ++ m ++ d :: r)) ⟨utf8Len l + utf8Len m⟩ = d := by
      simpa using get_of_valid (l ++ m) (d :: r)
    have hNext : Pos.Raw.next (ofList (l ++ m ++ d :: r)) ⟨utf8Len l + utf8Len m⟩ =
        ⟨utf8Len l + utf8Len m + d.utf8Size⟩ := by
      simpa using next_of_valid (l ++ m) d r
    have hSep : Pos.Raw.get (ofList [c]) 0 = c := by
      simpa using get_of_valid [] [c]
    rw [if_neg hEnd, hGet, hSep]
    by_cases hdc : d = c
    · -- the separator ends the piece `m` and starts an empty one
      subst hdc
      have hSepNext : Pos.Raw.next (ofList [d]) 0 = ⟨d.utf8Size⟩ := by
        simpa using next_of_valid [] d []
      have hSepEnd : Pos.Raw.atEnd (ofList [d]) ⟨d.utf8Size⟩ := by
        simp only [atEnd_iff, rawEndPos_ofList, utf8Len_cons, utf8Len_nil, Nat.zero_add,
          Pos.Raw.mk_le_mk, le_refl]
      have hBack : (⟨utf8Len l + utf8Len m + d.utf8Size⟩ : Pos.Raw).unoffsetBy ⟨d.utf8Size⟩ =
          ⟨utf8Len l + utf8Len m⟩ := by
        simp [Pos.Raw.unoffsetBy]
      simp only [beq_self_eq_true, if_true, hNext, hSepNext, hSepEnd, hBack]
      have hPiece := extract_of_valid l m (d :: r)
      have hRest := ih (l ++ m ++ [d]) [] (ofList m :: acc)
      rw [singleton_eq_ofList] at hRest
      simp only [List.append_nil, List.append_assoc, List.singleton_append, utf8Len_append,
        utf8Len_cons, utf8Len_nil, Nat.zero_add, Nat.add_zero, Nat.add_assoc] at hRest hPiece ⊢
      rw [hPiece, hRest]
      simp [List.splitOnPPrepend_cons_eq_if]
    · -- any other character extends the piece `m`
      have hStay : (⟨utf8Len l + utf8Len m⟩ : Pos.Raw).unoffsetBy 0 = ⟨utf8Len l + utf8Len m⟩ := by
        simp [Pos.Raw.unoffsetBy]
      have hRest := ih l (m ++ [d]) acc
      rw [singleton_eq_ofList] at hRest
      simp only [beq_iff_eq, hdc, if_false, hStay, hNext]
      simp only [List.append_assoc, List.singleton_append, utf8Len_append, utf8Len_cons,
        utf8Len_nil, Nat.zero_add, Nat.add_assoc] at hRest ⊢
      rw [hRest]
      simp [List.splitOnPPrepend_cons_eq_if, hdc]

/-- Splitting a text at one character gives the runs between its occurrences. -/
theorem splitOn_singleton (s : String) (c : Char) :
    s.splitOn (String.singleton c) = (s.toList.splitOn c).map ofList := by
  have h := splitOnAux_singleton c [] [] s.toList []
  simp only [List.nil_append, ofList_toList, utf8Len_nil, Nat.add_zero, List.reverse_nil] at h
  rw [String.splitOn, if_neg (by simp [singleton_ne_empty]), List.splitOn_eq_splitOnP]
  exact h

theorem splitOn_space (s : String) : s.splitOn " " = (s.toList.splitOn ' ').map ofList :=
  splitOn_singleton s ' '

/-- Joining the pieces of a text cut at its spaces gives the text back. -/
theorem intercalate_splitOn_space (s : String) : " ".intercalate (s.splitOn " ") = s := by
  apply String.toList_inj.1
  simp [splitOn_space, Function.comp_def]

end Turnstile.Text

namespace Turnstile.Credential

open String Text

/-! ## The scheme -/

/-- A word that folds to `bearer` holds no space. -/
theorem space_not_mem_of_foldsToBearer {scheme : String}
    (h : Text.equalsFoldedAscii scheme "bearer" = true) : ' ' ∉ scheme.toList := by
  intro hMem
  simp only [Text.equalsFoldedAscii, Bool.and_eq_true, beq_iff_eq, List.all_eq_true] at h
  obtain ⟨hLen, hAll⟩ := h
  obtain ⟨i, hi, hc⟩ := List.getElem_of_mem hMem
  have hj : i < "bearer".toList.length := by
    rw [String.length_toList, ← hLen, ← String.length_toList]
    exact hi
  -- the space is paired with a letter of `bearer`, and folds to none of them
  have hPair : (scheme.toList[i], "bearer".toList[i]) ∈ List.zip scheme.toList "bearer".toList := by
    rw [List.mem_iff_getElem]
    exact ⟨i, by simp only [List.length_zip]; omega, by simp⟩
  have hFold := hAll _ hPair
  rw [hc] at hFold
  have hNone : ∀ x ∈ "bearer".toList, Text.foldsToAscii ' ' x = false := by
    intro x hx
    have hChars : "bearer".toList = ['b', 'e', 'a', 'r', 'e', 'r'] := by simp
    simp only [hChars, List.mem_cons, List.not_mem_nil, or_false] at hx
    rcases hx with rfl | rfl | rfl | rfl | rfl | rfl <;> rfl
  rw [hNone _ (List.getElem_mem hj)] at hFold
  cases hFold

/-! ## The credential -/

/-- An `Authorization` value presents `tok` exactly when it is a scheme that
folds to `bearer`, one space and the non-empty `tok`. -/
theorem ofAuthorization_eq_bearer_iff (v tok : String) :
    Presented.ofAuthorization (some v) = .bearer tok ↔
      ∃ scheme, v = scheme ++ " " ++ tok ∧ Text.equalsFoldedAscii scheme "bearer" = true ∧
        tok ≠ "" := by
  constructor
  · intro h
    simp only [Presented.ofAuthorization] at h
    split at h
    · rename_i scheme first more hSplit
      split at h
      · rename_i hCond
        injection h with hTok
        simp only [Bool.and_eq_true, Bool.not_eq_true', String.isEmpty_eq_false_iff] at hCond
        -- the value is its pieces joined back, the scheme first
        have hv : v = scheme ++ " " ++ " ".intercalate (first :: more) := by
          rw [← intercalate_cons_cons, ← hSplit, intercalate_splitOn_space]
        exact ⟨scheme, hTok ▸ hv, hCond.1, hTok ▸ hCond.2⟩
      · cases h
    · cases h
  · rintro ⟨scheme, rfl, hFold, hTok⟩
    have hSplit : (scheme ++ " " ++ tok).splitOn " " = scheme :: tok.splitOn " " := by
      simp [splitOn_space, List.splitOn_append_cons_self_of_not_mem
        (space_not_mem_of_foldsToBearer hFold)]
    obtain ⟨first, more, hRest⟩ : ∃ first more, tok.splitOn " " = first :: more :=
      List.exists_cons_of_ne_nil (by simp [splitOn_space, List.splitOn_ne_nil])
    have hJoin : " ".intercalate (first :: more) = tok := by
      rw [← hRest, intercalate_splitOn_space]
    simp only [Presented.ofAuthorization, hSplit, hRest, hJoin, hFold, Bool.true_and]
    simp [hTok]

end Turnstile.Credential
