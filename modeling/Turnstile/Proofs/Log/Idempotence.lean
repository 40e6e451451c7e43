import Turnstile.Proofs.Log.Shapes

/-!
# Redacting twice

A redacted text is redacted again to itself.

* The bearer and the public rewrites find nothing in a redacted text: each of
  their matches starts a run of their shapes (`startsIn_bearer_of_bearerHit`,
  `startsIn_public_of_publicHit`), and a redacted text holds no such run
  (`redactText_clean`).
* The password rewrite does find matches in its own output, `password=***`
  among them, but only the ones it wrote.  Each replacement is matched again
  as a whole and rewritten to itself (`passwordHit_replay`), and no character
  it copied starts a match: the one character of a replacement that differs
  from the text it stands for is its `=`, written where the text had a
  separator of its own (`passwordHit_copy`).

Main statement: `redactText_clean_idempotent`.
-/

namespace Turnstile.Log

open Turnstile.Text

/-! ## Rewrites that find nothing -/

/-- A rewrite whose matches all start runs of the shapes `S` leaves a text
without such runs as it is. -/
theorem rewriteAll_of_not_occurs {S : Shape → Prop} {rule : List Char → Option Hit}
    (hStart : ∀ cs h, rule cs = some h → StartsIn S cs) (cs : List Char) :
    ¬Occurs S cs → rewriteAll rule cs = cs := by
  fun_induction rewriteAll rule cs with
  | case1 => exact fun _ => rfl
  | case2 c rest h hHit _ => exact fun hNo => absurd (occurs_of_startsIn (hStart _ h hHit)) hNo
  | case3 c rest _ ih =>
    intro hNo
    rw [ih fun hOcc => hNo (occurs_append_right hOcc : Occurs S ([c] ++ rest))]

/-! ## Runs -/

section Runs

variable (p : Char → Bool) (l : List Char)

/-- A text is the run at its head and what follows, which starts with no
character of the run's class. -/
theorem runLength_split :
    ∃ a b, l = a ++ b ∧ a.length = runLength p l ∧ (∀ x ∈ a, p x = true) ∧
      ∀ x b', b = x :: b' → p x = false := by
  refine ⟨l.takeWhile p, l.dropWhile p, List.takeWhile_append_dropWhile.symm, rfl,
    fun x hx => List.all_eq_true.1 List.all_takeWhile x hx, fun x b' hb => ?_⟩
  have hHead := List.head_dropWhile_not p (l := l) (by rw [hb]; exact List.cons_ne_nil x b')
  simpa only [hb, List.head_cons] using hHead

end Runs

/-! ## Bearer credentials and public tokens start runs of their shapes -/

theorem startsIn_bearer_of_bearerHit {cs : List Char} {h : Hit} (hHit : bearerHit cs = some h) :
    StartsIn bearerShapes cs := by
  unfold bearerHit at hHit
  by_cases hFold : startsFolded "bearer".toList cs = true
  · rw [if_neg (by rw [hFold]; decide)] at hHit
    dsimp only at hHit
    obtain ⟨u, rest, rfl, hu⟩ := startsFolded_iff.1 hFold
    rw [bearerWord_eq] at hu
    have hLen : u.length = 6 := by simpa [bearerWord] using hu.length_eq.symm
    rw [List.drop_left' hLen] at hHit
    have hSome : ¬(runLength isAsciiBlank rest = 0 ∨
        runLength isBearerTokenChar (rest.drop (runLength isAsciiBlank rest)) = 0) := by
      intro hZero
      rw [if_pos hZero] at hHit
      cases hHit
    -- the blanks after the word, then the first token character
    obtain ⟨sp, after, rfl, hSpLen, hSp, -⟩ := runLength_split isAsciiBlank rest
    rw [← hSpLen, List.drop_left' rfl] at hSome
    obtain ⟨x, after', rfl, hx⟩ : ∃ x after', after = x :: after' ∧ isBearerTokenChar x = true := by
      cases after with
      | nil => simp [runLength] at hSome
      | cons x after' =>
        cases hTok : isBearerTokenChar x
        · rw [runLength_cons_of_false hTok] at hSome
          simp at hSome
        · exact ⟨x, after', rfl, hTok⟩
    obtain ⟨k, hk⟩ : ∃ k, sp.length = k + 1 := Nat.exists_eq_succ_of_ne_zero (by omega)
    refine ⟨bearerShape k, u ++ sp ++ [x], ⟨k, rfl⟩, ?_, ⟨after', by simp⟩⟩
    have hBlanks : Fits (List.replicate (k + 1) isAsciiBlank) sp := hk ▸ fits_replicate_of hSp
    exact List.rel_append (List.rel_append (List.forall₂_map_left_iff.2 hu) hBlanks) (.cons hx .nil)
  · rw [if_pos (by simpa using hFold)] at hHit
    cases hHit

theorem startsIn_public_of_publicHit {cs : List Char} {h : Hit} (hHit : publicHit cs = some h) :
    StartsIn publicShapes cs := by
  unfold publicHit at hHit
  by_cases hCond : (cs.take 7 == "public-".toList && decide (runLength isHexDigit (cs.drop 7) ≥ 64)) = true
  · simp only [Bool.and_eq_true, beq_iff_eq, decide_eq_true_eq] at hCond
    obtain ⟨hWord, hRun⟩ := hCond
    obtain ⟨hex, after, hSplit, hHexLen, hHex, -⟩ := runLength_split isHexDigit (cs.drop 7)
    -- the word, then the first sixty-four digits of the run
    have hDigits : Fits (List.replicate 64 isHexDigit) (hex.take 64) := by
      have hTake : (hex.take 64).length = 64 := by simp [hHexLen]; omega
      have hFits := fits_replicate_of fun x (hx : x ∈ hex.take 64) => hHex x (List.mem_of_mem_take hx)
      rwa [hTake] at hFits
    refine ⟨publicShape, publicWord ++ hex.take 64, rfl,
      List.rel_append (fits_map_beq_self publicWord) hDigits, ?_⟩
    have hcs : cs = publicWord ++ (hex.take 64 ++ (hex.drop 64 ++ after)) := by
      rw [← List.append_assoc (hex.take 64), List.take_append_drop, ← hSplit, ← publicWord_eq, ← hWord,
        List.take_append_drop]
    rw [hcs, ← List.append_assoc]
    exact List.prefix_append _ _
  · rw [if_neg hCond] at hHit
    cases hHit

/-! ## Password assignments -/

/-- The words a password assignment starts with, in the order they are tried. -/
def passwordWords : List (List Char) := ["password".toList, "passwd".toList, "pwd".toList]

/-- An assignment after the word `w` starts the text: the word in any case, a
separator, and somewhere after it a character that is not blank. -/
def Assigns (w cs : List Char) : Prop :=
  ∃ W sep r, cs = W ++ sep :: r ∧ List.Forall₂ (fun l c => foldsToAscii c l = true) w W ∧
    (sep == ':' || sep == '=') = true ∧ ∃ x ∈ r, isAsciiBlank x = false

/-- What follows a matched assignment: nothing, or a blank. -/
def EndsValue (t : List Char) : Prop := ∀ x t', t = x :: t' → isAsciiBlank x = true

/-- What the rewrite reads for one word: the word, a separator, blanks, the
value up to the next blank; it writes the word as it was and `=***`. -/
theorem assignmentHit_some {w cs : List Char} {h : Hit} (hHit : assignmentHit w cs = some h) :
    ∃ W sep sp v t, cs = W ++ sep :: (sp ++ v ++ t) ∧
      List.Forall₂ (fun l c => foldsToAscii c l = true) w W ∧ (sep == ':' || sep == '=') = true ∧
      (∀ x ∈ sp, isAsciiBlank x = true) ∧ v ≠ [] ∧ (∀ x ∈ v, isAsciiBlank x = false) ∧
      EndsValue t ∧ h = ⟨W.length + sp.length + v.length, W ++ "=***".toList⟩ := by
  unfold assignmentHit at hHit
  by_cases hFold : startsFolded w cs = true
  · rw [if_neg (by rw [hFold]; decide)] at hHit
    obtain ⟨W, rest, rfl, hW⟩ := startsFolded_iff.1 hFold
    have hLen : W.length = w.length := hW.length_eq.symm
    rw [List.drop_left' hLen] at hHit
    cases rest with
    | nil => cases hHit
    | cons sep rest =>
      dsimp only at hHit
      by_cases hSep : (sep == ':' || sep == '=') = true
      · rw [if_pos hSep] at hHit
        obtain ⟨sp, after, rfl, hSpLen, hSp, -⟩ := runLength_split isAsciiBlank rest
        obtain ⟨v, t, rfl, hVLen, hV, hT⟩ := runLength_split (fun x => !isAsciiBlank x) after
        rw [← hSpLen, List.drop_left' rfl, ← hVLen] at hHit
        by_cases hZero : v.length = 0
        · rw [if_pos hZero] at hHit
          cases hHit
        · rw [if_neg hZero, List.take_left' hLen, ← hLen] at hHit
          cases hHit
          refine ⟨W, sep, sp, v, t, by simp, hW, hSep, hSp, fun hv => hZero (by simp [hv]),
            fun x hx => by simpa using hV x hx, fun x t' ht => by simpa using hT x t' ht, rfl⟩
      · rw [if_neg hSep] at hHit
        cases hHit
  · rw [if_pos (by simpa using hFold)] at hHit
    cases hHit

theorem assigns_of_assignmentHit {w cs : List Char} {h : Hit} (hHit : assignmentHit w cs = some h) :
    Assigns w cs := by
  obtain ⟨W, sep, sp, v, t, rfl, hW, hSep, -, hv, hvBlank, -⟩ := assignmentHit_some hHit
  obtain ⟨x, hx⟩ := List.exists_mem_of_ne_nil v hv
  exact ⟨W, sep, sp ++ v ++ t, rfl, hW, hSep, x, by simp [hx], hvBlank x hx⟩

theorem assignmentHit_ne_none {w cs : List Char} (h : Assigns w cs) : assignmentHit w cs ≠ none := by
  obtain ⟨W, sep, r, rfl, hW, hSep, x, hx, hxBlank⟩ := h
  have hLen : W.length = w.length := hW.length_eq.symm
  have hFold : startsFolded w (W ++ sep :: r) = true := startsFolded_iff.2 ⟨W, sep :: r, rfl, hW⟩
  obtain ⟨sp, after, rfl, hSpLen, hSp, hAfter⟩ := runLength_split isAsciiBlank r
  -- after the blanks comes a character that is not blank
  obtain ⟨y, after', rfl, hy⟩ : ∃ y after', after = y :: after' ∧ isAsciiBlank y = false := by
    cases after with
    | nil =>
      rw [List.append_nil] at hx
      rw [hSp x hx] at hxBlank
      cases hxBlank
    | cons y after' => exact ⟨y, after', rfl, hAfter y after' rfl⟩
  unfold assignmentHit
  rw [if_neg (by rw [hFold]; decide), List.drop_left' hLen]
  dsimp only
  rw [if_pos hSep, ← hSpLen, List.drop_left' rfl, runLength_cons_of_true (by simp [hy])]
  simp

theorem assignmentHit_eq_none_iff {w cs : List Char} : assignmentHit w cs = none ↔ ¬Assigns w cs := by
  constructor
  · exact fun hNone hAssigns => assignmentHit_ne_none hAssigns hNone
  · intro hNot
    cases hHit : assignmentHit w cs with
    | none => rfl
    | some h => exact absurd (assigns_of_assignmentHit hHit) hNot

/-- The rewrite matches its own replacement again, as a whole. -/
theorem assignmentHit_replay {w W X : List Char}
    (hW : List.Forall₂ (fun l c => foldsToAscii c l = true) w W) (hX : EndsValue X) :
    assignmentHit w (W ++ "=***".toList ++ X) = some ⟨W.length + 3, W ++ "=***".toList⟩ := by
  have hLen : W.length = w.length := hW.length_eq.symm
  have hText : W ++ "=***".toList ++ X = W ++ '=' :: ('*' :: '*' :: '*' :: X) := by simp
  have hFold : startsFolded w (W ++ "=***".toList ++ X) = true :=
    startsFolded_iff.2 ⟨W, _, hText, hW⟩
  have hValue : runLength (fun x => !isAsciiBlank x) ('*' :: '*' :: '*' :: X) = 3 := by
    rw [runLength_cons_of_true (by decide), runLength_cons_of_true (by decide),
      runLength_cons_of_true (by decide)]
    cases X with
    | nil => rfl
    | cons x X' => rw [runLength_cons_of_false (by simp [hX x X' rfl])]
  unfold assignmentHit
  rw [if_neg (by rw [hFold]; decide), hText, List.drop_left' hLen]
  dsimp only
  rw [if_pos (by decide), runLength_cons_of_false (by decide), List.drop_zero, hValue,
    if_neg (by decide), ← hText, List.append_assoc, List.take_left' hLen, Nat.add_zero, hLen]

/-! ## The three words -/

/-- Of two words with a common beginning, the second does not start a text that
opens with the first, when they go on with letters no character folds to both. -/
theorem startsFolded_clash {l l' : Char} (hll : ∀ c, foldsToAscii c l = true → foldsToAscii c l' = false)
    (s s' Y : List Char) :
    ∀ (pre U : List Char), List.Forall₂ (fun l c => foldsToAscii c l = true) (pre ++ l :: s) U →
      startsFolded (pre ++ l' :: s') (U ++ Y) = false := by
  intro pre
  induction pre with
  | nil =>
    rintro U (_ | ⟨hc, -⟩)
    rw [List.nil_append, List.cons_append, startsFolded_cons_cons, hll _ hc, Bool.false_and]
  | cons p pre ih =>
    rintro U (_ | ⟨-, hRest⟩)
    rw [List.cons_append, List.cons_append, startsFolded_cons_cons, ih _ hRest, Bool.and_false]

theorem foldsToAscii_d_o (c : Char) (h : foldsToAscii c 'd' = true) : foldsToAscii c 'o' = false := by
  simp only [foldsToAscii, Bool.or_eq_true, beq_iff_eq, Bool.and_eq_true] at h ⊢
  simp_all

theorem foldsToAscii_w_a (c : Char) (h : foldsToAscii c 'w' = true) : foldsToAscii c 'a' = false := by
  simp only [foldsToAscii, Bool.or_eq_true, beq_iff_eq, Bool.and_eq_true] at h ⊢
  simp_all

theorem passwordHit_some {cs : List Char} {h : Hit} (hHit : passwordHit cs = some h) :
    ∃ w ∈ passwordWords, assignmentHit w cs = some h := by
  unfold passwordHit at hHit
  -- the first of the three words that matches gives the match
  cases h₁ : assignmentHit "password".toList cs with
  | some h' =>
    rw [h₁] at hHit
    cases hHit
    exact ⟨_, by simp [passwordWords], h₁⟩
  | none =>
    rw [h₁, Option.orElse_none] at hHit
    cases h₂ : assignmentHit "passwd".toList cs with
    | some h' =>
      rw [h₂] at hHit
      cases hHit
      exact ⟨_, by simp [passwordWords], h₂⟩
    | none =>
      rw [h₂, Option.orElse_none] at hHit
      exact ⟨_, by simp [passwordWords], hHit⟩

theorem passwordHit_eq_none_iff {cs : List Char} :
    passwordHit cs = none ↔ ∀ w ∈ passwordWords, assignmentHit w cs = none := by
  constructor
  · intro hNone w hw
    cases hHit : assignmentHit w cs with
    | none => rfl
    | some h =>
      unfold passwordHit at hNone
      simp only [passwordWords, List.mem_cons, List.mem_nil_iff, or_false] at hw
      rcases hw with rfl | rfl | rfl <;> simp_all
  · intro hAll
    unfold passwordHit
    rw [hAll _ (by simp [passwordWords]), Option.orElse_none, hAll _ (by simp [passwordWords]),
      Option.orElse_none, hAll _ (by simp [passwordWords])]

/-- A blank starts no password assignment. -/
theorem passwordHit_blank {c : Char} (hc : isAsciiBlank c = true) (r : List Char) :
    passwordHit (c :: r) = none := by
  have hp : foldsToAscii c 'p' = false := by
    simp only [isAsciiBlank, Bool.or_eq_true, beq_iff_eq] at hc
    rcases hc with (((rfl | rfl) | rfl) | rfl) | rfl <;> decide
  refine passwordHit_eq_none_iff.2 fun w hw => ?_
  unfold assignmentHit
  have hStart : startsFolded w (c :: r) = false := by
    simp only [passwordWords, List.mem_cons, List.mem_nil_iff, or_false] at hw
    rcases hw with rfl | rfl | rfl <;> simp [startsFolded_cons_cons, hp]
  rw [if_pos (by simp [hStart])]

/-- A character related to no letter of a word is not in a text related to it
letter by letter. -/
theorem not_mem_of_forall₂ {R : Char → Char → Prop} {w W : List Char} {y : Char}
    (hW : List.Forall₂ R w W) (hy : ∀ l ∈ w, ¬R l y) : y ∉ W := by
  induction hW with
  | nil => exact List.not_mem_nil
  | cons hr _ ih =>
    rintro (_ | ⟨_, hMem⟩)
    · exact hy _ List.mem_cons_self hr
    · exact ih (fun l hl => hy l (List.mem_cons_of_mem _ hl)) hMem

/-- No word of an assignment holds `=`. -/
theorem eq_not_mem_of_folds {w W : List Char} (hw : w ∈ passwordWords)
    (hW : List.Forall₂ (fun l c => foldsToAscii c l = true) w W) : '=' ∉ W := by
  have hNone : (passwordWords.all fun v => v.all fun l => !foldsToAscii '=' l) = true := by decide
  refine not_mem_of_forall₂ hW fun l hl hFold => ?_
  have hEq := List.all_eq_true.1 (List.all_eq_true.1 hNone w hw) l hl
  rw [hFold] at hEq
  cases hEq

/-- The rewrite matches its own replacement again, as a whole: a text that
opens with one word starts with no other. -/
theorem passwordHit_replay {w W X : List Char} (hw : w ∈ passwordWords)
    (hW : List.Forall₂ (fun l c => foldsToAscii c l = true) w W) (hX : EndsValue X) :
    passwordHit (W ++ "=***".toList ++ X) = some ⟨W.length + 3, W ++ "=***".toList⟩ := by
  have hNone (v : List Char) (h : startsFolded v (W ++ ("=***".toList ++ X)) = false) :
      assignmentHit v (W ++ "=***".toList ++ X) = none := by
    unfold assignmentHit
    rw [List.append_assoc, if_pos (by rw [h]; rfl)]
  simp only [passwordWords, List.mem_cons, List.mem_nil_iff, or_false] at hw
  unfold passwordHit
  rcases hw with rfl | rfl | rfl
  · rw [assignmentHit_replay hW hX]
    rfl
  · have hClash := startsFolded_clash foldsToAscii_d_o [] ['r', 'd'] ("=***".toList ++ X)
      ['p', 'a', 's', 's', 'w'] W (by simpa using hW)
    rw [hNone _ (by simpa using hClash), Option.orElse_none, assignmentHit_replay hW hX]
    rfl
  · have hClash₁ := startsFolded_clash foldsToAscii_w_a ['d'] ['s', 's', 'w', 'o', 'r', 'd']
      ("=***".toList ++ X) ['p'] W (by simpa using hW)
    have hClash₂ := startsFolded_clash foldsToAscii_w_a ['d'] ['s', 's', 'w', 'd']
      ("=***".toList ++ X) ['p'] W (by simpa using hW)
    rw [hNone _ (by simpa using hClash₁), Option.orElse_none, hNone _ (by simpa using hClash₂),
      Option.orElse_none, assignmentHit_replay hW hX]

/-! ## What the password rewrite copies -/

/-- A match that reaches the `=` of a replacement, in a text that had a
separator and a non-blank character after it there, was a match of that text. -/
theorem assigns_of_separator {w Q Z r : List Char} {sep : Char} (hw : w ∈ passwordWords)
    (hSep : (sep == ':' || sep == '=') = true) (hr : ∃ x ∈ r, isAsciiBlank x = false)
    (h : Assigns w (Q ++ '=' :: Z)) : Assigns w (Q ++ sep :: r) := by
  obtain ⟨W, s, r', hEq, hW, hs, hx'⟩ := h
  have hSepBlank : isAsciiBlank sep = false := by
    simp only [Bool.or_eq_true, beq_iff_eq] at hSep
    rcases hSep with rfl | rfl <;> decide
  -- where the match's separator stands against the `=`
  rcases List.append_eq_append_iff.1 hEq with ⟨a, hW', hZ⟩ | ⟨b, hQ, hr'⟩
  · cases a with
    | nil =>
      rw [List.append_nil] at hW'
      exact ⟨W, sep, r, by rw [hW'], hW, hSep, hr⟩
    | cons y a =>
      -- the word would hold the `=`
      obtain ⟨rfl, -⟩ := List.cons_eq_cons.1 hZ
      exact absurd (by rw [hW']; simp) (eq_not_mem_of_folds hw hW)
  · cases b with
    | nil =>
      rw [List.append_nil] at hQ
      exact ⟨W, sep, r, by rw [hQ], hW, hSep, hr⟩
    | cons y b =>
      obtain ⟨rfl, rfl⟩ := List.cons_eq_cons.1 hr'
      exact ⟨W, s, b ++ sep :: r, by rw [hQ]; simp, hW, hs, sep, by simp, hSepBlank⟩

/-- The rewritten text is the text, or the two agree up to a place where the
text has a separator with a non-blank character after it and the rewritten
text has `=`. -/
theorem rewriteAll_passwordHit_echo (cs : List Char) :
    rewriteAll passwordHit cs = cs ∨ ∃ P sep r Z, cs = P ++ sep :: r ∧
      rewriteAll passwordHit cs = P ++ '=' :: Z ∧ (sep == ':' || sep == '=') = true ∧
      ∃ x ∈ r, isAsciiBlank x = false := by
  fun_induction rewriteAll passwordHit cs with
  | case1 => exact .inl rfl
  | case2 c rest h hHit _ =>
    obtain ⟨w, -, hw⟩ := passwordHit_some hHit
    obtain ⟨W, sep, sp, v, t, hcs, -, hSep, -, hv, hvBlank, -, rfl⟩ := assignmentHit_some hw
    obtain ⟨x, hx⟩ := List.exists_mem_of_ne_nil v hv
    exact .inr ⟨W, sep, sp ++ v ++ t,
      "***".toList ++ rewriteAll passwordHit (rest.drop (W.length + sp.length + v.length)), hcs,
      by simp, hSep, x, by simp [hx], hvBlank x hx⟩
  | case3 c rest _ ih =>
    rcases ih with hSame | ⟨P, sep, r, Z, hRest, hOut, hSep, hr⟩
    · exact .inl (by rw [hSame])
    · exact .inr ⟨c :: P, sep, r, Z, by rw [hRest]; rfl, by rw [hOut]; rfl, hSep, hr⟩

/-- A character the password rewrite copies starts no match in its output. -/
theorem passwordHit_copy {c : Char} {rest : List Char} (hMiss : passwordHit (c :: rest) = none) :
    passwordHit (c :: rewriteAll passwordHit rest) = none := by
  refine passwordHit_eq_none_iff.2 fun w hw => ?_
  have hNo := passwordHit_eq_none_iff.1 hMiss w hw
  rw [assignmentHit_eq_none_iff] at hNo ⊢
  intro hOut
  rcases rewriteAll_passwordHit_echo rest with hSame | ⟨P, sep, r, Z, hRest, hEq, hSep, hr⟩
  · rw [hSame] at hOut
    exact hNo hOut
  · rw [hEq, ← List.cons_append] at hOut
    rw [hRest, ← List.cons_append] at hNo
    exact hNo (assigns_of_separator hw hSep hr hOut)

/-- The password rewrite is idempotent. -/
theorem rewriteAll_passwordHit_idempotent (cs : List Char) :
    rewriteAll passwordHit (rewriteAll passwordHit cs) = rewriteAll passwordHit cs := by
  fun_induction rewriteAll passwordHit cs with
  | case1 => exact rewriteAll_nil _
  | case2 c rest h hHit ih =>
    obtain ⟨w, hw, hAssign⟩ := passwordHit_some hHit
    obtain ⟨W, sep, sp, v, t, hcs, hW, -, -, -, -, hT, rfl⟩ := assignmentHit_some hAssign
    -- what follows the match is what follows its replacement
    have hDrop : rest.drop (W.length + sp.length + v.length) = t := by
      have hAll : (c :: rest).drop (W.length + sp.length + v.length + 1) = t := by
        rw [hcs, show W ++ sep :: (sp ++ v ++ t) = (W ++ sep :: (sp ++ v)) ++ t by simp]
        exact List.drop_left' (by simp; omega)
      simpa using hAll
    rw [hDrop] at ih ⊢
    have hEnds : EndsValue (rewriteAll passwordHit t) := by
      intro x t' ht
      cases t with
      | nil =>
        rw [rewriteAll_nil] at ht
        cases ht
      | cons y t'' =>
        have hy := hT y t'' rfl
        rw [rewriteAll_miss _ (passwordHit_blank hy t'')] at ht
        obtain ⟨rfl, -⟩ := List.cons_eq_cons.1 ht
        exact hy
    obtain ⟨d, W', rfl⟩ : ∃ d W', W = d :: W' := by
      cases W with
      | nil =>
        have hLen := hW.length_eq
        simp only [passwordWords, List.mem_cons, List.mem_nil_iff, or_false] at hw
        rcases hw with rfl | rfl | rfl <;> simp at hLen
      | cons d W' => exact ⟨d, W', rfl⟩
    have hReplay := passwordHit_replay hw hW hEnds
    rw [List.cons_append, List.cons_append] at hReplay ⊢
    rw [rewriteAll_hit _ hReplay, List.cons_append]
    rw [show (W' ++ "=***".toList ++ rewriteAll passwordHit t).drop ((d :: W').length + 3) =
        rewriteAll passwordHit t from List.drop_left' (by simp), ih]
  | case3 c rest hMiss ih => rw [rewriteAll_miss _ (passwordHit_copy hMiss), ih]

/-! ## A redacted text -/

/-- A redacted text holds no public token and no bearer credential, and
redacting it again gives it back. -/
theorem redactText_clean_idempotent (s : String) :
    ¬Occurs publicShapes (redactText s).toList ∧ ¬Occurs bearerShapes (redactText s).toList ∧
      redactText (redactText s) = redactText s := by
  obtain ⟨hPublic, hBearer⟩ := redactText_clean s
  refine ⟨hPublic, hBearer, ?_⟩
  have hNoBearer : rewriteAll bearerHit (redactText s).toList = (redactText s).toList :=
    rewriteAll_of_not_occurs (fun _ _ => startsIn_bearer_of_bearerHit) _ hBearer
  have hNoPublic : rewriteAll publicHit (redactText s).toList = (redactText s).toList :=
    rewriteAll_of_not_occurs (fun _ _ => startsIn_public_of_publicHit) _ hPublic
  have hOuter : redactText (redactText s) = String.ofList (rewriteAll passwordHit
      (rewriteAll publicHit (rewriteAll bearerHit (redactText s).toList))) := rfl
  have hInner : (redactText s).toList =
      rewriteAll passwordHit (rewriteAll publicHit (rewriteAll bearerHit s.toList)) := by
    rw [redactText, String.toList_ofList]
  rw [hOuter, hNoBearer, hNoPublic, hInner, rewriteAll_passwordHit_idempotent]
  rfl

end Turnstile.Log
