import Mathlib.Data.List.Forall2
import Turnstile.Log.Redact

/-!
# What the redactor leaves behind

The redactor's patterns are read here as *shapes*: one class of characters for
each position of a run.  A public token is the shape `public-` followed by
sixty-four hexadecimal digits; a bearer credential is one of the shapes
`bearer` (in any case), one or more pattern blanks and a token character.  A
text holds a pattern when some run of it fits one of its shapes (`Occurs`).

Each rewrite scans the text from the left and replaces the leftmost match.  Its
replacement starts with characters that behave, for the shapes in question,
like the characters they replace, and goes on with characters no shape admits
(`Keeps`).  Two facts follow for a rewrite of that kind:

* it creates no match of a pattern the text did not hold
  (`not_occurs_rewriteAll_of_not_occurs`);
* it leaves no match of its own pattern, when the part of a replacement that
  agrees with the text is shorter than every shape (`not_occurs_rewriteAll`).

So the three rewrites in turn leave no public token and no bearer credential in
a redacted text (`redactText_clean`).
-/

namespace Turnstile.Log

open Turnstile.Text

/-! ## Shapes -/

/-- One class of characters for each position of a run. -/
abbrev Shape := List (Char → Bool)

/-- A run fits a shape when each of its characters is in the class of its
position. -/
def Fits (σ : Shape) (u : List Char) : Prop :=
  List.Forall₂ (fun P c => P c = true) σ u

/-- A text starts with a run of one of the shapes `S`. -/
def StartsIn (S : Shape → Prop) (cs : List Char) : Prop :=
  ∃ σ u, S σ ∧ Fits σ u ∧ u <+: cs

/-- A text holds a run of one of the shapes `S` somewhere. -/
def Occurs (S : Shape → Prop) (cs : List Char) : Prop :=
  ∃ pre post, cs = pre ++ post ∧ StartsIn S post

/-- `y` is in every class of the shapes `S` that `x` is in. -/
def Agree (S : Shape → Prop) (x y : Char) : Prop :=
  ∀ σ, S σ → ∀ P ∈ σ, P x = true → P y = true

/-- No shape of `S` admits `z` anywhere. -/
def Stops (S : Shape → Prop) (z : Char) : Prop :=
  ∀ σ, S σ → ∀ P ∈ σ, P z = false

section General

variable {S : Shape → Prop}

theorem agree_refl (x : Char) : Agree S x x := fun _ _ _ _ h => h

theorem exists_class_of_fits {σ : Shape} {u : List Char} (hu : Fits σ u) {x : Char} (hx : x ∈ u) :
    ∃ P ∈ σ, P x = true := by
  induction hu with
  | nil => cases hx
  | cons hP _ ih =>
    rcases List.mem_cons.1 hx with rfl | hx'
    · exact ⟨_, List.mem_cons_self, hP⟩
    · obtain ⟨Q, hQ, hQx⟩ := ih hx'
      exact ⟨Q, List.mem_cons_of_mem _ hQ, hQx⟩

/-- A fitting run holds no character that the shapes stop at. -/
theorem not_stops_of_fits {σ : Shape} {u : List Char} (hS : S σ) (hu : Fits σ u) :
    ∀ x ∈ u, ¬Stops S x := by
  intro x hx hStop
  obtain ⟨P, hP, hPx⟩ := exists_class_of_fits hu hx
  rw [hStop σ hS P hP] at hPx
  cases hPx

/-- A run that agrees, character by character, with one that fits still fits. -/
theorem fits_of_agree {σ : Shape} {u v : List Char}
    (hσ : ∀ P ∈ σ, ∀ x y, Agree S x y → P x = true → P y = true) (hu : Fits σ u)
    (hAgree : List.Forall₂ (Agree S) u v) : Fits σ v := by
  induction hu generalizing v with
  | nil =>
    cases hAgree
    exact .nil
  | @cons P c σ' u' hPc _ ih =>
    cases hAgree with
    | cons hcd hRest =>
      exact .cons (hσ P List.mem_cons_self _ _ hcd hPc)
        (ih (fun Q hQ => hσ Q (List.mem_cons_of_mem _ hQ)) hRest)

theorem fits_of_agree_of_mem {σ : Shape} {u v : List Char} (hS : S σ) (hu : Fits σ u)
    (hAgree : List.Forall₂ (Agree S) u v) : Fits σ v :=
  fits_of_agree (fun P hP _ _ hxy hPx => hxy σ hS P hP hPx) hu hAgree

/-- A prefix that does not reach a stopping character is a prefix of what
stands before it. -/
theorem prefix_of_prefix_append_cons {u l r : List Char} {z : Char} (h : u <+: l ++ z :: r)
    (hz : z ∉ u) : u <+: l := by
  induction l generalizing u with
  | nil =>
    cases u with
    | nil => exact List.nil_prefix
    | cons x u' =>
      obtain ⟨rfl, -⟩ := List.cons_prefix_cons.1 h
      exact absurd List.mem_cons_self hz
  | cons a l ih =>
    cases u with
    | nil => exact List.nil_prefix
    | cons x u' =>
      obtain ⟨rfl, h'⟩ := List.cons_prefix_cons.1 h
      exact List.cons_prefix_cons.2 ⟨rfl, ih h' (fun hz' => hz (List.mem_cons_of_mem _ hz'))⟩

/-- A run of a shape does not reach past a character the shapes stop at. -/
theorem startsIn_of_append_stop {l r : List Char} {z : Char} (hz : Stops S z)
    (h : StartsIn S (l ++ z :: r)) : StartsIn S l := by
  obtain ⟨σ, u, hS, hu, hPre⟩ := h
  have hNot : z ∉ u := fun hzu => not_stops_of_fits hS hu z hzu hz
  exact ⟨σ, u, hS, hu, prefix_of_prefix_append_cons hPre hNot⟩

/-- A run in a joined text starts in the first part or lies in the second. -/
theorem occurs_append {l₁ l₂ : List Char} (h : Occurs S (l₁ ++ l₂)) :
    (∃ pre c, l₁ = pre ++ c ∧ c ≠ [] ∧ StartsIn S (c ++ l₂)) ∨ Occurs S l₂ := by
  obtain ⟨pre, post, hEq, hStart⟩ := h
  rcases List.append_eq_append_iff.1 hEq with ⟨a', hPre, hl₂⟩ | ⟨c', hl₁, hPost⟩
  · exact Or.inr ⟨a', post, hl₂, hStart⟩
  · cases c' with
    | nil =>
      simp only [List.nil_append] at hPost
      exact Or.inr ⟨[], post, by simp [hPost], hStart⟩
    | cons x c'' => exact Or.inl ⟨pre, x :: c'', hl₁, List.cons_ne_nil _ _, hPost ▸ hStart⟩

theorem occurs_cons {c : Char} {l : List Char} (h : Occurs S (c :: l)) :
    StartsIn S (c :: l) ∨ Occurs S l := by
  have h' : Occurs S ([c] ++ l) := h
  rcases occurs_append h' with ⟨pre, c', hc, hne, hStart⟩ | hRest
  · -- the only non-empty end of `[c]` is `[c]` itself
    cases pre with
    | nil =>
      simp only [List.nil_append] at hc
      subst hc
      exact Or.inl hStart
    | cons y pre' =>
      cases pre' <;> simp_all
  · exact Or.inr hRest

theorem occurs_of_startsIn {cs : List Char} (h : StartsIn S cs) : Occurs S cs :=
  ⟨[], cs, rfl, h⟩

theorem occurs_append_left {l₁ l₂ : List Char} (h : Occurs S l₁) : Occurs S (l₁ ++ l₂) := by
  obtain ⟨pre, post, rfl, σ, u, hS, hu, hPre⟩ := h
  exact ⟨pre, post ++ l₂, by simp, σ, u, hS, hu, hPre.trans (List.prefix_append _ _)⟩

theorem occurs_append_right {l₁ l₂ : List Char} (h : Occurs S l₂) : Occurs S (l₁ ++ l₂) := by
  obtain ⟨pre, post, rfl, hStart⟩ := h
  exact ⟨l₁ ++ pre, post, by simp, hStart⟩

/-- A run in a block of a text is a run of the text. -/
theorem occurs_of_infix {l₁ l₂ : List Char} (h : l₁ <:+: l₂) (hOcc : Occurs S l₁) : Occurs S l₂ := by
  obtain ⟨s, t, rfl⟩ := h
  obtain ⟨pre, post, rfl, σ, u, hS, hu, hPre⟩ := hOcc
  exact ⟨s ++ pre, post ++ t, by simp, σ, u, hS, hu, hPre.trans (List.prefix_append _ _)⟩

/-- Holding a run in a text joined at a stopping character is holding it in one
of the parts. -/
theorem occurs_append_stop {a b : List Char} {z : Char} (hz : Stops S z)
    (h : Occurs S (a ++ z :: b)) : Occurs S a ∨ Occurs S b := by
  rcases occurs_append h with ⟨pre, c, rfl, -, hStart⟩ | hRest
  · exact Or.inl (occurs_append_right (occurs_of_startsIn (startsIn_of_append_stop hz hStart)))
  · rcases occurs_cons hRest with ⟨σ, u, hS, hu, hPre⟩ | hb
    · -- a run starting at the stopping character is empty, and fits anywhere
      cases u with
      | nil => exact Or.inl ⟨a, [], by simp, σ, [], hS, hu, List.nil_prefix⟩
      | cons x u' =>
        obtain ⟨rfl, -⟩ := List.cons_prefix_cons.1 hPre
        exact absurd hz (not_stops_of_fits hS hu _ List.mem_cons_self)
    · exact Or.inr hb

/-- Shapes that some text holds no run of are not empty. -/
theorem nonempty_of_not_occurs {cs : List Char} (h : ¬Occurs S cs) : ∀ σ, S σ → σ ≠ [] := by
  rintro σ hS rfl
  exact h ⟨cs, [], by simp, [], [], hS, .nil, List.nil_prefix⟩

/-- A run of the shapes `S` may start at `x`: some shape begins with a class
that admits it. -/
def Opens (S : Shape → Prop) (x : Char) : Prop :=
  ∃ P σ, S (P :: σ) ∧ P x = true

theorem not_opens_of_stops {x : Char} (hx : Stops S x) : ¬Opens S x := by
  rintro ⟨P, σ, hS, hPx⟩
  rw [hx _ hS P List.mem_cons_self] at hPx
  cases hPx

/-- No run of non-empty shapes starts at a character no shape opens with. -/
theorem not_startsIn_of_not_opens (hNonempty : ∀ σ, S σ → σ ≠ []) {x : Char} (hx : ¬Opens S x)
    (r : List Char) : ¬StartsIn S (x :: r) := by
  rintro ⟨σ, u, hS, hu, hPre⟩
  cases u with
  | nil => exact hNonempty σ hS (List.forall₂_nil_right_iff.1 hu)
  | cons y u' =>
    obtain ⟨rfl, -⟩ := List.cons_prefix_cons.1 hPre
    cases hu with
    | cons hP _ => exact hx ⟨_, _, hS, hP⟩

/-- Characters no shape opens with, in front of a text, add no run to it. -/
theorem occurs_of_not_opens_append (hNonempty : ∀ σ, S σ → σ ≠ []) {w X : List Char}
    (hw : ∀ x ∈ w, ¬Opens S x) (h : Occurs S (w ++ X)) : Occurs S X := by
  induction w with
  | nil => simpa using h
  | cons x w ih =>
    rcases occurs_cons h with hStart | hRest
    · exact absurd hStart (not_startsIn_of_not_opens hNonempty (hw x List.mem_cons_self) _)
    · exact ih (fun y hy => hw y (List.mem_cons_of_mem _ hy)) hRest

/-- The only run an empty text holds is the empty one. -/
theorem occurs_nil (h : Occurs S []) : S [] := by
  obtain ⟨pre, post, hEq, σ, u, hS, hu, hPre⟩ := h
  rw [List.append_eq_nil_iff.1 hEq.symm |>.2, List.prefix_nil] at hPre
  subst hPre
  rwa [← List.forall₂_nil_right_iff.1 hu]

/-- An empty text holds only the empty run, which every text holds. -/
theorem occurs_of_occurs_nil {cs : List Char} (h : Occurs S []) : Occurs S cs :=
  ⟨[], cs, rfl, [], [], occurs_nil h, .nil, List.nil_prefix⟩

/-- A text of characters no run opens with holds no run. -/
theorem not_occurs_of_not_opens (hNonempty : ∀ σ, S σ → σ ≠ []) {cs : List Char}
    (h : ∀ x ∈ cs, ¬Opens S x) : ¬Occurs S cs := fun hOcc =>
  hNonempty [] (occurs_nil (occurs_of_not_opens_append hNonempty h (by simpa using hOcc))) rfl

/-! ### Texts joined at stopping characters -/

theorem not_occurs_append_stop {a b : List Char} {z : Char} (ha : ¬Occurs S a) (hz : Stops S z)
    (hb : ¬Occurs S b) : ¬Occurs S (a ++ z :: b) :=
  fun h => (occurs_append_stop hz h).elim ha hb

theorem not_occurs_stop_cons {b : List Char} {z : Char} (hz : Stops S z) (hb : ¬Occurs S b) :
    ¬Occurs S (z :: b) := fun h =>
  (occurs_append_stop (a := []) hz h).elim (fun hNil => hb (occurs_of_occurs_nil hNil)) hb

/-- Two texts without runs, the first ending at a stopping character, joined. -/
theorem not_occurs_append_of_getLast? {a b : List Char} (ha : ¬Occurs S a)
    (hLast : ∀ z ∈ a.getLast?, Stops S z) (hb : ¬Occurs S b) : ¬Occurs S (a ++ b) := by
  cases hA : a.getLast? with
  | none =>
    rw [List.getLast?_eq_none_iff.1 hA, List.nil_append]
    exact hb
  | some z =>
    obtain ⟨a', rfl⟩ := List.getLast?_eq_some_iff.1 hA
    rw [List.append_assoc, List.singleton_append]
    exact not_occurs_append_stop (fun h => ha (occurs_append_left h)) (hLast z hA) hb

/-- Texts without runs joined by a stopping character. -/
theorem not_occurs_intercalate {z : Char} (hNil : ¬Occurs S []) (hz : Stops S z) :
    ∀ {ps : List (List Char)}, (∀ p ∈ ps, ¬Occurs S p) → ¬Occurs S ([z].intercalate ps)
  | [], _ => hNil
  | [p], h => by
    rw [List.intercalate_singleton]
    exact h p List.mem_cons_self
  | p :: q :: rest, h => by
    rw [List.intercalate_cons_cons, List.append_assoc, List.singleton_append]
    exact not_occurs_append_stop (h p List.mem_cons_self) hz
      (not_occurs_intercalate hNil hz fun r hr => h r (List.mem_cons_of_mem _ hr))

theorem forall₂_prefix_exists {R : Char → Char → Prop} {a b u : List Char} (h : List.Forall₂ R a b)
    (hu : u <+: a) : ∃ v, v <+: b ∧ List.Forall₂ R u v := by
  induction h generalizing u with
  | nil =>
    rw [List.prefix_nil.1 hu]
    exact ⟨[], List.nil_prefix, .nil⟩
  | @cons x y a' b' hxy _ ih =>
    cases u with
    | nil => exact ⟨[], List.nil_prefix, .nil⟩
    | cons x' u' =>
      obtain ⟨rfl, hu'⟩ := List.cons_prefix_cons.1 hu
      obtain ⟨v, hv, huv⟩ := ih hu'
      exact ⟨y :: v, List.cons_prefix_cons.2 ⟨rfl, hv⟩, .cons hxy huv⟩

theorem forall₂_append_left_split {R : Char → Char → Prop} {pre c b : List Char}
    (h : List.Forall₂ R (pre ++ c) b) : ∃ b₁ b₂, b = b₁ ++ b₂ ∧ List.Forall₂ R c b₂ := by
  induction pre generalizing b with
  | nil => exact ⟨[], b, rfl, h⟩
  | cons x pre ih =>
    cases h with
    | cons _ hRest =>
      obtain ⟨b₁, b₂, rfl, h₂⟩ := ih hRest
      exact ⟨_ :: b₁, b₂, rfl, h₂⟩

end General

/-! ## Rewriting every leftmost match -/

section Rewrite

variable (rule : List Char → Option Hit)

@[simp]
theorem rewriteAll_nil : rewriteAll rule [] = [] := by
  rw [rewriteAll]

theorem rewriteAll_hit {c : Char} {rest : List Char} {h : Hit} (hHit : rule (c :: rest) = some h) :
    rewriteAll rule (c :: rest) = h.replacement ++ rewriteAll rule (rest.drop h.extra) := by
  rw [rewriteAll, hHit]

theorem rewriteAll_miss {c : Char} {rest : List Char} (hMiss : rule (c :: rest) = none) :
    rewriteAll rule (c :: rest) = c :: rewriteAll rule rest := by
  rw [rewriteAll, hMiss]

end Rewrite

/-- A rule keeps the shapes `S` within `n` characters: each replacement agrees,
class by class, with the first characters it replaces, at most `n` of them, then
has a character the shapes stop at, and then only characters no run opens with. -/
def Keeps (S : Shape → Prop) (n : Nat) (rule : List Char → Option Hit) : Prop :=
  ∀ cs h, rule cs = some h → ∃ a z t, h.replacement = a ++ z :: t ∧ a.length ≤ n ∧
    List.Forall₂ (Agree S) a (cs.take a.length) ∧ Stops S z ∧ ∀ x ∈ t, ¬Opens S x

section Keeps

variable {S : Shape → Prop} {n : Nat} {rule : List Char → Option Hit}

/-- A prefix of the rewritten text without stopping characters agrees with a
prefix of the text. -/
theorem prefix_rewriteAll (hKeeps : Keeps S n rule) (cs : List Char) :
    ∀ u, u <+: rewriteAll rule cs → (∀ x ∈ u, ¬Stops S x) →
      ∃ v, v <+: cs ∧ List.Forall₂ (Agree S) u v := by
  -- induction along the rewriting: a replacement, or a character copied
  fun_induction rewriteAll rule cs with
  | case1 =>
    intro u hu _
    rw [List.prefix_nil.1 hu]
    exact ⟨[], List.nil_prefix, .nil⟩
  | case2 c rest h hHit _ =>
    intro u hu hNot
    obtain ⟨a, z, t, hRepl, -, hAgree, hz, -⟩ := hKeeps _ h hHit
    rw [hRepl, List.append_assoc, List.cons_append] at hu
    -- the prefix stops before the stopping character, inside `a`
    have hua : u <+: a := prefix_of_prefix_append_cons hu (fun hzu => hNot z hzu hz)
    have hLen : u.length ≤ a.length := hua.length_le
    refine ⟨(c :: rest).take u.length, List.take_prefix _ _, ?_⟩
    have hTake := List.forall₂_take u.length hAgree
    rwa [← List.prefix_iff_eq_take.1 hua, List.take_take, Nat.min_eq_left hLen] at hTake
  | case3 c rest hMiss ih =>
    intro u hu hNot
    cases u with
    | nil => exact ⟨[], List.nil_prefix, .nil⟩
    | cons x u' =>
      obtain ⟨rfl, hu'⟩ := List.cons_prefix_cons.1 hu
      obtain ⟨v', hv', hAgree'⟩ := ih u' hu' (fun y hy => hNot y (List.mem_cons_of_mem _ hy))
      exact ⟨x :: v', List.cons_prefix_cons.2 ⟨rfl, hv'⟩, .cons (agree_refl x) hAgree'⟩

/-- A run that starts the rewritten text starts the text. -/
theorem startsIn_rewriteAll (hKeeps : Keeps S n rule) {cs : List Char}
    (h : StartsIn S (rewriteAll rule cs)) : StartsIn S cs := by
  obtain ⟨σ, u, hS, hu, hPre⟩ := h
  obtain ⟨v, hv, hAgree⟩ := prefix_rewriteAll hKeeps cs u hPre (not_stops_of_fits hS hu)
  exact ⟨σ, v, hS, fits_of_agree_of_mem hS hu hAgree, hv⟩

/-- A run that starts inside a replacement's agreeing part is a run of the
text the replacement stands for. -/
theorem occurs_of_agree {a pre c cs : List Char} (hAgree : List.Forall₂ (Agree S) a (cs.take a.length))
    (ha : a = pre ++ c) (h : StartsIn S c) : Occurs S cs := by
  subst ha
  obtain ⟨b₁, b₂, hb, hAgree₂⟩ := forall₂_append_left_split hAgree
  obtain ⟨σ, u, hS, hu, hPre⟩ := h
  obtain ⟨v, hv, huv⟩ := forall₂_prefix_exists hAgree₂ hPre
  refine ⟨b₁, b₂ ++ cs.drop (pre ++ c).length, ?_, σ, v, hS, fits_of_agree_of_mem hS hu huv,
    hv.trans (List.prefix_append _ _)⟩
  rw [← List.append_assoc, ← hb, List.take_append_drop]

/-- A rewrite that keeps the shapes makes no run the text did not have. -/
theorem not_occurs_rewriteAll_of_not_occurs (hKeeps : Keeps S n rule) (cs : List Char) :
    ¬Occurs S cs → ¬Occurs S (rewriteAll rule cs) := by
  -- induction along the rewriting, the text without runs carried to what is left of it
  fun_induction rewriteAll rule cs with
  | case1 => exact id
  | case2 c rest h hHit ih =>
    intro hNo hOcc
    obtain ⟨a, z, t, hRepl, -, hAgree, hz, ht⟩ := hKeeps _ h hHit
    rw [hRepl, List.append_assoc] at hOcc
    rcases occurs_append hOcc with ⟨pre, c', ha, -, hStart⟩ | hRest
    · -- a run starting in the agreeing part was a run of the text
      rw [List.cons_append] at hStart
      exact hNo (occurs_of_agree hAgree ha (startsIn_of_append_stop hz hStart))
    · -- past the stopping characters lies the rest of the rewritten text
      have hSuffix : ¬Occurs S (rest.drop h.extra) := fun hOcc' =>
        hNo (by rw [← List.take_append_drop h.extra rest, ← List.cons_append]
                exact occurs_append_right hOcc')
      refine ih hSuffix (occurs_of_not_opens_append (nonempty_of_not_occurs hNo) ?_ hRest)
      intro x hx
      rcases List.mem_cons.1 hx with rfl | hx'
      · exact not_opens_of_stops hz
      · exact ht x hx'
  | case3 c rest hMiss ih =>
    intro hNo hOcc
    rcases occurs_cons hOcc with hStart | hRest
    · rw [← rewriteAll_miss rule hMiss] at hStart
      exact hNo (occurs_of_startsIn (startsIn_rewriteAll hKeeps hStart))
    · exact ih (fun hOcc' => hNo (occurs_append_right hOcc' : Occurs S ([c] ++ rest))) hRest

/-- A rewrite that keeps its own shapes, and replaces wherever a run starts,
leaves no run, when its agreeing parts are shorter than every shape. -/
theorem not_occurs_rewriteAll (hKeeps : Keeps S n rule)
    (hMiss : ∀ cs, rule cs = none → ¬StartsIn S cs) (hLong : ∀ σ, S σ → n < σ.length)
    (cs : List Char) : ¬Occurs S (rewriteAll rule cs) := by
  have hNonempty : ∀ σ, S σ → σ ≠ [] := by
    rintro σ hS rfl
    exact absurd (hLong [] hS) (Nat.not_lt_zero n)
  -- a run in the agreeing part of a replacement would be shorter than its shape
  have hShort : ∀ a pre c, a.length ≤ n → a = pre ++ c → ¬StartsIn S c := by
    rintro a pre c hLen rfl ⟨σ, u, hS, hu, hPre⟩
    have hσ : σ.length = u.length := hu.length_eq
    have hc : c.length ≤ (pre ++ c).length := by simp
    have := hLong σ hS
    have := hPre.length_le
    omega
  fun_induction rewriteAll rule cs with
  | case1 => exact fun hOcc => hNonempty [] (occurs_nil hOcc) rfl
  | case2 c rest h hHit ih =>
    intro hOcc
    obtain ⟨a, z, t, hRepl, hLen, -, hz, ht⟩ := hKeeps _ h hHit
    rw [hRepl, List.append_assoc] at hOcc
    rcases occurs_append hOcc with ⟨pre, c', ha, -, hStart⟩ | hRest
    · rw [List.cons_append] at hStart
      exact hShort a pre c' hLen ha (startsIn_of_append_stop hz hStart)
    · refine ih (occurs_of_not_opens_append hNonempty ?_ hRest)
      intro x hx
      rcases List.mem_cons.1 hx with rfl | hx'
      · exact not_opens_of_stops hz
      · exact ht x hx'
  | case3 c rest hMissHere ih =>
    intro hOcc
    rcases occurs_cons hOcc with hStart | hRest
    · rw [← rewriteAll_miss rule hMissHere] at hStart
      exact hMiss _ hMissHere (startsIn_rewriteAll hKeeps hStart)
    · exact ih hRest

/-- A rule that copies the first characters it reads and writes stopping
characters after them keeps the shapes. -/
theorem keeps_of_copy {z : Char} {t : List Char} (hz : Stops S z) (ht : ∀ x ∈ t, Stops S x)
    (h : ∀ cs hit, rule cs = some hit → ∃ m ≤ n, hit.replacement = cs.take m ++ z :: t) :
    Keeps S n rule := by
  intro cs hit hHit
  obtain ⟨m, hm, hRepl⟩ := h cs hit hHit
  refine ⟨cs.take m, z, t, hRepl, Nat.le_trans (List.length_take_le m cs) hm, ?_, hz,
    fun x hx => not_opens_of_stops (ht x hx)⟩
  rw [← List.prefix_iff_eq_take.1 (List.take_prefix m cs)]
  exact List.forall₂_same.2 fun x _ => agree_refl x

/-- A rewrite that keeps some shapes empties no text. -/
theorem rewriteAll_eq_nil_iff (hKeeps : Keeps S n rule) {cs : List Char} :
    rewriteAll rule cs = [] ↔ cs = [] := by
  cases cs with
  | nil => simp
  | cons c rest =>
    simp only [reduceCtorEq, iff_false]
    cases hHit : rule (c :: rest) with
    | none =>
      rw [rewriteAll_miss rule hHit]
      exact List.cons_ne_nil _ _
    | some h =>
      obtain ⟨a, z, t, hRepl, -⟩ := hKeeps _ h hHit
      rw [rewriteAll_hit rule hHit, hRepl]
      simp

/-- Escaping a text, read as a rewrite: a character that is its own escape is
copied, any other is replaced by its escape. -/
def escapeRule (esc : Char → List Char) : List Char → Option Hit
  | [] => none
  | c :: _ => if esc c = [c] then none else some ⟨0, esc c⟩

theorem rewriteAll_escapeRule (esc : Char → List Char) (cs : List Char) :
    rewriteAll (escapeRule esc) cs = cs.flatMap esc := by
  induction cs with
  | nil => simp
  | cons c rest ih =>
    by_cases h : esc c = [c]
    · rw [rewriteAll_miss _ (by simp [escapeRule, h]), ih, List.flatMap_cons, h, List.singleton_append]
    · rw [rewriteAll_hit _ (show escapeRule esc (c :: rest) = some ⟨0, esc c⟩ by simp [escapeRule, h]),
        List.drop_zero, ih, List.flatMap_cons]

/-- Escapes that open with a stopping character and go on with characters no run
opens with keep the shapes. -/
theorem keeps_escapeRule {esc : Char → List Char} {e : Char} (he : Stops S e)
    (hEsc : ∀ c, esc c = [c] ∨ ∃ t, esc c = e :: t ∧ ∀ x ∈ t, ¬Opens S x) :
    Keeps S 0 (escapeRule esc) := by
  intro cs hit hHit
  cases cs with
  | nil => cases hHit
  | cons c rest =>
    by_cases h : esc c = [c]
    · simp [escapeRule, h] at hHit
    · simp only [escapeRule, h, if_false, Option.some.injEq] at hHit
      subst hHit
      obtain ⟨t, hEq, ht⟩ := (hEsc c).resolve_left h
      exact ⟨[], e, t, hEq, Nat.le_refl 0, .nil, he, ht⟩

/-- Escaping keeps a text free of runs. -/
theorem not_occurs_flatMap_escape {esc : Char → List Char} {e : Char} (he : Stops S e)
    (hEsc : ∀ c, esc c = [c] ∨ ∃ t, esc c = e :: t ∧ ∀ x ∈ t, ¬Opens S x) {cs : List Char}
    (h : ¬Occurs S cs) : ¬Occurs S (cs.flatMap esc) := by
  rw [← rewriteAll_escapeRule]
  exact not_occurs_rewriteAll_of_not_occurs (keeps_escapeRule he hEsc) cs h

end Keeps

/-! ## Runs of one class -/

section Runs

theorem fits_append {σ₁ σ₂ : Shape} {u : List Char} (h : Fits (σ₁ ++ σ₂) u) :
    ∃ u₁ u₂, u = u₁ ++ u₂ ∧ Fits σ₁ u₁ ∧ Fits σ₂ u₂ := by
  refine ⟨u.take σ₁.length, u.drop σ₁.length, (List.take_append_drop _ _).symm, ?_, ?_⟩
  · simpa [Fits] using List.forall₂_take σ₁.length h
  · simpa [Fits] using List.forall₂_drop σ₁.length h

theorem fits_replicate {P : Char → Bool} {k : Nat} {v : List Char}
    (h : Fits (List.replicate k P) v) : v.length = k ∧ ∀ x ∈ v, P x = true := by
  induction k generalizing v with
  | zero =>
    cases h
    simp
  | succ k ih =>
    rw [List.replicate_succ] at h
    cases h with
    | cons hx hRest =>
      obtain ⟨hLen, hAll⟩ := ih hRest
      refine ⟨by simp [hLen], ?_⟩
      intro y hy
      rcases List.mem_cons.1 hy with rfl | hy'
      · exact hx
      · exact hAll y hy'

theorem fits_replicate_of {P : Char → Bool} {v : List Char} (h : ∀ x ∈ v, P x = true) :
    Fits (List.replicate v.length P) v := by
  induction v with
  | nil => exact .nil
  | cons x v ih =>
    exact .cons (h x List.mem_cons_self) (ih fun y hy => h y (List.mem_cons_of_mem _ hy))

/-- A word fits the shape that names its characters. -/
theorem fits_map_beq_self (w : List Char) : Fits (w.map fun x c => c == x) w :=
  List.forall₂_map_left_iff.2 (List.forall₂_same.2 fun x _ => beq_self_eq_true x)

/-- A run of the shapes that name their characters is the word they name. -/
theorem fits_map_beq {w v : List Char} (h : Fits (w.map fun x c => c == x) v) : v = w := by
  induction w generalizing v with
  | nil =>
    cases h
    rfl
  | cons x w ih =>
    cases h with
    | cons hx hRest => rw [beq_iff_eq.1 hx, ih hRest]

theorem runLength_append_of_all {P : Char → Bool} {v : List Char} (hv : ∀ x ∈ v, P x = true)
    (r : List Char) : runLength P (v ++ r) = v.length + runLength P r := by
  simp [runLength, List.takeWhile_append_of_pos hv]

theorem runLength_cons_of_false {P : Char → Bool} {x : Char} (hx : P x = false) (r : List Char) :
    runLength P (x :: r) = 0 := by
  simp [runLength, hx]

theorem runLength_cons_of_true {P : Char → Bool} {x : Char} (hx : P x = true) (r : List Char) :
    runLength P (x :: r) = runLength P r + 1 := by
  simp [runLength, hx]

theorem startsFolded_nil (cs : List Char) : startsFolded [] cs = true := by
  simp [startsFolded]

theorem startsFolded_cons_nil (l : Char) (word : List Char) : startsFolded (l :: word) [] = false := by
  simp [startsFolded]

theorem startsFolded_cons_cons (l c : Char) (word cs : List Char) :
    startsFolded (l :: word) (c :: cs) = (foldsToAscii c l && startsFolded word cs) := by
  simp only [startsFolded, List.length_cons, Nat.add_le_add_iff_right, List.zip_cons_cons,
    List.all_cons]
  cases decide (word.length ≤ cs.length) <;> cases foldsToAscii c l <;> simp

/-- The text starts with a word, folding case, exactly when its first
characters fold to the word's letters. -/
theorem startsFolded_iff {word cs : List Char} :
    startsFolded word cs = true ↔
      ∃ u r, cs = u ++ r ∧ List.Forall₂ (fun l c => foldsToAscii c l = true) word u := by
  induction word generalizing cs with
  | nil => simp [startsFolded_nil]
  | cons l word ih =>
    cases cs with
    | nil => simp [startsFolded_cons_nil]
    | cons c cs =>
      rw [startsFolded_cons_cons, Bool.and_eq_true, ih]
      constructor
      · rintro ⟨hc, u, r, rfl, hu⟩
        exact ⟨c :: u, r, rfl, .cons hc hu⟩
      · rintro ⟨_ | ⟨c', u⟩, r, hEq, hu⟩
        · cases hu
        · cases hu with
          | cons hc hu' =>
            obtain ⟨rfl, rfl⟩ := List.cons_eq_cons.1 hEq
            exact ⟨hc, u, r, rfl, hu'⟩

end Runs

/-! ## Classes of characters -/

section Classes

variable {S : Shape → Prop} {cls : List (Char → Bool)}

theorem agree_of_classes (hcls : ∀ σ, S σ → ∀ P ∈ σ, P ∈ cls) {x y : Char}
    (h : ∀ P ∈ cls, P x = true → P y = true) : Agree S x y :=
  fun σ hS P hP => h P (hcls σ hS P hP)

theorem stops_of_classes (hcls : ∀ σ, S σ → ∀ P ∈ σ, P ∈ cls) {z : Char}
    (h : ∀ P ∈ cls, P z = false) : Stops S z :=
  fun σ hS P hP => h P (hcls σ hS P hP)

end Classes

/-! ## The public token -/

/-- The prefix of a public token. -/
def publicWord : List Char := ['p', 'u', 'b', 'l', 'i', 'c', '-']

/-- `public-` and sixty-four hexadecimal digits. -/
def publicShape : Shape := publicWord.map (fun x c => c == x) ++ List.replicate 64 isHexDigit

/-- The shapes of a public token: the one shape. -/
def publicShapes (σ : Shape) : Prop := σ = publicShape

/-- The classes of characters a public token is made of. -/
def publicClasses : List (Char → Bool) := isHexDigit :: publicWord.map (fun x c => c == x)

theorem publicWord_eq : "public-".toList = publicWord := by
  simp [publicWord]

theorem publicClasses_cover : ∀ σ, publicShapes σ → ∀ P ∈ σ, P ∈ publicClasses := by
  rintro σ rfl P hP
  simp only [publicShape, List.mem_append, List.mem_replicate] at hP
  rcases hP with hP | ⟨-, rfl⟩
  · exact List.mem_cons_of_mem _ hP
  · exact List.mem_cons_self

theorem publicShape_long : ∀ σ, publicShapes σ → 7 < σ.length := by
  rintro σ rfl
  simp [publicShape, publicWord]

theorem stops_public_star : Stops publicShapes '*' :=
  stops_of_classes publicClasses_cover (by decide)

theorem stops_public_eq : Stops publicShapes '=' :=
  stops_of_classes publicClasses_cover (by decide)

/-- Where the public rewrite finds nothing, no public token starts. -/
theorem not_startsIn_public_of_publicHit {cs : List Char} (h : publicHit cs = none) :
    ¬StartsIn publicShapes cs := by
  rintro ⟨σ, u, rfl, hu, r, rfl⟩
  obtain ⟨u₁, u₂, rfl, h₁, h₂⟩ := fits_append hu
  obtain ⟨hLen, hHex⟩ := fits_replicate h₂
  obtain rfl : u₁ = publicWord := fits_map_beq h₁
  have hTake : (publicWord ++ (u₂ ++ r)).take 7 = publicWord := List.take_left' rfl
  have hDrop : (publicWord ++ (u₂ ++ r)).drop 7 = u₂ ++ r := List.drop_left' rfl
  have hRun : 64 ≤ runLength isHexDigit (u₂ ++ r) := by
    rw [runLength_append_of_all hHex]
    omega
  rw [List.append_assoc, publicHit, hTake, hDrop, publicWord_eq] at h
  simp [hRun] at h

theorem publicHit_replacement {cs : List Char} {h : Hit} (hHit : publicHit cs = some h) :
    h.replacement = cs.take 7 ++ '*' :: ['*', '*'] := by
  unfold publicHit at hHit
  by_cases hCond : (cs.take 7 == "public-".toList && decide (runLength isHexDigit (cs.drop 7) ≥ 64)) = true
  · rw [if_pos hCond] at hHit
    cases hHit
    simp only [Bool.and_eq_true, beq_iff_eq] at hCond
    rw [hCond.1]
    simp
  · rw [if_neg hCond] at hHit
    cases hHit

/-- The public rewrite keeps every shapes that stop at the mark. -/
theorem keeps_publicHit {S : Shape → Prop} (hStar : Stops S '*') : Keeps S 7 publicHit :=
  keeps_of_copy hStar (by simp [hStar]) fun _ _ hHit => ⟨7, Nat.le_refl 7, publicHit_replacement hHit⟩

/-! ## Password assignments -/

theorem assignmentHit_replacement {word cs : List Char} {h : Hit} (hHit : assignmentHit word cs = some h) :
    h.replacement = cs.take word.length ++ '=' :: ['*', '*', '*'] := by
  unfold assignmentHit at hHit
  split at hHit
  · cases hHit
  · split at hHit
    · split at hHit
      · dsimp only at hHit
        split at hHit
        · cases hHit
        · cases hHit
          simp
      · cases hHit
    · cases hHit

theorem passwordHit_replacement {cs : List Char} {h : Hit} (hHit : passwordHit cs = some h) :
    ∃ m ≤ 8, h.replacement = cs.take m ++ '=' :: ['*', '*', '*'] := by
  unfold passwordHit at hHit
  -- the first of the three words that matches gives the replacement
  cases h₁ : assignmentHit "password".toList cs with
  | some h' =>
    rw [h₁] at hHit
    cases hHit
    exact ⟨8, Nat.le_refl 8, by simpa using assignmentHit_replacement h₁⟩
  | none =>
    rw [h₁] at hHit
    cases h₂ : assignmentHit "passwd".toList cs with
    | some h' =>
      rw [h₂] at hHit
      cases hHit
      exact ⟨6, by omega, by simpa using assignmentHit_replacement h₂⟩
    | none =>
      rw [h₂] at hHit
      exact ⟨3, by omega, by simpa using assignmentHit_replacement hHit⟩

/-- The password rewrite keeps every shapes that stop at `=` and at the mark. -/
theorem keeps_passwordHit {S : Shape → Prop} (hEq : Stops S '=') (hStar : Stops S '*') :
    Keeps S 8 passwordHit :=
  keeps_of_copy hEq (by simp [hStar]) fun _ _ hHit => passwordHit_replacement hHit

/-! ## The bearer credential -/

/-- The word that opens a bearer credential. -/
def bearerWord : List Char := ['b', 'e', 'a', 'r', 'e', 'r']

/-- `bearer` in any case, `k + 1` pattern blanks and a token character. -/
def bearerShape (k : Nat) : Shape :=
  bearerWord.map (fun l c => foldsToAscii c l) ++ List.replicate (k + 1) isAsciiBlank ++
    [isBearerTokenChar]

/-- The shapes of a bearer credential, one for each number of blanks. -/
def bearerShapes (σ : Shape) : Prop := ∃ k, σ = bearerShape k

/-- The classes of characters a bearer credential is made of. -/
def bearerClasses : List (Char → Bool) :=
  isAsciiBlank :: isBearerTokenChar :: bearerWord.map (fun l c => foldsToAscii c l)

theorem bearerWord_eq : "bearer".toList = bearerWord := by
  simp [bearerWord]

theorem bearerClasses_cover : ∀ σ, bearerShapes σ → ∀ P ∈ σ, P ∈ bearerClasses := by
  rintro σ ⟨k, rfl⟩ P hP
  simp only [bearerShape, List.mem_append, List.mem_replicate, List.mem_singleton] at hP
  rcases hP with (hP | ⟨-, rfl⟩) | rfl
  · exact List.mem_cons_of_mem _ (List.mem_cons_of_mem _ hP)
  · exact List.mem_cons_self
  · exact List.mem_cons_of_mem _ List.mem_cons_self

theorem bearerShape_long : ∀ σ, bearerShapes σ → 7 < σ.length := by
  rintro σ ⟨k, rfl⟩
  simp [bearerShape, bearerWord]

theorem stops_bearer_star : Stops bearerShapes '*' :=
  stops_of_classes bearerClasses_cover (by decide)

theorem stops_bearer_eq : Stops bearerShapes '=' :=
  stops_of_classes bearerClasses_cover (by decide)

/-- A character that folds to a lower-case ASCII letter is a token character. -/
theorem isBearerTokenChar_of_folds {c l : Char} (hl : 'a' ≤ l ∧ l ≤ 'z') (h : foldsToAscii c l = true) :
    isBearerTokenChar c = true := by
  unfold foldsToAscii asciiLower at h
  by_cases hU : ('A' ≤ c && c ≤ 'Z') = true
  · simp only [Bool.and_eq_true, decide_eq_true_eq] at hU
    simp [isBearerTokenChar, hU]
  · rw [if_neg hU] at h
    simp only [Bool.or_eq_true, beq_iff_eq, Bool.and_eq_true] at h
    rcases h with (rfl | ⟨rfl, rfl⟩) | ⟨rfl, rfl⟩
    · simp [isBearerTokenChar, hl.1, hl.2]
    · decide
    · decide

theorem not_isAsciiBlank_of_token {c : Char} (h : isBearerTokenChar c = true) : isAsciiBlank c = false := by
  cases hBlank : isAsciiBlank c
  · rfl
  · simp only [isAsciiBlank, Bool.or_eq_true, beq_iff_eq] at hBlank
    rcases hBlank with (((rfl | rfl) | rfl) | rfl) | rfl <;> simp [isBearerTokenChar] at h

/-- Agreeing for the bearer shapes is agreeing on blanks, token characters and
the letters of the word. -/
theorem agree_bearer {x y : Char} (hBlank : isAsciiBlank x = true → isAsciiBlank y = true)
    (hToken : isBearerTokenChar x = true → isBearerTokenChar y = true)
    (hFold : ∀ l ∈ bearerWord, foldsToAscii x l = true → foldsToAscii y l = true) :
    Agree bearerShapes x y := by
  apply agree_of_classes bearerClasses_cover
  intro P hP hPx
  simp only [bearerClasses, List.mem_cons, List.mem_map] at hP
  rcases hP with rfl | rfl | ⟨l, hl, rfl⟩
  · exact hBlank hPx
  · exact hToken hPx
  · exact hFold l hl hPx

/-- A letter of the replacement agrees with the character it stands for, when
it folds to that letter of the word only. -/
theorem agree_bearer_letter {x y l : Char} (hl : 'a' ≤ l ∧ l ≤ 'z') (hxBlank : isAsciiBlank x = false)
    (hx : bearerWord.all (fun l' => !foldsToAscii x l' || l' == l) = true)
    (hy : foldsToAscii y l = true) : Agree bearerShapes x y := by
  refine agree_bearer (fun h => absurd (hxBlank ▸ h) Bool.false_ne_true)
    (fun _ => isBearerTokenChar_of_folds hl hy) ?_
  intro l' hl' hxl'
  have hOnly : (!foldsToAscii x l' || l' == l) = true := List.all_eq_true.1 hx l' hl'
  rw [hxl', Bool.not_true, Bool.false_or, beq_iff_eq] at hOnly
  exact hOnly ▸ hy

/-- The blank of the replacement agrees with the blank it stands for. -/
theorem agree_bearer_blank {y : Char} (hy : isAsciiBlank y = true) : Agree bearerShapes ' ' y := by
  refine agree_bearer (fun _ => hy) (fun h => absurd h (by decide)) ?_
  intro l hl h
  have hNone : bearerWord.all (fun l => !foldsToAscii ' ' l) = true := by decide
  have hSpace : (!foldsToAscii ' ' l) = true := List.all_eq_true.1 hNone l hl
  rw [h] at hSpace
  cases hSpace

/-- What the bearer rewrite reads: the word, folding case, and a blank after it. -/
theorem bearerHit_some {cs : List Char} {h : Hit} (hHit : bearerHit cs = some h) :
    h.replacement = "Bearer ***".toList ∧
      ∃ u y r, cs = u ++ y :: r ∧ List.Forall₂ (fun l c => foldsToAscii c l = true) bearerWord u ∧
        isAsciiBlank y = true := by
  unfold bearerHit at hHit
  by_cases hFold : startsFolded "bearer".toList cs = true
  · rw [if_neg (by rw [hFold]; decide)] at hHit
    dsimp only at hHit
    by_cases hZero : runLength isAsciiBlank (cs.drop 6) = 0 ∨
        runLength isBearerTokenChar ((cs.drop 6).drop (runLength isAsciiBlank (cs.drop 6))) = 0
    · rw [if_pos hZero] at hHit
      cases hHit
    · rw [if_neg hZero] at hHit
      cases hHit
      refine ⟨rfl, ?_⟩
      obtain ⟨u, rest, rfl, hu⟩ := startsFolded_iff.1 hFold
      rw [bearerWord_eq] at hu
      have hLen : u.length = 6 := by simpa [bearerWord] using hu.length_eq.symm
      rw [List.drop_left' hLen] at hZero
      -- the blanks after the word are at least one
      cases rest with
      | nil => simp [runLength] at hZero
      | cons y r =>
        refine ⟨u, y, r, rfl, hu, ?_⟩
        cases hy : isAsciiBlank y
        · rw [runLength_cons_of_false hy] at hZero
          simp at hZero
        · rfl
  · rw [if_pos (by simpa using hFold)] at hHit
    cases hHit

/-- The bearer rewrite keeps the bearer shapes: `Bearer ` agrees with the word
and the blank it replaces. -/
theorem keeps_bearerHit : Keeps bearerShapes 7 bearerHit := by
  intro cs hit hHit
  obtain ⟨hRepl, u, y, r, rfl, hu, hy⟩ := bearerHit_some hHit
  refine ⟨['B', 'e', 'a', 'r', 'e', 'r', ' '], '*', ['*', '*'], by rw [hRepl]; simp, by decide, ?_,
    stops_bearer_star, by simp [not_opens_of_stops stops_bearer_star]⟩
  unfold bearerWord at hu
  rcases hu with _ | ⟨h0, _ | ⟨h1, _ | ⟨h2, _ | ⟨h3, _ | ⟨h4, _ | ⟨h5, _ | _⟩⟩⟩⟩⟩⟩
  simp only [List.length_cons, List.length_nil, List.cons_append, List.nil_append, List.take_succ_cons,
    List.take_zero, List.forall₂_cons, List.Forall₂.nil, and_true]
  exact ⟨agree_bearer_letter (by decide) (by decide) (by decide) h0,
    agree_bearer_letter (by decide) (by decide) (by decide) h1,
    agree_bearer_letter (by decide) (by decide) (by decide) h2,
    agree_bearer_letter (by decide) (by decide) (by decide) h3,
    agree_bearer_letter (by decide) (by decide) (by decide) h4,
    agree_bearer_letter (by decide) (by decide) (by decide) h5, agree_bearer_blank hy⟩

/-- Where the bearer rewrite finds nothing, no bearer credential starts. -/
theorem not_startsIn_bearer_of_bearerHit {cs : List Char} (h : bearerHit cs = none) :
    ¬StartsIn bearerShapes cs := by
  rintro ⟨σ, u, ⟨k, rfl⟩, hu, r, rfl⟩
  obtain ⟨u₁₂, u₃, rfl, h₁₂, h₃⟩ := fits_append hu
  obtain ⟨u₁, u₂, rfl, h₁, h₂⟩ := fits_append h₁₂
  obtain ⟨hLen₂, hBlank⟩ := fits_replicate h₂
  obtain ⟨x, rfl, hx⟩ : ∃ x, u₃ = [x] ∧ isBearerTokenChar x = true := by
    cases h₃ with
    | cons hx hNil =>
      cases hNil
      exact ⟨_, rfl, hx⟩
  have hWord : List.Forall₂ (fun l c => foldsToAscii c l = true) bearerWord u₁ :=
    List.forall₂_map_left_iff.1 h₁
  have hLen₁ : u₁.length = 6 := by simpa [bearerWord] using hWord.length_eq.symm
  -- the blanks run exactly to the token character, which is no blank
  have hSpaces : runLength isAsciiBlank (u₂ ++ x :: r) = k + 1 := by
    rw [runLength_append_of_all hBlank, runLength_cons_of_false (not_isAsciiBlank_of_token hx)]
    omega
  have hToken : runLength isBearerTokenChar (x :: r) ≠ 0 := by
    rw [runLength_cons_of_true hx]
    omega
  have hEq : u₁ ++ u₂ ++ [x] ++ r = u₁ ++ (u₂ ++ x :: r) := by simp
  have hFold : startsFolded "bearer".toList (u₁ ++ (u₂ ++ x :: r)) = true := by
    rw [bearerWord_eq]
    exact startsFolded_iff.2 ⟨u₁, _, rfl, hWord⟩
  rw [hEq, bearerHit, if_neg (by rw [hFold]; decide)] at h
  dsimp only at h
  rw [List.drop_left' hLen₁, hSpaces, List.drop_left' hLen₂, if_neg (by omega)] at h
  cases h

/-! ## A redacted text -/

/-- A redacted text holds no public token and no bearer credential: the bearer
rewrite clears its pattern, the public rewrite clears its own and keeps the
first clear, and the password rewrite keeps both. -/
theorem redactText_clean (s : String) :
    ¬Occurs publicShapes (redactText s).toList ∧ ¬Occurs bearerShapes (redactText s).toList := by
  have hBearer₁ : ¬Occurs bearerShapes (rewriteAll bearerHit s.toList) :=
    not_occurs_rewriteAll keeps_bearerHit (fun _ => not_startsIn_bearer_of_bearerHit)
      bearerShape_long _
  have hBearer₂ : ¬Occurs bearerShapes (rewriteAll publicHit (rewriteAll bearerHit s.toList)) :=
    not_occurs_rewriteAll_of_not_occurs (keeps_publicHit stops_bearer_star) _ hBearer₁
  have hPublic₂ : ¬Occurs publicShapes (rewriteAll publicHit (rewriteAll bearerHit s.toList)) :=
    not_occurs_rewriteAll (keeps_publicHit stops_public_star)
      (fun _ => not_startsIn_public_of_publicHit) publicShape_long _
  rw [redactText, String.toList_ofList]
  exact ⟨not_occurs_rewriteAll_of_not_occurs (keeps_passwordHit stops_public_eq stops_public_star) _
      hPublic₂,
    not_occurs_rewriteAll_of_not_occurs (keeps_passwordHit stops_bearer_eq stops_bearer_star) _
      hBearer₂⟩

/-- Redaction empties no text: each of its rewrites keeps some shapes. -/
theorem redactText_eq_empty_iff (s : String) : redactText s = "" ↔ s = "" := by
  rw [← String.toList_inj, ← String.toList_inj, redactText, String.toList_ofList, String.toList_empty,
    rewriteAll_eq_nil_iff (keeps_passwordHit stops_public_eq stops_public_star),
    rewriteAll_eq_nil_iff (keeps_publicHit stops_public_star), rewriteAll_eq_nil_iff keeps_bearerHit]

end Turnstile.Log
