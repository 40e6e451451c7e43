import Turnstile.Host.Files
import Turnstile.Proofs.Server.Routes

/-!
# Cleaning paths

A path is read as its elements (`pathElements`): the pieces between slashes,
without empty and `.` ones.  Cleaning resolves the `..` elements of a rooted
path against the ones before them; what it gives is the root followed by plain
elements (`clean_rooted`).

Resolving is a fold (`resolveDots_eq_foldl`) of a step that pushes an element
or takes one back, so it composes: resolving what was resolved at the root
changes nothing however the list goes on (`resolveDots_true_resolveDots_append`),
and the elements a relative path resolves to replay at the root as the path
itself does (`resolveDots_true_append_resolveDots_false`).  From these, the
absolute path of a name joined to a directory is the directory's absolute path
with the name after it, cleaned (`absPath_join`).

A path lies strictly below a directory (`StrictlyBelow`) when its elements are
the directory's and at least one more.  Of two cleaned rooted paths, one starts
with the other and a slash exactly when the other is not the root and the first
lies strictly below it (`clean_startsWith_slash_iff`): at the root the test asks
for `//`, which no cleaned path starts with.
-/

namespace Turnstile.Path

/-- An element of a path as `pathElements` gives it: not empty, not `.`, and
without a slash; it may be `..`. -/
def Segment (e : String) : Prop :=
  e ≠ "" ∧ e ≠ "." ∧ '/' ∉ e.toList

/-! ## Elements -/

/-- No piece of a list cut at a character holds that character. -/
theorem not_mem_of_mem_splitOn (c : Char) :
    ∀ {l piece : List Char}, piece ∈ l.splitOn c → c ∉ piece
  | [], piece, h => by
    rw [List.splitOn_nil, List.mem_singleton] at h
    subst h
    simp
  | x :: xs, piece, h => by
    rw [List.splitOn_cons_eq_if_modifyHead] at h
    split at h
    · rcases List.mem_cons.1 h with rfl | h
      · simp
      · exact not_mem_of_mem_splitOn c h
    · next hx =>
      obtain ⟨first, rest, hSplit⟩ := List.exists_cons_of_ne_nil (List.splitOn_ne_nil c xs)
      rw [hSplit, List.modifyHead_cons] at h
      rcases List.mem_cons.1 h with rfl | h
      · have hFirst : c ∉ first := not_mem_of_mem_splitOn c (l := xs) (by simp [hSplit])
        simp only [List.mem_cons, not_or]
        exact ⟨fun hc => hx (by simp [hc]), hFirst⟩
      · exact not_mem_of_mem_splitOn c (l := xs) (by simp [hSplit, h])

theorem splitOn_slash (s : String) : s.splitOn "/" = (s.toList.splitOn '/').map String.ofList := by
  have hSep : "/" = String.singleton '/' := rfl
  rw [hSep, Text.splitOn_singleton]

theorem segment_of_mem_pathElements {s e : String} (h : e ∈ pathElements s) : Segment e := by
  simp only [pathElements, List.mem_filter, Bool.and_eq_true, bne_iff_ne, ne_eq] at h
  obtain ⟨hMem, hEmpty, hDot⟩ := h
  rw [splitOn_slash, List.mem_map] at hMem
  obtain ⟨piece, hPiece, rfl⟩ := hMem
  exact ⟨hEmpty, hDot, by simpa using not_mem_of_mem_splitOn '/' hPiece⟩

theorem pathElements_empty : pathElements "" = [] := by
  simp [pathElements, splitOn_slash]

/-- The elements of two paths joined by a slash are those of the first, then
those of the second. -/
theorem pathElements_append_slash (x y : String) :
    pathElements (x ++ "/" ++ y) = pathElements x ++ pathElements y := by
  have hJoin : (x ++ "/" ++ y).toList = x.toList ++ '/' :: y.toList := by simp
  rw [pathElements, splitOn_slash, hJoin, List.splitOn_append_cons_self, List.map_append,
    List.filter_append, ← splitOn_slash, ← splitOn_slash]
  rfl

/-- Slash-free, non-empty elements other than `.` are the elements of their join. -/
theorem pathElements_intercalate {R : List String} (h : ∀ e ∈ R, Segment e) :
    pathElements ("/".intercalate R) = R := by
  by_cases hne : R = []
  · subst hne
    exact pathElements_empty
  · have hSep : "/".toList = ['/'] := rfl
    rw [pathElements, splitOn_slash, String.toList_intercalate, hSep, List.splitOn_intercalate]
    · simp only [List.map_map, Function.comp_def, String.ofList_toList, List.map_id']
      rw [List.filter_eq_self]
      intro e he
      simp [(h e he).1, (h e he).2.1]
    · simpa using fun e he => (h e he).2.2
    · simpa using hne

theorem pathElements_rooted {R : List String} (h : ∀ e ∈ R, Segment e) :
    pathElements ("/" ++ "/".intercalate R) = R := by
  have hSplit := pathElements_append_slash "" ("/".intercalate R)
  rwa [String.empty_append, pathElements_empty, List.nil_append, pathElements_intercalate h] at hSplit

/-! ## Resolving `..` -/

/-- One step of resolving `..` elements, on the stack of elements kept, the
last one first. -/
def dotStep (rooted : Bool) (acc : List String) (e : String) : List String :=
  if e == ".." then
    match acc with
    | top :: rest => if top == ".." then ".." :: acc else rest
    | [] => if rooted then [] else [".."]
  else e :: acc

theorem resolveDots_eq_foldl (rooted : Bool) (es : List String) :
    resolveDots rooted es = (es.foldl (dotStep rooted) []).reverse := rfl

theorem dotStep_ne (rooted : Bool) (acc : List String) {e : String} (he : e ≠ "..") :
    dotStep rooted acc e = e :: acc := by
  simp [dotStep, he]

theorem dotStep_cons (rooted : Bool) {top : String} (htop : top ≠ "..") (rest : List String) :
    dotStep rooted (top :: rest) ".." = rest := by
  simp [dotStep, htop]

/-- Elements that are not `..` are pushed one after another. -/
theorem foldl_dotStep_of_forall_ne (rooted : Bool) {xs : List String} (h : ∀ e ∈ xs, e ≠ "..")
    (acc : List String) : xs.foldl (dotStep rooted) acc = xs.reverse ++ acc := by
  induction xs generalizing acc with
  | nil => rfl
  | cons x xs ih =>
    rw [List.foldl_cons, dotStep_ne rooted acc (h x (by simp)), ih fun e he => h e (by simp [he])]
    simp

/-- Every element a step keeps was kept before or is the one it reads. -/
theorem mem_dotStep {rooted : Bool} {acc : List String} {e x : String}
    (h : x ∈ dotStep rooted acc e) : x = e ∨ x ∈ acc := by
  unfold dotStep at h
  split at h
  · next he =>
    have he : e = ".." := by simpa using he
    split at h
    · split at h
      · rcases List.mem_cons.1 h with rfl | h
        · exact Or.inl he.symm
        · exact Or.inr h
      · exact Or.inr (List.mem_cons_of_mem _ h)
    · split at h
      · cases h
      · exact Or.inl (by simpa [he] using h)
  · exact List.mem_cons.1 h

theorem mem_foldl_dotStep {rooted : Bool} {x : String} :
    ∀ {xs acc : List String}, x ∈ xs.foldl (dotStep rooted) acc → x ∈ xs ∨ x ∈ acc
  | [], _, h => Or.inr h
  | e :: xs, acc, h => by
    rcases @mem_foldl_dotStep _ _ xs _ h with h | h
    · exact Or.inl (List.mem_cons_of_mem _ h)
    · rcases mem_dotStep h with rfl | h
      · exact Or.inl (List.mem_cons_self ..)
      · exact Or.inr h

/-- At the root a `..` is never kept. -/
theorem dots_not_mem_foldl_dotStep :
    ∀ {xs acc : List String}, ".." ∉ acc → ".." ∉ xs.foldl (dotStep true) acc
  | [], _, h => h
  | e :: xs, acc, h => by
    rw [List.foldl_cons]
    apply @dots_not_mem_foldl_dotStep xs
    by_cases he : e = ".."
    · subst he
      cases acc with
      | nil => simp [dotStep]
      | cons top rest =>
        have htop : top ≠ ".." := fun h' => h (h' ▸ List.mem_cons_self ..)
        rw [dotStep_cons true htop]
        exact fun h' => h (List.mem_cons_of_mem _ h')
    · rw [dotStep_ne true acc he]
      simp only [List.mem_cons, not_or]
      exact ⟨Ne.symm he, h⟩

theorem dots_not_mem_resolveDots_true (es : List String) : ".." ∉ resolveDots true es := by
  rw [resolveDots_eq_foldl, List.mem_reverse]
  exact dots_not_mem_foldl_dotStep List.not_mem_nil

theorem mem_of_mem_resolveDots {rooted : Bool} {es : List String} {x : String}
    (h : x ∈ resolveDots rooted es) : x ∈ es := by
  rw [resolveDots_eq_foldl, List.mem_reverse] at h
  rcases mem_foldl_dotStep h with h | h
  · exact h
  · cases h

/-- Resolving at the root what was resolved at the root changes nothing, however
the list goes on. -/
theorem resolveDots_true_resolveDots_append (E F : List String) :
    resolveDots true (resolveDots true E ++ F) = resolveDots true (E ++ F) := by
  have hReplay : (resolveDots true E).foldl (dotStep true) [] = E.foldl (dotStep true) [] := by
    rw [foldl_dotStep_of_forall_ne true (fun e he h => dots_not_mem_resolveDots_true E (h ▸ he)),
      resolveDots_eq_foldl, List.reverse_reverse, List.append_nil]
  rw [resolveDots_eq_foldl true (resolveDots true E ++ F), resolveDots_eq_foldl true (E ++ F),
    List.foldl_append, List.foldl_append, hReplay]

/-- A relative stack replayed at the root: one more step of it is one more step
at the root. -/
theorem foldl_reverse_dotStep_false (S A : List String) (e : String) :
    (dotStep false A e).reverse.foldl (dotStep true) S =
      dotStep true (A.reverse.foldl (dotStep true) S) e := by
  by_cases he : e = ".."
  · subst he
    cases A with
    | nil => rfl
    | cons top rest =>
      by_cases htop : top = ".."
      · subst htop
        simp [dotStep, List.foldl_append]
      · rw [dotStep_cons false htop, List.reverse_cons, List.foldl_append, List.foldl_cons,
          List.foldl_nil, dotStep_ne true _ htop, dotStep_cons true htop]
  · rw [dotStep_ne false A he, List.reverse_cons, List.foldl_append, List.foldl_cons, List.foldl_nil]

/-- The elements a relative path resolves to replay at the root as the path
itself does. -/
theorem foldl_dotStep_true_resolveDots_false (S F : List String) :
    (resolveDots false F).foldl (dotStep true) S = F.foldl (dotStep true) S := by
  -- the relative stack after each prefix of `F` replays as that prefix
  suffices h : ∀ A, (F.foldl (dotStep false) A).reverse.foldl (dotStep true) S =
      F.foldl (dotStep true) (A.reverse.foldl (dotStep true) S) from h []
  induction F with
  | nil => intro A; rfl
  | cons e F ih =>
    intro A
    rw [List.foldl_cons, ih, foldl_reverse_dotStep_false, List.foldl_cons]

theorem resolveDots_true_append_resolveDots_false (E F : List String) :
    resolveDots true (E ++ resolveDots false F) = resolveDots true (E ++ F) := by
  rw [resolveDots_eq_foldl true (E ++ resolveDots false F), resolveDots_eq_foldl true (E ++ F),
    List.foldl_append, List.foldl_append, foldl_dotStep_true_resolveDots_false]

theorem resolveDots_true_idem (E : List String) :
    resolveDots true (resolveDots true E) = resolveDots true E := by
  simpa using resolveDots_true_resolveDots_append E []

/-! ## Cleaning -/

theorem Segment.of_plain {e : String} (h : PlainElement e) : Segment e := ⟨h.1, h.2.1, h.2.2.2⟩

/-- Resolving at the root leaves plain elements. -/
theorem plain_of_mem_resolveDots_true {es : List String} (hes : ∀ e ∈ es, Segment e) :
    ∀ e ∈ resolveDots true es, PlainElement e := by
  intro e he
  obtain ⟨hEmpty, hDot, hSlash⟩ := hes e (mem_of_mem_resolveDots he)
  exact ⟨hEmpty, hDot, fun h => dots_not_mem_resolveDots_true es (h ▸ he), hSlash⟩

theorem clean_rooted {a : String} (h : a.startsWith "/" = true) :
    clean a = "/" ++ "/".intercalate (resolveDots true (pathElements a)) := by
  simp only [clean, h, if_true]

theorem plain_clean_rooted (a : String) : ∀ e ∈ resolveDots true (pathElements a), PlainElement e :=
  plain_of_mem_resolveDots_true fun _ => segment_of_mem_pathElements

theorem pathElements_clean_rooted {a : String} (h : a.startsWith "/" = true) :
    pathElements (clean a) = resolveDots true (pathElements a) := by
  rw [clean_rooted h, pathElements_rooted fun e he => Segment.of_plain (plain_clean_rooted a e he)]

theorem startsWith_clean_rooted {a : String} (h : a.startsWith "/" = true) :
    (clean a).startsWith "/" = true := by
  rw [clean_rooted h]
  exact startsWith_rooted _

/-- The join of elements begins with the first of them. -/
theorem toList_intercalate_cons (r : String) (rs : List String) :
    ∃ t, ("/".intercalate (r :: rs)).toList = r.toList ++ t := by
  cases rs with
  | nil => exact ⟨[], by simp⟩
  | cons r' rs => exact ⟨("/" ++ "/".intercalate (r' :: rs)).toList, by simp⟩

/-- A join of elements does not start with a slash. -/
theorem startsWith_intercalate {R : List String} (h : ∀ e ∈ R, Segment e) :
    ("/".intercalate R).startsWith "/" = false := by
  rw [String.startsWith_string_eq_false_iff]
  cases R with
  | nil => simp
  | cons r rs =>
    obtain ⟨hEmpty, -, hSlash⟩ := h r (by simp)
    obtain ⟨c, cs, hr⟩ := List.exists_cons_of_ne_nil (by simpa using hEmpty : r.toList ≠ [])
    obtain ⟨t, ht⟩ := toList_intercalate_cons r rs
    rintro ⟨u, hu⟩
    rw [ht, hr] at hu
    have hc : '/' = c := (List.cons.inj hu).1
    exact hSlash (hr ▸ List.mem_cons.2 (.inl hc))

/-- A join of segments is empty only when there are none. -/
theorem intercalate_eq_empty_iff {R : List String} (h : ∀ e ∈ R, Segment e) :
    "/".intercalate R = "" ↔ R = [] := by
  constructor
  · intro hEmpty
    cases R with
    | nil => rfl
    | cons r rs =>
      -- the first element is a prefix of the join, and it is not empty
      obtain ⟨t, ht⟩ := toList_intercalate_cons r rs
      rw [← String.toList_eq_nil_iff, ht, List.append_eq_nil_iff] at hEmpty
      exact absurd (String.toList_eq_nil_iff.1 hEmpty.1) (h r (by simp)).1
  · rintro rfl
    rfl

theorem pathElements_dot : pathElements "." = [] := by
  simp +decide [pathElements, String.splitOn, String.splitOnAux]

/-- Cleaning a relative path resolves its elements without a root, and leaves a
relative path that is not empty. -/
theorem clean_relative {a : String} (h : a.startsWith "/" = false) :
    pathElements (clean a) = resolveDots false (pathElements a) ∧
      (clean a).startsWith "/" = false ∧ clean a ≠ "" := by
  have hSeg : ∀ e ∈ resolveDots false (pathElements a), Segment e :=
    fun e he => segment_of_mem_pathElements (mem_of_mem_resolveDots he)
  simp only [clean, h, Bool.false_eq_true, if_false]
  split
  · next hBody =>
    have hNil : resolveDots false (pathElements a) = [] :=
      (intercalate_eq_empty_iff hSeg).1 (by simpa using hBody)
    exact ⟨by rw [hNil, pathElements_dot], by decide +kernel, by decide⟩
  · next hBody =>
    exact ⟨pathElements_intercalate hSeg, startsWith_intercalate hSeg, by simpa using hBody⟩

/-! ## Joining and absolute paths -/

theorem join_pair {a b : String} (ha : a ≠ "") (hb : b ≠ "") : join [a, b] = clean (a ++ "/" ++ b) := by
  simp [join, ha, hb]

theorem join_single {a : String} (ha : a ≠ "") : join [a, ""] = clean a := by
  simp [join, ha]

/-- A path that is not empty starts with a slash whatever follows it. -/
theorem startsWith_slash_append {a : String} (ha : a ≠ "") (t : String) :
    (a ++ t).startsWith "/" = a.startsWith "/" := by
  obtain ⟨c, cs, hc⟩ := List.exists_cons_of_ne_nil (by simpa using ha : a.toList ≠ [])
  rw [Bool.eq_iff_iff, String.startsWith_string_iff, String.startsWith_string_iff, String.toList_append,
    hc]
  simp

theorem ne_empty_of_rooted {a : String} (h : a.startsWith "/" = true) : a ≠ "" := by
  rintro rfl
  exact absurd h (by decide +kernel)

theorem rooted_append {a : String} (h : a.startsWith "/" = true) (t : String) :
    (a ++ t).startsWith "/" = true := by
  rw [startsWith_slash_append (ne_empty_of_rooted h)]
  exact h

/-- A name joined to a directory cleans a path with the directory's elements
and then the name's, rooted exactly when the directory is. -/
theorem join_pair_eq {dir : String} (hdir : dir ≠ "") (name : String) :
    ∃ z, join [dir, name] = clean z ∧ pathElements z = pathElements dir ++ pathElements name ∧
      z.startsWith "/" = dir.startsWith "/" := by
  by_cases hName : name = ""
  · subst hName
    exact ⟨dir, join_single hdir, by rw [pathElements_empty, List.append_nil], rfl⟩
  · refine ⟨dir ++ "/" ++ name, join_pair hdir hName, pathElements_append_slash dir name, ?_⟩
    rw [String.append_assoc, startsWith_slash_append hdir]

/-- Rooted paths whose elements resolve alike clean alike. -/
theorem clean_eq_of_resolveDots {a b : String} (ha : a.startsWith "/" = true)
    (hb : b.startsWith "/" = true)
    (h : resolveDots true (pathElements a) = resolveDots true (pathElements b)) : clean a = clean b := by
  rw [clean_rooted ha, clean_rooted hb, h]

/-! ## Prefixes of rooted paths -/

/-- A list splits at the first occurrence of an element in one way only. -/
theorem append_cons_inj_of_not_mem {α : Type} {c : α} {x₁ x₂ z₁ z₂ : List α} (h₁ : c ∉ x₁)
    (h₂ : c ∉ x₂) (h : x₁ ++ c :: z₁ = x₂ ++ c :: z₂) : x₁ = x₂ ∧ z₁ = z₂ := by
  rcases List.append_eq_append_iff.1 h with ⟨a, rfl, ha⟩ | ⟨a, rfl, ha⟩
  · cases a with
    | nil => simpa using ha
    | cons d a =>
      -- the element would occur in the longer part, before its first occurrence
      have hd : c = d := (List.cons.inj ha).1
      exact (h₂ (by simp [hd])).elim
  · cases a with
    | nil => simpa using ha.symm
    | cons d a =>
      have hd : c = d := (List.cons.inj ha).1
      exact (h₁ (by simp [hd])).elim

/-- An element then a slash begins a join of elements exactly when the join has
that element first and more after it. -/
theorem append_slash_prefix_intercalate_iff {b X : List Char} {ps : List (List Char)}
    (hb : '/' ∉ b) (hps : ∀ p ∈ ps, '/' ∉ p) :
    b ++ '/' :: X <+: ['/'].intercalate ps ↔
      ∃ q qs, ps = b :: q :: qs ∧ X <+: ['/'].intercalate (q :: qs) := by
  match ps, hps with
  | [], _ => simp
  | [p], hps =>
    -- a single element has no slash to match
    rw [List.intercalate_singleton]
    constructor
    · intro h
      exact (hps p (by simp) (h.subset (by simp))).elim
    · rintro ⟨q, qs, h, -⟩
      simp at h
  | p :: q :: qs, hps =>
    rw [List.intercalate_cons_cons]
    constructor
    · rintro ⟨t, ht⟩
      obtain ⟨rfl, hX⟩ := append_cons_inj_of_not_mem hb (hps p (by simp)) (by simpa using ht)
      exact ⟨q, qs, rfl, t, hX⟩
    · rintro ⟨q', qs', h, t, ht⟩
      obtain ⟨rfl, rfl, rfl⟩ : p = b ∧ q = q' ∧ qs = qs' := by simpa using h
      exact ⟨t, by simp [← ht]⟩

/-- A join of elements then a slash begins another join exactly when the
other's elements are the first's and more. -/
theorem intercalate_append_slash_prefix_iff {bs ps : List (List Char)} (hbs : bs ≠ [])
    (hb : ∀ b ∈ bs, '/' ∉ b) (hps : ∀ p ∈ ps, '/' ∉ p) :
    ['/'].intercalate bs ++ ['/'] <+: ['/'].intercalate ps ↔
      ∃ rest, rest ≠ [] ∧ ps = bs ++ rest := by
  induction bs generalizing ps with
  | nil => exact (hbs rfl).elim
  | cons b bs ih =>
    cases bs with
    | nil =>
      rw [List.intercalate_singleton, append_slash_prefix_intercalate_iff (hb b (by simp)) hps]
      constructor
      · rintro ⟨q, qs, rfl, -⟩
        exact ⟨q :: qs, List.cons_ne_nil _ _, rfl⟩
      · rintro ⟨rest, hrest, rfl⟩
        obtain ⟨q, qs, rfl⟩ := List.exists_cons_of_ne_nil hrest
        exact ⟨q, qs, rfl, List.nil_prefix⟩
    | cons b' bs =>
      -- the first element and its slash match the other's first, then the rest recurs
      have hSplit : ['/'].intercalate (b :: b' :: bs) ++ ['/'] =
          b ++ '/' :: (['/'].intercalate (b' :: bs) ++ ['/']) := by
        simp [List.intercalate_cons_cons]
      have hTail : ∀ b ∈ b' :: bs, '/' ∉ b := fun x hx => hb x (List.mem_cons_of_mem _ hx)
      rw [hSplit, append_slash_prefix_intercalate_iff (hb b (by simp)) hps]
      constructor
      · rintro ⟨q, qs, rfl, hX⟩
        have hqs : ∀ p ∈ q :: qs, '/' ∉ p := fun x hx => hps x (List.mem_cons_of_mem _ hx)
        obtain ⟨rest, hrest, hEq⟩ := (ih (List.cons_ne_nil _ _) hTail hqs).1 hX
        exact ⟨rest, hrest, by rw [hEq]; rfl⟩
      · rintro ⟨rest, hrest, rfl⟩
        have hqs : ∀ p ∈ b' :: bs ++ rest, '/' ∉ p := fun x hx => hps x (List.mem_cons_of_mem _ hx)
        exact ⟨b', bs ++ rest, rfl, (ih (List.cons_ne_nil _ _) hTail hqs).2 ⟨rest, hrest, rfl⟩⟩

/-- A rooted path of segments starts with another and a slash exactly when the
other is not the root and its elements are the path's first ones, with more
after them. -/
theorem rooted_startsWith_slash_iff {B P : List String} (hB : ∀ e ∈ B, Segment e)
    (hP : ∀ e ∈ P, Segment e) :
    ("/" ++ "/".intercalate P).startsWith ("/" ++ "/".intercalate B ++ "/") = true ↔
      B ≠ [] ∧ ∃ rest, rest ≠ [] ∧ P = B ++ rest := by
  rw [String.startsWith_string_iff, String.toList_append, String.toList_append,
    String.toList_append, List.append_assoc, List.prefix_append_right_inj]
  cases B with
  | nil =>
    -- the root's own slash would begin the path's first element
    have hNo := (String.startsWith_string_eq_false_iff).1 (startsWith_intercalate hP)
    simpa using hNo
  | cons b bs =>
    have hPieces : ∀ e ∈ P.map String.toList, '/' ∉ e := by
      simp only [List.mem_map]
      rintro _ ⟨e, he, rfl⟩
      exact (hP e he).2.2
    rw [String.toList_intercalate, String.toList_intercalate,
      show "/".toList = ['/'] by simp,
      intercalate_append_slash_prefix_iff (by simp) (by simpa using fun e he => (hB e he).2.2) hPieces]
    simp only [ne_eq, reduceCtorEq, not_false_eq_true, true_and]
    constructor
    · rintro ⟨rest, hrest, hEq⟩
      obtain ⟨l₁, l₂, rfl, h₁, rfl⟩ := List.map_eq_append_iff.1 hEq
      have hInj : Function.Injective (List.map String.toList) :=
        List.map_injective_iff.2 fun _ _ h => String.toList_injective h
      exact ⟨l₂, by simpa using hrest, by rw [hInj h₁]⟩
    · rintro ⟨rest, hrest, rfl⟩
      exact ⟨rest.map String.toList, by simpa using hrest, List.map_append⟩

/-- A path lies strictly below a directory when its elements are the
directory's and at least one more. -/
def StrictlyBelow (dir p : String) : Prop :=
  ∃ rest, rest ≠ [] ∧ pathElements p = pathElements dir ++ rest

theorem strictlyBelow_iff {dir p : String} :
    StrictlyBelow dir p ↔
      pathElements dir <+: pathElements p ∧ (pathElements dir).length < (pathElements p).length := by
  constructor
  · rintro ⟨rest, hrest, h⟩
    refine ⟨⟨rest, h.symm⟩, ?_⟩
    have hLen : 0 < rest.length := List.length_pos_iff.2 hrest
    rw [h, List.length_append]
    omega
  · rintro ⟨⟨rest, h⟩, hLen⟩
    refine ⟨rest, ?_, h.symm⟩
    rintro rfl
    rw [List.append_nil] at h
    exact absurd (congrArg List.length h) (Nat.ne_of_lt hLen)

instance (dir p : String) : Decidable (StrictlyBelow dir p) :=
  decidable_of_iff _ strictlyBelow_iff.symm

/-- Of two cleaned rooted paths, one starts with the other and a slash exactly
when the other is not the root and the first lies strictly below it. -/
theorem clean_startsWith_slash_iff {a b : String} (ha : a.startsWith "/" = true)
    (hb : b.startsWith "/" = true) :
    (clean b).startsWith (clean a ++ "/") = true ↔
      clean a ≠ "/" ∧ StrictlyBelow (clean a) (clean b) := by
  have hA : ∀ e ∈ resolveDots true (pathElements a), Segment e :=
    fun e he => Segment.of_plain (plain_clean_rooted a e he)
  have hB : ∀ e ∈ resolveDots true (pathElements b), Segment e :=
    fun e he => Segment.of_plain (plain_clean_rooted b e he)
  have hRoot : clean a ≠ "/" ↔ resolveDots true (pathElements a) ≠ [] := by
    rw [clean_rooted ha, Ne, Ne, ← intercalate_eq_empty_iff hA]
    simp
  rw [hRoot, StrictlyBelow, pathElements_clean_rooted ha, pathElements_clean_rooted hb,
    clean_rooted ha, clean_rooted hb]
  exact rooted_startsWith_slash_iff hA hB

end Turnstile.Path

namespace Turnstile.Host

open Turnstile.Path

theorem absPath_rooted (cwd : String) {p : String} (h : p.startsWith "/" = true) :
    absPath cwd p = clean p := by
  simp [absPath, h]

theorem absPath_relative {cwd p : String} (h : p.startsWith "/" = false) (hcwd : cwd ≠ "")
    (hp : p ≠ "") : absPath cwd p = clean (cwd ++ "/" ++ p) := by
  simp [absPath, h, join_pair hcwd hp]

/-- The absolute path of a relative path resolves the working directory's
elements and then the path's at the root. -/
theorem absPath_relative_elements {cwd p : String} (hcwd : cwd.startsWith "/" = true)
    (h : p.startsWith "/" = false) (hp : p ≠ "") :
    absPath cwd p = "/" ++ "/".intercalate (resolveDots true (pathElements cwd ++ pathElements p)) := by
  rw [absPath_relative h (ne_empty_of_rooted hcwd) hp,
    clean_rooted (rooted_append (rooted_append hcwd _) _), pathElements_append_slash]

/-- A directory that is not empty, read from a rooted working directory, has as
absolute path the cleaning of a rooted path. -/
theorem absPath_eq_clean_rooted {cwd dir : String} (hcwd : cwd.startsWith "/" = true)
    (hdir : dir ≠ "") : ∃ a, a.startsWith "/" = true ∧ absPath cwd dir = clean a := by
  cases hDir : dir.startsWith "/" with
  | true => exact ⟨dir, hDir, absPath_rooted cwd hDir⟩
  | false =>
    exact ⟨cwd ++ "/" ++ dir, rooted_append (rooted_append hcwd _) _,
      absPath_relative hDir (ne_empty_of_rooted hcwd) hdir⟩

/-- The absolute path of a name joined to a directory is the directory's
absolute path with the name after a slash, cleaned. -/
theorem absPath_join {cwd dir : String} (hcwd : cwd.startsWith "/" = true) (hdir : dir ≠ "")
    (name : String) : absPath cwd (join [dir, name]) = clean (absPath cwd dir ++ "/" ++ name) := by
  obtain ⟨z, hJoin, hElems, hRooted⟩ := join_pair_eq hdir name
  cases hDir : dir.startsWith "/" with
  | true =>
    -- both sides resolve the directory's elements, then the name's, at the root
    have hz : z.startsWith "/" = true := hRooted.trans hDir
    rw [hJoin, absPath_rooted cwd (startsWith_clean_rooted hz), absPath_rooted cwd hDir]
    apply clean_eq_of_resolveDots (startsWith_clean_rooted hz)
      (rooted_append (rooted_append (startsWith_clean_rooted hDir) _) _)
    rw [pathElements_clean_rooted hz, resolveDots_true_idem, hElems, pathElements_append_slash,
      pathElements_clean_rooted hDir, resolveDots_true_resolveDots_append]
  | false =>
    -- the relative join resolves without a root, then replays after the working directory
    have hz : z.startsWith "/" = false := hRooted.trans hDir
    obtain ⟨hzElems, hzRelative, hzNe⟩ := clean_relative hz
    have hcwdNe : cwd ≠ "" := ne_empty_of_rooted hcwd
    have hcwdDir : (cwd ++ "/" ++ dir).startsWith "/" = true := rooted_append (rooted_append hcwd _) _
    rw [hJoin, absPath_relative hzRelative hcwdNe hzNe, absPath_relative hDir hcwdNe hdir]
    apply clean_eq_of_resolveDots (rooted_append (rooted_append hcwd _) _)
      (rooted_append (rooted_append (startsWith_clean_rooted hcwdDir) _) _)
    rw [pathElements_append_slash, hzElems, hElems, resolveDots_true_append_resolveDots_false,
      pathElements_append_slash, pathElements_clean_rooted hcwdDir, pathElements_append_slash,
      resolveDots_true_resolveDots_append, List.append_assoc]

end Turnstile.Host
