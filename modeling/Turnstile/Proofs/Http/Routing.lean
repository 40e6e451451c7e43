import Turnstile.Http.Mux
import Turnstile.Http.Message

/-!
# Header fields and routes

What reading a header map gives after it is written, and where a router sends a
registered path.

* Writing a key of an association list in place where it is, or at the end
  where it is not, changes what that key reads and nothing else
  (`lookup_upsert`); header maps and counters are written this way.
* Setting a name leaves it that one value; adding a value puts it after the
  name's other values; either leaves every name with another canonical form as
  it was (`Headers.values_set`, `Headers.values_add`).
* A router keeps its patterns in the order they were registered
  (`Mux.register_entries`), and a request for a registered path that cleaning
  leaves unchanged is served by the handler registered first for it, whatever
  the method (`Mux.dispatch_of_lookup`).
-/

namespace Turnstile.Http

/-! ## Header fields -/

section Assoc

variable {κ β : Type} [BEq κ] [LawfulBEq κ]

/-- A key other than the head's reads on into the rest. -/
theorem lookup_cons_ne {k k' : κ} (h : k ≠ k') (b : β) (rest : List (κ × β)) :
    ((k', b) :: rest).lookup k = rest.lookup k := by
  rw [List.lookup_cons, beq_eq_false_iff_ne.2 h]

/-- Rewriting the entries of one key changes what that key reads, through the
rewrite, and nothing else. -/
theorem lookup_map_rewrite [DecidableEq κ] (l : List (κ × β)) (key k : κ) (f : β → β) :
    (l.map fun e => if e.1 == key then (e.1, f e.2) else e).lookup k =
      if k = key then (l.lookup k).map f else l.lookup k := by
  induction l with
  | nil => split <;> rfl
  | cons e rest ih =>
    obtain ⟨k', v⟩ := e
    by_cases hkk : k = k'
    · subst hkk
      by_cases hk : k = key
      · subst hk
        simp
      · simp [hk]
    · -- the head is another key: both sides read on into the rest
      have hHead : (if (k', v).1 == key then ((k', v).1, f (k', v).2) else (k', v)) =
          (k', if k' = key then f v else v) := by
        by_cases hk : k' = key <;> simp [hk]
      rw [List.map_cons, hHead, lookup_cons_ne hkk, lookup_cons_ne hkk, ih]

/-- A key appended to entries that lack it reads as its value; other keys read
as before. -/
theorem lookup_append_new [DecidableEq κ] (l : List (κ × β)) (key k : κ) (v : β)
    (hNew : l.lookup key = none) :
    (l ++ [(key, v)]).lookup k = if k = key then some v else l.lookup k := by
  rw [List.lookup_append]
  by_cases hk : k = key
  · subst hk
    simp [hNew]
  · rw [lookup_cons_ne hk, if_neg hk]
    exact Option.or_none

/-- Writing a key in place where it is, or at the end where it is not: the key
reads as the rewrite of its old value, or as the new value, and every other key
reads as before. -/
theorem lookup_upsert [DecidableEq κ] (l : List (κ × β)) (key k : κ) (f : β → β) (v : β) :
    (if (l.lookup key).isSome then l.map (fun e => if e.1 == key then (e.1, f e.2) else e)
      else l ++ [(key, v)]).lookup k =
      if k = key then some (((l.lookup key).map f).getD v) else l.lookup k := by
  cases hOld : l.lookup key with
  | some b =>
    rw [if_pos Option.isSome_some, lookup_map_rewrite]
    split
    · rename_i hk
      rw [hk, hOld]
      rfl
    · rfl
  | none =>
    rw [if_neg (by simp), lookup_append_new _ _ _ _ hOld]
    rfl

end Assoc

namespace Headers

/-- The empty map has no values. -/
@[simp]
theorem values_empty (name : String) : Headers.empty.values name = [] := rfl

/-- Setting a name replaces its values by the one value, and leaves the names
of another canonical form alone. -/
theorem values_set (h : Headers) (name value n : String) :
    (h.set name value).values n =
      if canonicalName n = canonicalName name then [value] else h.values n := by
  simp only [values, set, apply_ite Headers.entries]
  rw [lookup_upsert _ _ _ (fun _ => [value])]
  split
  · cases h.entries.lookup (canonicalName name) <;> rfl
  · rfl

/-- Adding a value puts it after the name's other values, and leaves the names
of another canonical form alone. -/
theorem values_add (h : Headers) (name value n : String) :
    (h.add name value).values n =
      if canonicalName n = canonicalName name then h.values n ++ [value] else h.values n := by
  simp only [values, add, apply_ite Headers.entries]
  rw [lookup_upsert _ _ _ (· ++ [value])]
  split
  · rename_i hn
    rw [hn]
    cases h.entries.lookup (canonicalName name) <;> rfl
  · rfl

end Headers

/-! ## Routes -/

namespace Mux

variable {α : Type}

/-- A registration appends its pattern after the ones before it. -/
theorem register_entries {m m' : Mux α} {pattern : String} {h : α}
    (hReg : m.register pattern h = .ok m') : m'.entries = m.entries ++ [(pattern, h)] := by
  unfold register at hReg
  split at hReg
  · cases hReg
  · split at hReg
    · cases hReg
    · cases hReg
      rfl

/-- A registered path is one the router has. -/
theorem has_of_lookup {m : Mux α} {path : String} {h : α} (hLook : m.entries.lookup path = some h) :
    m.has path = true := by
  obtain ⟨l₁, l₂, hl, -⟩ := List.lookup_eq_some_iff.1 hLook
  simp [has, hl]

/-- A registered path that cleaning leaves unchanged goes to the handler
registered first for it, whatever the method and the query. -/
theorem dispatch_of_lookup {m : Mux α} {path : String} {h : α}
    (hLook : m.entries.lookup path = some h) (hClean : cleanRequestPath path = path)
    (method rawQuery : String) :
    m.dispatch method path rawQuery = .serve h := by
  have hHas := has_of_lookup hLook
  have hNoSlash : ∀ p, m.has p = true → m.wantsSlash p = false := by
    intro p hp
    simp [wantsSlash, hp]
  have hFind : m.find? path = some h := by simp [find?, hLook]
  unfold dispatch
  split
  · simp [hNoSlash path hHas, hFind]
  · simp [hClean, hNoSlash path hHas, hFind]

end Mux

end Turnstile.Http
