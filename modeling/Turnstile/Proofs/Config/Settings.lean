import Mathlib
import Turnstile.Config.Snapshot
import Turnstile.Proofs.Server.Routes

/-!
# Flat settings and the leaves of a document

A configuration text is read twice; the second reading keeps its plain data,
the document, and flattening writes each leaf of the document under its dotted
key, one after another.

* Setting a key changes what that key reads and nothing else
  (`Settings.find?_insert`).
* `Snapshot.leaves` lists the leaves of a document with their dotted keys, in
  document order, and `leavesAt` the leaves written at one key.  The flat
  settings read, at each key, the last leaf written there, and nothing at a key
  without one (`find?_flatten`); so a key with exactly one leaf reads that leaf.
* The settings of a text that reads are the flattening of its document
  (`parse_settings`).
-/

namespace Turnstile

namespace Settings

/-- Setting a key makes it read the new value and leaves every other key. -/
theorem find?_insert (s : Settings) (key k : String) (v : Value) :
    (s.insert key v).find? k = if k = key then some v else s.find? k := by
  -- `insert` writes in place where the key is and appends where it is not
  have hPlace : (fun e : String × Value => if e.1 == key then (key, v) else e) =
      fun e => if e.1 == key then (e.1, (fun _ => v) e.2) else e := by
    funext e
    by_cases he : e.1 = key <;> simp [he]
  unfold insert has find?
  rw [hPlace, apply_ite Settings.entries, Http.lookup_upsert s.entries key k (fun _ => v) v]
  cases s.entries.lookup key <;> rfl

@[simp]
theorem find?_empty (k : String) : (⟨[]⟩ : Settings).find? k = none := rfl

@[simp]
theorem text_of_find?_none {s : Settings} {key : String} (h : s.find? key = none) (d : String) :
    s.text key d = d := by
  simp [text, h]

@[simp]
theorem text_of_find?_some {s : Settings} {key : String} {v : Value} (h : s.find? key = some v)
    (d : String) : s.text key d = valueText v := by
  simp [text, h]

@[simp]
theorem flag_of_find?_none {s : Settings} {key : String} (h : s.find? key = none) (d : Bool) :
    s.flag key d = d := by
  simp [flag, h]

@[simp]
theorem flag_of_find?_some {s : Settings} {key : String} {v : Value} (h : s.find? key = some v)
    (d : Bool) : s.flag key d = valueFlag d v := by
  simp [flag, h]

end Settings

namespace Snapshot

/-! ## The leaves of a document -/

mutual
/-- The leaves of a value written under a dotted key, in document order: a
mapping gives the leaves of its fields, anything else is one leaf.  These are
the leaves flattening writes. -/
def leavesOf (base : String) : Value → List (String × Value)
  | .record kvs => recordLeaves base kvs
  | .table kvs => tableLeaves base kvs
  | leaf => [(base, leaf)]

/-- The leaves of the fields of a record. -/
def recordLeaves (base : String) : List (String × Value) → List (String × Value)
  | [] => []
  | (k, v) :: rest =>
    leavesOf (if base.isEmpty then k else base ++ "." ++ k) v ++ recordLeaves base rest

/-- The leaves of the entries of a table, its keys written as text.  An entry
whose text a later entry repeats gives none. -/
def tableLeaves (base : String) : List (Value × Value) → List (String × Value)
  | [] => []
  | (k, v) :: rest =>
    (if rest.any (fun e => keyText e.1 == keyText k) then []
      else leavesOf (if base.isEmpty then keyText k else base ++ "." ++ keyText k) v) ++
      tableLeaves base rest
end

/-- The leaves of a document with their dotted keys, in document order. -/
def leaves : Value → List (String × Value)
  | .record kvs => recordLeaves "" kvs
  | .table kvs => tableLeaves "" kvs
  | _ => []

/-- The leaves a document writes at one dotted key, in document order. -/
def leavesAt (raw : Value) (key : String) : List Value :=
  ((leaves raw).filter (·.1 == key)).map (·.2)

/-- The plain data of a configuration text: its document read without a
schema.  The empty text holds an empty mapping. -/
def document (text : String) : Except String Value :=
  if text.isEmpty then .ok (.record [])
  else match Yaml.readDocument text with
    | .error e => .error (yamlMessage e)
    | .ok doc => decodeStrict doc .textMap (.record [])

/-! ## Flattening writes the leaves in order -/

/-- A value that is no mapping is one leaf, written under its key. -/
theorem find?_flattenValue_leaf (k base : String) {leaf : Value} (acc : Settings)
    (hRecord : ∀ kvs, leaf = .record kvs → False) (hTable : ∀ kvs, leaf = .table kvs → False) :
    (flattenValue base leaf acc).find? k = ((leavesOf base leaf).reverse.lookup k).or (acc.find? k) := by
  have hFlat : flattenValue base leaf acc = acc.insert base leaf := by
    cases leaf <;> simp_all [flattenValue]
  have hLeaf : leavesOf base leaf = [(base, leaf)] := by
    cases leaf <;> simp_all [leavesOf]
  rw [hFlat, hLeaf, Settings.find?_insert]
  by_cases hk : k = base
  · simp [hk]
  · simp [List.lookup, beq_false_of_ne hk, hk]

/-- An entry of a table whose text a later entry repeats writes nothing. -/
theorem find?_flattenTable_repeated {k base : String} {k' v : Value} {rest : List (Value × Value)}
    {acc : Settings} (hRepeated : (rest.any fun e => keyText e.1 == keyText k') = true)
    (ih : (flattenTable base rest acc).find? k =
      ((tableLeaves base rest).reverse.lookup k).or (acc.find? k)) :
    (flattenTable base ((k', v) :: rest) acc).find? k =
      ((tableLeaves base ((k', v) :: rest)).reverse.lookup k).or (acc.find? k) := by
  rw [flattenTable, tableLeaves]
  simpa only [hRepeated, if_true, List.nil_append] using ih

/-- Any other entry is written before the rest of the table. -/
theorem find?_flattenTable_kept {k base : String} {k' v : Value} {rest : List (Value × Value)}
    {acc : Settings} (hKept : ¬(rest.any fun e => keyText e.1 == keyText k') = true)
    (ihField : (flattenValue (if base.isEmpty then keyText k' else base ++ "." ++ keyText k') v acc).find? k =
      ((leavesOf (if base.isEmpty then keyText k' else base ++ "." ++ keyText k') v).reverse.lookup k).or
        (acc.find? k))
    (ihRest : (flattenTable base rest
        (flattenValue (if base.isEmpty then keyText k' else base ++ "." ++ keyText k') v acc)).find? k =
      ((tableLeaves base rest).reverse.lookup k).or ((flattenValue
        (if base.isEmpty then keyText k' else base ++ "." ++ keyText k') v acc).find? k)) :
    (flattenTable base ((k', v) :: rest) acc).find? k =
      ((tableLeaves base ((k', v) :: rest)).reverse.lookup k).or (acc.find? k) := by
  rw [flattenTable, tableLeaves]
  simp only [hKept, Bool.false_eq_true, if_false]
  rw [ihRest, ihField, List.reverse_append, List.lookup_append, Option.or_assoc]

-- Flattening reads, at each key, the last leaf written there, and otherwise
-- what the settings read before: one statement for each of the three walks,
-- proved by the same structural recursion as the walks themselves.
mutual
/-- A value writes its leaves in order. -/
theorem find?_flattenValue (k base : String) (v : Value) (acc : Settings) :
    (flattenValue base v acc).find? k = ((leavesOf base v).reverse.lookup k).or (acc.find? k) :=
  match v with
  | .record kvs => by rw [flattenValue, leavesOf, find?_flattenRecord k base kvs acc]
  | .table kvs => by rw [flattenValue, leavesOf, find?_flattenTable k base kvs acc]
  | .null | .bool _ | .int _ | .nat _ | .float _ | .str _ | .time _ | .list _ =>
    find?_flattenValue_leaf k base acc nofun nofun

/-- The entries of a table write their leaves in order, skipping an entry
whose text a later one repeats. -/
theorem find?_flattenTable (k base : String) (kvs : List (Value × Value)) (acc : Settings) :
    (flattenTable base kvs acc).find? k =
      ((tableLeaves base kvs).reverse.lookup k).or (acc.find? k) :=
  match kvs with
  | [] => by simp [flattenTable, tableLeaves]
  | (k', v) :: rest =>
    if hRepeated : (rest.any fun e => keyText e.1 == keyText k') = true then
      find?_flattenTable_repeated hRepeated (find?_flattenTable k base rest acc)
    else
      find?_flattenTable_kept hRepeated (find?_flattenValue k _ v acc)
        (find?_flattenTable k base rest _)

/-- The fields of a record write their leaves in order. -/
theorem find?_flattenRecord (k base : String) (kvs : List (String × Value)) (acc : Settings) :
    (flattenRecord base kvs acc).find? k =
      ((recordLeaves base kvs).reverse.lookup k).or (acc.find? k) :=
  match kvs with
  | [] => by simp [flattenRecord, recordLeaves]
  | (k', v) :: rest => by
    -- the first field is written before the rest
    rw [flattenRecord, recordLeaves, find?_flattenRecord k base rest, find?_flattenValue k _ v acc,
      List.reverse_append, List.lookup_append, Option.or_assoc]
end

/-- Looking a key up from the end finds the last entry with that key. -/
theorem lookup_reverse (l : List (String × Value)) (k : String) :
    l.reverse.lookup k = ((l.filter (·.1 == k)).map (·.2)).getLast? := by
  induction l with
  | nil => rfl
  | cons e rest ih =>
    obtain ⟨key, v⟩ := e
    rw [List.reverse_cons, List.lookup_append, ih]
    by_cases hk : key = k
    · subst hk
      -- the head is the earliest entry with the key: it counts only when no later one does
      simp only [List.filter_cons, beq_self_eq_true, if_true, List.map_cons, List.getLast?_cons,
        List.lookup, Option.or]
      cases ((rest.filter (·.1 == key)).map (·.2)).getLast? <;> rfl
    · simp [List.lookup, hk, beq_false_of_ne (Ne.symm hk)]

/-- The flat settings of a document read, at each key, the last leaf written
there: nothing at a key without a leaf, the leaf at a key with one. -/
theorem find?_flatten (raw : Value) (k : String) :
    (flatten raw).find? k = (leavesAt raw k).getLast? := by
  rw [leavesAt, ← lookup_reverse]
  cases raw <;> simp [flatten, leaves, find?_flattenTable, find?_flattenRecord]

/-! ## Reading a text -/

/-- The settings of a text that reads are the flattening of its document. -/
theorem parse_settings {text : String} {s : Snapshot} (h : parse text = .ok s) :
    ∃ raw, document text = .ok raw ∧ s.settings = flatten raw := by
  unfold parse at h
  unfold document
  split at h
  · -- the empty text: no settings, and an empty document
    rename_i hEmpty
    cases h
    exact ⟨.record [], by simp [hEmpty], rfl⟩
  · rename_i hText
    simp only [hText, Bool.false_eq_true, if_false]
    cases hDoc : Yaml.readDocument text with
    | error e =>
      rw [hDoc] at h
      cases h
    | ok doc =>
      rw [hDoc] at h
      obtain ⟨tree, -, hRest⟩ := except_bind_eq_ok h
      obtain ⟨raw, hRaw, hRet⟩ := except_bind_eq_ok hRest
      cases hRet
      exact ⟨raw, hRaw, rfl⟩

end Snapshot

end Turnstile
