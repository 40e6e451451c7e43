import Turnstile.Proofs.Config.Loading
import Turnstile.Proofs.Secrets.References

/-!
# Resolving the credentials' secret references

Loading resolves the references of `app.api_key`, `app.app_key` and
`app.public_key`, in that order.  A key is visited only when its setting is a
text that holds a reference (`referencingKeys`); every other setting is left as
it is.  The secrets manager, and with it the secrets directory, is made at the
first visited key and kept for the others.  So (`ResolvesCredentials`):

* without a referencing key, nothing is looked up and the directory is never
  opened, whatever it names;
* a directory that is named but is not an existing directory fails the load
  at the first referencing key, before any reference is looked up;
* otherwise the first referencing key whose references do not all resolve
  fails the load, named with its failures;
* and a load that gets through has every referencing key replaced by its
  resolution, every other setting kept, and the typed credentials read again.

Each fact is first proved for any list of distinct keys (`resolveKeys_*`), one
key visited or skipped at a time.
-/

namespace Turnstile.Config

open Turnstile.Host Turnstile.Secrets

/-- Whether a setting is a text that holds a secret reference. -/
def holdsReference : Option Value → Bool
  | some (.str raw) => hasReferences raw
  | _ => false

/-- The keys, among the given ones, whose setting is a text holding a
reference, in order. -/
def referencingKeys (s : Snapshot) (keys : List String) : List String :=
  keys.filter fun key => holdsReference (s.settings.find? key)

theorem referencingKeys_cons_of_holds {s : Snapshot} {key : String} (keys : List String)
    (h : holdsReference (s.settings.find? key) = true) :
    referencingKeys s (key :: keys) = key :: referencingKeys s keys := by
  simp [referencingKeys, h]

theorem referencingKeys_cons_of_not_holds {s : Snapshot} {key : String} (keys : List String)
    (h : holdsReference (s.settings.find? key) = false) :
    referencingKeys s (key :: keys) = referencingKeys s keys := by
  simp [referencingKeys, h]

/-- Setting one key leaves which other keys hold a reference. -/
theorem referencingKeys_setValue {s : Snapshot} {key : String} {keys : List String} (v : Value)
    (h : key ∉ keys) : referencingKeys (s.setValue key v) keys = referencingKeys s keys := by
  unfold referencingKeys
  refine List.filter_congr fun k hk => ?_
  have hNe : k ≠ key := fun hEq => h (hEq ▸ hk)
  simp [Settings.find?_insert, hNe]

/-- A key whose setting holds a reference holds a text. -/
theorem exists_raw_of_holds {v : Option Value} (h : holdsReference v = true) :
    ∃ raw, v = some (.str raw) ∧ hasReferences raw = true := by
  match v, h with
  | some (.str raw), h => exact ⟨raw, rfl, h⟩

/-! ## One key at a time -/

/-- A key that holds no reference is skipped. -/
theorem resolveKeys_skip {w : World} {key : String} {s : Snapshot} (rest : List String)
    (m : Option Manager) (h : holdsReference (s.settings.find? key) = false) :
    resolveKeys w (key :: rest) m s = resolveKeys w rest m s := by
  rw [resolveKeys.eq_def]
  dsimp only
  split
  · rename_i raw hRaw
    rw [hRaw] at h
    simp only [holdsReference] at h
    simp [h]
  · rfl

/-- A key that holds a reference is visited: the manager is the one the
configuration describes, made now or kept from an earlier key, and the text is
resolved and written back. -/
theorem resolveKeys_visit {w : World} {key raw : String} {s : Snapshot} (rest : List String)
    {m : Option Manager} (hRaw : s.settings.find? key = some (.str raw)) (hRef : hasReferences raw = true)
    (hm : ∀ m₀, m = some m₀ → secretManager w s.config.security.secrets = .ok m₀) :
    resolveKeys w (key :: rest) m s =
      match secretManager w s.config.security.secrets with
      | .error e => .error e
      | .ok m₀ =>
        match m₀.resolveReferences w raw with
        | .error e => .error (key ++ ": " ++ e)
        | .ok v => resolveKeys w rest (some m₀) (s.setValue key (.str v)) := by
  rw [resolveKeys.eq_def]
  dsimp only
  rw [hRaw]
  simp only [hRef, Bool.not_true, Bool.false_eq_true, if_false]
  cases m with
  | none => rfl
  | some m₀ =>
    -- the manager made before is the one the settings give
    exact hm m₀ rfl ▸ rfl

variable {w : World}

/-- Keys none of which holds a reference leave the snapshot as it is. -/
theorem resolveKeys_of_referencingKeys_nil {keys : List String} {s : Snapshot} (m : Option Manager)
    (h : referencingKeys s keys = []) : resolveKeys w keys m s = .ok s := by
  induction keys with
  | nil => rfl
  | cons key rest ih =>
    cases hk : holdsReference (s.settings.find? key) with
    | true => simp [referencingKeys_cons_of_holds rest hk] at h
    | false =>
      rw [resolveKeys_skip rest m hk]
      exact ih (by rwa [referencingKeys_cons_of_not_holds rest hk] at h)

/-- A manager that cannot be made fails at the first key that holds a
reference, before anything is looked up. -/
theorem resolveKeys_of_secretManager_error {keys : List String} {s : Snapshot} {m : Option Manager}
    {e : String} (hMade : secretManager w s.config.security.secrets = .error e)
    (hm : ∀ m₀, m = some m₀ → secretManager w s.config.security.secrets = .ok m₀)
    (h : referencingKeys s keys ≠ []) : resolveKeys w keys m s = .error e := by
  induction keys with
  | nil => simp [referencingKeys] at h
  | cons key rest ih =>
    cases hk : holdsReference (s.settings.find? key) with
    | true =>
      obtain ⟨raw, hRaw, hRef⟩ := exists_raw_of_holds hk
      rw [resolveKeys_visit rest hRaw hRef hm, hMade]
    | false =>
      rw [resolveKeys_skip rest m hk]
      exact ih (by rwa [referencingKeys_cons_of_not_holds rest hk] at h)

/-- A key among the referencing ones is one of the keys. -/
theorem mem_of_mem_referencingKeys {s : Snapshot} {keys : List String} {k : String}
    (h : k ∈ referencingKeys s keys) : k ∈ keys :=
  (List.mem_filter.1 h).1

/-- One of the keys that is not among the referencing ones holds no reference. -/
theorem not_holds_of_not_mem_referencingKeys {s : Snapshot} {keys : List String} {k : String}
    (hk : k ∈ keys) (h : k ∉ referencingKeys s keys) : holdsReference (s.settings.find? k) = false := by
  simpa [referencingKeys, hk] using h

/-- The first referencing key whose references do not resolve fails, named,
once every referencing key before it has resolved. -/
theorem resolveKeys_of_first_failure {keys : List String} {s : Snapshot} {m : Option Manager}
    {m₀ : Manager} {pre post : List String} {key raw e : String}
    (hMade : secretManager w s.config.security.secrets = .ok m₀) (hm : ∀ m₁, m = some m₁ → m₁ = m₀)
    (hNodup : keys.Nodup) (hKeys : referencingKeys s keys = pre ++ key :: post)
    (hPre : ∀ k ∈ pre, ∃ raw' v, s.settings.find? k = some (.str raw') ∧
      m₀.resolveReferences w raw' = .ok v)
    (hRaw : s.settings.find? key = some (.str raw)) (hFail : m₀.resolveReferences w raw = .error e) :
    resolveKeys w keys m s = .error (key ++ ": " ++ e) := by
  induction keys generalizing s m pre with
  | nil => simp [referencingKeys] at hKeys
  | cons k rest ih =>
    have hk : k ∉ rest := (List.nodup_cons.1 hNodup).1
    have hRest : rest.Nodup := (List.nodup_cons.1 hNodup).2
    cases hHolds : holdsReference (s.settings.find? k) with
    | false =>
      rw [resolveKeys_skip rest m hHolds]
      rw [referencingKeys_cons_of_not_holds rest hHolds] at hKeys
      exact ih hMade hm hRest hKeys hPre hRaw
    | true =>
      obtain ⟨rawK, hRawK, hRefK⟩ := exists_raw_of_holds hHolds
      rw [resolveKeys_visit rest hRawK hRefK (fun m₁ h => hm m₁ h ▸ hMade), hMade]
      rw [referencingKeys_cons_of_holds rest hHolds] at hKeys
      cases pre with
      | nil =>
        -- this key is the one that fails
        simp only [List.nil_append, List.cons.injEq] at hKeys
        obtain ⟨rfl, -⟩ := hKeys
        rw [hRawK] at hRaw
        cases hRaw
        simp [hFail]
      | cons k' pre =>
        -- this key resolves, and the failing one comes later
        simp only [List.cons_append, List.cons.injEq] at hKeys
        obtain ⟨rfl, hKeys⟩ := hKeys
        obtain ⟨raw', v, hRaw', hv⟩ := hPre k List.mem_cons_self
        rw [hRawK] at hRaw'
        cases hRaw'
        simp only [hv]
        have hLater : ∀ k'' ∈ referencingKeys s rest, k'' ≠ k := fun k'' hk'' hEq =>
          hk (hEq ▸ mem_of_mem_referencingKeys hk'')
        have hKeyNe : key ≠ k := hLater key (by simp [hKeys])
        refine ih (by simpa using hMade) (fun m₁ h => by cases h; rfl) hRest
          (by rw [referencingKeys_setValue _ hk, hKeys]) (fun k'' hk'' => ?_)
          (by simpa [Settings.find?_insert, hKeyNe] using hRaw)
        have hNe : k'' ≠ k := hLater k'' (by simp [hKeys, hk''])
        simpa [Settings.find?_insert, hNe] using hPre k'' (List.mem_cons_of_mem _ hk'')

/-! ## The credentials -/

/-- A named directory that is not an existing directory makes no manager, and
the failure names the setting. -/
theorem secretManager_eq_error {cfg : Config.Secrets} (hDir : cfg.dir ≠ "")
    (hStat : w.files.stat cfg.dir ≠ .ok .dir) :
    ∃ e, secretManager w cfg = .error ("security.secrets.dir: " ++ e) := by
  unfold secretManager openFileProvider
  simp only [String.isEmpty_iff, hDir, if_false]
  cases h : w.files.stat cfg.dir with
  | error e => exact ⟨_, rfl⟩
  | ok entry =>
    cases entry with
    | dir => exact absurd h hStat
    | file c mode => exact ⟨_, rfl⟩

/-- What resolving the credentials' references gives for a snapshot. -/
structure ResolvesCredentials (w : World) (s : Snapshot) (r : Except String Snapshot) : Prop where
  /-- Without a referencing key nothing is looked up and the directory is never
  opened: the snapshot is kept, its typed credentials read again. -/
  plain : referencingKeys s credentialKeys = [] → r = .ok s.syncApp
  /-- A named directory that is not an existing directory fails at the first
  referencing key, whatever the references name. -/
  badDirectory : referencingKeys s credentialKeys ≠ [] → s.config.security.secrets.dir ≠ "" →
    w.files.stat s.config.security.secrets.dir ≠ .ok .dir →
    ∃ e, r = .error ("security.secrets.dir: " ++ e)
  /-- Otherwise the first referencing key whose references do not all resolve
  fails, named with the failures of its references. -/
  firstFailure : ∀ m, secretManager w s.config.security.secrets = .ok m →
    ∀ pre key post raw, referencingKeys s credentialKeys = pre ++ key :: post →
    (∀ k ∈ pre, ∃ raw' v, s.settings.find? k = some (.str raw') ∧ m.resolveReferences w raw' = .ok v) →
    s.settings.find? key = some (.str raw) →
    (∃ n ∈ referenceNames (pieces raw.toList), ∃ e, m.getSecret w n = .error e) →
    r = .error (key ++ ": " ++ "failed to resolve secret references: " ++
      "; ".intercalate (m.failures w (referenceNames (pieces raw.toList))))
  /-- A resolution that gets through replaces every referencing key by its
  resolution, keeps every other setting, and reads the typed credentials again. -/
  resolved : ∀ s', r = .ok s' → s'.config = { s.config with app := Snapshot.appOf s'.settings } ∧
    ∀ k, (k ∈ referencingKeys s credentialKeys → ∃ m raw v,
        secretManager w s.config.security.secrets = .ok m ∧ s.settings.find? k = some (.str raw) ∧
        m.resolveReferences w raw = .ok v ∧ s'.settings.find? k = some (.str v)) ∧
      (k ∉ referencingKeys s credentialKeys → s'.settings.find? k = s.settings.find? k)

theorem credentialKeys_nodup : credentialKeys.Nodup := by
  decide

/-- A credential that holds a reference resolves, as a setting, through the
configuration's manager. -/
theorem resolveSetting_of_holds {cfg : Config.Secrets} {raw : String} {v : Value}
    (hRef : hasReferences raw = true) (h : resolveSetting w cfg (.str raw) = .ok v) :
    ∃ m resolved, secretManager w cfg = .ok m ∧ m.resolveReferences w raw = .ok resolved ∧
      v = .str resolved := by
  simp only [resolveSetting, resolveCredential, hRef, if_true] at h
  cases hm : secretManager w cfg with
  | error e => simp [hm, Except.bind, Except.map] at h
  | ok m =>
    cases hr : m.resolveReferences w raw with
    | error e => simp [hm, hr, Except.bind, Except.map] at h
    | ok resolved =>
      simp only [hm, hr, Except.bind, Except.map, Except.ok.injEq] at h
      exact ⟨m, resolved, rfl, hr, h.symm⟩

/-- Resolving the credentials' references visits the referencing keys in
order, makes the manager at the first, and stops at the first failure. -/
theorem resolveSecrets_resolves_credentials (w : World) (s : Snapshot) :
    ResolvesCredentials w s (resolveSecrets w s) where
  plain h := by
    rw [resolveSecrets, resolveKeys_of_referencingKeys_nil none h]
    rfl
  badDirectory h hDir hStat := by
    obtain ⟨e, he⟩ := secretManager_eq_error hDir hStat
    rw [resolveSecrets, resolveKeys_of_secretManager_error he (by simp) h]
    exact ⟨e, rfl⟩
  firstFailure m hMade pre key post raw hKeys hPre hRaw hFailed := by
    -- the text's failure is the resolver's, named after the key
    have hFail := ((m.resolveReferences_follows_split w raw).error_iff _ (tokenized_pieces _) _).2
      ⟨hFailed, rfl⟩
    rw [resolveSecrets, resolveKeys_of_first_failure hMade (by simp) credentialKeys_nodup hKeys hPre hRaw
      hFail]
    simp only [Except.map, String.append_assoc]
  resolved s' h := by
    obtain ⟨s₂, hKeys, rfl⟩ := resolveSecrets_eq_ok h
    obtain ⟨hConfig, hFind⟩ := resolveKeys_find? hKeys (by simp) credentialKeys_nodup
    refine ⟨by rw [Snapshot.syncApp_config, hConfig, Snapshot.syncApp_settings], fun k => ⟨?_, ?_⟩⟩
    · intro hk
      obtain ⟨raw, hRaw, hRef⟩ := exists_raw_of_holds (List.mem_filter.1 hk).2
      obtain ⟨v', hv', hFound⟩ := (hFind k).1 (mem_of_mem_referencingKeys hk) _ hRaw
      obtain ⟨m, resolved, hMade, hResolved, rfl⟩ := resolveSetting_of_holds hRef hv'
      exact ⟨m, raw, resolved, hMade, hRaw, hResolved, hFound⟩
    · intro hk
      rw [Snapshot.syncApp_settings]
      by_cases hKey : k ∈ credentialKeys
      · -- a credential without a reference resolves to itself
        cases hv : s.settings.find? k with
        | none => exact (hFind k).2.2 hv
        | some v =>
          obtain ⟨v', hv', hFound⟩ := (hFind k).1 hKey v hv
          have hNot := not_holds_of_not_mem_referencingKeys hKey hk
          rw [hv] at hNot
          have hPlain : ∀ raw, v = .str raw → hasReferences raw = false := by
            rintro raw rfl
            simpa [holdsReference] using hNot
          rw [resolveSetting_of_plain hPlain] at hv'
          cases hv'
          exact hFound
      · exact (hFind k).2.1 hKey

end Turnstile.Config
