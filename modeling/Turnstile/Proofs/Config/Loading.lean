import Turnstile.Config.Load
import Turnstile.Config.Store
import Turnstile.Proofs.Config.Settings

/-!
# What loading leaves for the verifiers

A load that succeeds has read a text, parsed it, applied the environment,
resolved the secret references of the credentials and accepted the result
(`load_eq_ok`).  Step by step:

* the credential variables write their keys whenever they are set, even to the
  empty text (`applyEnvironment_credential`), the public switch writes its key
  when its variable is a truth word (`applyEnvironment_publicEnabled`), and the
  other variables write no key the verifiers read;
* resolving references replaces a credential text that holds one by its
  resolution, as `resolveCredential` gives it, and leaves every other setting
  and the typed configuration (`resolveKeys_find?`);
* the typed credentials are then read back from the settings.

`CredentialSources` says what the verifiers read at each credential key and at
the public switch, from the environment and the leaves of the file's document;
`load_credential_sources` proves it of every load that succeeds.
-/

namespace Turnstile

namespace Snapshot

@[simp]
theorem mapConfig_settings (s : Snapshot) (f : Config → Config) :
    (s.mapConfig f).settings = s.settings := rfl

@[simp]
theorem mapConfig_config (s : Snapshot) (f : Config → Config) :
    (s.mapConfig f).config = f s.config := rfl

@[simp]
theorem setValue_settings (s : Snapshot) (key : String) (v : Value) :
    (s.setValue key v).settings = s.settings.insert key v := rfl

@[simp]
theorem setValue_config (s : Snapshot) (key : String) (v : Value) :
    (s.setValue key v).config = s.config := rfl

@[simp]
theorem syncApp_settings (s : Snapshot) : s.syncApp.settings = s.settings := rfl

@[simp]
theorem syncApp_config (s : Snapshot) : s.syncApp.config = { s.config with app := appOf s.settings } :=
  rfl

end Snapshot

namespace Config

open Turnstile.Host Turnstile.Secrets

/-! ## The steps of a load -/

/-- A step that only renames its failure succeeds exactly as it did before. -/
theorem eq_ok_of_mapError {ε ε' α : Type} {x : Except ε α} {f : ε → ε'} {a : α}
    (h : x.mapError f = .ok a) : x = .ok a := by
  cases x with
  | error e => cases h
  | ok b => cases h; rfl

/-- A configuration validates exactly when validation does not break down on
it and it has no problems. -/
theorem validate_eq_ok {c : Config} : validate c = .ok () ↔ breakdown c = none ∧ problems c = [] := by
  unfold validate
  cases breakdown c with
  | some m => simp
  | none => cases problems c <;> simp

/-- An accepted snapshot validated, and is given the path and the instant. -/
theorem accept_eq_ok {path : String} {loadedAt : Int} {s snap : Snapshot}
    (h : accept path loadedAt s = .ok snap) :
    breakdown s.config = none ∧ problems s.config = [] ∧ snap = { s with path, loadedAt } := by
  unfold accept at h
  cases hv : validate s.config with
  | error e =>
    rw [hv] at h
    cases h
  | ok u =>
    rw [hv] at h
    cases h
    exact ⟨(validate_eq_ok.1 hv).1, (validate_eq_ok.1 hv).2, rfl⟩

/-- A load that succeeds read its text, parsed it, resolved the secrets of the
snapshot the environment made of it, and accepted the result. -/
theorem load_eq_ok {w : World} {path : String} {snap : Snapshot} (h : load w path = .ok snap) :
    ∃ text s₀ s, readText w path = .ok text ∧ Snapshot.parse text = .ok s₀ ∧
      resolveSecrets w (applyEnvironment w.env s₀) = .ok s ∧ accept path w.clock s = .ok snap := by
  obtain ⟨text, hText, h⟩ := except_bind_eq_ok h
  obtain ⟨s₀, hParse, h⟩ := except_bind_eq_ok h
  obtain ⟨s, hResolve, hAccept⟩ := except_bind_eq_ok h
  exact ⟨text, s₀, s, hText, eq_ok_of_mapError hParse, eq_ok_of_mapError hResolve, hAccept⟩

/-- A snapshot is read at the instant the world's clock reads. -/
theorem loadedAt_of_load {w : World} {path : String} {snap : Snapshot} (h : load w path = .ok snap) :
    snap.loadedAt = w.clock := by
  obtain ⟨_, _, _, _, _, _, hAccept⟩ := load_eq_ok h
  obtain ⟨-, -, rfl⟩ := accept_eq_ok hAccept
  rfl

/-- A reload that succeeds makes active a snapshot read at the instant of the
reload. -/
theorem loadedAt_of_reload {w : World} {store store' : Store} (h : store.reload w = .ok store') :
    store'.current.loadedAt = w.clock := by
  unfold Store.reload at h
  cases hLoad : load w store.path with
  | error e =>
    rw [hLoad] at h
    cases h
  | ok snap =>
    rw [hLoad] at h
    cases h
    show snap.loadedAt = w.clock
    exact loadedAt_of_load hLoad

/-! ## The environment -/

/-- The credentials' variables with the keys they write. -/
def credentialVariables : List (String × String) :=
  [("KEYGATE_APP_API_KEY", "app.api_key"), ("KEYGATE_APP_APP_KEY", "app.app_key"),
    ("KEYGATE_APP_PUBLIC_KEY", "app.public_key")]

/-- The variable of the public switch. -/
def publicEnabledVariable : String := "KEYGATE_APP_PUBLIC_ENABLED"

/-- The truth value a variable gives: when it is set, not empty, and a truth
word. -/
def givenFlag (env : Environment) (var : String) : Option Bool :=
  if (env.get var).isEmpty then none else Text.parseBool? (env.get var)

/-- A credential override writes its key when its variable is set, and no
other key. -/
theorem credentialOverride_find? (env : Environment) (var key : String)
    (set : Config.App → String → Config.App) (s : Snapshot) (k : String) :
    (credentialOverride env var key set s).settings.find? k =
      if k = key then ((env.lookup? var).map .str).or (s.settings.find? k) else s.settings.find? k := by
  unfold credentialOverride
  cases env.lookup? var <;> by_cases hk : k = key <;> simp [Settings.find?_insert, hk]

/-- A variable read into changes that keep a key keeps that key. -/
theorem whenGiven_find? {read : String → Option (Snapshot → Snapshot)} {k : String}
    (hKeep : ∀ v change, read v = some change → ∀ s, (change s).settings.find? k = s.settings.find? k)
    (env : Environment) (var : String) (s : Snapshot) :
    (whenGiven env var read s).settings.find? k = s.settings.find? k := by
  unfold whenGiven
  dsimp only
  split
  · rfl
  · split
    · exact hKeep _ _ ‹_› s
    · rfl

/-- Only the listen address is written after the public switch. -/
theorem applyEnvironment_find? (env : Environment) (s : Snapshot) {k : String}
    (hk : k ≠ "server.listen_address") :
    (applyEnvironment env s).settings.find? k =
      (whenGiven env publicEnabledVariable (fun v => (Text.parseBool? v).map fun b s =>
        (s.mapConfig fun c => { c with app := { c.app with publicEnabled := b } }).setValue
          "app.public_enabled" (.bool b)) (credentialOverrides env s)).settings.find? k := by
  simp only [applyEnvironment, Snapshot.mapConfig_settings]
  apply whenGiven_find?
  intro v change hv s
  cases hv
  simp [Settings.find?_insert, hk]

/-- A credential's key reads its variable's value whenever the variable is
set, even to the empty text, and otherwise what it read before. -/
theorem applyEnvironment_credential {var key : String} (hk : (var, key) ∈ credentialVariables)
    (env : Environment) (s : Snapshot) :
    (applyEnvironment env s).settings.find? key =
      ((env.lookup? var).map .str).or (s.settings.find? key) := by
  have hListen : key ≠ "server.listen_address" := by
    simp only [credentialVariables, List.mem_cons, Prod.mk.injEq, List.not_mem_nil] at hk
    rcases hk with ⟨-, rfl⟩ | ⟨-, rfl⟩ | ⟨-, rfl⟩ | h <;> simp_all
  rw [applyEnvironment_find? env s hListen, whenGiven_find?]
  · simp only [credentialVariables, List.mem_cons, Prod.mk.injEq, List.not_mem_nil] at hk
    -- the three overrides write three different keys
    rcases hk with ⟨rfl, rfl⟩ | ⟨rfl, rfl⟩ | ⟨rfl, rfl⟩ | h
    all_goals simp_all [credentialOverrides, credentialOverride_find?]
  · intro v change hv s
    obtain ⟨b, -, rfl⟩ := Option.map_eq_some_iff.1 hv
    have hPublic : key ≠ "app.public_enabled" := by
      simp only [credentialVariables, List.mem_cons, Prod.mk.injEq, List.not_mem_nil] at hk
      rcases hk with ⟨-, rfl⟩ | ⟨-, rfl⟩ | ⟨-, rfl⟩ | h <;> simp_all
    simp [Settings.find?_insert, hPublic]

/-- The public switch reads its variable's truth value when the variable gives
one, and otherwise what it read before. -/
theorem applyEnvironment_publicEnabled (env : Environment) (s : Snapshot) :
    (applyEnvironment env s).settings.find? "app.public_enabled" =
      ((givenFlag env publicEnabledVariable).map .bool).or (s.settings.find? "app.public_enabled") := by
  rw [applyEnvironment_find? env s (by decide)]
  have hCredentials : (credentialOverrides env s).settings.find? "app.public_enabled" =
      s.settings.find? "app.public_enabled" := by
    simp [credentialOverrides, credentialOverride_find?]
  unfold whenGiven givenFlag
  dsimp only
  by_cases hGiven : (env.get publicEnabledVariable).isEmpty
  · simp [hGiven, hCredentials]
  · cases hb : Text.parseBool? (env.get publicEnabledVariable) <;>
      simp [hGiven, hCredentials, Settings.find?_insert]

/-! ## Secret references -/

/-- A credential text with its secret references resolved, in a world and with
the secrets configuration: the text itself when it holds none. -/
def resolveCredential (w : World) (cfg : Config.Secrets) (raw : String) : Except String String :=
  if hasReferences raw then (secretManager w cfg).bind fun m => m.resolveReferences w raw
  else .ok raw

/-- A credential setting with its references resolved: a text through
`resolveCredential`, any other value as it is. -/
def resolveSetting (w : World) (cfg : Config.Secrets) : Value → Except String Value
  | .str raw => (resolveCredential w cfg raw).map .str
  | v => .ok v

/-- A setting that is no text with references resolves to itself. -/
theorem resolveSetting_of_plain {w : World} {cfg : Config.Secrets} {v : Value}
    (hPlain : ∀ raw, v = .str raw → hasReferences raw = false) : resolveSetting w cfg v = .ok v := by
  cases v with
  | str raw => simp [resolveSetting, resolveCredential, hPlain raw rfl, Except.map]
  | _ => rfl

/-- Resolving the references of distinct keys resolves each of them in turn and
leaves every other setting and the typed configuration; the manager, once
made, is the one the configuration describes. -/
theorem resolveKeys_find? {w : World} {keys : List String} {m : Option Manager} {s s' : Snapshot}
    (h : resolveKeys w keys m s = .ok s')
    (hm : ∀ m₀, m = some m₀ → secretManager w s.config.security.secrets = .ok m₀)
    (hNodup : keys.Nodup) :
    s'.config = s.config ∧ ∀ k, (k ∈ keys → ∀ v, s.settings.find? k = some v →
        ∃ v', resolveSetting w s.config.security.secrets v = .ok v' ∧ s'.settings.find? k = some v') ∧
      (k ∉ keys → s'.settings.find? k = s.settings.find? k) ∧
      (s.settings.find? k = none → s'.settings.find? k = none) := by
  induction keys generalizing m s with
  | nil =>
    cases h
    simp
  | cons key rest ih =>
    have hKey : key ∉ rest := (List.nodup_cons.1 hNodup).1
    have hRest : rest.Nodup := (List.nodup_cons.1 hNodup).2
    -- a key left as it is: the rest resolves the same snapshot
    have hKept : resolveKeys w rest m s = .ok s' →
        (∀ raw, s.settings.find? key = some (.str raw) → hasReferences raw = false) →
        s'.config = s.config ∧ ∀ k, (k ∈ key :: rest → ∀ v, s.settings.find? k = some v →
          ∃ v', resolveSetting w s.config.security.secrets v = .ok v' ∧ s'.settings.find? k = some v') ∧
          (k ∉ key :: rest → s'.settings.find? k = s.settings.find? k) ∧
          (s.settings.find? k = none → s'.settings.find? k = none) := by
      intro hRun hPlain
      obtain ⟨hConfig, hFind⟩ := ih hRun hm hRest
      refine ⟨hConfig, fun k => ⟨fun hk v hv => ?_, fun hk => ?_, (hFind k).2.2⟩⟩
      · rcases List.mem_cons.1 hk with rfl | hk
        · -- the key itself reads as it did, and resolving it changes nothing
          exact ⟨v, resolveSetting_of_plain fun raw hRaw => hPlain raw (hRaw ▸ hv),
            by rw [(hFind k).2.1 hKey, hv]⟩
        · exact (hFind k).1 hk v hv
      · exact (hFind k).2.1 (fun hr => hk (List.mem_cons_of_mem _ hr))
    unfold resolveKeys at h
    dsimp only at h
    split at h
    · rename_i raw hRaw
      split at h
      · exact hKept h (fun raw' h' => by simp_all)
      · -- a text with references: the manager is made, the text resolved and written back
        rename_i hRefs
        split at h
        · cases h
        · rename_i m₀ hPick
          -- the manager is the one made for an earlier key, or the one made now
          have hSecrets : secretManager w s.config.security.secrets = .ok m₀ := by
            cases m with
            | some m₁ => exact (hm m₁ rfl).trans hPick
            | none => exact hPick
          split at h
          · cases h
          · rename_i resolved hResolved
            obtain ⟨hConfig, hFind⟩ := ih h (fun m₁ hm₁ => by cases hm₁; simpa using hSecrets) hRest
            simp only [Snapshot.setValue_config] at hConfig hFind
            refine ⟨hConfig, fun k => ⟨fun hk v hv => ?_, fun hk => ?_, fun hNone => ?_⟩⟩
            · rcases List.mem_cons.1 hk with rfl | hk
              · rw [hRaw] at hv
                cases hv
                refine ⟨.str resolved, ?_, ?_⟩
                · have hHas : hasReferences raw = true := by simpa using hRefs
                  simp [resolveSetting, resolveCredential, hHas, hSecrets, hResolved, Except.map,
                    Except.bind]
                · rw [(hFind k).2.1 hKey]
                  simp [Settings.find?_insert]
              · have hNe : k ≠ key := fun hEq => hKey (hEq ▸ hk)
                exact (hFind k).1 hk v (by simpa [Settings.find?_insert, hNe] using hv)
            · have hNe : k ≠ key := fun hEq => hk (hEq ▸ List.mem_cons_self)
              rw [(hFind k).2.1 (fun hr => hk (List.mem_cons_of_mem _ hr))]
              simp [Settings.find?_insert, hNe]
            · have hNe : k ≠ key := by
                rintro rfl
                simp [hRaw] at hNone
              exact (hFind k).2.2 (by simpa [Settings.find?_insert, hNe] using hNone)
    · exact hKept h (fun raw hRaw => by simp_all)

/-- A text resolved as a setting reads as its resolution. -/
theorem resolveSetting_str_text (w : World) (cfg : Config.Secrets) (raw : String) :
    (resolveSetting w cfg (.str raw)).map Settings.valueText = resolveCredential w cfg raw := by
  simp only [resolveSetting]
  cases resolveCredential w cfg raw <;> rfl

/-! ## What the verifiers read -/

/-- What the verifiers read after a load that ran in the world `w` and whose
file holds the document `raw`.  References are resolved with the secrets
configuration of the loaded snapshot.  A key the file writes more than once
reads one of the values written there: which one is not fixed. -/
structure CredentialSources (w : World) (raw : Value) (snap : Snapshot) : Prop where
  /-- A credential variable that is set, even to the empty text, gives its key:
  its value with the references resolved. -/
  fromVariable : ∀ var key, (var, key) ∈ credentialVariables → ∀ v, w.env.lookup? var = some v →
    ∀ d, resolveCredential w snap.config.security.secrets v = .ok (snap.settings.text key d)
  /-- Without the variable, a file with leaves at the key gives one of them as
  text, a text with its references resolved; with exactly one leaf, that one. -/
  fromFile : ∀ var key, (var, key) ∈ credentialVariables → w.env.lookup? var = none →
    Snapshot.leavesAt raw key ≠ [] → ∀ d, ∃ l ∈ Snapshot.leavesAt raw key,
      (resolveSetting w snap.config.security.secrets l).map Settings.valueText =
        .ok (snap.settings.text key d)
  /-- With neither, the default. -/
  byDefault : ∀ var key, (var, key) ∈ credentialVariables → w.env.lookup? var = none →
    Snapshot.leavesAt raw key = [] → ∀ d, snap.settings.text key d = d
  /-- The public switch is its variable's truth value, when the variable is set,
  not empty and a truth word. -/
  publicFromVariable : ∀ b, givenFlag w.env publicEnabledVariable = some b →
    ∀ d, snap.settings.flag "app.public_enabled" d = b
  /-- Otherwise one of the file's leaves at the switch, read as a truth value. -/
  publicFromFile : givenFlag w.env publicEnabledVariable = none →
    Snapshot.leavesAt raw "app.public_enabled" ≠ [] → ∀ d,
      ∃ l ∈ Snapshot.leavesAt raw "app.public_enabled",
        snap.settings.flag "app.public_enabled" d = Settings.valueFlag d l
  /-- With neither, the default. -/
  publicByDefault : givenFlag w.env publicEnabledVariable = none →
    Snapshot.leavesAt raw "app.public_enabled" = [] → ∀ d,
      snap.settings.flag "app.public_enabled" d = d
  /-- The typed credentials are the settings read with empty defaults. -/
  app : snap.config.app = Snapshot.appOf snap.settings

/-- Resolving the secrets resolves the credentials' references, then reads the
typed credentials again. -/
theorem resolveSecrets_eq_ok {w : World} {s₁ s : Snapshot} (h : resolveSecrets w s₁ = .ok s) :
    ∃ s₂, resolveKeys w credentialKeys none s₁ = .ok s₂ ∧ s = s₂.syncApp := by
  cases hk : resolveKeys w credentialKeys none s₁ with
  | error e => simp [resolveSecrets, hk, Except.map] at h
  | ok s₂ => exact ⟨s₂, rfl, by simpa [resolveSecrets, hk, Except.map] using h.symm⟩

/-- The credentials' variables write the keys whose references are resolved. -/
theorem mem_credentialKeys {var key : String} (hk : (var, key) ∈ credentialVariables) :
    key ∈ credentialKeys := by
  simp only [credentialVariables, List.mem_cons, Prod.mk.injEq, List.not_mem_nil, or_false] at hk
  rcases hk with ⟨-, rfl⟩ | ⟨-, rfl⟩ | ⟨-, rfl⟩ <;> simp [credentialKeys]

/-- The last leaf at a key is one of its leaves. -/
theorem getLast?_leavesAt {raw : Value} {key : String} (h : Snapshot.leavesAt raw key ≠ []) :
    ∃ l ∈ Snapshot.leavesAt raw key, (Snapshot.leavesAt raw key).getLast? = some l :=
  ⟨_, List.getLast_mem h, List.getLast?_eq_some_getLast h⟩

/-- Every load that succeeds reads its credentials from the environment first,
then from the file, then from the defaults. -/
theorem load_credential_sources {w : World} {path : String} {snap : Snapshot}
    (h : load w path = .ok snap) :
    ∃ text raw, readText w path = .ok text ∧ Snapshot.document text = .ok raw ∧
      CredentialSources w raw snap := by
  obtain ⟨text, s₀, s, hText, hParse, hResolve, hAccept⟩ := load_eq_ok h
  obtain ⟨raw, hDoc, hFlat⟩ := Snapshot.parse_settings hParse
  obtain ⟨-, -, rfl⟩ := accept_eq_ok hAccept
  -- the environment's snapshot, then the resolved one, which the typed credentials follow
  set s₁ := applyEnvironment w.env s₀
  obtain ⟨s₂, hKeys, rfl⟩ := resolveSecrets_eq_ok hResolve
  obtain ⟨hConfig, hFind⟩ := resolveKeys_find? hKeys (by simp) (by decide)
  have hSecrets : s₂.config.security.secrets = s₁.config.security.secrets := by rw [hConfig]
  -- what a credential key reads once the references are resolved
  have hResolved : ∀ var key, (var, key) ∈ credentialVariables → ∀ v, s₁.settings.find? key = some v →
      ∀ d, (resolveSetting w s₂.config.security.secrets v).map Settings.valueText =
        .ok (s₂.settings.text key d) := by
    intro var key hk v hv d
    obtain ⟨v', hv', hFound⟩ := (hFind key).1 (mem_credentialKeys hk) v hv
    rw [hSecrets, hv', Settings.text_of_find?_some hFound]
    rfl
  have hPublic : s₂.settings.find? "app.public_enabled" =
      ((givenFlag w.env publicEnabledVariable).map .bool).or
        (Snapshot.leavesAt raw "app.public_enabled").getLast? := by
    rw [(hFind _).2.1 (by decide), applyEnvironment_publicEnabled, hFlat, Snapshot.find?_flatten]
  refine ⟨text, raw, hText, hDoc, ⟨?_, ?_, ?_, ?_, ?_, ?_, ?_⟩⟩
  · -- the variable is read as a text
    intro var key hk v hv d
    have hFound : s₁.settings.find? key = some (.str v) := by
      rw [applyEnvironment_credential hk, hv]
      rfl
    rw [← resolveSetting_str_text]
    exact hResolved var key hk _ hFound d
  · -- the file's last leaf at the key
    intro var key hk hv hLeaves d
    obtain ⟨l, hl, hLast⟩ := getLast?_leavesAt hLeaves
    have hFound : s₁.settings.find? key = some l := by
      rw [applyEnvironment_credential hk, hv, hFlat, Snapshot.find?_flatten, hLast]
      rfl
    exact ⟨l, hl, hResolved var key hk l hFound d⟩
  · intro var key hk hv hLeaves d
    have hNone : s₁.settings.find? key = none := by
      rw [applyEnvironment_credential hk, hv, hFlat, Snapshot.find?_flatten, hLeaves]
      rfl
    exact Settings.text_of_find?_none (s := s₂.settings) ((hFind key).2.2 hNone) d
  · intro b hb d
    exact Settings.flag_of_find?_some (s := s₂.settings) (by rw [hPublic, hb]; rfl) d
  · intro hNone hLeaves d
    obtain ⟨l, hl, hLast⟩ := getLast?_leavesAt hLeaves
    exact ⟨l, hl, Settings.flag_of_find?_some (s := s₂.settings) (by rw [hPublic, hNone, hLast]; rfl) d⟩
  · intro hNone hLeaves d
    exact Settings.flag_of_find?_none (s := s₂.settings) (by rw [hPublic, hNone, hLeaves]; rfl) d
  · rfl

/-- A world whose admin key is a reference to a secret held in the
environment, and no file. -/
def referencedAdminKey : World :=
  { env := ⟨[("KEYGATE_APP_API_KEY", "$\x7bsecret:admin\x7d"), ("KEYGATE_SECRET_ADMIN", "s3cret")]⟩ }

theorem load_credential_sources_referenced :
    ∃ snap, load referencedAdminKey "" = .ok snap ∧ snap.settings.text "app.api_key" "" = "s3cret" ∧
      ∃ text raw, readText referencedAdminKey "" = .ok text ∧ Snapshot.document text = .ok raw ∧
        CredentialSources referencedAdminKey raw snap := by
  obtain ⟨snap, hLoad, hText⟩ := exists_ok_of_check (x := load referencedAdminKey "")
    (p := fun snap => snap.settings.text "app.api_key" "" == "s3cret") (by decide +kernel)
  exact ⟨snap, hLoad, by simpa using hText, load_credential_sources hLoad⟩

/-! ## A key written twice -/

/-- A file that writes the admin key twice: under its dotted name, and nested. -/
def twiceWrittenText : String := "app.api_key: same\napp:\n  api_key: same\n"

/-- A world with that file and no variable. -/
def twiceWrittenKey : World :=
  { files := { entries := [("/keygate.yaml", .file twiceWrittenText 384)] } }

theorem readText_twiceWrittenKey : readText twiceWrittenKey "/keygate.yaml" = .ok twiceWrittenText := by
  have hPath : "/keygate.yaml" = "/" ++ "/".intercalate ["keygate.yaml"] := by decide
  have hOne : ["keygate.yaml"] ≠ [] := by simp
  have hClean := Path.clean_rooted_plain hOne (by decide)
  have hEnd := Path.endsWith_rooted_plain hOne (by decide)
  rw [← hPath] at hClean hEnd
  simp [readText, twiceWrittenKey, FileSystem.readFile, FileSystem.lookup, absPath, hClean, hEnd,
    Except.mapError]

/-- A key written twice by the file, with no variable set, does not read as the
default: it reads as what the file wrote there. -/
theorem twice_written_key_reads_file :
    ∃ snap raw, load twiceWrittenKey "/keygate.yaml" = .ok snap ∧
      Snapshot.document twiceWrittenText = .ok raw ∧
      twiceWrittenKey.env.lookup? "KEYGATE_APP_API_KEY" = none ∧
      (Snapshot.leavesAt raw "app.api_key").map Settings.valueText = ["same", "same"] ∧
      snap.settings.text "app.api_key" "unset" = "same" := by
  -- the file is read through the path lemmas, the rest is run
  obtain ⟨snap, hLoad, hText⟩ := exists_ok_of_check (x := load twiceWrittenKey "/keygate.yaml")
    (p := fun snap => snap.settings.text "app.api_key" "unset" == "same") (by
      unfold load
      rw [readText_twiceWrittenKey]
      decide +kernel)
  obtain ⟨raw, hDoc, hLeaves⟩ := exists_ok_of_check (x := Snapshot.document twiceWrittenText)
    (p := fun raw => (Snapshot.leavesAt raw "app.api_key").map Settings.valueText == ["same", "same"])
    (by decide +kernel)
  exact ⟨snap, raw, hLoad, hDoc, rfl, by simpa using hLeaves, by simpa using hText⟩

end Config

end Turnstile
