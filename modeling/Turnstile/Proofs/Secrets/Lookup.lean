import Mathlib
import Turnstile.Config.Load

/-!
# Looking a secret up through the providers

A manager asks its providers in order, skips those that do not support the
name, and remembers the last failure.  Its answer is the documented rule
(`firstFound`, `getSecret_eq_firstFound`):

* among the providers that support the name, in order, the value of the first
  whose lookup succeeds;
* when none succeeds, the failure of the last of them, named after the secret;
* when none supports the name, "not found".

So only the providers that support the name decide the answer
(`getSecret_eq_of_asked`).  For the manager the configuration describes, the
environment and then the secrets directory, a variable that is set and not
empty always wins, and a variable that is unset or empty leaves the secret to
the directory (`LoaderLookup`).
-/

namespace Turnstile.Host

/-- A variable that reads as a non-empty text is set. -/
theorem Environment.isSet_of_get_ne_empty {e : Environment} {var : String}
    (h : e.get var ≠ "") : e.isSet var = true := by
  unfold Environment.get at h
  unfold Environment.isSet
  cases hv : e.lookup? var with
  | none => simp [hv] at h
  | some v => rfl

end Turnstile.Host

namespace Turnstile.Secrets

open Turnstile.Host

/-- The providers asked for a name: those that support it, in order. -/
def asked (w : World) (name : String) (ps : List Provider) : List Provider :=
  ps.filter (·.supports w name)

/-- The failure of a lookup, when it fails. -/
def failureOf : Except SecretError String → Option SecretError
  | .error e => some e
  | .ok _ => none

/-- The answer when no provider gave the secret: the last failure, named after
the secret, or "not found" when no provider was asked. -/
def unanswered (name : String) : Option SecretError → Except SecretError String
  | some e => .error (e.within ("failed to get secret " ++ Text.quote name ++ ": "))
  | none => .error (.notFound ("secret not found: " ++ Text.quote name ++
      " (no provider supports this secret)"))

/-- The documented answer: the value of the first asked provider that has the
secret, and otherwise the last failure among the asked providers. -/
def firstFound (w : World) (name : String) (ps : List Provider) : Except SecretError String :=
  match (asked w name ps).findSome? (fun p => (p.get w name).toOption) with
  | some v => .ok v
  | none => unanswered name ((asked w name ps).filterMap fun p => failureOf (p.get w name)).getLast?

@[simp]
theorem asked_nil (w : World) (name : String) : asked w name [] = [] := rfl

theorem asked_cons_of_supports {w : World} {name : String} {p : Provider} (ps : List Provider)
    (h : p.supports w name = true) : asked w name (p :: ps) = p :: asked w name ps := by
  simp [asked, h]

theorem asked_cons_of_not_supports {w : World} {name : String} {p : Provider} (ps : List Provider)
    (h : p.supports w name = false) : asked w name (p :: ps) = asked w name ps := by
  simp [asked, h]

namespace Manager

/-- The loop with a failure already remembered: the first asked provider that
has the secret, and otherwise the last failure, counting the remembered one as
the earliest. -/
theorem ask_eq (w : World) (name : String) (ps : List Provider) (last : Option SecretError) :
    ask w name ps last =
      match (asked w name ps).findSome? (fun p => (p.get w name).toOption) with
      | some v => .ok v
      | none => unanswered name
          ((((asked w name ps).filterMap fun p => failureOf (p.get w name)).getLast?).or last) := by
  induction ps generalizing last with
  | nil => cases last <;> rfl
  | cons p ps ih =>
    cases hs : p.supports w name with
    | false =>
      rw [ask, hs, asked_cons_of_not_supports ps hs]
      exact ih last
    | true =>
      rw [ask, asked_cons_of_supports ps hs]
      cases hg : p.get w name with
      | ok v => simp [hs, hg, Except.toOption]
      | error e =>
        -- the failure is remembered, and stays the answer unless a later one replaces it
        have hLast : ∀ l : List SecretError, (e :: l).getLast?.or last = l.getLast?.or (some e) := by
          intro l
          simp only [List.getLast?_cons]
          cases l.getLast? <;> rfl
        simp only [hs, hg, if_true, List.findSome?_cons, Except.toOption, List.filterMap_cons,
          failureOf, hLast]
        exact ih (some e)

/-- A manager answers by the documented rule. -/
theorem getSecret_eq_firstFound (m : Manager) (w : World) (name : String) :
    m.getSecret w name = firstFound w name m.providers := by
  rw [getSecret, ask_eq, firstFound, Option.or_none]

/-- Only the providers that support a name decide its lookup: the others are
never asked. -/
theorem getSecret_eq_of_asked (m : Manager) {w : World} {name : String} {ps : List Provider}
    (h : asked w name ps = asked w name m.providers) :
    (⟨ps⟩ : Manager).getSecret w name = m.getSecret w name := by
  rw [getSecret_eq_firstFound, getSecret_eq_firstFound, firstFound, firstFound, h]

end Manager

/-! ## The configuration's providers -/

/-- The environment provider gives the variable's value unless it is empty. -/
theorem env_get (w : World) (base name : String) :
    (Provider.env base).get w name =
      if (w.env.get (envVarName base name)).isEmpty then
        .error (.notFound ("secret not found in environment: " ++ name ++ " (env var: " ++
          envVarName base name ++ ")"))
      else .ok (w.env.get (envVarName base name)) := rfl

/-- A variable that reads as the empty text gives no secret. -/
theorem env_get_toOption_of_empty {w : World} {base name : String}
    (h : w.env.get (envVarName base name) = "") : ((Provider.env base).get w name).toOption = none := by
  simp [env_get, h, Except.toOption]

/-- The manager of a secrets configuration: the environment alone when no
directory is named, and the environment and then the directory when it names
one that exists. -/
theorem secretManager_eq_ok {w : World} {cfg : Config.Secrets} {m : Manager}
    (h : Config.secretManager w cfg = .ok m) :
    (cfg.dir = "" ∧ m.providers = [.env cfg.envPrefix]) ∨
      (cfg.dir ≠ "" ∧ w.files.stat cfg.dir = .ok .dir ∧
        m.providers = [.env cfg.envPrefix, .file cfg.dir]) := by
  unfold Config.secretManager at h
  by_cases hDir : cfg.dir = ""
  · simp only [hDir, String.isEmpty_iff, if_true] at h
    cases h
    exact .inl ⟨hDir, rfl⟩
  · simp only [String.isEmpty_iff, hDir, if_false, openFileProvider] at h
    split at h
    · rename_i p hOpen
      split at hOpen
      · cases hOpen
      · rename_i hStat
        cases hOpen
        cases h
        exact .inr ⟨hDir, hStat, rfl⟩
      · cases hOpen
    · cases h

/-- What a lookup through the configuration's manager gives, for a secrets
configuration and a name. -/
structure LoaderLookup (w : World) (cfg : Config.Secrets) (m : Manager) (name : String) : Prop where
  /-- A variable that is set and not empty gives the secret, whatever the
  directory holds. -/
  variableWins : w.env.get (envVarName cfg.envPrefix name) ≠ "" →
    m.getSecret w name = .ok (w.env.get (envVarName cfg.envPrefix name))
  /-- A variable that is unset, or set to the empty text, leaves the secret to
  a directory that has it: the file's value, or its failure named after the
  secret. -/
  fileBehind : w.env.get (envVarName cfg.envPrefix name) = "" → cfg.dir ≠ "" →
    (Provider.file cfg.dir).supports w name = true →
    m.getSecret w name = ((Provider.file cfg.dir).get w name).mapError
      (·.within ("failed to get secret " ++ Text.quote name ++ ": "))
  /-- With neither, the lookup fails. -/
  neither : w.env.get (envVarName cfg.envPrefix name) = "" →
    (cfg.dir = "" ∨ (Provider.file cfg.dir).supports w name = false) →
    ∃ e, m.getSecret w name = .error e

/-- The environment provider first: a non-empty variable answers. -/
theorem firstFound_env_first {w : World} {base name : String} (rest : List Provider)
    (h : w.env.get (envVarName base name) ≠ "") :
    firstFound w name (.env base :: rest) = .ok (w.env.get (envVarName base name)) := by
  have hSet : (Provider.env base).supports w name = true := Environment.isSet_of_get_ne_empty h
  rw [firstFound, asked_cons_of_supports rest hSet]
  simp [env_get, h, Except.toOption]

/-- An empty variable in front of a provider that supports the name leaves the
answer to that provider, its failure named after the secret. -/
theorem firstFound_env_empty {w : World} {base name : String} {p : Provider}
    (h : w.env.get (envVarName base name) = "") (hp : p.supports w name = true) :
    firstFound w name [.env base, p] =
      (p.get w name).mapError (·.within ("failed to get secret " ++ Text.quote name ++ ": ")) := by
  have hEnv := env_get_toOption_of_empty h
  -- asked or not, the environment provider adds at most a failure before the provider's own
  have hAsked : asked w name [.env base, p] = [.env base, p] ∨ asked w name [.env base, p] = [p] := by
    cases hs : (Provider.env base).supports w name
    · exact .inr (by rw [asked_cons_of_not_supports _ hs, asked_cons_of_supports _ hp, asked_nil])
    · exact .inl (by rw [asked_cons_of_supports _ hs, asked_cons_of_supports _ hp, asked_nil])
  rcases hAsked with hAsked | hAsked <;>
  · rw [firstFound, hAsked]
    cases hg : p.get w name with
    | ok v =>
      have hp : (p.get w name).toOption = some v := by rw [hg]; rfl
      simp only [List.findSome?_cons, hEnv, hp]
      rfl
    | error e =>
      have hp : (p.get w name).toOption = none := by rw [hg]; rfl
      simp only [List.findSome?_cons, hEnv, hp, List.findSome?_nil]
      simp [hg, failureOf, unanswered, Except.mapError]

/-- Every answer without a value is a failure. -/
theorem unanswered_eq_error (name : String) (last : Option SecretError) :
    ∃ e, unanswered name last = .error e := by
  cases last <;> exact ⟨_, rfl⟩

/-- A lookup in which no asked provider has the secret fails. -/
theorem firstFound_error {w : World} {name : String} {ps : List Provider}
    (h : ∀ p ∈ asked w name ps, (p.get w name).toOption = none) :
    ∃ e, firstFound w name ps = .error e := by
  rw [firstFound, List.findSome?_eq_none_iff.2 h]
  exact unanswered_eq_error _ _

/-- Lookups through the manager of a secrets configuration: the environment
first, then the directory. -/
theorem loaderLookup {w : World} {cfg : Config.Secrets} {m : Manager}
    (h : Config.secretManager w cfg = .ok m) (name : String) : LoaderLookup w cfg m name where
  variableWins hv := by
    rw [Manager.getSecret_eq_firstFound]
    rcases secretManager_eq_ok h with ⟨-, hm⟩ | ⟨-, -, hm⟩ <;>
      rw [hm] <;> exact firstFound_env_first _ hv
  fileBehind hv hDir hFile := by
    rw [Manager.getSecret_eq_firstFound]
    rcases secretManager_eq_ok h with ⟨hDir', -⟩ | ⟨-, -, hm⟩
    · exact absurd hDir' hDir
    · rw [hm]
      exact firstFound_env_empty hv hFile
  neither hv hNo := by
    rw [Manager.getSecret_eq_firstFound]
    apply firstFound_error
    intro p hp
    obtain ⟨hMem, hSupports⟩ := List.mem_filter.1 hp
    -- the directory's provider, when there is one, is not asked
    rcases secretManager_eq_ok h with ⟨-, hm⟩ | ⟨hDir, -, hm⟩ <;> rw [hm] at hMem
    · rw [List.mem_singleton.1 hMem]
      exact env_get_toOption_of_empty hv
    · rcases List.mem_cons.1 hMem with rfl | hMem
      · exact env_get_toOption_of_empty hv
      · rw [List.mem_singleton.1 hMem] at hSupports
        rcases hNo with hNo | hNo
        · exact absurd hNo hDir
        · simp [hNo] at hSupports

/-- A manager answers by the documented rule, only the providers that support
the name decide the answer, and through the configuration's manager a
non-empty variable wins while an unset or empty one leaves the secret to the
directory. -/
theorem getSecret_falls_through (m : Manager) (w : World) (name : String) :
    m.getSecret w name = firstFound w name m.providers ∧
      (∀ ps, asked w name ps = asked w name m.providers →
        (⟨ps⟩ : Manager).getSecret w name = m.getSecret w name) ∧
      ∀ cfg, Config.secretManager w cfg = .ok m → LoaderLookup w cfg m name :=
  ⟨m.getSecret_eq_firstFound w name, fun _ h => m.getSecret_eq_of_asked h,
    fun _ h => loaderLookup h name⟩

end Turnstile.Secrets
