import Mathlib
import Turnstile.Cli.Program
import Turnstile.Proofs.Credential.Bearer
import Turnstile.Proofs.Credential.Matching
import Turnstile.Proofs.Credential.Table
import Turnstile.Proofs.Server.AuthRoutes

/-!
# The check command answers as the tier's route

`keygate check --config path --tier name --token t` evaluates a token for one
tier over the snapshot the configuration loads to.  The proof goes in stages:

* **Reading the command line.**  The first word names `check`; each of the
  three flags is a long text flag written as its own word, so it takes the next
  word as its value whatever that word is (`readCommandLine_check`).
* **Running the command.**  A name that is no tier fails at once with status 1;
  otherwise the report of the verifier's answer to the bearer token `t` is
  printed, and the command exits 0 when it allows and 2 when it denies
  (`checkCommand_unknown`, `checkCommand_known`).
* **Meeting the route.**  A request whose first `Authorization` value is
  `Bearer ` and `t` presents `t`, or nothing when `t` is empty
  (`ofAuthorization_bearer_space`).  An empty token is answered as no token,
  except that a required credential is refused as invalid instead of missing
  (`verifyTier_empty_token`).  So the command allows exactly when the route
  answers 200, reports the route's decision, and differs from the route's
  refusal only in that case (`RouteAgrees`).

`check_answers_as_route` puts the stages together for every configuration that
loads, every name and every token.
-/

namespace Turnstile

/-! ## An empty token -/

namespace Credential

/-- A tier answers an empty token as it answers no token, except that where a
credential is required the empty one is refused as invalid rather than
missing. -/
theorem verifyTier_empty_token (src : Source) (t : Tier) :
    verifyTier src t (.bearer "") = verifyTier src t .absent ∨
      (verifyTier src t .absent = .error .missingCredential ∧
        verifyTier src t (.bearer "") = .error .invalidCredential) := by
  have hAbsent := decides_verifyTier src t .absent
  have hEmpty := decides_verifyTier src t (.bearer "")
  generalize verifyTier src t .absent = rAbsent at hAbsent ⊢
  generalize verifyTier src t (.bearer "") = rEmpty at hEmpty ⊢
  -- the rows for no token against the rows for the empty token; the others contradict a key test
  cases hAbsent <;> cases hEmpty <;> simp_all [matchKey_empty]

/-- The header value `Bearer ` and a token presents the token, or nothing when
the token is empty. -/
theorem ofAuthorization_bearer_space (token : String) :
    Presented.ofAuthorization (some ("Bearer " ++ token)) =
      if token = "" then .absent else .bearer token := by
  split
  · rename_i hEmpty
    subst hEmpty
    rw [String.append_empty, Presented.ofAuthorization, Text.splitOn_space]
    decide
  · rename_i hToken
    have hSpace : "Bearer " ++ token = "Bearer" ++ " " ++ token := by
      rw [String.append_assoc]
      rfl
    exact (ofAuthorization_eq_bearer_iff _ _).2 ⟨"Bearer", hSpace, by decide, hToken⟩

end Credential

namespace Cli

open Host Credential Server Http

/-! ## Reading the command line -/

section Reading

/-- A word that is neither a flag nor `--` names a command. -/
theorem commandWords_cons_word {flags : List Flag} {w : String} (rest : List String)
    (hEnd : (w == "--") = false) (hValue : takesValue flags w = false)
    (hWord : (!w.isEmpty && !w.startsWith "-") = true) :
    commandWords flags (w :: rest) = w :: commandWords flags rest := by
  rw [commandWords.eq_def]
  simp [hEnd, hValue, hWord]

/-- A flag that takes a value passes over the next word. -/
theorem commandWords_cons_flag {flags : List Flag} {w : String} (v : String) (more : List String)
    (hEnd : (w == "--") = false) (hValue : takesValue flags w = true) :
    commandWords flags (w :: v :: more) = if more.isEmpty then [] else commandWords flags more := by
  rw [commandWords.eq_def]
  simp [hEnd, hValue]

theorem withoutWord_cons_self {flags : List Flag} {w : String} (rest : List String)
    (hEnd : (w == "--") = false) (hValue : takesValue flags w = false)
    (hWord : w.startsWith "-" = false) :
    withoutWord flags w (w :: rest) = rest := by
  rw [withoutWord.eq_def]
  simp [hEnd, hValue, hWord]

theorem findFrom_descend {fuel : Nat} {p : Place} {args : List String} {next : String}
    {rest : List String} {t : CommandTree} (hWords : commandWords p.known args = next :: rest)
    (hChild : p.children.find? (·.cmd.name == next) = some t) :
    findFrom (fuel + 1) p args = findFrom fuel (p.descend t) (withoutWord p.known next args) := by
  simp [findFrom, hWords, hChild]

theorem findFrom_stop {fuel : Nat} {p : Place} {args : List String}
    (hWords : commandWords p.known args = []) : findFrom fuel p args = (p, args) := by
  cases fuel <;> simp [findFrom, hWords]

/-- A long text flag written as its own word takes the next word as its value. -/
theorem readLong_text_next {flags : List Flag} {word name : String} (next : String)
    (vs : FlagValues) (hBody : (word.drop 2).toString = name)
    (hPlain : (name.isEmpty || name.startsWith "-" || name.startsWith "=") = false)
    (hNoEq : ∀ c ∈ name.toList, c ≠ '=')
    (hText : (findLong flags name).map (·.kind) = some .text) :
    readLong flags word (some next) vs = .ok (true, vs.record name next) := by
  obtain ⟨f, hFind, hKind⟩ := Option.map_eq_some_iff.1 hText
  have hName : f.name = name := by simpa using List.find?_some hFind
  have hTake : String.ofList (name.toList.takeWhile (· != '=')) = name := by
    rw [List.takeWhile_eq_self_iff.2 (by simpa using hNoEq), String.ofList_toList]
  have hDrop : name.toList.dropWhile (· != '=') = [] :=
    List.dropWhile_eq_nil_iff.2 (by simpa using hNoEq)
  simp only [readLong, hBody, hPlain, hTake, hDrop, hFind, Bool.false_eq_true, if_false]
  simp only [assign, hKind, hName]
  rfl

theorem readFlags_nil (flags : List Flag) (vs : FlagValues) (pos : List String) :
    readFlags flags [] vs pos = .ok (vs, pos) := by
  rw [readFlags]

theorem readFlags_long_next {flags : List Flag} {word next : String} {rest : List String}
    {vs vs' : FlagValues} (pos : List String)
    (hFlag : (word.length ≤ 1 || !word.startsWith "-") = false) (hEnd : (word == "--") = false)
    (hLong : word.startsWith "--" = true)
    (hRead : readLong flags word (some next) vs = .ok (true, vs')) :
    readFlags flags (word :: next :: rest) vs pos = readFlags flags rest vs' pos := by
  rw [readFlags]
  simp [hFlag, hEnd, hLong, hRead]

/-- Giving a flag a value changes what that flag reads, when it is declared,
and nothing else. -/
theorem FlagValues.lookup_record (vs : FlagValues) (n v k : String) :
    (vs.record n v).values.lookup k =
      if k = n then (vs.values.lookup k).map fun _ => v else vs.values.lookup k := by
  unfold FlagValues.record
  dsimp only
  induction vs.values with
  | nil => split <;> rfl
  | cons e rest ih =>
    obtain ⟨k', v'⟩ := e
    simp only [beq_iff_eq] at ih ⊢
    by_cases hk : k = k'
    · subst hk
      by_cases hn : k = n <;> simp [List.lookup, hn]
    · by_cases hn : k' = n
      · subst hn
        simp [List.lookup, hk, beq_false_of_ne hk, ih]
      · simp [List.lookup, hn, beq_false_of_ne hk, ih]

/-- Where the `check` command sits in the tree. -/
def checkPlace : Place :=
  ({ tree := program } : Place).descend
    ((program.children.find? (·.cmd.name == "check")).getD program)

/-- The flag values of `check --config path --tier name --token t`. -/
def checkValues (path name t : String) : FlagValues :=
  (((FlagValues.initial checkPlace.allFlags).record "config" path).record "tier" name).record
    "token" t

theorem findCommand_check (path name t : String) :
    findCommand program ["check", "--config", path, "--tier", name, "--token", t] =
      (checkPlace, ["--config", path, "--tier", name, "--token", t]) := by
  have hRoot : commandWords ({ tree := program } : Place).known
      ["check", "--config", path, "--tier", name, "--token", t] =
      "check" :: commandWords ({ tree := program } : Place).known
        ["--config", path, "--tier", name, "--token", t] :=
    commandWords_cons_word _ (by decide) (by decide) (by simp)
  have hChild : (({ tree := program } : Place).children.find? (·.cmd.name == "check")) =
      some ((program.children.find? (·.cmd.name == "check")).getD program) := rfl
  -- below `check` every word is a flag or a flag's value
  have hCheck : commandWords checkPlace.known ["--config", path, "--tier", name, "--token", t] = [] := by
    rw [commandWords_cons_flag _ _ (by decide) (by decide), if_neg (by simp),
      commandWords_cons_flag _ _ (by decide) (by decide), if_neg (by simp),
      commandWords_cons_flag _ _ (by decide) (by decide)]
    rfl
  rw [findCommand, List.length, findFrom_descend hRoot hChild,
    withoutWord_cons_self (w := "check") _ (by decide) (by decide) (by simp)]
  exact findFrom_stop hCheck

theorem readFlags_check (path name t : String) :
    readFlags checkPlace.allFlags ["--config", path, "--tier", name, "--token", t]
      (FlagValues.initial checkPlace.allFlags) [] = .ok (checkValues path name t, []) := by
  rw [readFlags_long_next _ (by simp; decide) (by decide) (by simp)
      (readLong_text_next _ _ (show ("--config".drop 2).toString = "config" by decide) (by simp)
        (by simp) rfl),
    readFlags_long_next _ (by simp; decide) (by decide) (by simp)
      (readLong_text_next _ _ (show ("--tier".drop 2).toString = "tier" by decide) (by simp)
        (by simp) rfl),
    readFlags_long_next _ (by simp; decide) (by decide) (by simp)
      (readLong_text_next _ _ (show ("--token".drop 2).toString = "token" by decide) (by simp)
        (by simp) rfl),
    readFlags_nil]
  rfl

theorem checkValues_given (path name t : String) :
    (checkValues path name t).given = ["config", "tier", "token"] := rfl

/-- What the check command reads from its flags. -/
theorem checkValues_read (path name t : String) :
    (checkValues path name t).text "config" = path ∧ (checkValues path name t).text "tier" = name ∧
      (checkValues path name t).text "token" = t ∧
      (checkValues path name t).text "output" = "text" ∧
      (checkValues path name t).isOn "stdin" = false ∧ (checkValues path name t).isOn "help" = false := by
  have hInit : ((FlagValues.initial checkPlace.allFlags).values.lookup "config" = some "") ∧
      ((FlagValues.initial checkPlace.allFlags).values.lookup "tier" = some "") ∧
      ((FlagValues.initial checkPlace.allFlags).values.lookup "token" = some "") ∧
      ((FlagValues.initial checkPlace.allFlags).values.lookup "output" = some "text") ∧
      ((FlagValues.initial checkPlace.allFlags).values.lookup "stdin" = some "false") ∧
      ((FlagValues.initial checkPlace.allFlags).values.lookup "help" = some "false") := by
    decide
  obtain ⟨hConfig, hTier, hToken, hOutput, hStdin, hHelp⟩ := hInit
  simp [checkValues, FlagValues.isOn, FlagValues.text, FlagValues.lookup_record, hConfig, hTier,
    hToken, hOutput, hStdin, hHelp]

/-- The token and the standard input exclude each other; only the token is given. -/
theorem exclusiveConflict_check (path name t : String) :
    exclusiveConflict checkPlace (checkValues path name t) = none := by
  have hGiven : (checkValues path name t).isGiven = fun k => ["config", "tier", "token"].contains k := by
    funext k
    rw [FlagValues.isGiven, checkValues_given]
  have hExclusive : checkPlace.cmd.exclusive = [["token", "stdin"]] := rfl
  have hSplit : (" ".intercalate ["token", "stdin"]).splitOn " " = ["token", "stdin"] := by
    rw [Text.splitOn_space]
    decide
  have hFilter : (["token", "stdin"].filter fun k => ["config", "tier", "token"].contains k) =
      ["token"] := by decide
  unfold exclusiveConflict
  rw [hGiven, hExclusive, List.map_singleton, List.mergeSort_singleton, List.findSome?_cons, hSplit,
    hFilter, sortTexts, List.mergeSort_singleton]
  rfl

/-- The check command line runs `check` with its three flags and no argument,
whatever the path, the name and the token. -/
theorem readCommandLine_check (path name t : String) :
    readCommandLine program ["check", "--config", path, "--tier", name, "--token", t] =
      .run checkPlace (checkValues path name t) [] := by
  obtain ⟨-, -, -, -, -, hHelp⟩ := checkValues_read path name t
  have hLeft : leftoverWord checkPlace ["--config", path, "--tier", name, "--token", t] = none := by
    simp [leftoverWord, show checkPlace.cmd.arity = .none from rfl]
  have hMissing : missingFlags checkPlace (checkValues path name t) = none := by
    simp [missingFlags, show checkPlace.cmd.required = ["tier"] from rfl, sortTexts,
      FlagValues.isGiven, checkValues_given]
  simp only [readCommandLine, findCommand_check, hLeft, readFlags_check, hHelp, hMissing,
    exclusiveConflict_check]
  rfl

theorem execute_check (w : World) (path name t stdin : String) :
    execute w ["check", "--config", path, "--tier", name, "--token", t] stdin =
      (checkCommand w stdin (checkValues path name t)).outcome := by
  rw [execute, readCommandLine_check]
  rfl

end Reading

/-! ## Running the command -/

section Running

variable (src : Source) (tier : Tier) (cred : Presented)

theorem evaluate_of_ok {d : Decision} (hv : verifyTier src tier cred = .ok d) :
    CheckReport.evaluate src tier cred =
      { tier, state := stateOf src tier, allowed := true, authenticated := d.authenticated,
        matchKind := if d.authenticated then d.matchKind.name else "" } := by
  simp [CheckReport.evaluate, hv]

theorem evaluate_of_error {e : Denial} (hv : verifyTier src tier cred = .error e) :
    CheckReport.evaluate src tier cred =
      { tier, state := stateOf src tier, error := e.kind, detail := e.detail } := by
  simp [CheckReport.evaluate, hv]

end Running

/-- A name that is no tier fails with status 1 before the configuration is read. -/
theorem checkCommand_unknown (w : World) (stdin path : String) {name : String} (t : String)
    (hTier : Tier.ofName? name = none) :
    (checkCommand w stdin (checkValues path name t)).outcome =
      { exit := 1, stderr := "command check failed: unknown tier: " ++ Text.quote name ++ "\n" } := by
  obtain ⟨-, hName, -, hOutput, -, -⟩ := checkValues_read path name t
  simp [checkCommand, outputFormat, hOutput, hName, hTier, OutputFormat.parse, Except.mapError,
    Effect.fail, Effect.outcome, Failure.text, Failure.exitCode, ← String.append_assoc]

/-- For a tier, the command prints the report of the verifier's answer to the
token over the loaded snapshot, and exits 0 when it allows and 2, with the
detail, when it denies. -/
theorem checkCommand_known {w : World} {path : String} {snap : Snapshot}
    (hLoad : Config.load w path = .ok snap) (stdin : String) {name : String} {tier : Tier} (t : String)
    (hTier : Tier.ofName? name = some tier) :
    (checkCommand w stdin (checkValues path name t)).outcome =
      let r := CheckReport.evaluate snap.settings.source tier (.bearer t)
      { exit := if r.allowed then 0 else 2, stdout := r.text ++ "\n",
        stderr := if r.allowed then "" else "command check failed: " ++ r.detail ++ "\n" } := by
  obtain ⟨hConfig, hName, hToken, hOutput, hStdin, -⟩ := checkValues_read path name t
  have hGiven : (checkValues path name t).isGiven "token" = true := by
    simp [FlagValues.isGiven, checkValues_given]
  have hFormat : outputFormat (checkValues path name t) = .ok .text := by
    simp [outputFormat, hOutput, OutputFormat.parse, Except.mapError]
  have hCredential : checkCredential (checkValues path name t) stdin = .bearer t := by
    simp [checkCredential, hStdin, hGiven, hToken]
  have hLoadFor : loadFor w (checkValues path name t) = .ok snap := by
    simp [loadFor, hConfig, hLoad, Except.mapError]
  simp only [checkCommand, hFormat, hName, hTier, hCredential, hLoadFor]
  cases (CheckReport.evaluate snap.settings.source tier (.bearer t)).allowed <;> rfl

/-! ## Meeting the route -/

/-- The report of `check` for `token` against what the route answers to a
request presenting `Bearer ` and `token`: it allows exactly when the route
answers 200, reports the route's decision when it allows, and shows the
route's refusal when it denies, except that an empty token the route sees as
missing is invalid to the command. -/
structure RouteAgrees (r : CheckReport) (token : String) (resp : Response) : Prop where
  allowed_iff : r.allowed = true ↔ resp.status = 200
  authenticated : r.allowed = true →
    resp.headers.values "X-Keygate-Authenticated" = [if r.authenticated then "true" else "false"]
  matched : r.authenticated = true → resp.headers.values "X-Keygate-Match" = [r.matchKind]
  /-- The match is left out of an unauthenticated report. -/
  unmatched : r.authenticated = false → r.matchKind = ""
  denied : r.allowed = false →
    resp.body = (JsonValue.object [("detail", .string r.detail)]).body ∨
      (token = "" ∧ r.error = Denial.invalidCredential.kind ∧
        resp.body = (JsonValue.object [("detail", .string Denial.missingCredential.detail)]).body)

/-- The route sees the command's token, except an empty one, which it sees as no
token: the verifier answers both alike, or refuses the empty token as invalid
and no token as missing. -/
theorem verifyTier_route_token (src : Source) (tier : Tier) (token : String) :
    verifyTier src tier (if token = "" then .absent else .bearer token) =
        verifyTier src tier (.bearer token) ∨
      (token = "" ∧
        verifyTier src tier (if token = "" then .absent else .bearer token) =
          .error .missingCredential ∧
        verifyTier src tier (.bearer token) = .error .invalidCredential) := by
  split
  · rename_i hEmpty
    subst hEmpty
    rcases verifyTier_empty_token src tier with hSame | ⟨hMissing, hInvalid⟩
    · exact Or.inl hSame.symm
    · exact Or.inr ⟨rfl, hMissing, hInvalid⟩
  · exact Or.inl rfl

/-- A route that answers by its contract to a request presenting `Bearer ` and
`token` agrees with the command's report for the token. -/
theorem routeAgrees_of_answers {src : Source} {tier : Tier} {req : Request}
    {collector : Option Metrics.Collector} {out : Response × Option Metrics.Collector} {token : String}
    (hAns : AnswersDecision src tier req collector out)
    (hCred : credentialOf req = if token = "" then .absent else .bearer token) :
    RouteAgrees (CheckReport.evaluate src tier (.bearer token)) token out.1 := by
  have hRoute := verifyTier_route_token src tier token
  rw [← hCred] at hRoute
  cases hv : verifyTier src tier (.bearer token) with
  | ok d =>
    -- an accepted token is accepted by the route with the same decision
    have hSame : verify src tier.name (credentialOf req) = .ok d.named := by
      rcases hRoute with hEq | ⟨-, -, hInvalid⟩
      · exact verify_name_eq_ok.2 ⟨d, hEq.trans hv, rfl⟩
      · rw [hv] at hInvalid
        cases hInvalid
    obtain ⟨-, hAuth, hMatch, -⟩ := hAns.accepted d.named hSame
    rw [evaluate_of_ok src tier _ hv]
    refine ⟨by simpa using hAns.ok_iff.2 ⟨d.named, hSame⟩, fun _ => hAuth, fun hOn => ?_, fun hOff => ?_,
      fun hDenied => by simp at hDenied⟩
    · simp only at hOn
      simpa [hOn] using hMatch
    · simp only at hOff
      simp [hOff]
  | error e =>
    rw [evaluate_of_error src tier _ hv]
    refine ⟨?_, fun h => by simp at h, fun h => by simp at h, fun _ => rfl, fun _ => ?_⟩
    · -- the route refuses too, so it does not answer 200
      have hRefused : ∃ e', verify src tier.name (credentialOf req) = .error e' := by
        rcases hRoute with hEq | ⟨-, hMissing, -⟩
        · exact ⟨.denied e, verify_name_eq_error.2 ⟨e, hEq.trans hv, rfl⟩⟩
        · exact ⟨.denied .missingCredential, verify_name_eq_error.2 ⟨_, hMissing, rfl⟩⟩
      obtain ⟨e', he'⟩ := hRefused
      simp only [Bool.false_eq_true, false_iff]
      rw [(hAns.denied e' he').1]
      decide
    · rcases hRoute with hEq | ⟨hEmpty, hMissing, hInvalid⟩
      · exact Or.inl (hAns.denied (.denied e) (verify_name_eq_error.2 ⟨e, hEq.trans hv, rfl⟩)).2.2
      · rw [hv] at hInvalid
        cases hInvalid
        exact Or.inr ⟨hEmpty, rfl,
          (hAns.denied (.denied .missingCredential) (verify_name_eq_error.2 ⟨_, hMissing, rfl⟩)).2.2⟩

/-- What `check --config path --tier name --token token` does, over the
snapshot `snap` its configuration loads to, against the routes of every built
handler serving that snapshot. -/
structure ChecksAsRoute (snap : Snapshot) (name token : String) (o : Outcome) : Prop where
  /-- Status 1 with nothing written exactly for a name that is no tier. -/
  unknown_iff : (o.exit = 1 ∧ o.stdout = "") ↔ Tier.ofName? name = none
  unknown : Tier.ofName? name = none →
    o.stderr = "command check failed: unknown tier: " ++ Text.quote name ++ "\n"
  known : ∀ tier, Tier.ofName? name = some tier → ∃ r : CheckReport,
    o.stdout = r.text ++ "\n" ∧ o.exit = (if r.allowed then 0 else 2) ∧
    r.tier = tier ∧ r.state = stateOf snap.settings.source tier ∧
    (r.allowed = false → ∃ e, verifyTier snap.settings.source tier (.bearer token) = .error e ∧
      r.error = e.kind ∧ r.detail = e.detail) ∧
    ∀ (c : Config) (metricsWired : Bool) (info : Health.VersionInfo) (startedAt : Int) (h : Handler),
      Handler.build c metricsWired info startedAt = .ok h →
      ∀ collector (req : Request) (freshId : String) (now : Int), req.path = "/auth/" ++ tier.name →
        (∃ rest, req.headers.values "Authorization" = ("Bearer " ++ token) :: rest) →
        RouteAgrees r token (h.serve snap collector req freshId now).1

/-- A report names its tier and the tier's state. -/
theorem evaluate_tier_state (src : Source) (tier : Tier) (cred : Presented) :
    (CheckReport.evaluate src tier cred).tier = tier ∧
      (CheckReport.evaluate src tier cred).state = stateOf src tier := by
  unfold CheckReport.evaluate
  split <;> exact ⟨rfl, rfl⟩

/-- A denying report carries the kind and detail of the verifier's refusal. -/
theorem evaluate_denied {src : Source} {tier : Tier} {cred : Presented}
    (h : (CheckReport.evaluate src tier cred).allowed = false) :
    ∃ e, verifyTier src tier cred = .error e ∧
      (CheckReport.evaluate src tier cred).error = e.kind ∧
      (CheckReport.evaluate src tier cred).detail = e.detail := by
  cases hv : verifyTier src tier cred with
  | ok d =>
    rw [evaluate_of_ok src tier cred hv] at h
    cases h
  | error e => exact ⟨e, rfl, by rw [evaluate_of_error src tier cred hv], by
      rw [evaluate_of_error src tier cred hv]⟩

/-- For every configuration that loads, every name and every token, the check
command fails with status 1 exactly for a name that is no tier, and otherwise
reports the tier's state and the verifier's answer to the token, exits 0 when
it allows and 2 when it denies, and agrees with the tier's route on the same
snapshot. -/
theorem check_answers_as_route {w : World} {path : String} {snap : Snapshot}
    (hLoad : Config.load w path = .ok snap) (name token stdin : String) :
    ChecksAsRoute snap name token
      (execute w ["check", "--config", path, "--tier", name, "--token", token] stdin) := by
  rw [execute_check]
  cases hTier : Tier.ofName? name with
  | none =>
    rw [checkCommand_unknown w stdin path token hTier]
    exact ⟨by simp [hTier], fun _ => rfl, fun tier h => absurd (hTier.symm.trans h) (by simp)⟩
  | some tier =>
    rw [checkCommand_known hLoad stdin token hTier]
    set r := CheckReport.evaluate snap.settings.source tier (.bearer token) with hr
    obtain ⟨hTierName, hState⟩ := evaluate_tier_state snap.settings.source tier (.bearer token)
    refine ⟨?_, fun h => absurd (hTier.symm.trans h) (by simp), fun tier' hSome => ?_⟩
    · -- a tier's outcome exits 0 or 2
      simp only [hTier, reduceCtorEq, iff_false, not_and]
      intro hOne
      split at hOne <;> cases hOne
    · rw [hTier] at hSome
      cases hSome
      refine ⟨r, rfl, rfl, hTierName, hState, evaluate_denied, ?_⟩
      rintro c metricsWired info startedAt h hb collector req freshId now hPath ⟨rest, hFirst⟩
      have hCred : credentialOf req = if token = "" then .absent else .bearer token := by
        rw [credentialOf, Headers.get?, hFirst]
        exact ofAuthorization_bearer_space token
      exact routeAgrees_of_answers
        (serve_answers_decision hb snap collector req freshId now tier hPath) hCred

/-- The empty configuration loads, and the check command answers as the admin
route over it. -/
theorem check_answers_as_route_defaults :
    ∃ snap, Config.load {} "" = .ok snap ∧
      ChecksAsRoute snap "admin" "token" (execute {} ["check", "--config", "", "--tier", "admin",
        "--token", "token"] "") := by
  obtain ⟨snap, hLoad, -⟩ := exists_ok_of_check (x := Config.load {} "") (p := fun _ => true)
    (by decide +kernel)
  exact ⟨snap, hLoad, check_answers_as_route hLoad "admin" "token" ""⟩

end Cli

end Turnstile
