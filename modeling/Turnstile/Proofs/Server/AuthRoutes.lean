import Turnstile.Proofs.Server.Routes

/-!
# The tier routes answer the verifier

A request for `/auth/<tier>` on a built handler is answered by the verifier's
result on the request's bearer credential, read from the active snapshot:

* 200 exactly when the verifier accepts, with the tier, whether the request
  authenticated and how its token matched, in `X-Keygate-*` header fields and
  in a JSON body of those three members only;
* 401 otherwise, with `WWW-Authenticate: Bearer` and the denial's detail as
  the body;
* an enabled collector counts the decision once, under the tier and the
  outcome, and no other decision count moves.

`AnswersDecision` states these for one request, with how the credential is
read from the first `Authorization` value; `serve_answers_decision` proves them
for every built handler, snapshot, collector, tier and request for the tier's
path, whatever its method, query and header fields.
-/

namespace Turnstile

/-! ## Counting -/

namespace Metrics

section Counting

variable {κ : Type} [BEq κ] [LawfulBEq κ]

/-- How many times a key has been counted. -/
def countOf (cs : Counts κ) (k : κ) : Nat := (cs.lookup k).getD 0

theorem any_fst_beq_eq_isSome_lookup {β : Type} (l : List (κ × β)) (k : κ) :
    l.any (·.1 == k) = (l.lookup k).isSome := by
  induction l with
  | nil => rfl
  | cons e rest ih =>
    obtain ⟨k', v⟩ := e
    by_cases hk : k = k'
    · subst hk
      simp
    · rw [List.any_cons, Http.lookup_cons_ne hk, ← ih]
      simp [Ne.symm hk]

/-- Bumping a key adds one to its count and leaves every other count. -/
theorem countOf_bump [DecidableEq κ] (cs : Counts κ) (k k' : κ) :
    countOf (bump cs k) k' = countOf cs k' + if k' = k then 1 else 0 := by
  unfold bump countOf
  rw [any_fst_beq_eq_isSome_lookup, Http.lookup_upsert _ _ _ (· + 1)]
  split
  · rename_i hk
    subst hk
    cases cs.lookup k' <;> rfl
  · rfl

end Counting

namespace Collector

/-- The decisions counted under a tier and an outcome. -/
def decisionCount (c : Collector) (tier outcome : String) : Nat :=
  countOf c.decisions (outcome, tier)

/-- An enabled collector counts a decision once, under its tier and outcome. -/
theorem decisionCount_recordDecision {c : Collector} (hOn : c.enabled = true)
    (tier outcome tier' outcome' : String) :
    (c.recordDecision tier outcome).decisionCount tier' outcome' =
      c.decisionCount tier' outcome' + if tier' = tier ∧ outcome' = outcome then 1 else 0 := by
  simp only [recordDecision, hOn, if_true, decisionCount, countOf_bump, Prod.mk.injEq]
  by_cases ht : tier' = tier <;> by_cases ho : outcome' = outcome <;> simp [ht, ho]

/-- Counting a request leaves the decision counts. -/
theorem decisionCount_recordRequest (c : Collector) (route method : String) (status : Nat)
    (tier outcome : String) :
    (c.recordRequest route method status).decisionCount tier outcome = c.decisionCount tier outcome := by
  unfold recordRequest
  split <;> rfl

end Collector

end Metrics

/-! ## Answering a tier's route -/

namespace Server

open Http Credential Metrics

/-- The credential a request presents: its first `Authorization` value, read
as a bearer credential. -/
def credentialOf (req : Request) : Presented :=
  Presented.ofAuthorization (req.headers.get? "Authorization")

/-- The header fields every answer starts from: the request's own ID when it
is valid, a fresh one otherwise. -/
def baseHeaders (req : Request) (freshId : String) : Headers :=
  let given := (req.headers.get? "X-Request-ID").getD ""
  Headers.empty.set "X-Request-ID" (if validRequestId given then given else freshId)

/-- Verifying by a tier's name is verifying for the tier, the decision labelled
with the name. -/
theorem verify_name (src : Source) (t : Tier) (c : Presented) :
    verify src t.name c = ((verifyTier src t c).map Decision.named).mapError .denied := by
  rw [verify, namedVerdict, Tier.ofName?_name, verifyTier_eq_result]
  dsimp only
  obtain ⟨d, _ | e⟩ := tierVerdict src t c <;> rfl

theorem verify_name_eq_ok {src : Source} {t : Tier} {c : Presented} {d : Decision String} :
    verify src t.name c = .ok d ↔ ∃ d₀, verifyTier src t c = .ok d₀ ∧ d = d₀.named := by
  rw [verify_name]
  cases verifyTier src t c <;> simp [Except.mapError, Except.map, eq_comm]

theorem verify_name_eq_error {src : Source} {t : Tier} {c : Presented} {e : VerifyError} :
    verify src t.name c = .error e ↔
      ∃ denial, verifyTier src t c = .error denial ∧ e = .denied denial := by
  rw [verify_name]
  cases verifyTier src t c <;> simp [Except.mapError, Except.map, eq_comm]

/-- A request presents a bearer token exactly when its first `Authorization`
value is a scheme that folds to `bearer`, one space and the non-empty token. -/
theorem credentialOf_eq_bearer_iff {req : Request} {v : String} {rest : List String}
    (hFirst : req.headers.values "Authorization" = v :: rest) (tok : String) :
    credentialOf req = .bearer tok ↔
      ∃ scheme, v = scheme ++ " " ++ tok ∧ Text.equalsFoldedAscii scheme "bearer" = true ∧
        tok ≠ "" := by
  rw [credentialOf, Headers.get?, hFirst]
  exact ofAuthorization_eq_bearer_iff v tok

/-- A request without an `Authorization` value presents no credential. -/
theorem credentialOf_of_values_nil {req : Request}
    (hNone : req.headers.values "Authorization" = []) : credentialOf req = .absent := by
  rw [credentialOf, Headers.get?, hNone]
  rfl

/-- The starting header fields hold no challenge. -/
theorem baseHeaders_challenge (req : Request) (freshId : String) :
    (baseHeaders req freshId).values "WWW-Authenticate" = [] := by
  simp +decide [baseHeaders, Headers.values_set]

/-- A request for a tier's path is answered by the tier's decision; the
collector records the decision and then the request. -/
theorem serve_authPath {c : Config} {metricsWired : Bool} {info : Health.VersionInfo}
    {startedAt : Int} {h : Handler} (hb : Handler.build c metricsWired info startedAt = .ok h)
    (snap : Snapshot) (collector : Option Collector) {req : Request} (freshId : String) (now : Int)
    {t : Tier} (hPath : req.path = "/auth/" ++ t.name) :
    h.serve snap collector req freshId now =
      let answer := decisionAnswer snap.settings.source (baseHeaders req freshId) req t
      (answer.1, collector.map fun col =>
        (col.recordDecision t.name answer.2).recordRequest ("/auth/" ++ t.name) req.method
          answer.1.status) := by
  unfold Handler.serve
  rw [hPath, dispatch_authPath hb]
  -- the two records are two maps over the collector, which compose once it is known
  cases collector <;> rfl

section Answer

variable (src : Source) (headers : Headers) (req : Request) (t : Tier)

/-- An answer reports the verifier's outcome. -/
theorem decisionAnswer_outcome :
    (decisionAnswer src headers req t).2 = outcome (verify src t.name (credentialOf req)) := by
  rw [verify_name]
  unfold credentialOf
  cases hv : verifyTier src t (Presented.ofAuthorization (req.headers.get? "Authorization")) <;>
    simp only [decisionAnswer, hv] <;> rfl

/-- An accepted credential is answered 200, with the decision in the tier,
authentication and match fields and in a body of those three members. -/
theorem decisionAnswer_accepted {d : Decision} (hv : verifyTier src t (credentialOf req) = .ok d) :
    let resp := (decisionAnswer src headers req t).1
    resp.status = 200 ∧
      resp.headers.values "X-Keygate-Tier" = [t.name] ∧
      resp.headers.values "X-Keygate-Authenticated" =
        [if d.authenticated then "true" else "false"] ∧
      resp.headers.values "X-Keygate-Match" = [d.matchKind.name] ∧
      resp.body = (JsonValue.object [("tier", .string t.name),
        ("authenticated", .bool d.authenticated), ("match", .string d.matchKind.name)]).body := by
  unfold credentialOf at hv
  simp only [decisionAnswer, hv]
  refine ⟨rfl, ?_, ?_, ?_, rfl⟩
  -- each field is set once; the names set after it have other canonical forms
  all_goals simp +decide [Response.json, Headers.values_set]

/-- A refused credential is answered 401, with a bearer challenge and the
denial's detail. -/
theorem decisionAnswer_denied {e : Denial} (hv : verifyTier src t (credentialOf req) = .error e) :
    let resp := (decisionAnswer src headers req t).1
    resp.status = 401 ∧
      resp.headers.values "WWW-Authenticate" = headers.values "WWW-Authenticate" ++ ["Bearer"] ∧
      resp.body = (JsonValue.object [("detail", .string e.detail)]).body := by
  unfold credentialOf at hv
  simp only [decisionAnswer, hv]
  refine ⟨rfl, ?_, rfl⟩
  simp +decide [Response.json, Headers.values_set, Headers.values_add]

end Answer

/-! ## The contract of a tier's route -/

/-- What the route of tier `t` answers to `req` with the verifier over `src`:
`out` is the response and the collector after it, `collector` the collector
before. -/
structure AnswersDecision (src : Source) (t : Tier) (req : Request) (collector : Option Collector)
    (out : Response × Option Collector) : Prop where
  /-- The credential is the first `Authorization` value, cut at its first space. -/
  bearer : ∀ v rest tok, req.headers.values "Authorization" = v :: rest →
    (credentialOf req = .bearer tok ↔
      ∃ scheme, v = scheme ++ " " ++ tok ∧ Text.equalsFoldedAscii scheme "bearer" = true ∧
        tok ≠ "")
  absent : req.headers.values "Authorization" = [] → credentialOf req = .absent
  /-- 200 exactly when the verifier accepts. -/
  ok_iff : out.1.status = 200 ↔ ∃ d, verify src t.name (credentialOf req) = .ok d
  accepted : ∀ d, verify src t.name (credentialOf req) = .ok d →
    out.1.headers.values "X-Keygate-Tier" = [t.name] ∧
      out.1.headers.values "X-Keygate-Authenticated" =
        [if d.authenticated then "true" else "false"] ∧
      out.1.headers.values "X-Keygate-Match" = [d.matchKind.name] ∧
      out.1.body = (JsonValue.object [("tier", .string t.name),
        ("authenticated", .bool d.authenticated), ("match", .string d.matchKind.name)]).body
  denied : ∀ e, verify src t.name (credentialOf req) = .error e →
    out.1.status = 401 ∧ out.1.headers.values "WWW-Authenticate" = ["Bearer"] ∧
      out.1.body = (JsonValue.object [("detail", .string e.detail)]).body
  /-- An enabled collector counts the decision once, under the tier and the
  outcome, and no other. -/
  counted : ∀ col, collector = some col → col.enabled = true →
    ∃ col', out.2 = some col' ∧ ∀ tier o, col'.decisionCount tier o =
      col.decisionCount tier o +
        if tier = t.name ∧ o = outcome (verify src t.name (credentialOf req)) then 1 else 0

/-- Every built handler answers a request for a tier's path by the tier's
contract, over the active snapshot, whatever the request's method, query and
header fields. -/
theorem serve_answers_decision {c : Config} {metricsWired : Bool} {info : Health.VersionInfo}
    {startedAt : Int} {h : Handler} (hb : Handler.build c metricsWired info startedAt = .ok h)
    (snap : Snapshot) (collector : Option Collector) (req : Request) (freshId : String) (now : Int) (t : Tier)
    (hPath : req.path = "/auth/" ++ t.name) :
    AnswersDecision snap.settings.source t req collector (h.serve snap collector req freshId now) := by
  rw [serve_authPath hb snap collector freshId now hPath]
  set src := snap.settings.source
  refine ⟨fun v rest tok hFirst => credentialOf_eq_bearer_iff hFirst tok,
    credentialOf_of_values_nil, ?_, ?_, ?_, ?_⟩
  · -- the status tells the two results apart
    simp only [verify_name_eq_ok]
    cases hv : verifyTier src t (credentialOf req) with
    | ok d => simp [(decisionAnswer_accepted src _ req t hv).1]
    | error e => simp [(decisionAnswer_denied src _ req t hv).1]
  · -- the named decision reports what the tier's decision does
    intro d hd
    obtain ⟨d₀, hv, rfl⟩ := verify_name_eq_ok.1 hd
    exact (decisionAnswer_accepted src _ req t hv).2
  · intro e he
    obtain ⟨denial, hv, rfl⟩ := verify_name_eq_error.1 he
    obtain ⟨hStatus, hChallenge, hBody⟩ := decisionAnswer_denied src _ req t hv
    refine ⟨hStatus, ?_, hBody⟩
    rw [hChallenge, baseHeaders_challenge]
    rfl
  · rintro col rfl hOn
    refine ⟨_, rfl, fun tier o => ?_⟩
    rw [Collector.decisionCount_recordRequest, Collector.decisionCount_recordDecision hOn,
      decisionAnswer_outcome]

/-- The handler of an empty configuration, without a collector, answers the
admin route by its contract. -/
theorem serve_answers_decision_admin :
    Handler.build {} false {} 0 = .ok ⟨⟨routesOf {} false⟩, checksOf {} 0, {}⟩ ∧
      ({ method := "GET", path := "/auth/admin" } : Request).path = "/auth/" ++ Tier.admin.name ∧
      AnswersDecision (Settings.source ⟨[]⟩) .admin { method := "GET", path := "/auth/admin" } none
        ((⟨⟨routesOf {} false⟩, checksOf {} 0, {}⟩ : Handler).serve
          { config := {}, settings := ⟨[]⟩ } none { method := "GET", path := "/auth/admin" }
          "fresh" 0) := by
  have hb : Handler.build {} false {} 0 = .ok ⟨⟨routesOf {} false⟩, checksOf {} 0, {}⟩ := by
    rw [build_eq, Mux.registerAll_of_nodup (by decide) (by decide)]
    rfl
  exact ⟨hb, rfl,
    serve_answers_decision hb { config := {}, settings := ⟨[]⟩ } none _ "fresh" 0 .admin rfl⟩

end Server

end Turnstile
