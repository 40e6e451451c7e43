import Turnstile.Server.Handler
import Turnstile.Proofs.Credential.Bearer
import Turnstile.Proofs.Http.Routing

/-!
# The routes of a built handler

A handler registers its routes one after another and stops at the first
refusal.  With the routes as data:

* `Mux.registerAll` registers a list of routes in order; a run that succeeds
  leaves the router with exactly those routes after the ones it had
  (`Mux.registerAll_entries`).
* `routesOf` is the table a configuration asks for: the three tier routes,
  the health paths when they are enabled, the metrics path when a collector is
  wired and metrics are enabled, and `/` last.  Building the handler is
  registering that table (`build_eq`), so a built handler routes by it
  (`build_entries`).
* A rooted path of plain elements is clean (`cleanRequestPath_rooted_plain`),
  so a request for a tier's path is served by that tier's decision, whatever
  its method and query (`dispatch_authPath`).
-/

namespace Turnstile

/-- A run that succeeds after a first step had that step succeed. -/
theorem except_bind_eq_ok {ε α β : Type} {x : Except ε α} {f : α → Except ε β} {b : β}
    (h : (x >>= f) = .ok b) : ∃ a, x = .ok a ∧ f a = .ok b := by
  cases x with
  | error e => cases h
  | ok a => exact ⟨a, rfl, h⟩

/-- A computation found, by running it, to succeed with a value that passes a
test succeeds with such a value.  The test is what a concrete run is checked
against. -/
theorem exists_ok_of_check {ε α : Type} {x : Except ε α} {p : α → Bool}
    (h : (match x with
      | .ok a => p a
      | .error _ => false) = true) : ∃ a, x = .ok a ∧ p a = true := by
  cases x with
  | error e => cases h
  | ok a => exact ⟨a, rfl, h⟩

/-! ## Plain paths -/

namespace Path

/-- A path element that cleaning keeps as it is: not empty, neither `.` nor
`..`, and without a slash. -/
def PlainElement (e : String) : Prop :=
  e ≠ "" ∧ e ≠ "." ∧ e ≠ ".." ∧ '/' ∉ e.toList

instance (e : String) : Decidable (PlainElement e) :=
  inferInstanceAs (Decidable (_ ∧ _))

variable {segs : List String}

/-- Without `..` elements there is nothing to resolve. -/
theorem resolveDots_of_forall_ne (rooted : Bool) {es : List String} (h : ∀ e ∈ es, e ≠ "..") :
    resolveDots rooted es = es := by
  unfold resolveDots
  rw [List.foldl_ext _ (fun acc e => e :: acc) [] fun acc e he => by simp [h e he]]
  simp

/-- A rooted path cut at its slashes: an empty piece before the first slash,
then the elements. -/
theorem toList_splitOn_rooted (hne : segs ≠ []) (h : ∀ e ∈ segs, '/' ∉ e.toList) :
    ("/" ++ "/".intercalate segs).toList.splitOn '/' = [] :: segs.map String.toList := by
  obtain ⟨s, rest, rfl⟩ := List.exists_cons_of_ne_nil hne
  have hJoin : "/" ++ "/".intercalate (s :: rest) = "/".intercalate ("" :: s :: rest) := by
    rw [String.intercalate_cons_cons, String.empty_append]
  have hSep : "/".toList = ['/'] := rfl
  rw [hJoin, String.toList_intercalate, hSep, List.splitOn_intercalate]
  · rfl
  · simpa using h
  · simp

theorem splitOn_rooted (hne : segs ≠ []) (h : ∀ e ∈ segs, '/' ∉ e.toList) :
    ("/" ++ "/".intercalate segs).splitOn "/" = "" :: segs := by
  have hSep : "/" = String.singleton '/' := rfl
  rw [hSep, Text.splitOn_singleton, ← hSep, toList_splitOn_rooted hne h]
  simp [Function.comp_def]

/-- The elements of a rooted path of plain elements are those elements. -/
theorem pathElements_rooted_plain (hne : segs ≠ []) (h : ∀ e ∈ segs, PlainElement e) :
    pathElements ("/" ++ "/".intercalate segs) = segs := by
  rw [pathElements, splitOn_rooted hne fun e he => (h e he).2.2.2]
  rw [List.filter_cons_of_neg (by simp), List.filter_eq_self]
  intro e he
  simp [(h e he).1, (h e he).2.1]

theorem startsWith_rooted (p : String) : ("/" ++ p).startsWith "/" = true := by
  simp

/-- A rooted path of plain elements does not end in a slash: its last piece
is its last element, which is not empty. -/
theorem endsWith_rooted_plain (hne : segs ≠ []) (h : ∀ e ∈ segs, PlainElement e) :
    ("/" ++ "/".intercalate segs).endsWith "/" = false := by
  rw [← String.endsWith_toSlice, String.Slice.endsWith_string_eq_false_iff]
  rintro ⟨ys, hys⟩
  have hSplit := toList_splitOn_rooted hne fun e he => (h e he).2.2.2
  have hSep : "/".toList = ['/'] := rfl
  rw [String.copy_toSlice, hSep] at hys
  rw [← hys, List.splitOn_append_cons_self, List.splitOn_nil] at hSplit
  -- the split ends in an empty piece, so the last element is empty
  have hLast := congrArg List.getLast? hSplit
  rw [List.getLast?_append, List.getLast?_singleton, List.getLast?_cons,
    List.getLast?_map, List.getLast?_eq_some_getLast hne] at hLast
  have hEmpty : (segs.getLast hne).toList = [] := by simpa using hLast.symm
  exact (h _ (List.getLast_mem hne)).1 (String.toList_eq_nil_iff.1 hEmpty)

/-- Cleaning keeps a rooted path of plain elements. -/
theorem clean_rooted_plain (hne : segs ≠ []) (h : ∀ e ∈ segs, PlainElement e) :
    clean ("/" ++ "/".intercalate segs) = "/" ++ "/".intercalate segs := by
  simp only [clean, startsWith_rooted, if_true, pathElements_rooted_plain hne h,
    resolveDots_of_forall_ne true fun e he => (h e he).2.2.1]

end Path

/-! ## Registering a table of routes -/

namespace Http

/-- A rooted path of plain elements is its own request path: cleaning keeps
it, and it does not end in a slash. -/
theorem cleanRequestPath_rooted_plain {segs : List String} (hne : segs ≠ [])
    (h : ∀ e ∈ segs, Path.PlainElement e) :
    cleanRequestPath ("/" ++ "/".intercalate segs) = "/" ++ "/".intercalate segs := by
  have hNonempty : ("/" ++ "/".intercalate segs).isEmpty = false := by simp
  simp only [cleanRequestPath, hNonempty, Path.startsWith_rooted, Path.endsWith_rooted_plain hne h,
    Path.clean_rooted_plain hne h, Bool.false_and, if_true]
  rfl

namespace Mux

variable {α : Type}

/-- Register routes one after another, stopping at the first refusal. -/
def registerAll (m : Mux α) : List (String × α) → Except String (Mux α)
  | [] => pure m
  | (pattern, h) :: rest => m.register pattern h >>= fun m' => m'.registerAll rest

/-- A table registered in full follows the routes the router had. -/
theorem registerAll_entries {m m' : Mux α} {routes : List (String × α)}
    (h : m.registerAll routes = .ok m') : m'.entries = m.entries ++ routes := by
  induction routes generalizing m with
  | nil =>
    cases h
    simp
  | cons r rest ih =>
    obtain ⟨pattern, x⟩ := r
    obtain ⟨m₁, h₁, hRest⟩ := except_bind_eq_ok h
    rw [ih hRest, register_entries h₁, List.append_assoc, List.singleton_append]

/-- A table of non-empty patterns that are new and distinct registers in full. -/
theorem registerAll_of_nodup {m : Mux α} {routes : List (String × α)}
    (hNonempty : ∀ r ∈ routes, r.1 ≠ "") (hNodup : ((m.entries ++ routes).map (·.1)).Nodup) :
    m.registerAll routes = .ok ⟨m.entries ++ routes⟩ := by
  induction routes generalizing m with
  | nil => simp [registerAll]; rfl
  | cons r rest ih =>
    obtain ⟨pattern, x⟩ := r
    have hPattern : pattern ≠ "" := hNonempty _ List.mem_cons_self
    -- the pattern is not among the old ones, so the registration is accepted
    have hNew : m.entries.any (·.1 == pattern) = false := by
      rw [List.map_append, List.map_cons, List.nodup_append] at hNodup
      simp only [List.any_eq_false, beq_iff_eq]
      intro e he hEq
      exact hNodup.2.2 _ (List.mem_map_of_mem he) _ List.mem_cons_self hEq
    have hReg : m.register pattern x = .ok ⟨m.entries ++ [(pattern, x)]⟩ := by
      simp [register, hPattern, hNew]
    rw [registerAll, hReg]
    refine (ih (fun r hr => hNonempty r (List.mem_cons_of_mem _ hr)) ?_).trans ?_
    · simpa using hNodup
    · simp

end Mux

end Http

/-! ## The handler's table -/

namespace Server

open Http Credential

/-- The route of a tier's decision, counted under its path. -/
def authRoute (t : Tier) : String × Route :=
  ("/auth/" ++ t.name, ⟨.decision t, some ("/auth/" ++ t.name)⟩)

/-- The routes a handler registers for a configuration, in order. -/
def routesOf (c : Config) (metricsWired : Bool) : List (String × Route) :=
  let hc := c.telemetry.health
  Tier.all.map authRoute ++
    (if hc.enabled then
      [(hc.livenessPath, ⟨.liveness, some hc.livenessPath⟩),
        (hc.readinessPath, ⟨.readiness, some hc.readinessPath⟩),
        (hc.versionPath, ⟨.version, some hc.versionPath⟩)]
    else []) ++
    (if metricsWired && c.telemetry.metrics.enabled then [(c.telemetry.metrics.path, ⟨.scrape, none⟩)]
    else []) ++
    [("/", ⟨.notFound, some "unmatched"⟩)]

/-- Building a handler registers its table on an empty router. -/
theorem build_eq (c : Config) (metricsWired : Bool) (info : Health.VersionInfo) (startedAt : Int) :
    Handler.build c metricsWired info startedAt =
      (fun mux => { mux, checks := checksOf c startedAt, info }) <$>
        ({} : Mux Route).registerAll (routesOf c metricsWired) := by
  simp only [Handler.build, routesOf, Tier.all, List.forIn_cons, List.forIn_nil, List.map_cons,
    List.map_nil, bind_assoc, pure_bind]
  -- one case for each choice of the optional routes
  split <;> split
  all_goals simp only [Mux.registerAll, authRoute, map_bind, map_pure, List.cons_append,
    List.nil_append]

/-- A built handler routes by its table. -/
theorem build_entries {c : Config} {metricsWired : Bool} {info : Health.VersionInfo} {startedAt : Int}
    {h : Handler} (hb : Handler.build c metricsWired info startedAt = .ok h) :
    h.mux.entries = routesOf c metricsWired := by
  rw [build_eq] at hb
  cases hReg : ({} : Mux Route).registerAll (routesOf c metricsWired) with
  | error e =>
    rw [hReg] at hb
    cases hb
  | ok mux =>
    rw [hReg] at hb
    cases hb
    simpa using Mux.registerAll_entries hReg

/-- The path of a tier's route, as a rooted path of plain elements. -/
theorem authPath_eq (t : Tier) : "/auth/" ++ t.name = "/" ++ "/".intercalate ["auth", t.name] := by
  cases t <;> rfl

theorem cleanRequestPath_authPath (t : Tier) :
    cleanRequestPath ("/auth/" ++ t.name) = "/auth/" ++ t.name := by
  rw [authPath_eq]
  apply cleanRequestPath_rooted_plain (List.cons_ne_nil _ _)
  cases t <;> decide

/-- The table holds a tier's path once, for that tier's decision. -/
theorem lookup_authPath (c : Config) (metricsWired : Bool) (t : Tier) :
    (routesOf c metricsWired).lookup ("/auth/" ++ t.name) = some (authRoute t).2 := by
  have hAuth : (Tier.all.map authRoute).lookup ("/auth/" ++ t.name) = some (authRoute t).2 := by
    cases t <;> rfl
  simp only [routesOf, List.append_assoc]
  rw [List.lookup_append, hAuth]
  rfl

/-- A request for a tier's path goes to that tier's decision, whatever its
method and query. -/
theorem dispatch_authPath {c : Config} {metricsWired : Bool} {info : Health.VersionInfo}
    {startedAt : Int} {h : Handler} (hb : Handler.build c metricsWired info startedAt = .ok h) (t : Tier)
    (method rawQuery : String) :
    h.mux.dispatch method ("/auth/" ++ t.name) rawQuery = .serve (authRoute t).2 := by
  apply Mux.dispatch_of_lookup _ (cleanRequestPath_authPath t)
  rw [build_entries hb]
  exact lookup_authPath c metricsWired t

end Server

end Turnstile
