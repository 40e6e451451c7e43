import Turnstile.Proofs.Config.Loading
import Turnstile.Proofs.Server.Routes

/-!
# The freshness window and the gaps between activations

The activations of a schedule after an instant follow one another by
`Schedule.next`: the first is the next activation after the instant, each later
one the next activation after the one before.  The freshness window a handler
registers is sampled once, when the handler is built: three times the first gap
after that instant.  The check then compares the active snapshot's age, the
time since it was read, with that window.

* The window exists exactly when the first gap is positive
  (`freshnessWindow_eq_none_iff`).  It is three times that gap when the triple
  stays in the range of durations, up to `durationHigh`
  (`freshnessWindow_of_fits`); past that range the product wraps around, and the
  window can be negative.
* A snapshot read at an instant passes the check at every instant up to a later
  one exactly when the window covers the time between them
  (`freshnessCheck_passes_until_iff`).  So a store reloaded at an activation
  passes it up to the next activation exactly when the window covers the gap
  between the two (`Schedule.reload_passes_until_next_iff`), and the snapshot
  read when the handler is built passes it up to the first activation exactly
  when the window covers the time until then.
* Every gap of a fixed-delay schedule is its delay (`every_gap`), so its window
  covers them all (`every_covers`).  A five-field schedule need not have equal
  gaps: one that fires at midnight on the first and second day of each month
  has, from the last day of 2025, a window of three days and a gap of thirty,
  and a delay whose triple passes the range gets a negative window
  (`stale_while_reloads_succeed`).
-/

namespace Turnstile.Cron

namespace Schedule

/-- The activations of a schedule after an instant, in order: the first is the
next activation after the instant, each later one the next after the one
before. -/
def activation (s : Schedule) (now : Int) : Nat → Int
  | 0 => s.next now
  | k + 1 => s.next (s.activation now k)

/-- The gap between the `k`-th activation after an instant and the one after it. -/
def gap (s : Schedule) (now : Int) (k : Nat) : Int :=
  s.activation now (k + 1) - s.activation now k

/-- A window covers the activations after an instant when no gap between two
consecutive ones is longer. -/
def Covers (s : Schedule) (now : Int) (w : Duration) : Prop :=
  ∀ k, s.gap now k ≤ w.nanos

@[simp] theorem activation_zero (s : Schedule) (now : Int) : s.activation now 0 = s.next now := rfl

@[simp] theorem activation_succ (s : Schedule) (now : Int) (k : Nat) :
    s.activation now (k + 1) = s.next (s.activation now k) := rfl

theorem gap_zero (s : Schedule) (now : Int) :
    s.gap now 0 = s.activation now 1 - s.activation now 0 := rfl

/-- The window is computed from the first gap, held within the range of
durations. -/
theorem freshnessWindow_eq (s : Schedule) (now : Int) :
    s.freshnessWindow now =
      if between (s.activation now 0) (s.activation now 1) ≤ 0 then none
      else some ⟨triple (between (s.activation now 0) (s.activation now 1))⟩ := rfl

end Schedule

/-! ## Durations held in range -/

/-- A difference within the range of durations is held as it is. -/
theorem between_of_fits {a b : Int} (hLow : durationLow ≤ b - a) (hHigh : b - a ≤ durationHigh) :
    between a b = b - a := by
  unfold between
  omega

/-- Holding a difference within the range keeps its sign. -/
theorem between_pos_iff (a b : Int) : 0 < between a b ↔ 0 < b - a := by
  have hLow : durationLow < 0 := by decide
  have hHigh : 0 < durationHigh := by decide
  unfold between
  omega

/-- Three times a duration whose triple stays in the range of durations does
not wrap. -/
theorem triple_of_fits {d : Int} (hNonneg : 0 ≤ d) (hFits : 3 * d ≤ durationHigh) : triple d = 3 * d := by
  unfold triple
  apply Int.bmod_eq_of_le
  · have : ((Nat.pow 2 64 : Nat) : Int) / 2 = durationHigh + 1 := by decide
    omega
  · have : (((Nat.pow 2 64 : Nat) : Int) + 1) / 2 = durationHigh + 1 := by decide
    omega

/-! ## The window of any schedule -/

namespace Schedule

variable (s : Schedule) (now : Int)

/-- There is no window exactly when the first gap is not positive. -/
theorem freshnessWindow_eq_none_iff : s.freshnessWindow now = none ↔ s.gap now 0 ≤ 0 := by
  have hSign := between_pos_iff (s.activation now 0) (s.activation now 1)
  rw [freshnessWindow_eq, gap_zero]
  split
  · -- the held gap is not positive, so neither is the gap itself
    simp only [true_iff]
    omega
  · simp only [reduceCtorEq, false_iff, not_le]
    omega

/-- A positive first gap whose triple stays in range gives a window of exactly
three gaps. -/
theorem freshnessWindow_of_fits (hPos : 0 < s.gap now 0) (hFits : 3 * s.gap now 0 ≤ durationHigh) :
    s.freshnessWindow now = some ⟨3 * s.gap now 0⟩ := by
  rw [gap_zero] at hPos hFits ⊢
  have hHeld : between (s.activation now 0) (s.activation now 1) =
      s.activation now 1 - s.activation now 0 := by
    apply between_of_fits
    · have : durationLow ≤ 0 := by decide
      omega
    · have : 0 ≤ durationHigh := by decide
      omega
  rw [freshnessWindow_eq, hHeld, if_neg (by omega), triple_of_fits (by omega) hFits]

end Schedule

/-- A text that reads as a schedule is not empty, so its window is the
schedule's. -/
theorem freshnessWindow_of_parse {spec : String} {s : Schedule} (hParse : parseStandard spec = .ok s)
    (now : Int) : freshnessWindow spec now = s.freshnessWindow now := by
  unfold freshnessWindow
  split
  · rename_i hEmpty
    simp [parseStandard, hEmpty] at hParse
  · rw [hParse]


/-- Under a first gap whose triple stays in range, a window is three first
gaps: positive, and below the longest duration, which is not a multiple of
three. -/
theorem Schedule.window_bounds {s : Schedule} {now : Int} {w : Duration}
    (hFits : 3 * s.gap now 0 ≤ durationHigh) (hw : s.freshnessWindow now = some w) :
    w = ⟨3 * s.gap now 0⟩ ∧ 0 < w.nanos ∧ w.nanos < durationHigh := by
  have hPos : 0 < s.gap now 0 := by
    by_contra hLe
    rw [(s.freshnessWindow_eq_none_iff now).2 (by omega)] at hw
    cases hw
  rw [s.freshnessWindow_of_fits now hPos hFits] at hw
  obtain rfl := Option.some.inj hw
  have hHigh : durationHigh % 3 = 1 := by decide
  refine ⟨rfl, ?_, ?_⟩ <;> dsimp only <;> omega

/-! ## Fixed delays -/

/-- A fixed delay is positive: it is at least one second. -/
theorem fixedDelay_pos (d : Duration) : 0 < fixedDelay d :=
  Int.lt_of_lt_of_le (by decide) (nanosPerSecond_le_fixedDelay d)

/-- Every gap of a fixed-delay schedule is its delay: each activation is the
next one after an instant, and the next after that lies one delay on. -/
theorem every_gap (d : Duration) (now : Int) : ∀ k, (Schedule.every d).gap now k = fixedDelay d
  | 0 => next_every_gap d now
  | k + 1 => next_every_gap d ((Schedule.every d).activation now k)

/-- The start of the second that holds an instant is not after it. -/
theorem secondStart_le (t : Int) : secondStart t ≤ t := by
  have hRem : 0 ≤ t % nanosPerSecond := Int.emod_nonneg _ (by decide)
  unfold secondStart
  omega

/-- A fixed-delay schedule first fires at most one delay after an instant. -/
theorem every_lead (d : Duration) (now : Int) :
    (Schedule.every d).activation now 0 - now ≤ fixedDelay d := by
  have hStart := secondStart_le now
  show secondStart now + fixedDelay d - now ≤ fixedDelay d
  omega

/-- A fixed-delay schedule's gaps are all equal, so three first gaps cover
every one of them. -/
theorem every_covers (d : Duration) (now : Int) :
    (Schedule.every d).Covers now ⟨3 * (Schedule.every d).gap now 0⟩ := by
  intro k
  have hPos := fixedDelay_pos d
  show (Schedule.every d).gap now k ≤ 3 * (Schedule.every d).gap now 0
  rw [every_gap, every_gap]
  omega

/-! ## The readiness check -/

section Check

variable {w : Duration} {snap : Snapshot}

/-- The freshness check passes exactly when the snapshot's age, held in range,
is within the window. -/
theorem freshnessCheck_passes_iff (now : Int) :
    (Server.freshnessCheck w).failure snap now = none ↔ between snap.loadedAt now ≤ w.nanos := by
  by_cases hStale : w.nanos < between snap.loadedAt now
  · simp [Server.freshnessCheck, hStale]
  · simp [Server.freshnessCheck, hStale]
    omega

/-- A check that fails names the snapshot's version and its age to the second. -/
theorem freshnessCheck_stale {now : Int} (hStale : w.nanos < between snap.loadedAt now) :
    (Server.freshnessCheck w).failure snap now =
      some ("configuration version " ++ toString snap.version ++ " is " ++
        Duration.text ⟨roundSecond (between snap.loadedAt now)⟩ ++ " old") := by
  simp [Server.freshnessCheck, hStale]

/-- On a snapshot read at `L`, the check passes at every instant from `L` up to
`N` exactly when `N` lies within the window of `L`.  The age grows with the
instant, so it is longest at `N`. -/
theorem freshnessCheck_passes_until_iff (hNonneg : 0 ≤ w.nanos) (hBelow : w.nanos < durationHigh)
    {L N : Int} (hRead : snap.loadedAt = L) :
    (∀ now, L ≤ now → now ≤ N → (Server.freshnessCheck w).failure snap now = none) ↔
      N - L ≤ w.nanos := by
  simp only [freshnessCheck_passes_iff, hRead]
  have hLow : durationLow < 0 := by decide
  constructor
  · intro hAll
    by_cases hOrder : L ≤ N
    · -- past the range the age is held at the longest duration, which the
      -- window is below, so the age at `N` is the plain difference
      have hAt := hAll N hOrder le_rfl
      unfold between at hAt
      omega
    · omega
  · intro hWithin now hFrom hTo
    unfold between
    omega

end Check

namespace Schedule

variable (s : Schedule) (now : Int) {w : Duration}

/-- A snapshot read at the `k`-th activation passes the check at every instant
up to the next activation exactly when the window covers the gap between them. -/
theorem passes_until_next_iff (hNonneg : 0 ≤ w.nanos) (hBelow : w.nanos < durationHigh) (k : Nat)
    (snap : Snapshot) (hRead : snap.loadedAt = s.activation now k) :
    (∀ t, snap.loadedAt ≤ t → t ≤ s.activation now (k + 1) →
        (Server.freshnessCheck w).failure snap t = none) ↔ s.gap now k ≤ w.nanos := by
  rw [hRead]
  exact freshnessCheck_passes_until_iff hNonneg hBelow hRead

/-- A store reloaded while the clock reads the `k`-th activation passes the
check at every instant up to the next activation exactly when the window covers
the gap between them: the reload makes active a snapshot read at that instant. -/
theorem reload_passes_until_next_iff (hNonneg : 0 ≤ w.nanos) (hBelow : w.nanos < durationHigh) (k : Nat)
    {world : Host.World} {store store' : Config.Store} (hReload : store.reload world = .ok store')
    (hClock : world.clock = s.activation now k) :
    (∀ t, world.clock ≤ t → t ≤ s.activation now (k + 1) →
        (Server.freshnessCheck w).failure store'.current t = none) ↔ s.gap now k ≤ w.nanos := by
  have hRead := Config.loadedAt_of_reload hReload
  rw [← hRead]
  exact s.passes_until_next_iff now hNonneg hBelow k store'.current (hRead.trans hClock)

end Schedule

/-- Among the readiness results, the freshness result is that of the check
registered with the window sampled when the handler was built; there is none
when the schedule had no window then. -/
theorem checksOf_freshness (c : Config) (startedAt : Int) (snap : Snapshot) (now : Int) :
    ((Server.checksOf c startedAt).map (·.run snap now)).find? (·.name == "config_freshness") =
      (freshnessWindow c.reload.schedule startedAt).map
        fun w => (Server.freshnessCheck w).run snap now := by
  unfold Server.checksOf
  cases freshnessWindow c.reload.schedule startedAt <;> cases c.security.tls.enabled <;> rfl

/-! ## What the window promises -/

/-- The freshness check of a handler built at `startedAt`, for every text that
reads as a schedule whose first gap after that instant has its triple in range.
There is no window exactly when that gap is not positive, and otherwise the
window is three gaps.  The handler registers the check with that window, sampled
once when it is built.  The snapshot read at that instant passes the check at
every instant up to the first activation exactly when the window covers the
time until it; a store reloaded at the `k`-th activation passes it at every
instant up to the next exactly when the window covers the gap between the two.
A fixed-delay schedule's window covers both, so its store is never reported
stale while its reloads succeed. -/
theorem freshness_between_activations {spec : String} {s : Schedule}
    (hParse : parseStandard spec = .ok s) (startedAt : Int)
    (hFits : 3 * s.gap startedAt 0 ≤ durationHigh) :
    (freshnessWindow spec startedAt = none ↔ s.gap startedAt 0 ≤ 0) ∧
      (0 < s.gap startedAt 0 → freshnessWindow spec startedAt = some ⟨3 * s.gap startedAt 0⟩) ∧
      (∀ c : Config, c.reload.schedule = spec → ∀ snap now,
        ((Server.checksOf c startedAt).map (·.run snap now)).find? (·.name == "config_freshness") =
          (freshnessWindow spec startedAt).map fun w => (Server.freshnessCheck w).run snap now) ∧
      (∀ w, freshnessWindow spec startedAt = some w → ∀ snap : Snapshot, snap.loadedAt = startedAt →
        ((∀ now, startedAt ≤ now → now ≤ s.activation startedAt 0 →
            (Server.freshnessCheck w).failure snap now = none) ↔
          s.activation startedAt 0 - startedAt ≤ w.nanos)) ∧
      (∀ w, freshnessWindow spec startedAt = some w → ∀ k (world : Host.World) (store store' : Config.Store),
        store.reload world = .ok store' → world.clock = s.activation startedAt k →
        ((∀ now, world.clock ≤ now → now ≤ s.activation startedAt (k + 1) →
            (Server.freshnessCheck w).failure store'.current now = none) ↔ s.gap startedAt k ≤ w.nanos)) ∧
      (∀ d, s = .every d → ∀ w, freshnessWindow spec startedAt = some w →
        (∀ snap : Snapshot, snap.loadedAt = startedAt → ∀ now, startedAt ≤ now → now ≤ s.activation startedAt 0 →
          (Server.freshnessCheck w).failure snap now = none) ∧
        (∀ k (world : Host.World) (store store' : Config.Store), store.reload world = .ok store' →
          world.clock = s.activation startedAt k → ∀ now, world.clock ≤ now → now ≤ s.activation startedAt (k + 1) →
          (Server.freshnessCheck w).failure store'.current now = none)) := by
  have hWindow := freshnessWindow_of_parse hParse startedAt
  refine ⟨hWindow ▸ s.freshnessWindow_eq_none_iff startedAt,
    fun hPos => hWindow ▸ s.freshnessWindow_of_fits startedAt hPos hFits, ?_, ?_, ?_, ?_⟩
  · rintro c rfl snap now
    exact checksOf_freshness c startedAt snap now
  · intro w hw snap hRead
    obtain ⟨-, hPos, hBelow⟩ := Schedule.window_bounds hFits (hWindow ▸ hw)
    exact freshnessCheck_passes_until_iff hPos.le hBelow hRead
  · intro w hw k world store store' hReload hClock
    obtain ⟨-, hPos, hBelow⟩ := Schedule.window_bounds hFits (hWindow ▸ hw)
    exact s.reload_passes_until_next_iff startedAt hPos.le hBelow k hReload hClock
  · -- the window is three delays: the first activation is at most one delay
    -- away, and every gap is one delay
    rintro d rfl w hw
    obtain ⟨rfl, hPos, hBelow⟩ := Schedule.window_bounds hFits (hWindow ▸ hw)
    have hLead := every_lead d startedAt
    have hFirst := every_gap d startedAt 0
    refine ⟨fun snap hRead => (freshnessCheck_passes_until_iff hPos.le hBelow hRead).2 ?_,
      fun k world store store' hReload hClock =>
        ((Schedule.every d).reload_passes_until_next_iff startedAt hPos.le hBelow k hReload hClock).2
          (every_covers d startedAt k)⟩
    show _ ≤ 3 * (Schedule.every d).gap startedAt 0
    have hDelay := fixedDelay_pos d
    omega

/-- Every minute, from the epoch: the text reads as a schedule whose first gap
has its triple in range, and the window promises hold. -/
theorem freshness_between_activations_minutely :
    ∃ s, parseStandard "@every 1m" = .ok s ∧ 3 * s.gap 0 0 ≤ durationHigh ∧
    (freshnessWindow "@every 1m" 0 = none ↔ s.gap 0 0 ≤ 0) ∧
      (0 < s.gap 0 0 → freshnessWindow "@every 1m" 0 = some ⟨3 * s.gap 0 0⟩) ∧
      (∀ c : Config, c.reload.schedule = "@every 1m" → ∀ snap now,
        ((Server.checksOf c 0).map (·.run snap now)).find? (·.name == "config_freshness") =
          (freshnessWindow "@every 1m" 0).map fun w => (Server.freshnessCheck w).run snap now) ∧
      (∀ w, freshnessWindow "@every 1m" 0 = some w → ∀ snap : Snapshot, snap.loadedAt = 0 →
        ((∀ now, 0 ≤ now → now ≤ s.activation 0 0 →
            (Server.freshnessCheck w).failure snap now = none) ↔
          s.activation 0 0 - 0 ≤ w.nanos)) ∧
      (∀ w, freshnessWindow "@every 1m" 0 = some w → ∀ k (world : Host.World) (store store' : Config.Store),
        store.reload world = .ok store' → world.clock = s.activation 0 k →
        ((∀ now, world.clock ≤ now → now ≤ s.activation 0 (k + 1) →
            (Server.freshnessCheck w).failure store'.current now = none) ↔ s.gap 0 k ≤ w.nanos)) ∧
      (∀ d, s = .every d → ∀ w, freshnessWindow "@every 1m" 0 = some w →
        (∀ snap : Snapshot, snap.loadedAt = 0 → ∀ now, 0 ≤ now → now ≤ s.activation 0 0 →
          (Server.freshnessCheck w).failure snap now = none) ∧
        (∀ k (world : Host.World) (store store' : Config.Store), store.reload world = .ok store' →
          world.clock = s.activation 0 k → ∀ now, world.clock ≤ now → now ≤ s.activation 0 (k + 1) →
          (Server.freshnessCheck w).failure store'.current now = none)) := by
  obtain ⟨s, hParse, hFits⟩ := exists_ok_of_check (x := parseStandard "@every 1m")
    (p := fun s => decide (3 * s.gap 0 0 ≤ durationHigh)) (by decide +kernel)
  have hFits' : 3 * s.gap 0 0 ≤ durationHigh := of_decide_eq_true hFits
  exact ⟨s, hParse, hFits', freshness_between_activations hParse 0 hFits'⟩

/-! ## Stale while every reload succeeds -/

-- The separators of the fields, as one-character texts, so that cutting at
-- them reads as cutting a list of characters.
theorem comma_eq_singleton : ("," : String) = String.singleton ',' := rfl
theorem slash_eq_singleton : ("/" : String) = String.singleton '/' := rfl
theorem hyphen_eq_singleton : ("-" : String) = String.singleton '-' := rfl

/-- A file listed at a rooted path of plain elements is read as it is listed:
the path is its own absolute form and does not end in a slash. -/
theorem readFile_rooted_plain {fs : Host.FileSystem} {segs : List String} (hne : segs ≠ [])
    (h : ∀ e ∈ segs, Path.PlainElement e) {c : String} {m : Nat}
    (hListed : fs.entries.lookup ("/" ++ "/".intercalate segs) = some (.file c m)) :
    fs.readFile ("/" ++ "/".intercalate segs) = .ok c := by
  simp only [Host.FileSystem.readFile, Host.FileSystem.lookup, Host.absPath, Path.startsWith_rooted,
    ↓reduceIte, Path.clean_rooted_plain hne h, hListed, Path.endsWith_rooted_plain hne h,
    Bool.false_eq_true]

/-- A world whose configuration file asks for a reload every 900000 hours. -/
def everyNineHundredThousandHours : Host.World :=
  { files := { entries := [("/keygate.yaml", .file "reload:\n  schedule: \"@every 900000h\"\n" 420)] } }

/-- A store opened from a file asking for a reload every 900000 hours is
reported stale at the very instant it is read, by a handler built then: three
delays pass the longest duration, and the window wraps around to a negative
one. -/
theorem wrapped_window_stale_at_read :
    ∃ store, Config.Store.openAt everyNineHundredThousandHours "/keygate.yaml" = .ok store ∧
      ((Server.checksOf store.current.config 0).map (·.run store.current 0)).find?
          (·.name == "config_freshness") =
        some { name := "config_freshness", failure := some "configuration version 1 is 0s old" } := by
  -- the file is read from its path as listed; the kernel then parses it
  have hPath : ("/keygate.yaml" : String) = "/" ++ "/".intercalate ["keygate.yaml"] := by decide
  have hListed : everyNineHundredThousandHours.files.entries.lookup
      ("/" ++ "/".intercalate ["keygate.yaml"]) =
        some (.file "reload:\n  schedule: \"@every 900000h\"\n" 420) := by
    simp [everyNineHundredThousandHours]
  have hText : Config.readText everyNineHundredThousandHours "/keygate.yaml" =
      .ok "reload:\n  schedule: \"@every 900000h\"\n" := by
    unfold Config.readText
    rw [if_neg (by decide), hPath, readFile_rooted_plain (by simp) (by decide) hListed]
    rfl
  obtain ⟨store, hOpen, hRead⟩ := exists_ok_of_check
    (x := Config.Store.openAt everyNineHundredThousandHours "/keygate.yaml")
    (p := fun store => store.current.config.reload.schedule == "@every 900000h" &&
      store.current.version == 1 && store.current.loadedAt == 0) (by
    simp only [Config.Store.openAt, Config.load, hText]
    decide +kernel)
  simp only [Bool.and_eq_true, beq_iff_eq] at hRead
  obtain ⟨⟨hSchedule, hVersion⟩, hLoadedAt⟩ := hRead
  obtain ⟨w, hw, hSign⟩ := (Option.any_eq_true _ _).1 (by decide +kernel :
    (freshnessWindow "@every 900000h" 0).any (fun w => decide (w.nanos < 0)) = true)
  have hNeg : w.nanos < 0 := of_decide_eq_true hSign
  have hAge : between store.current.loadedAt 0 = 0 := by
    rw [hLoadedAt]
    decide
  have hMessage : "configuration version " ++ toString 1 ++ " is " ++ Duration.text ⟨roundSecond 0⟩ ++
      " old" = "configuration version 1 is 0s old" := by decide
  refine ⟨store, hOpen, ?_⟩
  -- the handler registered the check with the negative window, and the age is zero
  rw [checksOf_freshness, hSchedule, hw, Option.map_some, Server.Check.run,
    freshnessCheck_stale (by omega), hAge, hVersion, hMessage]
  rfl

/-- Midnight on the first and second day of each month, from noon on the last
day of 2025, has a window of three days, so a snapshot read at midnight on the
second of January is reported stale four days later, long before the reload of
the first of February. -/
theorem monthly_pair_stale_before_reload :
    ∃ s, parseStandard "0 0 1,2 * *" = .ok s ∧
      ∃ w, freshnessWindow "0 0 1,2 * *" (1767182400 * nanosPerSecond) = some w ∧
      ∀ snap : Snapshot, snap.version = 2 →
        snap.loadedAt = s.activation (1767182400 * nanosPerSecond) 1 →
        snap.loadedAt + 4 * secondsPerDay * nanosPerSecond < s.activation (1767182400 * nanosPerSecond) 2 ∧
        (Server.freshnessCheck w).failure snap (snap.loadedAt + 4 * secondsPerDay * nanosPerSecond) =
          some "configuration version 2 is 96h0m0s old" := by
  obtain ⟨s, hParse, hRun⟩ := exists_ok_of_check (x := parseStandard "0 0 1,2 * *")
    (p := fun s => s.freshnessWindow (1767182400 * nanosPerSecond) ==
        some ⟨3 * secondsPerDay * nanosPerSecond⟩ &&
      s.gap (1767182400 * nanosPerSecond) 1 == 30 * secondsPerDay * nanosPerSecond) (by
    -- the fields are cut at single characters, which the kernel reads as lists
    simp only [parseStandard, parseFields, fieldOf, rangeOf, comma_eq_singleton, slash_eq_singleton,
      hyphen_eq_singleton, Text.splitOn_singleton]
    decide +kernel)
  simp only [Bool.and_eq_true, beq_iff_eq] at hRun
  obtain ⟨hWindow, hGap⟩ := hRun
  refine ⟨s, hParse, ⟨3 * secondsPerDay * nanosPerSecond⟩,
    by rw [freshnessWindow_of_parse hParse, hWindow], fun snap hVersion hRead => ?_⟩
  -- four days after the second of January, thirty days before the first of February
  have hNext : s.activation (1767182400 * nanosPerSecond) 2 =
      snap.loadedAt + 30 * secondsPerDay * nanosPerSecond := by
    simp only [Schedule.gap, Nat.reduceAdd] at hGap
    omega
  have hAge : between snap.loadedAt (snap.loadedAt + 4 * secondsPerDay * nanosPerSecond) =
      4 * secondsPerDay * nanosPerSecond := by
    have hLow : durationLow ≤ 4 * secondsPerDay * nanosPerSecond := by decide
    have hHigh : 4 * secondsPerDay * nanosPerSecond ≤ durationHigh := by decide
    rw [between_of_fits (by omega) (by omega)]
    omega
  refine ⟨by rw [hNext]; unfold secondsPerDay nanosPerSecond; omega, ?_⟩
  rw [freshnessCheck_stale (by rw [hAge]; decide), hAge, hVersion]
  decide

/-- Two schedules under which the store is reported stale while every reload
succeeds: a delay whose triple passes the longest duration, and a monthly pair
of activations whose later gap outgrows the window. -/
theorem stale_while_reloads_succeed :
    (∃ store, Config.Store.openAt everyNineHundredThousandHours "/keygate.yaml" = .ok store ∧
      ((Server.checksOf store.current.config 0).map (·.run store.current 0)).find?
          (·.name == "config_freshness") =
        some { name := "config_freshness", failure := some "configuration version 1 is 0s old" }) ∧
    (∃ s, parseStandard "0 0 1,2 * *" = .ok s ∧
      ∃ w, freshnessWindow "0 0 1,2 * *" (1767182400 * nanosPerSecond) = some w ∧
      ∀ snap : Snapshot, snap.version = 2 →
        snap.loadedAt = s.activation (1767182400 * nanosPerSecond) 1 →
        snap.loadedAt + 4 * secondsPerDay * nanosPerSecond < s.activation (1767182400 * nanosPerSecond) 2 ∧
        (Server.freshnessCheck w).failure snap (snap.loadedAt + 4 * secondsPerDay * nanosPerSecond) =
          some "configuration version 2 is 96h0m0s old") :=
  ⟨wrapped_window_stale_at_read, monthly_pair_stale_before_reload⟩

end Turnstile.Cron
