import TopoExec.Lib.Paired
import TopoExec.Trigger.State
import Mathlib.Tactic.Linarith
import Mathlib.Tactic.Ring

/-! # Fixed-rate lanes

What `EventRuntime::run` does for its fixed-rate lanes: before an iteration it
waits for the scheduled tick of every wall-clock lane, after it the lane counts
the tick and the slots it missed and chooses its next tick. Times are in
nanoseconds of the steady clock.

Each nominal slot should be counted once, as executed or as skipped
(`fixed_rate_slots`). `skip_next` counts all the periods an iteration overran but
moves on by two, so that the slots in between are counted again.
-/

namespace TopoExec

/-- The timing fields of `SchedulerGroupConfig`; `hzPeriod` is the period that its
`hz` stands for. -/
structure LaneTiming extends SchedulerGroupConfig where
  period : Int := 0
  hzPeriod : Int := 0
  tickBudget : Int := 0
  wallClockEnabled : Bool := false
  overrunPolicy : String := "drop_tick"
deriving DecidableEq, Repr

def fixedRatePeriodForLane (lane : LaneTiming) : Int :=
  if 0 < lane.period then lane.period
  else if 0 < lane.hzPeriod then lane.hzPeriod
  else 0

def fixedRateBudgetForLane (lane : LaneTiming) : Int :=
  if 0 < lane.tickBudget then lane.tickBudget else fixedRatePeriodForLane lane

def missedPeriods (lateness period : Int) : Nat :=
  if lateness ≤ 0 ∨ period ≤ 0 then 0 else (lateness / period).toNat

/-- The part of `SchedulerMetrics` about ticks. -/
structure TickMetrics where
  tickCount : Nat := 0
  tickOverrunCount : Nat := 0
  skippedTickCount : Nat := 0
  tickJitter : Int := 0
  maxLateness : Int := 0
  blockedDuration : Int := 0
  lastCallbackDuration : Int := 0
deriving DecidableEq, Repr

/-- A lane of the run, with its entries in `next_wall_clock_ticks` and
`current_wall_clock_ticks`. -/
structure LaneClock where
  lane : LaneTiming
  nextTick : Option Int := none
  currentTick : Option Int := none
  metrics : TickMetrics := {}
deriving DecidableEq, Repr

/-- The lanes that wait for the wall clock. -/
def LaneTiming.isWallClock (lane : LaneTiming) : Bool :=
  lane.type = "fixed_rate" && lane.wallClockEnabled && 0 < fixedRatePeriodForLane lane

def LaneClock.init (startedAt : Int) (lane : LaneTiming) : LaneClock :=
  { lane := lane, nextTick := if lane.isWallClock then some startedAt else none }

/-! ## Waiting -/

/-- A reading of the clock, and whether a stop is requested then. -/
structure Reading where
  now : Int
  stop : Bool := false
deriving DecidableEq, Repr

/-- `sleep_until_or_stop`, one reading for each turn of its loop. -/
def sleepUntilOrStop (deadline : Int) : List Reading → Option (Bool × List Reading)
  | [] => none
  | reading :: readings =>
      if reading.now < deadline then
        if reading.stop then some (true, readings) else sleepUntilOrStop deadline readings
      else some (reading.stop, readings)

/-- One lane of the loop over `next_wall_clock_ticks`, with whether it was
stopped. -/
def waitForTick (iteration : Nat) (clock : LaneClock) (readings : List Reading) :
    Option (Bool × LaneClock × List Reading) :=
  match clock.nextTick, readings with
  | none, readings => some (false, clock, readings)
  | some _, [] => none
  | some scheduledTick, waitStarted :: readings =>
      if 0 < iteration ∧ waitStarted.now < scheduledTick then
        match sleepUntilOrStop scheduledTick readings with
        | some (stopped, waitEnded :: readings) =>
            let clock :=
              { clock with
                metrics.blockedDuration :=
                  max clock.metrics.blockedDuration (waitEnded.now - waitStarted.now) }
            if stopped then some (true, clock, readings)
            else some (false, { clock with currentTick := some scheduledTick }, readings)
        | _ => none
      else some (false, { clock with currentTick := some scheduledTick }, readings)

/-- The loop; the lanes behind the one that was stopped are left alone. -/
def waitForTicks (iteration : Nat) : List LaneClock → List Reading →
    Option (Bool × List LaneClock × List Reading)
  | [], readings => some (false, [], readings)
  | clock :: clocks, readings =>
      match waitForTick iteration clock readings with
      | none => none
      | some (true, clock, readings) => some (true, clock :: clocks, readings)
      | some (false, clock, readings) =>
          match waitForTicks iteration clocks readings with
          | none => none
          | some (stopped, clocks, readings) => some (stopped, clock :: clocks, readings)

/-! ## The end of an iteration -/

/-- How late the end of an iteration is for the tick after the scheduled one. -/
def wallClockLateness (scheduled period finishedAt : Int) : Int :=
  if scheduled + period < finishedAt then finishedAt - (scheduled + period) else 0

/-- The slots that the iteration missed, as the policy counts them. -/
def skippedTicks (overrunPolicy : String) (lateness period : Int) : Nat :=
  if overrunPolicy = "skip_next" ∧ 0 < lateness then max (missedPeriods lateness period) 1
  else missedPeriods lateness period

/-- The tick that the policy chooses next. -/
def nextWallClockTick (overrunPolicy : String) (scheduled period finishedAt : Int) : Int :=
  let lateness := wallClockLateness scheduled period finishedAt
  -- the only policy that stays on the grid when it is late
  if overrunPolicy = "skip_next" ∧ 0 < lateness then scheduled + period + period
  else if overrunPolicy = "catch_up_once" ∧ 0 < lateness then finishedAt
  else if 0 < lateness then finishedAt + period
  else scheduled + period

/-- The overrun of the tick budget. -/
def TickMetrics.recordOverrun (metrics : TickMetrics) (budget duration : Int) : TickMetrics :=
  if 0 < budget ∧ budget < duration then
    { metrics with
      tickOverrunCount := metrics.tickOverrunCount + 1
      tickJitter := duration - budget
      maxLateness := max metrics.maxLateness (duration - budget) }
  else metrics

/-- One lane of the loop after an iteration. -/
def LaneClock.finishIteration (startedAt finishedAt : Int) (clock : LaneClock) : LaneClock :=
  let duration := finishedAt - startedAt
  let metrics := { clock.metrics with lastCallbackDuration := duration }
  if clock.lane.type ≠ "fixed_rate" then { clock with metrics := metrics }
  else
    let period := fixedRatePeriodForLane clock.lane
    let metrics := { metrics with tickCount := metrics.tickCount + 1 }
    let metrics := metrics.recordOverrun (fixedRateBudgetForLane clock.lane) duration
    match clock.currentTick with
    | none => { clock with metrics := metrics }
    | some scheduled =>
        if 0 < period then
          let lateness := wallClockLateness scheduled period finishedAt
          { clock with
            nextTick :=
              some (nextWallClockTick clock.lane.overrunPolicy scheduled period finishedAt)
            metrics :=
              { metrics with
                maxLateness := max metrics.maxLateness lateness
                skippedTickCount := metrics.skippedTickCount +
                  skippedTicks clock.lane.overrunPolicy lateness period } }
        else { clock with metrics := metrics }

/-! ## Runs -/

/-- The run as far as the lanes go; `finishedAt` is the end of the last iteration,
or the start of the run before the first. -/
structure FixedRateRun where
  startedAt : Int
  lanes : List LaneClock
  iterations : Nat := 0
  finishedAt : Int := startedAt
  stopped : Bool := false
deriving DecidableEq, Repr

def FixedRateRun.init (startedAt : Int) (lanes : List LaneTiming) : FixedRateRun :=
  { startedAt := startedAt, lanes := lanes.map (LaneClock.init startedAt) }

/-- What happens in an iteration: the readings of the clock up to its start, and
when it finishes, if its components let it. -/
structure IterationTimes where
  readings : List Reading
  finishedAt : Option Int
deriving DecidableEq, Repr

/-- One iteration. Without a finish the run returns before the lanes count
anything. -/
def FixedRateRun.iterate (run : FixedRateRun) (times : IterationTimes) : Option FixedRateRun :=
  let cleared := run.lanes.map fun clock => { clock with currentTick := none }
  match waitForTicks run.iterations cleared times.readings with
  | some (true, lanes, _) => some { run with lanes := lanes, stopped := true }
  | some (false, lanes, iterationStarted :: _) =>
      match times.finishedAt with
      | none => some { run with lanes := lanes, stopped := true }
      | some finishedAt =>
          some { run with
            lanes := lanes.map (LaneClock.finishIteration iterationStarted.now finishedAt)
            iterations := run.iterations + 1
            finishedAt := finishedAt }
  | _ => none

/-- All iterations, until one stops the run. -/
def FixedRateRun.iterateAll : List IterationTimes → FixedRateRun → Option FixedRateRun
  | [], run => some run
  | times :: rest, run =>
      if run.stopped then some run
      else
        match run.iterate times with
        | none => none
        | some run => run.iterateAll rest

/-- The readings of an iteration lie between the start of the run and the finish
of the iteration. -/
def IterationTimes.Steady (startedAt : Int) (times : IterationTimes) : Prop :=
  ∀ reading ∈ times.readings, startedAt ≤ reading.now ∧
    ∀ finishedAt ∈ times.finishedAt, reading.now ≤ finishedAt

/-- The clock does not go back in the run. -/
def SteadyClock (startedAt : Int) (events : List IterationTimes) : Prop :=
  (startedAt :: events.flatMap fun times =>
    times.readings.map Reading.now ++ times.finishedAt.toList).Pairwise (· ≤ ·)

instance (startedAt : Int) (events : List IterationTimes) :
    Decidable (SteadyClock startedAt events) :=
  inferInstanceAs (Decidable (List.Pairwise _ _))

theorem SteadyClock.steady {startedAt : Int} {events : List IterationTimes}
    (h : SteadyClock startedAt events) : ∀ times ∈ events, times.Steady startedAt := by
  intro times htimes reading hreading
  rw [SteadyClock, List.pairwise_cons] at h
  obtain ⟨hstart, hpairs⟩ := h
  have hnow : reading.now ∈ times.readings.map Reading.now ++ times.finishedAt.toList :=
    List.mem_append_left _ (List.mem_map_of_mem hreading)
  constructor
  · exact hstart _ (List.mem_flatMap.mpr ⟨times, htimes, hnow⟩)
  · intro finishedAt hfinish
    have hone := (List.pairwise_flatMap.mp hpairs).1 times htimes
    exact (List.pairwise_append.mp hone).2.2 _ (List.mem_map_of_mem hreading) _
      (by simpa using hfinish)

/-! ## Waiting leaves the slots alone -/

/-- The same lane with the same next tick and the same counts. -/
structure SameSlots (clock clock' : LaneClock) : Prop where
  lane : clock'.lane = clock.lane
  nextTick : clock'.nextTick = clock.nextTick
  tickCount : clock'.metrics.tickCount = clock.metrics.tickCount
  skippedTickCount : clock'.metrics.skippedTickCount = clock.metrics.skippedTickCount

theorem SameSlots.refl (clock : LaneClock) : SameSlots clock clock := ⟨rfl, rfl, rfl, rfl⟩

/-- The loop of the sleep ends at the deadline, if nothing stops it. -/
theorem sleepUntilOrStop_late {deadline : Int} {readings rest : List Reading} {stopped : Bool}
    (h : sleepUntilOrStop deadline readings = some (stopped, rest)) :
    rest ⊆ readings ∧ (stopped = false → ∃ reading ∈ readings, deadline ≤ reading.now) := by
  induction readings with
  | nil => cases h
  | cons reading readings ih =>
      unfold sleepUntilOrStop at h
      by_cases hearly : reading.now < deadline
      · rw [if_pos hearly] at h
        by_cases hstop : reading.stop = true
        · rw [if_pos hstop] at h
          cases h
          exact ⟨List.subset_cons_self _ _, by simp⟩
        · rw [if_neg hstop] at h
          obtain ⟨hsub, hlate⟩ := ih h
          refine ⟨fun r hr => List.mem_cons_of_mem _ (hsub hr), fun hgo => ?_⟩
          obtain ⟨r, hr, hle⟩ := hlate hgo
          exact ⟨r, List.mem_cons_of_mem _ hr, hle⟩
      · rw [if_neg hearly] at h
        cases h
        exact ⟨List.subset_cons_self _ _, fun _ => ⟨reading, List.mem_cons_self, not_lt.mp hearly⟩⟩

/-- What a wait that is not stopped has done for a lane: its tick is the current
one, and its time has come. -/
def Waited (iteration : Nat) (readings : List Reading) (clock clock' : LaneClock) : Prop :=
  ∀ tick, clock.nextTick = some tick → clock'.currentTick = some tick ∧
    (0 < iteration → ∃ reading ∈ readings, tick ≤ reading.now)

/-- A wait for a tick ends at the tick or with a stop. -/
theorem waitForTick_spec {iteration : Nat} {clock clock' : LaneClock}
    {readings rest : List Reading} {stopped : Bool}
    (h : waitForTick iteration clock readings = some (stopped, clock', rest)) :
    SameSlots clock clock' ∧ rest ⊆ readings ∧
      (stopped = false → Waited iteration readings clock clock') := by
  unfold waitForTick at h
  cases hnext : clock.nextTick with
  | none =>
      rw [hnext] at h
      cases h
      refine ⟨.refl _, List.Subset.refl _, fun _ tick htick => ?_⟩
      rw [hnext] at htick
      cases htick
  | some scheduled =>
      rw [hnext] at h
      cases readings with
      | nil => cases h
      | cons waitStarted readings =>
          dsimp only at h
          -- the first iteration does not wait
          by_cases hwait : 0 < iteration ∧ waitStarted.now < scheduled
          · rw [if_pos hwait] at h
            cases hsleep : sleepUntilOrStop scheduled readings with
            | none =>
                rw [hsleep] at h
                cases h
            | some result =>
                obtain ⟨woken, after⟩ := result
                obtain ⟨hsub, hlate⟩ := sleepUntilOrStop_late hsleep
                rw [hsleep] at h
                cases after with
                | nil => cases h
                | cons waitEnded after =>
                    have hsub' : after ⊆ waitStarted :: readings := fun r hr =>
                      List.mem_cons_of_mem _ (hsub (List.mem_cons_of_mem _ hr))
                    cases woken with
                    | true =>
                        cases h
                        exact ⟨⟨rfl, hnext.symm ▸ rfl, rfl, rfl⟩, hsub', by simp⟩
                    | false =>
                        cases h
                        refine ⟨⟨rfl, hnext.symm ▸ rfl, rfl, rfl⟩, hsub', fun _ tick htick => ?_⟩
                        rw [hnext] at htick
                        cases htick
                        obtain ⟨reading, hreading, hle⟩ := hlate rfl
                        exact ⟨rfl, fun _ => ⟨reading, List.mem_cons_of_mem _ hreading, hle⟩⟩
          · rw [if_neg hwait] at h
            cases h
            refine ⟨⟨rfl, hnext.symm ▸ rfl, rfl, rfl⟩, List.subset_cons_self _ _,
              fun _ tick htick => ?_⟩
            rw [hnext] at htick
            cases htick
            refine ⟨rfl, fun hlater => ⟨waitStarted, List.mem_cons_self, ?_⟩⟩
            by_contra hearly
            exact hwait ⟨hlater, not_le.mp hearly⟩

/-- By induction on the lanes that wait. -/
theorem waitForTicks_spec {iteration : Nat} {clocks clocks' : List LaneClock}
    {readings rest : List Reading} {stopped : Bool}
    (h : waitForTicks iteration clocks readings = some (stopped, clocks', rest)) :
    rest ⊆ readings ∧ List.Forall₂ (fun clock clock' => SameSlots clock clock' ∧
      (stopped = false → Waited iteration readings clock clock')) clocks clocks' := by
  induction clocks generalizing clocks' readings rest stopped with
  | nil =>
      cases h
      exact ⟨List.Subset.refl _, .nil⟩
  | cons clock clocks ih =>
      unfold waitForTicks at h
      cases hone : waitForTick iteration clock readings with
      | none =>
          rw [hone] at h
          cases h
      | some result =>
          obtain ⟨woken, clock₁, readings₁⟩ := result
          obtain ⟨hsame, hsub, hwaited⟩ := waitForTick_spec hone
          rw [hone] at h
          cases woken with
          | true =>
              -- stopped while waiting for this lane: the lanes after it were not looked at
              cases h
              refine ⟨hsub, .cons ⟨hsame, by simp⟩ ?_⟩
              exact List.forall₂_same.mpr fun clock _ => ⟨.refl clock, by simp⟩
          | false =>
              dsimp only at h
              cases hrest : waitForTicks iteration clocks readings₁ with
              | none =>
                  rw [hrest] at h
                  cases h
              | some result =>
                  obtain ⟨stopped', clocks₁, readings₂⟩ := result
                  obtain ⟨hsub', hall⟩ := ih hrest
                  rw [hrest] at h
                  cases h
                  refine ⟨fun r hr => hsub (hsub' hr), .cons ⟨hsame, fun _ => hwaited rfl⟩ ?_⟩
                  refine hall.imp ?_
                  rintro c c' ⟨hc, hw⟩
                  refine ⟨hc, fun hgo tick htick => ?_⟩
                  obtain ⟨hcurrent, hcame⟩ := hw hgo tick htick
                  refine ⟨hcurrent, fun hlater => ?_⟩
                  obtain ⟨reading, hreading, hle⟩ := hcame hlater
                  exact ⟨reading, hsub hreading, hle⟩

/-! ## Counting slots -/

/-- The missed periods are the whole ones in the lateness. -/
theorem missedPeriods_bounds {lateness period : Int} (hperiod : 0 < period)
    (hlate : 0 ≤ lateness) : (missedPeriods lateness period : Int) * period ≤ lateness ∧
      lateness < ((missedPeriods lateness period : Int) + 1) * period := by
  unfold missedPeriods
  by_cases hzero : lateness = 0
  · subst hzero
    simp [hperiod]
  · have hpos : ¬ (lateness ≤ 0 ∨ period ≤ 0) := by omega
    have hquotient : 0 ≤ lateness / period := Int.ediv_nonneg hlate hperiod.le
    rw [if_neg hpos, Int.toNat_of_nonneg hquotient]
    exact ⟨Int.ediv_mul_le _ hperiod.ne', Int.lt_ediv_add_one_mul_self _ hperiod⟩

/-- The slots from `startedAt` on that an iteration brings the count to. `counted`
slots lie before the scheduled tick; if the next tick is not already a period in
the past, all that are counted now lie before it. -/
theorem slot_step (policy : String) {startedAt scheduled period finishedAt : Int} {counted : Nat}
    (hperiod : 0 < period) (hcounted : counted * period ≤ scheduled - startedAt)
    (hfinish : scheduled ≤ finishedAt) :
    let skipped := skippedTicks policy (wallClockLateness scheduled period finishedAt) period
    let next := nextWallClockTick policy scheduled period finishedAt
    ((counted : Int) + skipped) * period ≤ finishedAt - startedAt ∧
      (finishedAt < next + period →
        ((counted : Int) + 1 + skipped) * period ≤ next - startedAt) ∧
      (policy ≠ "skip_next" → finishedAt < next + period) := by
  intro skipped next
  have hsum : ∀ n : Int, ((counted : Int) + n) * period = counted * period + n * period :=
    fun n => Int.add_mul _ _ _
  have hsum' : ∀ n : Int, ((counted : Int) + 1 + n) * period =
      counted * period + period + n * period := by
    intro n
    ring
  rw [hsum, hsum']
  -- on time the next tick is the next slot, and nothing is skipped
  by_cases hlate : scheduled + period < finishedAt
  · have hlateness : wallClockLateness scheduled period finishedAt =
        finishedAt - (scheduled + period) := if_pos hlate
    have hpos : 0 < wallClockLateness scheduled period finishedAt := by omega
    obtain ⟨hlow, hhigh⟩ := missedPeriods_bounds hperiod hpos.le
    by_cases hskip : policy = "skip_next"
    · -- two periods on, whatever was missed
      have hskipped : skipped =
          max (missedPeriods (wallClockLateness scheduled period finishedAt) period) 1 :=
        if_pos ⟨hskip, hpos⟩
      have hnext : next = scheduled + period + period := if_pos ⟨hskip, hpos⟩
      rw [hskipped, hnext]
      rcases Nat.lt_or_ge 1
        (missedPeriods (wallClockLateness scheduled period finishedAt) period) with hmany | hone
      · rw [Nat.max_eq_left hmany.le]
        refine ⟨by omega, fun hprompt => ?_, fun hno => absurd hskip hno⟩
        have htwo : (2 : Int) * period ≤
            (missedPeriods (wallClockLateness scheduled period finishedAt) period : Int) * period :=
          Int.mul_le_mul_of_nonneg_right (by exact_mod_cast hmany) hperiod.le
        omega
      · rw [Nat.max_eq_right hone]
        refine ⟨by push_cast; omega, fun _ => by push_cast; omega, fun hno => absurd hskip hno⟩
    · have hskipped : skipped =
          missedPeriods (wallClockLateness scheduled period finishedAt) period :=
        if_neg fun h => hskip h.1
      have hnext : next = if policy = "catch_up_once" ∧
            0 < wallClockLateness scheduled period finishedAt then finishedAt
          else if 0 < wallClockLateness scheduled period finishedAt then finishedAt + period
          else scheduled + period := if_neg fun h => hskip h.1
      rw [hskipped, hnext]
      by_cases hcatch : policy = "catch_up_once"
      · rw [if_pos ⟨hcatch, hpos⟩]
        exact ⟨by omega, fun _ => by omega, fun _ => by omega⟩
      · rw [if_neg (fun h => hcatch h.1), if_pos hpos]
        exact ⟨by omega, fun _ => by omega, fun _ => by omega⟩
  · have hlateness : wallClockLateness scheduled period finishedAt = 0 := if_neg hlate
    have hskipped : skipped = 0 := by
      simp [skipped, skippedTicks, missedPeriods, hlateness]
    have hnext : next = scheduled + period := by
      simp [next, nextWallClockTick, hlateness]
    rw [hskipped, hnext]
    exact ⟨by simp; omega, fun _ => by simp; omega, fun _ => by omega⟩

/-- The slots counted so far. -/
def LaneClock.counted (clock : LaneClock) : Nat :=
  clock.metrics.tickCount + clock.metrics.skippedTickCount

/-- The lane has counted each slot once: no more slots than have begun, and, if
its next tick is not a period in the past, none from that tick on. -/
structure SlotInv (run : FixedRateRun) (clock : LaneClock) (tick : Int) : Prop where
  scheduled : clock.nextTick = some tick
  first : run.iterations = 0 → tick = run.startedAt
  bound : ((clock.counted : Int) - 1) * fixedRatePeriodForLane clock.lane ≤
    run.finishedAt - run.startedAt
  slots : run.finishedAt < tick + fixedRatePeriodForLane clock.lane →
    (clock.counted : Int) * fixedRatePeriodForLane clock.lane ≤ tick - run.startedAt
  prompt : clock.lane.overrunPolicy ≠ "skip_next" →
    run.finishedAt < tick + fixedRatePeriodForLane clock.lane

/-- The scheduled tick of the lane is less than a period before the end of the
last iteration. -/
def Punctual (run : FixedRateRun) (clock : LaneClock) : Prop :=
  ∀ tick ∈ clock.nextTick, run.finishedAt < tick + fixedRatePeriodForLane clock.lane

/-- A lane waits for real time when it has a positive period and is told to. -/
theorem isWallClock_iff {lane : LaneTiming} : lane.isWallClock = true ↔
    lane.type = "fixed_rate" ∧ lane.wallClockEnabled = true ∧ 0 < fixedRatePeriodForLane lane := by
  simp [LaneTiming.isWallClock, and_assoc]

/-- What an iteration does to a lane that has waited for its tick. -/
theorem finishIteration_counts (startedAt finishedAt : Int) {clock : LaneClock} {tick : Int}
    (hwall : clock.lane.isWallClock = true) (hcurrent : clock.currentTick = some tick) :
    let period := fixedRatePeriodForLane clock.lane
    let clock' := clock.finishIteration startedAt finishedAt
    clock'.lane = clock.lane ∧
      clock'.nextTick = some (nextWallClockTick clock.lane.overrunPolicy tick period finishedAt) ∧
      clock'.counted = clock.counted + 1 + skippedTicks clock.lane.overrunPolicy
        (wallClockLateness tick period finishedAt) period := by
  obtain ⟨htype, -, hperiod⟩ := isWallClock_iff.mp hwall
  have hrecord : ∀ (metrics : TickMetrics) (budget duration : Int),
      (metrics.recordOverrun budget duration).tickCount = metrics.tickCount ∧
        (metrics.recordOverrun budget duration).skippedTickCount = metrics.skippedTickCount := by
    intro metrics budget duration
    unfold TickMetrics.recordOverrun
    split_ifs
    · exact ⟨rfl, rfl⟩
    · exact ⟨rfl, rfl⟩
  intro period clock'
  have hclock' : clock' = clock.finishIteration startedAt finishedAt := rfl
  unfold LaneClock.finishIteration at hclock'
  rw [if_neg (by simp [htype]), hcurrent] at hclock'
  dsimp only at hclock'
  rw [if_pos hperiod] at hclock'
  rw [hclock']
  refine ⟨rfl, rfl, ?_⟩
  simp only [period, LaneClock.counted, (hrecord _ _ _).1, (hrecord _ _ _).2]
  omega

/-! ## Every run -/

theorem finishIteration_lane (clock : LaneClock) (startedAt finishedAt : Int) :
    (clock.finishIteration startedAt finishedAt).lane = clock.lane := by
  unfold LaneClock.finishIteration
  dsimp only
  by_cases htype : clock.lane.type ≠ "fixed_rate"
  · rw [if_pos htype]
  · rw [if_neg htype]
    cases clock.currentTick with
    | none => rfl
    | some tick =>
        dsimp only
        split_ifs
        · rfl
        · rfl

/-- A run that stops in or after a wait has counted nothing. -/
theorem SlotInv.stopped {run : FixedRateRun} {clock clock' : LaneClock} {tick : Int}
    (h : SlotInv run clock tick) (hsame : SameSlots clock clock') (lanes : List LaneClock) :
    SlotInv { run with lanes := lanes, stopped := true } clock' tick := by
  have hcounted : clock'.counted = clock.counted :=
    congrArg₂ (· + ·) hsame.tickCount hsame.skippedTickCount
  refine ⟨hsame.nextTick.trans h.scheduled, h.first, ?_, ?_, ?_⟩
  · rw [hcounted, hsame.lane]
    exact h.bound
  · rw [hcounted, hsame.lane]
    exact h.slots
  · rw [hsame.lane]
    exact h.prompt

/-- An iteration that finishes at or after the tick it waited for. -/
theorem SlotInv.finished {run : FixedRateRun} {clock waited : LaneClock} {tick : Int}
    (h : SlotInv run clock tick)
    (hpunctual : clock.lane.overrunPolicy = "skip_next" → Punctual run clock)
    (hsame : SameSlots clock waited) (hwall : waited.lane.isWallClock = true)
    (hcurrent : waited.currentTick = some tick) {finishedAt : Int} (hlate : tick ≤ finishedAt)
    (startedAt : Int) (lanes : List LaneClock) :
    ∃ tick', SlotInv
      { run with lanes := lanes, iterations := run.iterations + 1, finishedAt := finishedAt }
      (waited.finishIteration startedAt finishedAt) tick' := by
  obtain ⟨-, -, hperiod⟩ := isWallClock_iff.mp hwall
  obtain ⟨hlane, hnext, hcount⟩ := finishIteration_counts startedAt finishedAt hwall hcurrent
  have hcounted : waited.counted = clock.counted :=
    congrArg₂ (· + ·) hsame.tickCount hsame.skippedTickCount
  -- the lane is not a period behind, so its slots lie before the tick
  have hbefore : run.finishedAt < tick + fixedRatePeriodForLane clock.lane := by
    by_cases hpolicy : clock.lane.overrunPolicy = "skip_next"
    · exact hpunctual hpolicy tick h.scheduled
    · exact h.prompt hpolicy
  have hslots := h.slots hbefore
  rw [← hsame.lane, ← hcounted] at hslots
  obtain ⟨hbound, hslots', hprompt⟩ :=
    slot_step waited.lane.overrunPolicy hperiod hslots hlate
  refine ⟨_, hnext, by simp, ?_, ?_, ?_⟩
  · rw [hcount, hlane]
    refine le_trans (le_of_eq ?_) hbound
    push_cast
    ring
  · rw [hcount, hlane]
    intro hlt
    refine le_trans (le_of_eq ?_) (hslots' hlt)
    push_cast
    ring
  · rw [hlane]
    exact hprompt

/-- An iteration keeps the slots of a lane that is punctual. -/
theorem iterate_slotInv {run run' : FixedRateRun} {times : IterationTimes} {i : Nat}
    {clock' : LaneClock} (hsteady : times.Steady run.startedAt)
    (h : run.iterate times = some run') (hclock' : run'.lanes[i]? = some clock')
    (hwall : clock'.lane.isWallClock = true) :
    ∃ clock, run.lanes[i]? = some clock ∧ clock.lane = clock'.lane ∧
      ∀ tick, SlotInv run clock tick →
        (clock.lane.overrunPolicy = "skip_next" → Punctual run clock) →
          ∃ tick', SlotInv run' clock' tick' := by
  unfold FixedRateRun.iterate at h
  dsimp only at h
  cases hwait : waitForTicks run.iterations (run.lanes.map fun clock =>
      { clock with currentTick := none }) times.readings with
  | none =>
      rw [hwait] at h
      cases h
  | some result =>
      obtain ⟨stopped, lanes, rest⟩ := result
      obtain ⟨hrest, hall⟩ := waitForTicks_spec hwait
      rw [List.forall₂_map_left_iff] at hall
      rw [hwait] at h
      have hstop : some { run with lanes := lanes, stopped := true } = some run' →
          ∃ clock, run.lanes[i]? = some clock ∧ clock.lane = clock'.lane ∧
            ∀ tick, SlotInv run clock tick →
              (clock.lane.overrunPolicy = "skip_next" → Punctual run clock) →
                ∃ tick', SlotInv run' clock' tick' := by
        intro hrun
        cases hrun
        obtain ⟨clock, hclock, hsame, -⟩ := Paired.getElem?_left hall hclock'
        have hsame' : SameSlots clock clock' :=
          ⟨hsame.lane, hsame.nextTick, hsame.tickCount, hsame.skippedTickCount⟩
        exact ⟨clock, hclock, hsame.lane.symm, fun tick hinv _ => ⟨tick, hinv.stopped hsame' lanes⟩⟩
      cases stopped with
      | true => exact hstop h
      | false =>
          cases rest with
          | nil => cases h
          | cons iterationStarted rest =>
              cases hfinish : times.finishedAt with
              | none =>
                  rw [hfinish] at h
                  exact hstop h
              | some finishedAt =>
                  rw [hfinish] at h
                  cases h
                  rw [List.getElem?_map, Option.map_eq_some_iff] at hclock'
                  obtain ⟨waited, hwaited, rfl⟩ := hclock'
                  obtain ⟨clock, hclock, hsame, hcurrent⟩ := Paired.getElem?_left hall hwaited
                  have hsame' : SameSlots clock waited :=
                    ⟨hsame.lane, hsame.nextTick, hsame.tickCount, hsame.skippedTickCount⟩
                  rw [finishIteration_lane] at hwall ⊢
                  refine ⟨clock, hclock, hsame.lane.symm, fun tick hinv hpunctual => ?_⟩
                  obtain ⟨hnow, hcame⟩ := hcurrent rfl tick hinv.scheduled
                  -- the iteration does not finish before its tick
                  have hlate : tick ≤ finishedAt := by
                    rcases Nat.eq_zero_or_pos run.iterations with hzero | hlater
                    · rw [hinv.first hzero]
                      have hread := hsteady iterationStarted (hrest List.mem_cons_self)
                      exact hread.1.trans (hread.2 finishedAt hfinish)
                    · obtain ⟨reading, hreading, hle⟩ := hcame hlater
                      exact hle.trans ((hsteady reading hreading).2 finishedAt hfinish)
                  exact hinv.finished hpunctual hsame' hwall hnow hlate iterationStarted.now _

/-- An iteration leaves the start of the run. -/
theorem iterate_startedAt {run run' : FixedRateRun} {times : IterationTimes}
    (h : run.iterate times = some run') : run'.startedAt = run.startedAt := by
  unfold FixedRateRun.iterate at h
  dsimp only at h
  split at h
  · cases h
    rfl
  · split at h
    · cases h
      rfl
    · cases h
      rfl
  · cases h

/-- A lane with `skip_next` is punctual whenever another iteration begins. -/
def PunctualRun (i : Nat) (events : List IterationTimes) (run : FixedRateRun) : Prop :=
  ∀ before times after mid clock, events = before ++ times :: after →
    run.iterateAll before = some mid → mid.stopped = false → mid.lanes[i]? = some clock →
      clock.lane.overrunPolicy = "skip_next" → Punctual mid clock

/-- By induction on the iterations. -/
theorem iterateAll_slotInv {i : Nat} {events : List IterationTimes} {run run' : FixedRateRun}
    (hsteady : ∀ times ∈ events, times.Steady run.startedAt)
    (hpunctual : PunctualRun i events run) (h : run.iterateAll events = some run')
    (hinv : ∀ clock, run.lanes[i]? = some clock → clock.lane.isWallClock = true →
      ∃ tick, SlotInv run clock tick) :
    run'.startedAt = run.startedAt ∧
      ∀ clock, run'.lanes[i]? = some clock → clock.lane.isWallClock = true →
        ∃ tick, SlotInv run' clock tick := by
  induction events generalizing run with
  | nil =>
      cases h
      exact ⟨rfl, hinv⟩
  | cons times rest ih =>
      unfold FixedRateRun.iterateAll at h
      by_cases hstopped : run.stopped = true
      · rw [if_pos hstopped] at h
        cases h
        exact ⟨rfl, hinv⟩
      · rw [if_neg hstopped] at h
        cases hiterate : run.iterate times with
        | none =>
            rw [hiterate] at h
            cases h
        | some mid =>
            rw [hiterate] at h
            have hstart := iterate_startedAt hiterate
            have hsteady' : ∀ times ∈ rest, times.Steady mid.startedAt := by
              intro later hlater
              rw [hstart]
              exact hsteady later (List.mem_cons_of_mem _ hlater)
            -- what is punctual in the run is so in the rest of it
            have hpunctual' : PunctualRun i rest mid := by
              intro before later after final clock hsplit hrun
              have hstep : run.iterateAll (times :: before) = some final := by
                unfold FixedRateRun.iterateAll
                rw [if_neg hstopped, hiterate]
                exact hrun
              exact hpunctual (times :: before) later after final clock
                (by rw [hsplit, List.cons_append]) hstep
            have hnow : ∀ clock, run.lanes[i]? = some clock →
                clock.lane.overrunPolicy = "skip_next" → Punctual run clock := by
              intro clock
              exact hpunctual [] times rest run clock rfl rfl (by simpa using hstopped)
            have hinv' : ∀ clock, mid.lanes[i]? = some clock → clock.lane.isWallClock = true →
                ∃ tick, SlotInv mid clock tick := by
              intro clock' hclock' hwall
              obtain ⟨clock, hclock, hlane, hkeep⟩ :=
                iterate_slotInv (hsteady times List.mem_cons_self) hiterate hclock' hwall
              obtain ⟨tick, htick⟩ := hinv clock hclock (hlane ▸ hwall)
              exact hkeep tick htick (hnow clock hclock)
            obtain ⟨hstart', hfinal⟩ := ih hsteady' hpunctual' h hinv'
            exact ⟨hstart'.trans hstart, hfinal⟩

/-- Before the first iteration nothing is counted. -/
theorem slotInv_init (startedAt : Int) (lane : LaneTiming) (hwall : lane.isWallClock = true)
    (lanes : List LaneTiming) :
    SlotInv (.init startedAt lanes) (.init startedAt lane) startedAt := by
  obtain ⟨-, -, hperiod⟩ := isWallClock_iff.mp hwall
  refine ⟨if_pos hwall, fun _ => rfl, ?_, ?_, ?_⟩
  · simp only [LaneClock.counted, LaneClock.init, FixedRateRun.init]
    omega
  · intro _
    simp [LaneClock.counted, LaneClock.init, FixedRateRun.init]
  · intro _
    simp only [LaneClock.init, FixedRateRun.init]
    omega

/-- In every run, a wall-clock lane that is punctual or has another policy than
`skip_next` has counted at most the slots that have begun. -/
theorem fixed_rate_slots (startedAt : Int) (lanes : List LaneTiming)
    (events : List IterationTimes) (hsteady : SteadyClock startedAt events) (i : Nat)
    (hpunctual : PunctualRun i events (.init startedAt lanes)) (run : FixedRateRun)
    (hrun : (FixedRateRun.init startedAt lanes).iterateAll events = some run) (clock : LaneClock)
    (hclock : run.lanes[i]? = some clock) (hwall : clock.lane.isWallClock = true) :
    (clock.metrics.tickCount : Int) + clock.metrics.skippedTickCount ≤
      1 + (run.finishedAt - startedAt) / fixedRatePeriodForLane clock.lane := by
  have hinit : ∀ clock, (FixedRateRun.init startedAt lanes).lanes[i]? = some clock →
      clock.lane.isWallClock = true → ∃ tick, SlotInv (.init startedAt lanes) clock tick := by
    intro clock hclock hwall
    simp only [FixedRateRun.init, List.getElem?_map, Option.map_eq_some_iff] at hclock
    obtain ⟨lane, -, rfl⟩ := hclock
    exact ⟨startedAt, slotInv_init startedAt lane hwall lanes⟩
  obtain ⟨hstart, hinv⟩ := iterateAll_slotInv hsteady.steady hpunctual hrun hinit
  obtain ⟨tick, htick⟩ := hinv clock hclock hwall
  obtain ⟨-, -, hperiod⟩ := isWallClock_iff.mp hwall
  have hbound := htick.bound
  rw [hstart] at hbound
  have hslots : (clock.counted : Int) - 1 ≤
      (run.finishedAt - startedAt) / fixedRatePeriodForLane clock.lane :=
    (Int.le_ediv_iff_mul_le hperiod).mpr hbound
  simp only [LaneClock.counted, Nat.cast_add] at hslots
  omega

/-- A lane of one millisecond that skips the next slot when it is late. -/
def skippingLane : LaneTiming :=
  { id := "control", type := "fixed_rate", period := 1000000, wallClockEnabled := true
    overrunPolicy := "skip_next" }

/-- An iteration that takes half a period too long, and the one after it. -/
def shortOverrun : List IterationTimes :=
  [{ readings := [{ now := 0 }, { now := 0 }], finishedAt := some 1500000 },
   { readings := [{ now := 1500000 }, { now := 2000000 }, { now := 2000000 }, { now := 2000000 }]
     finishedAt := some 2100000 }]

theorem shortOverrun_punctual : PunctualRun 0 shortOverrun (.init 0 [skippingLane]) := by
  intro before times after mid clock hsplit hrun _ hclock _ tick htick
  cases before with
  | nil =>
      cases hrun
      cases hclock
      cases htick
      decide
  | cons first rest =>
      cases rest with
      | nil =>
          obtain ⟨rfl, -⟩ := List.cons.inj hsplit
          cases hrun
          cases hclock
          cases htick
          decide
      | cons second rest =>
          have hlength := congrArg List.length hsplit
          simp [shortOverrun] at hlength

theorem shortOverrun_counts_once :
    ∃ run clock, (FixedRateRun.init 0 [skippingLane]).iterateAll shortOverrun = some run ∧
      run.lanes[0]? = some clock ∧
        (clock.metrics.tickCount : Int) + clock.metrics.skippedTickCount ≤
          1 + (run.finishedAt - 0) / fixedRatePeriodForLane clock.lane := by
  refine ⟨_, _, rfl, rfl, ?_⟩
  exact fixed_rate_slots 0 [skippingLane] shortOverrun (by decide) 0 shortOverrun_punctual _ rfl _
    rfl (by decide)

/-- An iteration that takes three and a half periods, and a short one at once: the
slot at two periods is counted as skipped and then as executed. -/
def longOverrun : List IterationTimes :=
  [{ readings := [{ now := 0 }, { now := 0 }], finishedAt := some 3500000 },
   { readings := [{ now := 3500000 }, { now := 3500000 }], finishedAt := some 3600000 }]

theorem longOverrun_counts_twice :
    ¬ ∀ (startedAt : Int) (lanes : List LaneTiming) (events : List IterationTimes),
      SteadyClock startedAt events → ∀ (i : Nat) (run : FixedRateRun),
        (FixedRateRun.init startedAt lanes).iterateAll events = some run →
          ∀ clock, run.lanes[i]? = some clock → clock.lane.isWallClock = true →
            (clock.metrics.tickCount : Int) + clock.metrics.skippedTickCount ≤
              1 + (run.finishedAt - startedAt) / fixedRatePeriodForLane clock.lane := by
  intro hbounds
  have hbound := hbounds 0 [skippingLane] longOverrun (by decide) 0 _ rfl _ rfl (by decide)
  revert hbound
  decide

end TopoExec
