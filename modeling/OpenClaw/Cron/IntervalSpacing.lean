/-
This file says that an interval job keeps its spacing: two starts that follow each other lie at
least its interval apart, and its next run is never before the time it is computed at and either
follows the last start or lies on the grid of its anchor.

A result puts the next run an interval after the start, or later on the grid where that has
passed, so the law is kept by each result; that each start has a result of its own between it and
the next start is the pairing of starts and results.
-/

import OpenClaw.Cron.PairedRuns

namespace OpenClaw.Cron

open Machine

/-! ### The grid -/

/-- The next time of a grid is not before a time, and a whole number of intervals after the
anchor. -/
theorem nextOnGrid_spec {everyMs : ℤ} (positive : 1 ≤ everyMs) (anchor nowMs : ℤ) :
    nowMs ≤ nextOnGrid anchor everyMs nowMs ∧
      ∃ steps : ℕ, nextOnGrid anchor everyMs nowMs = anchor + steps * everyMs := by
  unfold nextOnGrid
  split
  next before => exact ⟨before.le, 0, by simp⟩
  next behind =>
    have steps : 0 ≤ max 1 ((nowMs - anchor + everyMs - 1) / everyMs) :=
      zero_le_one.trans (le_max_left _ _)
    refine ⟨?_, (max 1 ((nowMs - anchor + everyMs - 1) / everyMs)).toNat, ?_⟩
    · have covers : nowMs - anchor ≤ (nowMs - anchor + everyMs - 1) / everyMs * everyMs := by
        have division := Int.emod_add_mul_ediv (nowMs - anchor + everyMs - 1) everyMs
        have remainder := Int.emod_lt_of_pos (nowMs - anchor + everyMs - 1)
          (show 0 < everyMs by omega)
        rw [mul_comm] at division
        omega
      have least : (nowMs - anchor + everyMs - 1) / everyMs * everyMs ≤
          max 1 ((nowMs - anchor + everyMs - 1) / everyMs) * everyMs :=
        mul_le_mul_of_nonneg_right (le_max_right _ _) (by omega)
      omega
    · rw [Int.toNat_of_nonneg steps]

section NextRun

variable {externals : Externals} {job : CronJob} {everyMs anchorMs : Option ScheduleNumber}
  {interval : ℤ}

theorem anchorMs_nonneg (externals : Externals) (job : CronJob)
    (anchorMs : Option ScheduleNumber) (nowMs : ℤ) :
    0 ≤ job.anchorMs externals anchorMs nowMs := le_max_left _ _

/-- The next run of an interval job. -/
theorem computeJobNextRunAtMs_every (enabled : isJobEnabled job = true)
    (isEvery : job.schedule = .every everyMs anchorMs)
    (isInterval : coerceFiniteScheduleNumber externals everyMs = some (interval : ℚ))
    (positive : 1 ≤ interval) (nowMs : ℤ) :
    computeJobNextRunAtMs externals job nowMs =
      .ok (some (((job.state.lastRunAtMs.map fun lastRunAtMs => ⌊lastRunAtMs⌋ + interval).filter
        (nowMs < ·)).getD (nextOnGrid (job.anchorMs externals anchorMs nowMs) interval nowMs))) := by
  have whole : wholeEveryMs (interval : ℚ) = interval := by
    unfold wholeEveryMs
    rw [Int.floor_intCast, max_eq_right positive]
  unfold computeJobNextRunAtMs
  rw [enabled, isEvery, Bool.not_true, if_neg Bool.false_ne_true]
  dsimp only
  rw [isInterval]
  dsimp only
  rw [whole]
  cases (job.state.lastRunAtMs.map fun lastRunAtMs => ⌊lastRunAtMs⌋ + interval).filter
      (nowMs < ·) with
  | some next => rfl
  | none =>
    unfold computeNextRunAtMs coerceFiniteScheduleNumber
    dsimp only [Option.map_some, Option.getD_some, Option.getD_none]
    rw [whole, Int.floor_intCast, max_eq_right (anchorMs_nonneg _ _ _ _)]

/-- Where the next run of an interval job lies. -/
theorem computeJobNextRunAtMs_every_spec (enabled : isJobEnabled job = true)
    (isEvery : job.schedule = .every everyMs anchorMs)
    (isInterval : coerceFiniteScheduleNumber externals everyMs = some (interval : ℚ))
    (positive : 1 ≤ interval) (nowMs : ℤ) :
    ∃ next, computeJobNextRunAtMs externals job nowMs = .ok (some next) ∧ nowMs ≤ next ∧
      (∀ lastRunAtMs, job.state.lastRunAtMs = some lastRunAtMs → ⌊lastRunAtMs⌋ + interval ≤ next) ∧
      ((∃ lastRunAtMs, job.state.lastRunAtMs = some lastRunAtMs ∧
          next = ⌊lastRunAtMs⌋ + interval) ∨
        ∃ steps : ℕ, next = job.anchorMs externals anchorMs nowMs + steps * interval) := by
  refine ⟨_, computeJobNextRunAtMs_every enabled isEvery isInterval positive nowMs, ?_⟩
  obtain ⟨follows, onGrid⟩ :=
    nextOnGrid_spec positive (job.anchorMs externals anchorMs nowMs) nowMs
  cases last : job.state.lastRunAtMs with
  | none => exact ⟨follows, nofun, .inr onGrid⟩
  | some lastRunAtMs =>
    rw [Option.map_some, Option.filter_some]
    by_cases future : nowMs < ⌊lastRunAtMs⌋ + interval
    · rw [if_pos (decide_eq_true future), Option.getD_some]
      refine ⟨future.le, ?_, .inl ⟨lastRunAtMs, rfl, rfl⟩⟩
      rintro other same
      rw [Option.some.inj same]
    · rw [if_neg (by simpa using future), Option.getD_none]
      refine ⟨follows, ?_, .inr onGrid⟩
      rintro other same
      rw [← Option.some.inj same]
      exact (not_lt.1 future).trans follows

end NextRun

/-! ### The law -/

/-- The schedules of an interval. -/
def IsInterval (externals : Externals) (interval : ℤ) (schedule : CronSchedule) : Prop :=
  ∃ everyMs anchorMs, schedule = .every everyMs anchorMs ∧
    coerceFiniteScheduleNumber externals everyMs = some (interval : ℚ)

/-- A job is started an interval after its last start at the earliest. -/
def spacingLaw (interval : ℤ) : StartLaw := fun result _ time => result.startedAt + interval ≤ time

theorem spacingLaw_holds (externals : Externals) (config : SchedulerConfig)
    (failoverReason : String → Option String) {interval : ℤ} (positive : 1 ≤ interval) :
    LawHolds externals config failoverReason (IsInterval externals interval)
      (spacingLaw interval) where
  anchor _ _ other is := by
    obtain ⟨everyMs, anchorMs, same, isInterval⟩ := is
    obtain ⟨rfl, -⟩ := CronSchedule.every.inj same
    exact ⟨_, other, rfl, isInterval⟩
  later _ _ _ _ permits follows := permits.trans follows
  applied job result nowMs left isEvery isLeft enabled := by
    obtain ⟨everyMs, anchorMs, schedule, isInterval⟩ := isEvery
    obtain ⟨-, sameSchedule, sameEnabled, -, -, -⟩ :=
      notedJob_frame config.toCronConfig failoverReason job result nowMs
    obtain ⟨-, lastRun, -, -, -⟩ := notedJob_run config.toCronConfig failoverReason job result nowMs
    rw [applyJobResult_of_recurring externals _ failoverReason (by rw [schedule]; rfl)] at isLeft
    dsimp only at isLeft
    split at isLeft
    next off =>
      obtain ⟨rfl, -⟩ := Prod.mk.inj isLeft
      exact absurd (off.symm.trans ((congrArg (Option.getD · true) sameEnabled).symm.trans enabled))
        nofun
    next on =>
      have noteEnabled : isJobEnabled (notedJob config.toCronConfig failoverReason job result
          nowMs) = true :=
        (congrArg (Option.getD · true) sameEnabled).trans (Bool.of_not_eq_false on)
      obtain ⟨next, computed, -, afterLast, -⟩ := computeJobNextRunAtMs_every_spec noteEnabled
        (sameSchedule.trans schedule) isInterval positive result.endedAt
      have spaced : result.startedAt + interval ≤ next := by
        simpa using afterLast _ lastRun
      have natural : computeNaturalNext externals
          (notedJob config.toCronConfig failoverReason job result nowMs) job.state.lastRunAtMs false
          result.endedAt =
          (notedJob config.toCronConfig failoverReason job result nowMs, some next) := by
        unfold computeNaturalNext
        rw [Bool.false_and, if_neg Bool.false_ne_true]
        dsimp only
        rw [computed]
      rw [natural] at isLeft
      split at isLeft
      · obtain ⟨rfl, -⟩ := Prod.mk.inj isLeft
        exact .inr ⟨_, rfl, spaced.trans (le_max_left _ _)⟩
      · unfold scheduleNatural at isLeft
        rw [sameSchedule, schedule] at isLeft
        obtain ⟨rfl, -⟩ := Prod.mk.inj isLeft
        exact .inr ⟨next, rfl, spaced⟩

/-- Slots of interval jobs are not replayed. -/
theorem intervals_replay (externals : Externals) (interval : ℤ) (jobId : String)
    (guard : CronServiceState → SchedulerEvent → Prop) :
    ReplaysKeep externals (IsInterval externals interval) (spacingLaw interval) jobId guard := by
  intro state nowMs job _ _ tracked replayed
  obtain ⟨everyMs, anchorMs, schedule, -⟩ := tracked.kind
  unfold isReplayed at replayed
  simp only [Bool.and_eq_true] at replayed
  have isCron : job.schedule.isCron = true := replayed.1.1.1.2
  rw [schedule] at isCron
  nomatch isCron

/-! ### Spacing -/

/-- Two starts that follow each other lie at least an interval apart. -/
def SpacedStarts (interval : ℤ) (jobId : String) (log : List CronLogEntry) : Prop :=
  ∀ before first middle second after,
    log = before ++ .started jobId first :: middle ++ .started jobId second :: after →
    (∀ startedAt, CronLogEntry.started jobId startedAt ∉ middle) → first + interval ≤ second

/-- After a start, its run is open, or its result is the last that was applied. -/
theorem open_or_applied {jobId : String} {before middle : List CronLogEntry} {startedAt : ℤ}
    (paired : EachEntry (EntryPaired jobId) (before ++ .started jobId startedAt :: middle))
    (noStart : ∀ other, CronLogEntry.started jobId other ∉ middle) :
    openRun jobId (before ++ .started jobId startedAt :: middle) = some startedAt ∨
      openRun jobId (before ++ .started jobId startedAt :: middle) = none ∧
        ∃ result errors, lastApplied jobId (before ++ .started jobId startedAt :: middle) =
          some (result, errors) ∧ result.startedAt = startedAt := by
  induction middle using List.reverseRecOn with
  | nil =>
    left
    rw [openRun_append_started, if_pos rfl]
  | append_singleton middle entry inductionHypothesis =>
    rw [← List.cons_append, ← List.append_assoc] at paired ⊢
    have earlier := inductionHypothesis paired.earlier
      fun other member => noStart other (List.mem_append_left _ member)
    have entryPaired := paired.last
    cases entry with
    | started id other =>
      have different : id ≠ jobId := by
        rintro rfl
        exact noStart other (List.mem_append_right _ List.mem_cons_self)
      rw [openRun_append_started, if_neg different, lastApplied_append_started]
      exact earlier
    | applied id result errors =>
      rw [openRun_append_applied, lastApplied_append_applied]
      by_cases own : id = jobId
      · rw [if_pos own, if_pos own]
        have isOpen := entryPaired own
        rcases earlier with since | ⟨closed, -⟩
        · exact .inr ⟨rfl, result, errors, rfl, Option.some.inj (isOpen.symm.trans since)⟩
        · exact absurd (closed.symm.trans isOpen) nofun
      · rw [if_neg own, if_neg own]
        exact earlier

/-- Interval jobs keep their spacing in every run that is not cut off in the middle of a run of
the job, and their next run is on time. -/
theorem interval_jobs_keep_their_spacing (externals : Externals) (config : SchedulerConfig)
    (failoverReason : String → Option String) (interval : ℤ) (positive : 1 ≤ interval) :
    (∀ job everyMs anchorMs nowMs, isJobEnabled job = true →
      job.schedule = .every everyMs anchorMs →
      coerceFiniteScheduleNumber externals everyMs = some (interval : ℚ) →
      ∃ next, computeJobNextRunAtMs externals job nowMs = .ok (some next) ∧ nowMs ≤ next ∧
        ((∃ lastRunAtMs, job.state.lastRunAtMs = some lastRunAtMs ∧
            next = ⌊lastRunAtMs⌋ + interval) ∨
          ∃ steps : ℕ, next = job.anchorMs externals anchorMs nowMs + steps * interval)) ∧
    ∀ jobId file clock, 0 ≤ clock →
      (∀ job, file.get jobId = some job → IsInterval externals interval job.schedule) →
      ∀ events final, Steps (schedulerStep externals config failoverReason)
        (fun state event => uninterrupted jobId state event = true) (.fresh file clock) events
        final → SpacedStarts interval jobId final.log := by
  refine ⟨fun job everyMs anchorMs nowMs enabled isEvery isInterval => ?_,
    fun jobId file clock epoch isInterval events final run => ?_⟩
  · obtain ⟨next, computed, follows, -, lies⟩ :=
      computeJobNextRunAtMs_every_spec enabled isEvery isInterval positive nowMs
    exact ⟨next, computed, follows, lies⟩
  · have tracks : Tracks (IsInterval externals interval) (spacingLaw interval) jobId final :=
      (Tracks.fresh epoch isInterval).run (spacingLaw_holds externals config failoverReason positive)
        (intervals_replay externals interval jobId _) run
    have pairs := (PairedRuns.run run).paired
    intro before first middle second after isLog noStart
    have allowed := tracks.kept _ _ _ isLog rfl
    have closed := pairs _ _ _ isLog rfl
    rw [isLog] at pairs
    rcases open_or_applied pairs.earlier noStart with since | ⟨-, result, errors, last, rfl⟩
    · exact absurd (closed.symm.trans since) nofun
    · exact allowed result errors last

/-! ### A job of every minute -/

def everyExternals : Externals where
  newCron _ _ := .error "RangeError"
  timeZone := "UTC"
  dateParse _ := none
  toNumber _ := none
  digest _ := 0

def everyFile : CronStore := (∅ : CronStore).set "every" {
  id := "every"
  name := "every"
  createdAtMs := some 30000
  schedule := .every (some (.number 60000)) none
  sessionTarget := .main
  payload := .systemEvent "tick" }

/-- The first run takes longer than a minute, and the service is restarted behind it. -/
def slowRun : List SchedulerEvent :=
  [.clearMarkers, .plan 31000, .finishStart 31000, .tick 90000 90000, .startRun "every" 95000,
    .endRun "every" 95000 { status := .ok } 160000, .finishTick 160000 160000, .restart,
    .clearMarkers, .plan 170000, .finishStart 170000, .tick 210000 210000,
    .startRun "every" 210000]

theorem slow_job_keeps_its_spacing :
    ∃ final, Steps (schedulerStep everyExternals {} fun _ => none)
      (fun state event => uninterrupted "every" state event = true) (.fresh everyFile 30000)
      slowRun final ∧
      final.log = [.started "every" 95000,
        .applied "every" { status := .ok, startedAt := 95000, endedAt := 160000 } 0,
        .started "every" 210000] ∧ SpacedStarts 60000 "every" final.log := by
  have evaluates : (executeUnder (schedulerStep everyExternals {} fun _ => none)
      (uninterrupted "every") (.fresh everyFile 30000) slowRun).map CronServiceState.log =
        some [.started "every" 95000,
          .applied "every" { status := .ok, startedAt := 95000, endedAt := 160000 } 0,
          .started "every" 210000] := by
    decide +kernel
  obtain ⟨final, executes, isLog⟩ := Option.map_eq_some_iff.1 evaluates
  have run := steps_of_executeUnder executes
  refine ⟨final, run, isLog, ?_⟩
  obtain ⟨-, spaced⟩ := interval_jobs_keep_their_spacing everyExternals {} (fun _ => none) 60000
    (by decide)
  refine spaced "every" everyFile 30000 (by decide) ?_ _ final run
  intro job stored
  obtain rfl := Option.some.inj ((OrderedMap.get_set_self _ _ _).symm.trans stored)
  exact ⟨_, none, rfl, rfl⟩

end OpenClaw.Cron
