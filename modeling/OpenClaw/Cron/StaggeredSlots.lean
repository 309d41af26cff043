/-
This file says that the slots of a staggered cron job are exact: with a croner that finds the
occurrences of an expression, the next run of a job is the first occurrence moved by the offset of
the job that is after now, and its previous run the last one before now. Whatever croner answers,
a next run is in the future.

With its cursor moved back by the offset, the first of the bounded attempts finds the slot.
-/

import OpenClaw.Base.Occurrences
import OpenClaw.Cron.Jobs

namespace OpenClaw.Cron

open Occurrences

/-- A croner that finds the first occurrence after a cursor and the last one before it. -/
structure Croner.Finds (croner : Croner) (occurrences : Set ℤ) : Prop where
  next : ∀ cursor, ∃ next, croner.nextRun cursor = .ok next ∧ NextAfter occurrences cursor next
  previous : ∀ cursor, ∃ previous, croner.previousRun cursor = .ok previous ∧
    LastBefore occurrences cursor previous

/-! ### What croner finds -/

section Found

variable {externals : Externals} {croner : Croner} {occurrences : Set ℤ}

theorem Croner.Finds.nextCronRun (finds : croner.Finds occurrences) (cursor : ℤ) :
    ∃ next, nextCronRun croner cursor = .ok next ∧ NextAfter occurrences cursor next := by
  obtain ⟨next, found, isNext⟩ := finds.next cursor
  refine ⟨next, ?_, isNext⟩
  unfold Cron.nextCronRun
  rw [found]
  cases next with
  | none => rfl
  | some next => exact if_neg (not_le.2 isNext.lt)

variable {expr legacyExpr tz : Option String}

theorem Croner.Finds.computeNextRunAtMs (finds : croner.Finds occurrences)
    (resolved : resolveCronFromSchedule externals expr legacyExpr tz = .ok (some croner))
    (staggerMs : Option ScheduleNumber) (cursor : ℤ) :
    ∃ next, computeNextRunAtMs externals (.cron expr legacyExpr tz staggerMs) cursor = .ok next ∧
      NextAfter occurrences cursor next := by
  obtain ⟨next, found, isNext⟩ := finds.nextCronRun cursor
  refine ⟨next, ?_, isNext⟩
  unfold Cron.computeNextRunAtMs
  dsimp only
  rw [resolved]
  exact found

theorem Croner.Finds.computePreviousRunAtMs (finds : croner.Finds occurrences)
    (resolved : resolveCronFromSchedule externals expr legacyExpr tz = .ok (some croner))
    (staggerMs : Option ScheduleNumber) (cursor : ℤ) :
    ∃ last, computePreviousRunAtMs externals (.cron expr legacyExpr tz staggerMs) cursor =
      .ok last ∧ LastBefore occurrences cursor last := by
  obtain ⟨last, found, isLast⟩ := finds.previous cursor
  refine ⟨last, ?_, isLast⟩
  unfold Cron.computePreviousRunAtMs
  dsimp only
  rw [resolved]
  change (croner.previousRun cursor >>= fun previous =>
    pure (previous.filter (· < cursor))) = .ok last
  rw [found]
  cases last with
  | none => rfl
  | some last =>
    refine congrArg Except.ok (Option.filter_eq_some_iff.2 ⟨rfl, ?_⟩)
    exact decide_eq_true isLast.lt

end Found

/-! ### Slots -/

section Slots

variable {externals : Externals} {job : CronJob} {expr legacyExpr tz : Option String}
  {staggerMs : Option ScheduleNumber} {croner : Croner} {occurrences : Set ℤ} {nowMs : ℤ}

theorem offsetMs_nonneg (externals : Externals) (job : CronJob) : 0 ≤ job.offsetMs externals := by
  unfold CronJob.offsetMs
  split
  · exact resolveStableCronOffsetMs_nonneg _ _ _
  · exact le_rfl

/-- The next run is the first staggered slot after now. -/
theorem Croner.Finds.computeStaggeredCronNextRunAtMs (finds : croner.Finds occurrences)
    (isCron : job.schedule = .cron expr legacyExpr tz staggerMs)
    (resolved : resolveCronFromSchedule externals expr legacyExpr tz = .ok (some croner))
    (after : job.offsetMs externals ≤ nowMs) :
    ∃ next, computeStaggeredCronNextRunAtMs externals job nowMs = .ok next ∧
      NextAfter (shifted occurrences (job.offsetMs externals)) nowMs next := by
  unfold Cron.computeStaggeredCronNextRunAtMs
  rw [isCron]
  split
  next exact' =>
    rw [le_antisymm exact' (offsetMs_nonneg externals job), shifted_zero]
    exact finds.computeNextRunAtMs resolved staggerMs nowMs
  next =>
    rw [max_eq_right (sub_nonneg.2 after)]
    obtain ⟨next, found, isNext⟩ :=
      finds.computeNextRunAtMs resolved staggerMs (nowMs - job.offsetMs externals)
    have isSlot := isNext.shift (job.offsetMs externals)
    rw [sub_add_cancel] at isSlot
    refine ⟨_, ?_, isSlot⟩
    unfold nextStaggered
    rw [found]
    cases next with
    | none => rfl
    | some next => exact if_pos isSlot.lt

/-- The previous run is the last staggered slot before now. -/
theorem Croner.Finds.computeStaggeredCronPreviousRunAtMs (finds : croner.Finds occurrences)
    (isCron : job.schedule = .cron expr legacyExpr tz staggerMs)
    (resolved : resolveCronFromSchedule externals expr legacyExpr tz = .ok (some croner))
    (after : job.offsetMs externals ≤ nowMs) :
    ∃ last, computeStaggeredCronPreviousRunAtMs externals job nowMs = .ok last ∧
      LastBefore (shifted occurrences (job.offsetMs externals)) nowMs last := by
  unfold Cron.computeStaggeredCronPreviousRunAtMs
  rw [isCron]
  split
  next exact' =>
    rw [le_antisymm exact' (offsetMs_nonneg externals job), shifted_zero]
    exact finds.computePreviousRunAtMs resolved staggerMs nowMs
  next =>
    rw [max_eq_right (sub_nonneg.2 after)]
    obtain ⟨last, found, isLast⟩ :=
      finds.computePreviousRunAtMs resolved staggerMs (nowMs - job.offsetMs externals)
    have isSlot := isLast.shift (job.offsetMs externals)
    rw [sub_add_cancel] at isSlot
    refine ⟨_, ?_, isSlot⟩
    unfold previousStaggered
    rw [found]
    cases last with
    | none => rfl
    | some last => exact if_pos isSlot.lt.le

end Slots

/-! ### Next runs of any croner -/

section Future

variable {externals : Externals} {nowMs value : ℤ}

theorem lt_of_nextCronRun {croner : Croner}
    (found : nextCronRun croner nowMs = .ok (some value)) : nowMs < value := by
  unfold nextCronRun at found
  obtain ⟨next, -, found⟩ := Answer.bind_eq_ok_iff.1 found
  cases next with
  | none => nomatch found
  | some nextMs =>
    dsimp only at found
    split at found
    next =>
      obtain ⟨retry, -, found⟩ := Answer.bind_eq_ok_iff.1 found
      split at found
      next retryMs isRetry =>
        obtain rfl := Option.some.inj (Except.ok.inj found)
        exact of_decide_eq_true (Option.filter_eq_some_iff.1 isRetry).2
      next =>
        obtain ⟨retry2, -, found⟩ := Answer.bind_eq_ok_iff.1 found
        exact of_decide_eq_true (Option.filter_eq_some_iff.1 (Except.ok.inj found)).2
    next future =>
      obtain rfl := Option.some.inj (Except.ok.inj found)
      exact not_le.1 future

theorem lt_of_computeNextRunAtMs {schedule : CronSchedule} (isCron : schedule.isCron = true)
    (found : computeNextRunAtMs externals schedule nowMs = .ok (some value)) : nowMs < value := by
  cases schedule with
  | at' atMs time => nomatch isCron
  | every everyMs anchorMs => nomatch isCron
  | cron expr legacyExpr tz staggerMs =>
    obtain ⟨croner, -, found⟩ := Answer.bind_eq_ok_iff.1 found
    cases croner with
    | none => nomatch found
    | some croner => exact lt_of_nextCronRun found

/-- Each attempt answers only with a slot after now. -/
theorem lt_of_nextStaggered {schedule : CronSchedule} {offsetMs : ℤ} {attempts : ℕ} {cursor : ℤ}
    (found : nextStaggered externals schedule offsetMs nowMs attempts cursor = .ok (some value)) :
    nowMs < value := by
  induction attempts generalizing cursor with
  | zero => nomatch found
  | succ attempts inductionHypothesis =>
    obtain ⟨base, -, found⟩ := Answer.bind_eq_ok_iff.1 found
    cases base with
    | none => nomatch found
    | some baseNext =>
      dsimp only at found
      split at found
      next future =>
        obtain rfl := Option.some.inj (Except.ok.inj found)
        exact future
      next => exact inductionHypothesis found

theorem lt_of_computeStaggeredCronNextRunAtMs {job : CronJob}
    (isCron : job.schedule.isCron = true)
    (found : computeStaggeredCronNextRunAtMs externals job nowMs = .ok (some value)) :
    nowMs < value := by
  unfold computeStaggeredCronNextRunAtMs at found
  split at found
  · exact lt_of_computeNextRunAtMs isCron found
  · exact lt_of_nextStaggered found

theorem computeJobNextRunAtMs_of_isCron (externals : Externals) {job : CronJob}
    (isCron : job.schedule.isCron = true) (enabled : isJobEnabled job = true) (nowMs : ℤ) :
    computeJobNextRunAtMs externals job nowMs =
      (do
        match ← computeStaggeredCronNextRunAtMs externals job nowMs with
        | some next => pure (some next)
        | none => computeStaggeredCronNextRunAtMs externals job (nextSecondMs nowMs)) := by
  unfold computeJobNextRunAtMs
  cases schedule : job.schedule with
  | at' atMs time => rw [schedule] at isCron; nomatch isCron
  | every everyMs anchorMs => rw [schedule] at isCron; nomatch isCron
  | cron expr legacyExpr tz staggerMs =>
    rw [enabled]
    rfl

theorem lt_of_computeJobNextRunAtMs {job : CronJob} (isCron : job.schedule.isCron = true)
    (found : computeJobNextRunAtMs externals job nowMs = .ok (some value)) : nowMs < value := by
  cases enabled : isJobEnabled job with
  | false =>
    unfold computeJobNextRunAtMs at found
    rw [enabled] at found
    nomatch found
  | true =>
    rw [computeJobNextRunAtMs_of_isCron externals isCron enabled] at found
    obtain ⟨next, isNext, found⟩ := Answer.bind_eq_ok_iff.1 found
    cases next with
    | some next =>
      obtain rfl := Option.some.inj (Except.ok.inj found)
      exact lt_of_computeStaggeredCronNextRunAtMs isCron isNext
    | none =>
      exact (lt_nextSecondMs nowMs).trans (lt_of_computeStaggeredCronNextRunAtMs isCron found)

end Future

/-! ### Exact slots -/

/-- The staggered runs before and after now are adjacent slots, and a next run is in the future
whatever croner answers. -/
theorem staggered_slots_are_exact (externals : Externals) (job : CronJob) (nowMs : ℤ) :
    (∀ expr legacyExpr tz staggerMs croner occurrences,
      job.schedule = .cron expr legacyExpr tz staggerMs →
      resolveCronFromSchedule externals expr legacyExpr tz = .ok (some croner) →
      croner.Finds occurrences → job.offsetMs externals ≤ nowMs →
      ∃ last next, computeStaggeredCronPreviousRunAtMs externals job nowMs = .ok last ∧
        LastBefore (shifted occurrences (job.offsetMs externals)) nowMs last ∧
        computeStaggeredCronNextRunAtMs externals job nowMs = .ok next ∧
        NextAfter (shifted occurrences (job.offsetMs externals)) nowMs next ∧
        ∀ before ∈ last, ∀ after ∈ next, ∀ slot ∈ shifted occurrences (job.offsetMs externals),
          before < slot → slot < after → slot = nowMs) ∧
    (∀ schedule : CronSchedule, schedule.isCron = true → ∀ next,
      computeNextRunAtMs externals schedule nowMs = .ok (some next) → nowMs < next) ∧
    (job.schedule.isCron = true → ∀ next,
      computeJobNextRunAtMs externals job nowMs = .ok (some next) → nowMs < next) := by
  refine ⟨?_, fun _ isCron _ found => lt_of_computeNextRunAtMs isCron found,
    fun isCron _ found => lt_of_computeJobNextRunAtMs isCron found⟩
  intro expr legacyExpr tz staggerMs croner occurrences isCron resolved finds afterOffset
  obtain ⟨last, isPrevious, isLast⟩ :=
    finds.computeStaggeredCronPreviousRunAtMs isCron resolved afterOffset
  obtain ⟨next, isFollowing, isNext⟩ :=
    finds.computeStaggeredCronNextRunAtMs isCron resolved afterOffset
  refine ⟨last, next, isPrevious, isLast, isFollowing, isNext, ?_⟩
  rintro before rfl after rfl slot isSlot later earlier
  exact isNext.adjacent isLast isSlot later earlier

/-! ### An hourly job -/

def hourlyCroner : Croner where
  nextRun cursor := .ok (some ((cursor / 3600000 + 1) * 3600000))
  previousRun cursor := .ok (some ((cursor - 1) / 3600000 * 3600000))

/-- The full hours. -/
def fullHours : Set ℤ := {time | ∃ hour : ℤ, time = hour * 3600000}

theorem hourlyCroner_finds : hourlyCroner.Finds fullHours where
  next cursor := by
    refine ⟨_, rfl, ⟨⟨_, rfl⟩, ?_⟩, ?_⟩
    · change cursor < (cursor / 3600000 + 1) * 3600000
      omega
    · rintro time ⟨⟨hour, rfl⟩, later⟩
      change (cursor / 3600000 + 1) * 3600000 ≤ hour * 3600000
      omega
  previous cursor := by
    refine ⟨_, rfl, ⟨⟨_, rfl⟩, ?_⟩, ?_⟩
    · change (cursor - 1) / 3600000 * 3600000 < cursor
      omega
    · rintro time ⟨⟨hour, rfl⟩, earlier⟩
      change hour * 3600000 ≤ (cursor - 1) / 3600000 * 3600000
      omega

def hourlyExternals : Externals where
  newCron _ _ := .ok hourlyCroner
  timeZone := "UTC"
  dateParse _ := none
  toNumber _ := none
  digest _ := 90007

/-- A job of every full hour, with the stagger window of such jobs. -/
def hourlyJob : CronJob where
  id := "hourly"
  name := "hourly"
  schedule := .cron (some "0 * * * *") none none none
  sessionTarget := .main
  payload := .systemEvent "tick"

/-- The hourly job has its slots 90 s and 7 ms after the full hours. -/
theorem hourlyJob_slots :
    hourlyJob.offsetMs hourlyExternals = 90007 ∧
    (∃ last next,
      computeStaggeredCronPreviousRunAtMs hourlyExternals hourlyJob 7200000 = .ok last ∧
      LastBefore (shifted fullHours (hourlyJob.offsetMs hourlyExternals)) 7200000 last ∧
      computeStaggeredCronNextRunAtMs hourlyExternals hourlyJob 7200000 = .ok next ∧
      NextAfter (shifted fullHours (hourlyJob.offsetMs hourlyExternals)) 7200000 next ∧
      ∀ before ∈ last, ∀ after ∈ next,
        ∀ slot ∈ shifted fullHours (hourlyJob.offsetMs hourlyExternals),
          before < slot → slot < after → slot = 7200000) ∧
    ∃ next, computeJobNextRunAtMs hourlyExternals hourlyJob 7200000 = .ok (some next) ∧
      7200000 < next := by
  have offset : hourlyJob.offsetMs hourlyExternals = 90007 := by decide +kernel
  have resolved : resolveCronFromSchedule hourlyExternals (some "0 * * * *") none none =
      .ok (some hourlyCroner) := by
    have nonblank : Text.trim "0 * * * *" ≠ "" := by decide +kernel
    unfold resolveCronFromSchedule
    dsimp only [Option.or]
    rw [if_neg nonblank]
    rfl
  obtain ⟨exactly, -, future⟩ := staggered_slots_are_exact hourlyExternals hourlyJob 7200000
  refine ⟨offset, ?_, 7290007, by decide +kernel, future rfl _ (by decide +kernel)⟩
  exact exactly _ _ _ _ hourlyCroner fullHours rfl resolved hourlyCroner_finds
    (by rw [offset]; decide)

end OpenClaw.Cron
