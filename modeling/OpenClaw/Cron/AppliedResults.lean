/-
This file says what the result of a run leaves of a cron job: the job is idle, an error of a
recurring job is backed off from, a cron job keeps its gap, and what is disabled is not scheduled.

The next run of a cron job is set after its schedule has been computed, whatever came of that. So
a job whose schedule has ended is scheduled again, and so is a job that has just been disabled for
the errors of its schedule; and a one-shot job that was disabled meanwhile is still retried. The
rest holds, and where none of these happens all of it does.
-/

import OpenClaw.Cron.Results

namespace OpenClaw.Cron

/-! ### What a result leaves -/

section Cases

variable (externals : Externals) (config : CronConfig) (failoverReason : String → Option String)

/-- The retry of a one-shot job: a transient error within the budget. -/
def CronJob.retries (job : CronJob) (result : RunResult) : Bool :=
  result.status = .error &&
    isTransientCronError result.error (resolveRetryConfig config).retryOn &&
    job.errorsAfter .error ≤ (resolveRetryConfig config).maxAttempts

/-- What is left of a one-shot job. -/
theorem applyJobResult_of_isAt {job : CronJob} (isAt : job.schedule.isAt = true)
    (result : RunResult) (preserveSchedule : Bool) (nowMs : ℤ) :
    applyJobResult externals config failoverReason job result preserveSchedule nowMs =
      if job.deleteAfterRun = some true ∧ result.status = .ok then
        (notedJob config failoverReason job result nowMs, true)
      else if job.retries config result then
        ((notedJob config failoverReason job result nowMs).withNextRunAtMs (some (result.endedAt +
          errorBackoffMs (job.errorsAfter .error) (resolveRetryConfig config).backoffMs)), false)
      else ((notedJob config failoverReason job result nowMs).disable, false) := by
  obtain ⟨-, -, -, -, errors⟩ := notedJob_run config failoverReason job result nowMs
  unfold applyJobResult
  simp only [isAt, Bool.true_and, Bool.and_eq_true, decide_eq_true_eq, if_true]
  split
  · rfl
  · unfold scheduleOneShot
    rw [errors]
    unfold CronJob.retries
    by_cases failed : result.status = .error
    · rw [failed]
      dsimp only [Option.getD_some]
      split <;> rfl
    · simp [failed]

/-- What is left of a recurring job. -/
theorem applyJobResult_of_recurring {job : CronJob} (recurs : job.schedule.isAt = false)
    (result : RunResult) (preserveSchedule : Bool) (nowMs : ℤ) :
    applyJobResult externals config failoverReason job result preserveSchedule nowMs =
      let noted := notedJob config failoverReason job result nowMs
      let natural := computeNaturalNext externals noted job.state.lastRunAtMs preserveSchedule
        result.endedAt
      (if isJobEnabled job = false then noted.withNextRunAtMs none
      else if result.status = .error then scheduleBackoff noted natural result.endedAt
      else scheduleNatural natural result.endedAt, false) := by
  unfold applyJobResult
  simp only [recurs, Bool.false_and, Bool.false_eq_true, if_false]
  cases enabled : isJobEnabled job with
  | false => rfl
  | true =>
    rw [if_pos rfl, if_neg (show true ≠ false from nofun)]
    split <;> rfl

end Cases

/-! ### Natural next runs -/

section Natural

variable (externals : Externals) {job : CronJob}

/-- The schedule of a cron job does not look at its runs. -/
theorem computeJobNextRunAtMs_congr {other : CronJob} (isCron : job.schedule.isCron = true)
    (sameId : other.id = job.id) (sameSchedule : other.schedule = job.schedule)
    (sameEnabled : other.enabled = job.enabled) (nowMs : ℤ) :
    computeJobNextRunAtMs externals other nowMs = computeJobNextRunAtMs externals job nowMs := by
  unfold computeJobNextRunAtMs computeStaggeredCronNextRunAtMs CronJob.offsetMs isJobEnabled
  rw [sameId, sameSchedule, sameEnabled]
  cases schedule : job.schedule with
  | at' atMs time => rw [schedule] at isCron; nomatch isCron
  | every everyMs anchorMs => rw [schedule] at isCron; nomatch isCron
  | cron expr legacyExpr tz staggerMs => rfl

/-- Only cron expressions throw. -/
theorem computeJobNextRunAtMs_ok (isCron : job.schedule.isCron = false) (nowMs : ℤ) :
    ∃ next, computeJobNextRunAtMs externals job nowMs = .ok next := by
  unfold computeJobNextRunAtMs
  split
  · exact ⟨none, rfl⟩
  · cases schedule : job.schedule with
    | at' atMs time =>
      dsimp only
      split
      · exact ⟨_, rfl⟩
      · exact ⟨_, rfl⟩
    | every everyMs anchorMs =>
      dsimp only
      split
      · exact ⟨none, rfl⟩
      · split
        · exact ⟨_, rfl⟩
        · unfold computeNextRunAtMs
          exact ⟨_, rfl⟩
    | cron expr legacyExpr tz staggerMs => rw [schedule] at isCron; nomatch isCron

/-- The natural next run of a cron job is what its schedule says, forced or not. -/
theorem computeNaturalNext_of_isCron (isCron : job.schedule.isCron = true)
    (prevLastRunAtMs : Option ℚ) (preserveSchedule : Bool) (endedAt : ℤ) :
    computeNaturalNext externals job prevLastRunAtMs preserveSchedule endedAt =
      match computeJobNextRunAtMs externals job endedAt with
      | .ok next => (job, next)
      | .error err => (recordScheduleComputeError job err, none) := by
  have notEvery : job.schedule.isEvery = false := by
    cases schedule : job.schedule with
    | at' atMs time => rfl
    | every everyMs anchorMs => rw [schedule] at isCron; nomatch isCron
    | cron expr legacyExpr tz staggerMs => rfl
  unfold computeNaturalNext
  rw [notEvery, Bool.and_false]
  rfl

/-- Where no expression is evaluated, the natural next run comes with the job as it is. -/
theorem computeNaturalNext_fst (isCron : job.schedule.isCron = false)
    (prevLastRunAtMs : Option ℚ) (preserveSchedule : Bool) (endedAt : ℤ) :
    (computeNaturalNext externals job prevLastRunAtMs preserveSchedule endedAt).1 = job := by
  unfold computeNaturalNext
  dsimp only
  split
  next => rfl
  next err thrown =>
    have never : ∀ counted : CronJob, counted.schedule = job.schedule →
        computeJobNextRunAtMs externals counted endedAt ≠ .error err := by
      intro counted same thrown
      obtain ⟨next, found⟩ := computeJobNextRunAtMs_ok externals (same ▸ isCron) endedAt
      rw [found] at thrown
      nomatch thrown
    exact absurd thrown (never _ (by split <;> rfl))

theorem computeNaturalNext_frame (job : CronJob) (prevLastRunAtMs : Option ℚ) (preserveSchedule : Bool)
    (endedAt : ℤ) :
    let natural := computeNaturalNext externals job prevLastRunAtMs preserveSchedule endedAt
    natural.1.schedule = job.schedule ∧ natural.1.state.runningAtMs = job.state.runningAtMs ∧
      natural.1.state.consecutiveErrors = job.state.consecutiveErrors ∧
      natural.1.state.lastRunAtMs = job.state.lastRunAtMs ∧
      natural.1.state.lastStatus = job.state.lastStatus ∧
      natural.1.state.lastDurationMs = job.state.lastDurationMs := by
  unfold computeNaturalNext
  dsimp only
  split <;> exact ⟨rfl, rfl, rfl, rfl, rfl, rfl⟩

end Natural

/-- Whatever comes of its schedule, a result is noted of a job. -/
theorem applyJobResult_run (externals : Externals) (config : CronConfig)
    (failoverReason : String → Option String) (job : CronJob) (result : RunResult)
    (preserveSchedule : Bool) (nowMs : ℤ) :
    let left := (applyJobResult externals config failoverReason job result preserveSchedule nowMs).1
    left.schedule = job.schedule ∧ left.state.lastStatus = some result.status ∧
      left.state.lastRunAtMs = some (result.startedAt : ℚ) ∧
      left.state.lastDurationMs = some (max 0 (result.endedAt - result.startedAt)) ∧
      left.state.consecutiveErrors = some (job.errorsAfter result.status) := by
  obtain ⟨-, lastRun, lastStatus, lastDuration, errors⟩ :=
    notedJob_run config failoverReason job result nowMs
  obtain ⟨-, schedule, -, -, -, -⟩ := notedJob_frame config failoverReason job result nowMs
  obtain ⟨naturalSchedule, -, naturalErrors, naturalRun, naturalStatus, naturalDuration⟩ :=
    computeNaturalNext_frame externals (notedJob config failoverReason job result nowMs)
      job.state.lastRunAtMs preserveSchedule result.endedAt
  have noted : ∀ {left : CronJob}, left.schedule = (notedJob config failoverReason job result
      nowMs).schedule → left.state.lastStatus = (notedJob config failoverReason job result
      nowMs).state.lastStatus → left.state.lastRunAtMs = (notedJob config failoverReason job result
      nowMs).state.lastRunAtMs → left.state.lastDurationMs = (notedJob config failoverReason job
      result nowMs).state.lastDurationMs → left.state.consecutiveErrors = (notedJob config
      failoverReason job result nowMs).state.consecutiveErrors →
      left.schedule = job.schedule ∧ left.state.lastStatus = some result.status ∧
      left.state.lastRunAtMs = some (result.startedAt : ℚ) ∧
      left.state.lastDurationMs = some (max 0 (result.endedAt - result.startedAt)) ∧
      left.state.consecutiveErrors = some (job.errorsAfter result.status) :=
    fun sameSchedule sameStatus sameRun sameDuration sameErrors =>
      ⟨sameSchedule.trans schedule, sameStatus.trans lastStatus, sameRun.trans lastRun,
        sameDuration.trans lastDuration, sameErrors.trans errors⟩
  cases isAt : job.schedule.isAt with
  | true =>
    rw [applyJobResult_of_isAt externals config failoverReason isAt]
    split
    · exact noted rfl rfl rfl rfl rfl
    · split
      · exact noted rfl rfl rfl rfl rfl
      · exact noted rfl rfl rfl rfl rfl
  | false =>
    rw [applyJobResult_of_recurring externals config failoverReason isAt]
    dsimp only
    split
    · exact noted rfl rfl rfl rfl rfl
    · split
      · exact noted naturalSchedule naturalStatus naturalRun naturalDuration naturalErrors
      · unfold scheduleNatural
        split
        · exact noted naturalSchedule naturalStatus naturalRun naturalDuration naturalErrors
        · exact noted naturalSchedule naturalStatus naturalRun naturalDuration naturalErrors

/-! ### The scheduling invariant -/

section Invariant

variable (externals : Externals) (config : CronConfig)

/-- What is promised of a job that a result has been applied to. -/
structure KeepsSchedule (job : CronJob) (result : RunResult) (left : CronJob) (deleted : Bool) :
    Prop where
  idle : left.state.runningAtMs = none
  backoff : job.schedule.isAt = false → isJobEnabled job = true → result.status = .error →
    left.state.consecutiveErrors = some (job.errorsAfter .error) ∧
      ∃ next, left.state.nextRunAtMs = some next ∧ result.endedAt +
        errorBackoffMs (job.errorsAfter .error) DEFAULT_BACKOFF_SCHEDULE_MS ≤ next
  gap : job.schedule.isCron = true → isJobEnabled job = true → result.status ≠ .error →
    ∀ next, left.state.nextRunAtMs = some next → result.endedAt + MIN_REFIRE_GAP_MS ≤ next
  disabled : deleted = false → isJobEnabled left = false → left.state.nextRunAtMs = none
  ended : job.schedule.isCron = true →
    computeJobNextRunAtMs externals job result.endedAt = .ok none → left.state.nextRunAtMs = none

/-- The schedule of a job has a next run, or throws without the job being disabled for it. -/
def CronJob.GoesOn (job : CronJob) (endedAt : ℤ) : Prop :=
  match computeJobNextRunAtMs externals job endedAt with
  | .ok next => next ≠ none
  | .error _ => job.state.scheduleErrorCount.getD 0 + 1 < MAX_SCHEDULE_ERRORS

/-- An enabled cron job goes on, and a disabled one-shot job is not retried. -/
def CronJob.SchedulesWell (job : CronJob) (result : RunResult) : Prop :=
  (job.schedule.isCron = true → isJobEnabled job = true → job.GoesOn externals result.endedAt) ∧
    (job.schedule.isAt = true → isJobEnabled job = false → job.retries config result = false)

variable {externals config} {failoverReason : String → Option String} {job : CronJob}
  {result : RunResult}

/-- A one-shot job is promised to be idle, and not to be scheduled while it is disabled. -/
theorem keepsSchedule_iff_of_isAt (isAt : job.schedule.isAt = true) {left : CronJob}
    {deleted : Bool} (idle : left.state.runningAtMs = none) :
    KeepsSchedule externals job result left deleted ↔
      (deleted = false → isJobEnabled left = false → left.state.nextRunAtMs = none) := by
  have notCron : job.schedule.isCron ≠ true := by
    cases schedule : job.schedule with
    | at' atMs time => exact nofun
    | every everyMs anchorMs => rw [schedule] at isAt; nomatch isAt
    | cron expr legacyExpr tz staggerMs => rw [schedule] at isAt; nomatch isAt
  exact ⟨KeepsSchedule.disabled, fun disabled => {
    idle
    backoff := fun recurs => absurd (recurs.symm.trans isAt) nofun
    gap := fun isCron => absurd isCron notCron
    disabled
    ended := fun isCron => absurd isCron notCron }⟩

theorem keepsSchedule_of_isAt (isAt : job.schedule.isAt = true) (preserveSchedule : Bool)
    (nowMs : ℤ) :
    let left := applyJobResult externals config failoverReason job result preserveSchedule nowMs
    KeepsSchedule externals job result left.1 left.2 ↔
      (isJobEnabled job = false → job.retries config result = false) := by
  obtain ⟨idle, -, -, -, -⟩ := notedJob_run config failoverReason job result nowMs
  obtain ⟨-, -, sameEnabled, -, -, -⟩ := notedJob_frame config failoverReason job result nowMs
  intro left
  have isLeft : left = _ := applyJobResult_of_isAt externals config failoverReason isAt result
    preserveSchedule nowMs
  rw [isLeft]
  split
  next deletes =>
    refine (keepsSchedule_iff_of_isAt isAt idle).trans ⟨fun _ _ => ?_, fun _ kept => nomatch kept⟩
    unfold CronJob.retries
    rw [deletes.2]
    rfl
  next =>
    split
    next retries =>
      have same : isJobEnabled (notedJob config failoverReason job result nowMs) =
          isJobEnabled job := congrArg (Option.getD · true) sameEnabled
      rw [retries]
      refine Iff.trans (keepsSchedule_iff_of_isAt isAt ?_) ?_
      · exact idle
      · exact ⟨fun disabled off => absurd (disabled rfl (same.trans off)) nofun,
          fun disabled _ off => absurd (disabled (same.symm.trans off)) nofun⟩
    next stays =>
      refine Iff.trans (keepsSchedule_iff_of_isAt isAt ?_) ?_
      · exact idle
      · exact ⟨fun _ _ => Bool.eq_false_of_not_eq_true stays, fun _ _ _ => rfl⟩

/-- What is promised of a recurring job that is disabled holds. -/
theorem keepsSchedule_of_disabled (off : isJobEnabled job = false) {left : CronJob}
    {deleted : Bool} (idle : left.state.runningAtMs = none)
    (unscheduled : left.state.nextRunAtMs = none) :
    KeepsSchedule externals job result left deleted where
  idle := idle
  backoff _ enabled := absurd (off.symm.trans enabled) nofun
  gap _ enabled := absurd (off.symm.trans enabled) nofun
  disabled _ _ := unscheduled
  ended _ _ := unscheduled

/-- The backoff of a recurring job that has failed. -/
theorem scheduleBackoff_spec {noted : CronJob} {natural : CronJob × Option ℤ} {errors : ℕ}
    (counted : noted.state.consecutiveErrors = some errors)
    (sameErrors : natural.1.state.consecutiveErrors = noted.state.consecutiveErrors)
    (endedAt : ℤ) :
    (scheduleBackoff noted natural endedAt).state.consecutiveErrors = some errors ∧
      ∃ next, (scheduleBackoff noted natural endedAt).state.nextRunAtMs = some next ∧
        endedAt + errorBackoffMs errors DEFAULT_BACKOFF_SCHEDULE_MS ≤ next := by
  refine ⟨sameErrors.trans counted, _, rfl, ?_⟩
  rw [counted, Option.getD_some]
  cases natural.2 with
  | none => exact le_rfl
  | some next => exact le_max_right _ _

/-- Interval jobs keep all that is promised. -/
theorem keepsSchedule_of_isEvery (isEvery : job.schedule.isEvery = true) (preserveSchedule : Bool)
    (nowMs : ℤ) :
    let left := applyJobResult externals config failoverReason job result preserveSchedule nowMs
    KeepsSchedule externals job result left.1 left.2 := by
  obtain ⟨recurs, notCron⟩ : job.schedule.isAt = false ∧ job.schedule.isCron = false := by
    cases schedule : job.schedule with
    | at' atMs time => rw [schedule] at isEvery; nomatch isEvery
    | every everyMs anchorMs => exact ⟨rfl, rfl⟩
    | cron expr legacyExpr tz staggerMs => rw [schedule] at isEvery; nomatch isEvery
  obtain ⟨idle, -, -, -, errors⟩ := notedJob_run config failoverReason job result nowMs
  obtain ⟨-, sameSchedule, sameEnabled, -, -, -⟩ :=
    notedJob_frame config failoverReason job result nowMs
  have sameJob := computeNaturalNext_fst externals (sameSchedule ▸ notCron)
    job.state.lastRunAtMs preserveSchedule result.endedAt
  intro left
  have isLeft : left = _ := applyJobResult_of_recurring externals config failoverReason recurs
    result preserveSchedule nowMs
  rw [isLeft]
  dsimp only
  split
  next off => exact keepsSchedule_of_disabled off idle rfl
  next on =>
    have never : ∀ {Promise : Prop}, job.schedule.isCron = true → Promise := fun isCron =>
      absurd (notCron.symm.trans isCron) nofun
    have enabled : ∀ {natural : CronJob}, natural.enabled =
        (notedJob config failoverReason job result nowMs).enabled →
          isJobEnabled natural ≠ false := fun {natural} same off => by
      unfold isJobEnabled at off on
      rw [same, sameEnabled] at off
      exact on off
    split
    next failed =>
      rw [failed] at errors
      have sameOn := congrArg (fun job : CronJob => job.enabled) sameJob
      have backed := scheduleBackoff_spec errors (congrArg (fun job : CronJob =>
        job.state.consecutiveErrors) sameJob) result.endedAt
      exact {
        idle := (congrArg (fun job : CronJob => job.state.runningAtMs) sameJob).trans idle
        backoff := fun _ _ _ => backed
        gap := fun isCron => never isCron
        disabled := fun _ off => absurd off (enabled sameOn)
        ended := fun isCron => never isCron }
    next succeeded =>
      unfold scheduleNatural
      rw [sameJob, sameSchedule, notCron]
      exact {
        idle
        backoff := fun _ _ failed => absurd failed succeeded
        gap := fun isCron => never isCron
        disabled := fun _ off => absurd off (enabled rfl)
        ended := fun isCron => never isCron }

/-- What is promised of a job that has been scheduled is that it is enabled and goes on. -/
theorem keepsSchedule_iff_of_scheduled {left : CronJob} {next : ℤ}
    (isCron : job.schedule.isCron = true) (idle : left.state.runningAtMs = none)
    (scheduled : left.state.nextRunAtMs = some next)
    (backoff : result.status = .error →
      left.state.consecutiveErrors = some (job.errorsAfter .error) ∧
        ∃ next, left.state.nextRunAtMs = some next ∧ result.endedAt +
          errorBackoffMs (job.errorsAfter .error) DEFAULT_BACKOFF_SCHEDULE_MS ≤ next)
    (gap : result.status ≠ .error → result.endedAt + MIN_REFIRE_GAP_MS ≤ next) :
    KeepsSchedule externals job result left false ↔
      isJobEnabled left = true ∧ computeJobNextRunAtMs externals job result.endedAt ≠ .ok none := by
  have never : left.state.nextRunAtMs ≠ none := fun none => absurd (scheduled.symm.trans none) nofun
  constructor
  · intro keeps
    refine ⟨?_, fun ends => never (keeps.ended isCron ends)⟩
    exact Bool.of_not_eq_false fun off => never (keeps.disabled rfl off)
  · rintro ⟨enabled, goes⟩
    exact {
      idle
      backoff := fun _ _ => backoff
      gap := fun _ _ succeeded other isOther => by
        obtain rfl := Option.some.inj (scheduled.symm.trans isOther)
        exact gap succeeded
      disabled := fun _ off => absurd (off.symm.trans enabled) nofun
      ended := fun _ ends => absurd ends goes }

/-- A cron job keeps what is promised exactly where it goes on. -/
theorem keepsSchedule_of_isCron (isCron : job.schedule.isCron = true) (preserveSchedule : Bool)
    (nowMs : ℤ) :
    let left := applyJobResult externals config failoverReason job result preserveSchedule nowMs
    KeepsSchedule externals job result left.1 left.2 ↔
      (isJobEnabled job = true → job.GoesOn externals result.endedAt) := by
  have recurs : job.schedule.isAt = false := by
    cases schedule : job.schedule with
    | at' atMs time => rw [schedule] at isCron; nomatch isCron
    | every everyMs anchorMs => rw [schedule] at isCron; nomatch isCron
    | cron expr legacyExpr tz staggerMs => rfl
  obtain ⟨idle, -, -, -, errors⟩ := notedJob_run config failoverReason job result nowMs
  obtain ⟨sameId, sameSchedule, sameEnabled, -, -, sameCount⟩ :=
    notedJob_frame config failoverReason job result nowMs
  have natural := computeNaturalNext_of_isCron externals (sameSchedule ▸ isCron)
    job.state.lastRunAtMs preserveSchedule result.endedAt
  rw [computeJobNextRunAtMs_congr externals isCron sameId sameSchedule sameEnabled] at natural
  intro left
  have isLeft : left = _ := applyJobResult_of_recurring externals config failoverReason recurs
    result preserveSchedule nowMs
  rw [isLeft]
  dsimp only
  split
  next off =>
    exact iff_of_true (keepsSchedule_of_disabled off idle rfl)
      fun enabled => absurd (off.symm.trans enabled) nofun
  next on =>
    have noteEnabled : isJobEnabled (notedJob config failoverReason job result nowMs) = true :=
      (congrArg (Option.getD · true) sameEnabled).trans (Bool.of_not_eq_false on)
    obtain ⟨naturalSchedule, naturalIdle, naturalErrors, -, -, -⟩ := computeNaturalNext_frame
      externals (notedJob config failoverReason job result nowMs) job.state.lastRunAtMs preserveSchedule result.endedAt
    have isNatural : isJobEnabled (computeNaturalNext externals
        (notedJob config failoverReason job result nowMs) job.state.lastRunAtMs preserveSchedule
          result.endedAt).1 = true ∧
        computeJobNextRunAtMs externals job result.endedAt ≠ .ok none ↔
          job.GoesOn externals result.endedAt := by
      rw [natural]
      unfold CronJob.GoesOn
      cases computeJobNextRunAtMs externals job result.endedAt with
      | ok next =>
        dsimp only
        rw [noteEnabled, eq_self_iff_true, true_and, ne_eq, Except.ok.injEq]
      | error err =>
        dsimp only
        unfold recordScheduleComputeError isJobEnabled
        dsimp only
        rw [sameCount]
        split
        next thrice => exact iff_of_false (fun both => nomatch both.1) (not_lt.2 thrice)
        next seldom =>
          exact iff_of_true ⟨noteEnabled, fun same => nomatch same⟩ (not_le.1 seldom)
    have goes : (isJobEnabled job = true → job.GoesOn externals result.endedAt) ↔ _ :=
      (forall_prop_of_true (Bool.of_not_eq_false on)).trans isNatural.symm
    rw [goes]
    split
    next failed =>
      rw [failed] at errors
      refine Iff.trans (keepsSchedule_iff_of_scheduled isCron ?_ rfl ?_ ?_) ?_
      · exact naturalIdle.trans idle
      · exact fun _ => scheduleBackoff_spec errors naturalErrors result.endedAt
      · exact fun succeeded => absurd failed succeeded
      · exact Iff.rfl
    next succeeded =>
      unfold scheduleNatural
      rw [naturalSchedule, sameSchedule, isCron]
      refine Iff.trans (keepsSchedule_iff_of_scheduled isCron ?_ rfl ?_ ?_) ?_
      · exact naturalIdle.trans idle
      · exact fun failed => absurd failed succeeded
      · intro _
        cases (computeNaturalNext externals (notedJob config failoverReason job result nowMs)
          job.state.lastRunAtMs preserveSchedule result.endedAt).2 with
        | none => exact le_rfl
        | some next => exact le_max_right _ _
      · exact Iff.rfl

/-- A result keeps the schedule of a job exactly where an enabled cron job goes on and a disabled
one-shot job is not retried. -/
theorem applyJobResult_keepsSchedule_iff (externals : Externals) (config : CronConfig)
    (failoverReason : String → Option String) (job : CronJob) (result : RunResult)
    (preserveSchedule : Bool) (nowMs : ℤ) :
    let left := applyJobResult externals config failoverReason job result preserveSchedule nowMs
    KeepsSchedule externals job result left.1 left.2 ↔ job.SchedulesWell externals config result := by
  unfold CronJob.SchedulesWell
  cases schedule : job.schedule with
  | at' atMs time =>
    have isAt : job.schedule.isAt = true := by rw [schedule]; rfl
    refine (keepsSchedule_of_isAt isAt preserveSchedule nowMs).trans ?_
    exact ⟨fun retries => ⟨(nomatch ·), fun _ => retries⟩, fun both => both.2 rfl⟩
  | every everyMs anchorMs =>
    have isEvery : job.schedule.isEvery = true := by rw [schedule]; rfl
    exact iff_of_true (keepsSchedule_of_isEvery isEvery preserveSchedule nowMs)
      ⟨(nomatch ·), (nomatch ·)⟩
  | cron expr legacyExpr tz staggerMs =>
    have isCron : job.schedule.isCron = true := by rw [schedule]; rfl
    refine (keepsSchedule_of_isCron isCron preserveSchedule nowMs).trans ?_
    exact ⟨fun goes => ⟨fun _ => goes, (nomatch ·)⟩, fun both => both.1 rfl⟩

end Invariant

/-- An expression without any further occurrence. -/
def endedExternals : Externals where
  newCron _ _ := .ok ⟨fun _ => .ok none, fun _ => .ok none⟩
  timeZone := "UTC"
  dateParse _ := none
  toNumber _ := none
  digest _ := 0

def endedJob : CronJob where
  id := "ended"
  name := "ended"
  schedule := .cron (some "0 0 1 1 * 2020") none none none
  sessionTarget := .main
  payload := .systemEvent "tick"
  state := { nextRunAtMs := some 1000, runningAtMs := some 1000 }

/-- A job whose schedule has ended is scheduled again after it has run. -/
theorem endedJob_is_scheduled_again :
    ¬ ∀ externals config failoverReason job (result : RunResult) preserveSchedule nowMs,
      result.startedAt ≤ result.endedAt →
        KeepsSchedule externals job result
          (applyJobResult externals config failoverReason job result preserveSchedule nowMs).1
          (applyJobResult externals config failoverReason job result preserveSchedule nowMs).2 := by
  intro always
  have keeps := always endedExternals {} (fun _ => none) endedJob
    { status := .ok, startedAt := 1000, endedAt := 1500 } false 1500 (by decide)
  have again : (applyJobResult endedExternals {} (fun _ => none) endedJob
      { status := .ok, startedAt := 1000, endedAt := 1500 } false 1500).1.state.nextRunAtMs =
        some 3500 := by
    decide +kernel
  rw [keeps.ended rfl (by decide +kernel)] at again
  nomatch again

end OpenClaw.Cron
