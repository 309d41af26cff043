/-
This file is the rule by which the start times of a cron job are bounded: a law says from which
time on a job may be started again, given the last result that was applied to it, and every path
of the scheduler keeps to it.

What carries it is that an enabled job may be started at once or waits for a next run that the law
allows. Upkeep leaves a next run that is in the future alone, a start needs one that is due, and a
restart finds in the file what the last result has left. Only the replay of missed slots asks for
no next run, so there the law has to be kept by the caller.
-/

import OpenClaw.Cron.AppliedResults
import OpenClaw.Cron.Scheduler

namespace OpenClaw.Cron

/-! ### Logs -/

section Logs

variable (jobId : String)

/-- The last result that was applied to a job, with its errors in a row. -/
def lastApplied (log : List CronLogEntry) : Option (RunResult × ℕ) :=
  log.foldl (fun last entry =>
    match entry with
    | .applied id result errors => if id = jobId then some (result, errors) else last
    | .started _ _ => last) none

@[simp] theorem lastApplied_append_started (log : List CronLogEntry) (other : String)
    (startedAt : ℤ) :
    lastApplied jobId (log ++ [.started other startedAt]) = lastApplied jobId log := by
  simp [lastApplied]

theorem lastApplied_append_applied (log : List CronLogEntry) (other : String) (result : RunResult)
    (errors : ℕ) :
    lastApplied jobId (log ++ [.applied other result errors]) =
      if other = jobId then some (result, errors) else lastApplied jobId log := by
  simp [lastApplied]

variable {jobId} {Holds : List CronLogEntry → CronLogEntry → Prop}

/-- What holds of every start and every applied result of a log, given the log before it. -/
def EachEntry (Holds : List CronLogEntry → CronLogEntry → Prop) (log : List CronLogEntry) : Prop :=
  ∀ before entry after, log = before ++ entry :: after → Holds before entry

theorem EachEntry.nil : EachEntry Holds [] :=
  fun before _ _ same => absurd same.symm (by simp)

theorem EachEntry.append
    {log : List CronLogEntry} (each : EachEntry Holds log) {entry : CronLogEntry}
    (holds : Holds log entry) : EachEntry Holds (log ++ [entry]) := by
  intro before middle after same
  rcases List.eq_nil_or_concat after with rfl | ⟨front, last, rfl⟩
  · obtain ⟨rfl, rfl⟩ := List.append_singleton_inj.1 same
    exact holds
  · rw [List.concat_eq_append, ← List.cons_append, ← List.append_assoc] at same
    obtain ⟨isLog, -⟩ := List.append_singleton_inj.1 same
    exact each before middle front isLog

theorem EachEntry.earlier
    {log rest : List CronLogEntry} (each : EachEntry Holds (log ++ rest)) : EachEntry Holds log :=
  fun before entry after same => each before entry (after ++ rest) (by rw [same]; simp)

theorem EachEntry.last
    {log : List CronLogEntry} {entry : CronLogEntry} (each : EachEntry Holds (log ++ [entry])) :
    Holds log entry := each log entry [] rfl

end Logs

/-! ### Upkeep of one job -/

/-- What upkeep at a time leaves of a job: what is noted of its runs, its schedule but for an
anchor, and, while it is enabled, a next run in the future. -/
structure Upkept (nowMs : ℤ) (before after : CronJob) : Prop where
  schedule : after.schedule = before.schedule ∨ ∃ everyMs anchor other,
    before.schedule = .every everyMs anchor ∧ after.schedule = .every everyMs other
  lastStatus : after.state.lastStatus = before.state.lastStatus
  lastRunAtMs : after.state.lastRunAtMs = before.state.lastRunAtMs
  lastDurationMs : after.state.lastDurationMs = before.state.lastDurationMs
  consecutiveErrors : after.state.consecutiveErrors = before.state.consecutiveErrors
  enabled : isJobEnabled after = true → isJobEnabled before = true
  next : isJobEnabled after = true → ∀ next, before.state.nextRunAtMs = some next → 0 < next →
    nowMs < next → after.state.nextRunAtMs = some next

section Upkeep

variable {externals : Externals} {nowMs : ℤ} {job : CronJob}

theorem Upkept.refl (nowMs : ℤ) (job : CronJob) : Upkept nowMs job job where
  schedule := .inl rfl
  lastStatus := rfl
  lastRunAtMs := rfl
  lastDurationMs := rfl
  consecutiveErrors := rfl
  enabled enabled := enabled
  next _ _ is _ _ := is

theorem Upkept.trans {first second third : CronJob} (earlier : Upkept nowMs first second)
    (later : Upkept nowMs second third) : Upkept nowMs first third where
  schedule := by
    rcases later.schedule with same | ⟨everyMs, anchor, other, isSecond, isThird⟩
    · rw [same]
      exact earlier.schedule
    · rcases earlier.schedule with same | ⟨everyMs', anchor', other', isFirst, isSecond'⟩
      · exact .inr ⟨everyMs, anchor, other, same.symm.trans isSecond, isThird⟩
      · obtain ⟨rfl, rfl⟩ := CronSchedule.every.inj (isSecond'.symm.trans isSecond)
        exact .inr ⟨everyMs', anchor', other, isFirst, isThird⟩
  lastStatus := later.lastStatus.trans earlier.lastStatus
  lastRunAtMs := later.lastRunAtMs.trans earlier.lastRunAtMs
  lastDurationMs := later.lastDurationMs.trans earlier.lastDurationMs
  consecutiveErrors := later.consecutiveErrors.trans earlier.consecutiveErrors
  enabled := earlier.enabled ∘ later.enabled
  next enabled next is positive future :=
    later.next enabled next (earlier.next (later.enabled enabled) next is positive future) positive
      future

theorem upkept_normalizeAnchor (externals : Externals) (nowMs : ℤ) (job : CronJob) :
    Upkept nowMs job (normalizeAnchor externals job nowMs).job := by
  unfold normalizeAnchor
  split
  next everyMs anchorMs isEvery =>
    dsimp only
    split
    · exact .refl nowMs job
    · exact { Upkept.refl nowMs job with schedule := .inr ⟨everyMs, _, _, isEvery, rfl⟩ }
  next => exact .refl nowMs job

theorem upkept_clearStale (nowMs : ℤ) (job : CronJob) :
    Upkept nowMs job (clearStale job nowMs).job where
  schedule := .inl rfl
  lastStatus := rfl
  lastRunAtMs := rfl
  lastDurationMs := rfl
  consecutiveErrors := rfl
  enabled enabled := enabled
  next _ next is positive _ := by
    have scheduled : hasScheduledNextRunAtMs job.state.nextRunAtMs = true :=
      (hasScheduledNextRunAtMs_iff _).2 ⟨next, is, positive⟩
    unfold clearStale
    dsimp only
    rw [scheduled, is]
    rfl

/-- A next run that is computed again was not in the future. -/
theorem upkept_recomputeJobNextRunAtMs
    (due : ∀ next, job.state.nextRunAtMs = some next → 0 < next → next ≤ nowMs) :
    Upkept nowMs job (recomputeJobNextRunAtMs externals nowMs job).job := by
  have never : ∀ {after : CronJob}, isJobEnabled after = true → ∀ next,
      job.state.nextRunAtMs = some next → 0 < next → nowMs < next →
        after.state.nextRunAtMs = some next := fun _ next is positive future =>
    absurd (due next is positive) (not_le.2 future)
  unfold recomputeJobNextRunAtMs
  split
  next newNext _ => exact { Upkept.refl nowMs job with next := never }
  next err _ =>
    refine { Upkept.refl nowMs job with enabled := fun enabled => ?_, next := never }
    unfold recordScheduleComputeError isJobEnabled at enabled
    dsimp only at enabled
    split at enabled
    · nomatch enabled
    · exact enabled

theorem upkept_recomputeDue (externals : Externals) (nowMs : ℤ) (job : CronJob) :
    Upkept nowMs job (recomputeDue externals nowMs job).job := by
  unfold recomputeDue
  split
  next missing =>
    refine upkept_recomputeJobNextRunAtMs fun next is positive => ?_
    rw [is, Option.all_some, Bool.or_eq_true, decide_eq_true_eq, decide_eq_true_eq] at missing
    exact missing.resolve_left (not_le.2 positive)
  next => exact .refl nowMs job

theorem upkept_recomputeMissing (externals : Externals) (recomputeExpired : Bool) (nowMs : ℤ)
    (job : CronJob) :
    Upkept nowMs job (recomputeMissing externals recomputeExpired nowMs job).job := by
  unfold recomputeMissing
  split
  next missing =>
    refine upkept_recomputeJobNextRunAtMs fun next is positive => ?_
    rw [is, Option.filter_some, if_pos (decide_eq_true positive)] at missing
    nomatch missing
  next next isNext =>
    split
    next expired =>
      refine upkept_recomputeJobNextRunAtMs fun other is _ => ?_
      obtain rfl := Option.some.inj ((Option.filter_eq_some_iff.1 isNext).1.symm.trans is)
      simp only [Bool.and_eq_true, decide_eq_true_eq] at expired
      exact expired.1.1.2
    next => exact .refl nowMs job

theorem upkept_walkJob (externals : Externals) {fn : CronJob → Upkeep} (nowMs : ℤ)
    (upkept : ∀ job, Upkept nowMs job (fn job).job) (job : CronJob) :
    Upkept nowMs job (walkJob externals fn nowMs job).job := by
  have anchored := upkept_normalizeAnchor externals nowMs job
  unfold walkJob
  dsimp only
  split
  next off =>
    rw [Bool.not_eq_true'] at off
    have never : ∀ {Promise : Prop}, isJobEnabled (clearDisabled (normalizeAnchor externals job
        nowMs).job).job = true → Promise := fun enabled => absurd (off.symm.trans enabled) nofun
    exact {
      schedule := anchored.schedule
      lastStatus := anchored.lastStatus
      lastRunAtMs := anchored.lastRunAtMs
      lastDurationMs := anchored.lastDurationMs
      consecutiveErrors := anchored.consecutiveErrors
      enabled := never
      next := fun enabled => never enabled }
  next => exact (anchored.trans (upkept_clearStale nowMs _)).trans (upkept _)

end Upkeep

/-! ### Laws -/

/-- From which time on a job may be started again after a result, by its errors in a row. -/
abbrev StartLaw := RunResult → ℕ → ℤ → Prop

/-- The start of a job that the log allows. -/
def AllowedAfter (law : StartLaw) (jobId : String) (log : List CronLogEntry) (time : ℤ) : Prop :=
  ∀ result errors, lastApplied jobId log = some (result, errors) → law result errors time

/-- Every start of a job is allowed by the log before it, and its errors in a row are counted. -/
def EntryKept (law : StartLaw) (jobId : String) (before : List CronLogEntry) :
    CronLogEntry → Prop
  | .started id startedAt => id = jobId → AllowedAfter law jobId before startedAt
  | .applied id result errors => id = jobId → result.status = .error →
      (lastApplied jobId before).elim 1 (fun last => last.2 + 1) ≤ errors

/-- The schedules that a law is for, and what results leave of jobs with such a schedule. -/
structure LawHolds (externals : Externals) (config : SchedulerConfig)
    (failoverReason : String → Option String) (Kind : CronSchedule → Prop) (law : StartLaw) :
    Prop where
  anchor : ∀ everyMs anchor other, Kind (.every everyMs anchor) → Kind (.every everyMs other)
  later : ∀ result errors time later, law result errors time → time ≤ later →
    law result errors later
  applied : ∀ job result nowMs left, Kind job.schedule →
    applyJobResult externals config.toCronConfig failoverReason job result false nowMs =
      (left, false) → isJobEnabled left = true →
        law result (job.errorsAfter result.status) nowMs ∨
          ∃ next, left.state.nextRunAtMs = some next ∧
            law result (job.errorsAfter result.status) next

/-- What is kept of a job: its runs are noted, and while it is enabled it may be started at once
or waits for a next run that the law allows. -/
structure Tracked (Kind : CronSchedule → Prop) (law : StartLaw) (jobId : String)
    (log : List CronLogEntry) (clock : ℤ) (job : CronJob) : Prop where
  kind : Kind job.schedule
  noted : ∀ result errors, lastApplied jobId log = some (result, errors) →
    job.state.lastStatus = some result.status ∧
      job.state.lastRunAtMs = some (result.startedAt : ℚ) ∧
      job.state.lastDurationMs = some (max 0 (result.endedAt - result.startedAt)) ∧
      job.state.consecutiveErrors = some errors
  ready : isJobEnabled job = true → AllowedAfter law jobId log clock ∨
    ∃ next, job.state.nextRunAtMs = some next ∧ AllowedAfter law jobId log next

section Tracked

variable {externals : Externals} {config : SchedulerConfig}
  {failoverReason : String → Option String} {Kind : CronSchedule → Prop} {law : StartLaw}
  {jobId : String} {log : List CronLogEntry} {clock : ℤ}
variable {job : CronJob}

theorem AllowedAfter.later (holds : LawHolds externals config failoverReason Kind law)
    {time later : ℤ} (allowed : AllowedAfter law jobId log time) (follows : time ≤ later) :
    AllowedAfter law jobId log later :=
  fun result errors is => holds.later _ _ _ _ (allowed result errors is) follows

theorem Tracked.later (holds : LawHolds externals config failoverReason Kind law) {later : ℤ}
    (tracked : Tracked Kind law jobId log clock job) (follows : clock ≤ later) :
    Tracked Kind law jobId log later job :=
  { tracked with
    ready := fun enabled => (tracked.ready enabled).imp_left fun allowed =>
      allowed.later holds follows }

/-- Upkeep keeps what is kept. -/
theorem Tracked.upkept (holds : LawHolds externals config failoverReason Kind law) {nowMs : ℤ}
    {before after : CronJob} (tracked : Tracked Kind law jobId log clock before)
    (upkept : Upkept nowMs before after) (epoch : 0 ≤ clock) (follows : nowMs ≤ clock) :
    Tracked Kind law jobId log clock after where
  kind := by
    rcases upkept.schedule with same | ⟨everyMs, anchor, other, isBefore, isAfter⟩
    · rw [same]
      exact tracked.kind
    · rw [isAfter]
      exact holds.anchor everyMs anchor other (isBefore ▸ tracked.kind)
  noted result errors is := by
    rw [upkept.lastStatus, upkept.lastRunAtMs, upkept.lastDurationMs, upkept.consecutiveErrors]
    exact tracked.noted result errors is
  ready enabled := by
    rcases tracked.ready (upkept.enabled enabled) with allowed | ⟨next, isNext, allowed⟩
    · exact .inl allowed
    · rcases le_or_gt next clock with due | future
      · exact .inl (allowed.later holds due)
      · exact .inr ⟨next, upkept.next enabled next isNext (epoch.trans_lt future)
          (follows.trans_lt future), allowed⟩

/-- A job of which only the marker, the last error or the way it is enabled is written anew. -/
theorem Tracked.marked {before after : CronJob}
    (tracked : Tracked Kind law jobId log clock before)
    (sameSchedule : after.schedule = before.schedule)
    (sameStatus : after.state.lastStatus = before.state.lastStatus)
    (sameRun : after.state.lastRunAtMs = before.state.lastRunAtMs)
    (sameDuration : after.state.lastDurationMs = before.state.lastDurationMs)
    (sameErrors : after.state.consecutiveErrors = before.state.consecutiveErrors)
    (sameEnabled : isJobEnabled after = isJobEnabled before)
    (sameNext : after.state.nextRunAtMs = before.state.nextRunAtMs) :
    Tracked Kind law jobId log clock after where
  kind := sameSchedule ▸ tracked.kind
  noted result errors is := by
    rw [sameStatus, sameRun, sameDuration, sameErrors]
    exact tracked.noted result errors is
  ready enabled := by
    rw [sameNext]
    exact tracked.ready (sameEnabled ▸ enabled)

theorem Tracked.load (tracked : Tracked Kind law jobId log clock job) :
    Tracked Kind law jobId log clock (loadJob job) :=
  tracked.marked rfl rfl rfl rfl rfl rfl rfl

/-- A job that may be started now may be deferred. -/
theorem Tracked.defer (tracked : Tracked Kind law jobId log clock job) {next : ℤ}
    (allowed : AllowedAfter law jobId log next) :
    Tracked Kind law jobId log clock (job.withNextRunAtMs (some next)) :=
  { tracked with ready := fun _ => .inr ⟨next, rfl, allowed⟩ }

/-- A job whose next run is due may be started. -/
theorem Tracked.due (holds : LawHolds externals config failoverReason Kind law)
    (tracked : Tracked Kind law jobId log clock job) (enabled : isJobEnabled job = true)
    {next : ℤ} (isNext : job.state.nextRunAtMs = some next) (due : next ≤ clock) :
    AllowedAfter law jobId log clock := by
  rcases tracked.ready enabled with allowed | ⟨other, isOther, allowed⟩
  · exact allowed
  · obtain rfl := Option.some.inj (isNext.symm.trans isOther)
    exact allowed.later holds due

/-- Only the last result that was applied to a job matters. -/
theorem AllowedAfter.congr {later : List CronLogEntry} {time : ℤ}
    (allowed : AllowedAfter law jobId log time)
    (same : lastApplied jobId later = lastApplied jobId log) :
    AllowedAfter law jobId later time :=
  fun result errors is => allowed result errors (same.symm.trans is)

theorem Tracked.congr {later : List CronLogEntry} (tracked : Tracked Kind law jobId log clock job)
    (same : lastApplied jobId later = lastApplied jobId log) :
    Tracked Kind law jobId later clock job where
  kind := tracked.kind
  noted result errors is := tracked.noted result errors (same.symm.trans is)
  ready enabled := (tracked.ready enabled).imp (·.congr same)
    fun ⟨next, isNext, allowed⟩ => ⟨next, isNext, allowed.congr same⟩

/-- What a result leaves of a job is kept. -/
theorem Tracked.applied (holds : LawHolds externals config failoverReason Kind law) {nowMs : ℤ}
    {job left : CronJob} (tracked : Tracked Kind law jobId log clock job) {result : RunResult}
    (isLeft : applyJobResult externals config.toCronConfig failoverReason job result false nowMs =
      (left, false)) (follows : nowMs ≤ clock) :
    Tracked Kind law jobId
      (log ++ [.applied jobId result (left.state.consecutiveErrors.getD 0)]) clock left := by
  have run := applyJobResult_run externals config.toCronConfig failoverReason job result false nowMs
  rw [isLeft] at run
  obtain ⟨sameSchedule, lastStatus, lastRun, lastDuration, errors⟩ := run
  have last : lastApplied jobId
      (log ++ [.applied jobId result (left.state.consecutiveErrors.getD 0)]) =
        some (result, job.errorsAfter result.status) := by
    rw [lastApplied_append_applied, if_pos rfl, errors]
    rfl
  have allowedAt : ∀ {time : ℤ}, law result (job.errorsAfter result.status) time →
      AllowedAfter law jobId
        (log ++ [.applied jobId result (left.state.consecutiveErrors.getD 0)]) time := by
    intro time permits other count is
    obtain ⟨rfl, rfl⟩ := Prod.mk.inj (Option.some.inj (last.symm.trans is))
    exact permits
  exact {
    kind := sameSchedule ▸ tracked.kind
    noted := by
      intro other count is
      obtain ⟨rfl, rfl⟩ := Prod.mk.inj (Option.some.inj (last.symm.trans is))
      exact ⟨lastStatus, lastRun, lastDuration, errors⟩
    ready := fun enabled => (holds.applied job result nowMs left tracked.kind isLeft enabled).imp
      (fun permits => (allowedAt permits).later holds follows)
      fun ⟨next, isNext, permits⟩ => ⟨next, isNext, allowedAt permits⟩ }

/-- Errors in a row are counted on from the last result. -/
theorem Tracked.counts (tracked : Tracked Kind law jobId log clock job) :
    (lastApplied jobId log).elim 1 (fun last => last.2 + 1) ≤ job.errorsAfter .error := by
  unfold CronJob.errorsAfter
  rw [if_pos rfl]
  cases last : lastApplied jobId log with
  | none => exact Nat.le_add_left 1 _
  | some pair =>
    obtain ⟨-, -, -, errors⟩ := tracked.noted pair.1 pair.2 last
    rw [errors]
    exact le_rfl

end Tracked

end OpenClaw.Cron
