/-
This file says that a recurring job that has failed is not started before its backoff has passed,
counted from the end of the run.

The result of a run sets the next run behind the backoff, and a start needs a next run that is due.
The replay of missed slots after a restart does not: it counts the backoff from the start of the
run, so after a run that was longer than a few moments it may start the job too early. Where each
job that is only replayed has had its backoff, no run starts one early.
-/

import OpenClaw.Cron.TrackedRuns

namespace OpenClaw.Cron

open Machine

/-! ### The law -/

/-- A failed run is followed by its backoff. -/
def backoffLaw : StartLaw := fun result errors time =>
  result.status = .error →
    result.endedAt + errorBackoffMs errors DEFAULT_BACKOFF_SCHEDULE_MS ≤ time

def Recurs (schedule : CronSchedule) : Prop := schedule.isAt = false

theorem errorBackoffMs_max_one (errors : ℕ) (scheduleMs : List ℤ) :
    errorBackoffMs (max 1 errors) scheduleMs = errorBackoffMs errors scheduleMs := by
  unfold errorBackoffMs
  rw [show max 1 errors - 1 = errors - 1 by omega]

theorem backoffLaw_holds (externals : Externals) (config : SchedulerConfig)
    (failoverReason : String → Option String) :
    LawHolds externals config failoverReason Recurs backoffLaw where
  anchor _ _ _ _ := rfl
  later _ _ _ _ permits follows failed := (permits failed).trans follows
  applied job result nowMs left recurs isLeft enabled := by
    obtain ⟨-, -, sameEnabled, -, -, -⟩ :=
      notedJob_frame config.toCronConfig failoverReason job result nowMs
    obtain ⟨-, -, -, -, errors⟩ := notedJob_run config.toCronConfig failoverReason job result nowMs
    obtain ⟨-, -, sameErrors, -, -, -⟩ := computeNaturalNext_frame externals
      (notedJob config.toCronConfig failoverReason job result nowMs) job.state.lastRunAtMs false
      result.endedAt
    rw [applyJobResult_of_recurring externals _ failoverReason recurs] at isLeft
    dsimp only at isLeft
    split at isLeft
    next off =>
      obtain ⟨rfl, -⟩ := Prod.mk.inj isLeft
      exact absurd (off.symm.trans ((congrArg (Option.getD · true) sameEnabled).symm.trans enabled))
        nofun
    next =>
      split at isLeft
      next failed =>
        obtain ⟨rfl, -⟩ := Prod.mk.inj isLeft
        obtain ⟨-, next, isNext, after⟩ := scheduleBackoff_spec errors sameErrors result.endedAt
        exact .inr ⟨next, isNext, fun _ => after⟩
      next succeeded => exact .inl fun failed => absurd failed succeeded

/-! ### Replays -/

/-- Whether the backoff of a job has passed, counted from the end of its last run. -/
def CronJob.backoffPassed (job : CronJob) (nowMs : ℤ) : Bool :=
  job.state.lastStatus ≠ some .error || job.state.lastRunAtMs.all fun lastRunAtMs =>
    lastRunAtMs + job.state.lastDurationMs.getD 0 +
      errorBackoffMs job.backoffErrors DEFAULT_BACKOFF_SCHEDULE_MS ≤ (nowMs : ℚ)

/-- A restart only replays a slot of a job whose backoff has passed. -/
def replaysAfterBackoff (externals : Externals) (jobId : String) (state : CronServiceState) :
    SchedulerEvent → Bool
  | .plan nowMs => (state.loaded.get jobId).all fun job =>
      !isReplayed externals nowMs job || job.backoffPassed nowMs
  | _ => true

theorem replaysAfterBackoff_keep (externals : Externals) (jobId : String) :
    ReplaysKeep externals Recurs backoffLaw jobId
      fun state event => replaysAfterBackoff externals jobId state event = true := by
  intro state nowMs job admitted stored tracked replayed result errors last failed
  obtain ⟨lastStatus, lastRun, lastDuration, count⟩ := tracked.noted result errors last
  unfold replaysAfterBackoff at admitted
  dsimp only at admitted
  rw [stored, Option.all_some, replayed] at admitted
  have passed : job.backoffPassed nowMs = true := admitted
  unfold CronJob.backoffPassed CronJob.backoffErrors at passed
  rw [lastStatus, failed, lastRun, lastDuration, count] at passed
  simp only [Option.all_some, Option.getD_some, ne_eq, not_true_eq_false, decide_false,
    Bool.false_or, decide_eq_true_eq] at passed
  rw [errorBackoffMs_max_one] at passed
  have whole : result.startedAt + max 0 (result.endedAt - result.startedAt) +
      errorBackoffMs errors DEFAULT_BACKOFF_SCHEDULE_MS ≤ nowMs := by exact_mod_cast passed
  have ends : result.endedAt ≤ result.startedAt + max 0 (result.endedAt - result.startedAt) := by
    omega
  omega

/-! ### Error backoff -/

/-- Every start of a job after an error comes behind its backoff. -/
def RespectsBackoff (jobId : String) (log : List CronLogEntry) : Prop :=
  ∀ before startedAt after, log = before ++ .started jobId startedAt :: after →
    ∀ result errors, lastApplied jobId before = some (result, errors) → result.status = .error →
      result.endedAt + errorBackoffMs errors DEFAULT_BACKOFF_SCHEDULE_MS ≤ startedAt

/-- The error backoff of a recurring job is respected in every run in which only jobs whose
backoff has passed are replayed, however often the service restarts. -/
theorem backoff_is_respected (externals : Externals) (config : SchedulerConfig)
    (failoverReason : String → Option String) (jobId : String) (file : CronStore) (clock : ℤ)
    (epoch : 0 ≤ clock)
    (recurs : ∀ job, file.get jobId = some job → job.schedule.isAt = false)
    (events : List SchedulerEvent) (final : CronServiceState)
    (run : Steps (schedulerStep externals config failoverReason)
      (fun state event => replaysAfterBackoff externals jobId state event = true)
      (.fresh file clock) events final) :
    RespectsBackoff jobId final.log := by
  have tracks : Tracks Recurs backoffLaw jobId final :=
    (Tracks.fresh epoch recurs).run (backoffLaw_holds externals config failoverReason)
      (replaysAfterBackoff_keep externals jobId) run
  intro before startedAt after isLog result errors last
  exact tracks.kept before _ after isLog rfl result errors last

/-! ### A job of every minute -/

def minutelyExternals : Externals where
  newCron _ _ := .ok {
    nextRun := fun cursor => .ok (some ((cursor / 60000 + 1) * 60000))
    previousRun := fun cursor => .ok (some ((cursor - 1) / 60000 * 60000)) }
  timeZone := "UTC"
  dateParse _ := none
  toNumber _ := none
  digest _ := 0

def minutelyFile : CronStore := (∅ : CronStore).set "minutely" {
  id := "minutely"
  name := "minutely"
  schedule := .cron (some "* * * * *") none none none
  sessionTarget := .main
  payload := .systemEvent "tick"
  state := { nextRunAtMs := some 60000 } }

/-- The job fails, the service is started again at some time, and the job is started. -/
def restartedRun (endedAt restartedAt : ℤ) : List SchedulerEvent :=
  [.clearMarkers, .plan 60000, .startRun "minutely" 60000,
    .endRun "minutely" 60000 { status := .error } endedAt, .finishCatchup endedAt endedAt,
    .finishStart endedAt, .restart, .clearMarkers, .plan restartedAt,
    .startRun "minutely" restartedAt]

/-- After ten seconds and a restart behind the backoff. -/
theorem backoff_is_respected_minutely :
    ∃ final, Steps (schedulerStep minutelyExternals {} fun _ => none)
      (fun state event => replaysAfterBackoff minutelyExternals "minutely" state event = true)
      (.fresh minutelyFile 60000) (restartedRun 70000 121000) final ∧
      final.log = [.started "minutely" 60000,
        .applied "minutely" { status := .error, startedAt := 60000, endedAt := 70000 } 1,
        .started "minutely" 121000] ∧ RespectsBackoff "minutely" final.log := by
  have evaluates : (executeUnder (schedulerStep minutelyExternals {} fun _ => none)
      (replaysAfterBackoff minutelyExternals "minutely") (.fresh minutelyFile 60000)
      (restartedRun 70000 121000)).map CronServiceState.log = some [.started "minutely" 60000,
        .applied "minutely" { status := .error, startedAt := 60000, endedAt := 70000 } 1,
        .started "minutely" 121000] := by
    decide +kernel
  obtain ⟨final, executes, isLog⟩ := Option.map_eq_some_iff.1 evaluates
  have run := steps_of_executeUnder executes
  refine ⟨final, run, isLog, ?_⟩
  refine backoff_is_respected minutelyExternals {} _ "minutely" minutelyFile 60000 (by decide) ?_
    _ final run
  intro job stored
  obtain rfl := Option.some.inj ((OrderedMap.get_set_self _ _ _).symm.trans stored)
  rfl

/-- After a run of almost a minute, a restart replays a slot within the backoff. -/
theorem slot_is_replayed_within_backoff :
    ¬ ∀ externals config failoverReason jobId file clock, 0 ≤ clock →
      (∀ job, file.get jobId = some job → job.schedule.isAt = false) →
      ∀ events final, Steps (schedulerStep externals config failoverReason) Unguarded
        (.fresh file clock) events final → RespectsBackoff jobId final.log := by
  intro always
  have evaluates : (execute (schedulerStep minutelyExternals {} fun _ => none)
      (.fresh minutelyFile 60000) (restartedRun 119000 121000)).map CronServiceState.log =
        some [.started "minutely" 60000,
          .applied "minutely" { status := .error, startedAt := 60000, endedAt := 119000 } 1,
          .started "minutely" 121000] := by
    decide +kernel
  obtain ⟨final, executes, isLog⟩ := Option.map_eq_some_iff.1 evaluates
  have respects := always minutelyExternals {} (fun _ => none) "minutely" minutelyFile 60000
    (by decide) (by
      intro job stored
      obtain rfl := Option.some.inj ((OrderedMap.get_set_self _ _ _).symm.trans stored)
      rfl) _ final (steps_of_execute executes)
  rw [isLog] at respects
  have early := respects [.started "minutely" 60000,
    .applied "minutely" { status := .error, startedAt := 60000, endedAt := 119000 } 1] 121000 []
    rfl _ 1 rfl rfl
  exact absurd early (by decide)

end OpenClaw.Cron
