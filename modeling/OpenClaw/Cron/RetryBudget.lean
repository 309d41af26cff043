/-
This file says that a one-shot job is started once and then once for each retry that its budget
allows, each after its backoff, and that it is removed or disabled when no retry is asked for.

The budget is the errors in a row, which are counted on from result to result. Upkeep may put the
time of the schedule back, but neither the count nor whether the job is enabled.
-/

import OpenClaw.Cron.PairedRuns

namespace OpenClaw.Cron

open Machine

/-! ### The law -/

/-- Whether a result asks for a retry: a transient error within the budget. -/
def asksForRetry (config : CronConfig) (result : RunResult) (errors : ℕ) : Bool :=
  result.status = .error &&
    isTransientCronError result.error (resolveRetryConfig config).retryOn &&
    errors ≤ (resolveRetryConfig config).maxAttempts

/-- A job is only started again for a retry, after its backoff. -/
def retryLaw (config : CronConfig) : StartLaw := fun result errors time =>
  asksForRetry config result errors = true ∧
    result.endedAt + errorBackoffMs errors (resolveRetryConfig config).backoffMs ≤ time

def IsOneShot (schedule : CronSchedule) : Prop := schedule.isAt = true

theorem retryLaw_holds (externals : Externals) (config : SchedulerConfig)
    (failoverReason : String → Option String) :
    LawHolds externals config failoverReason IsOneShot (retryLaw config.toCronConfig) where
  anchor _ _ _ isAt := nomatch isAt
  later _ _ _ _ permits follows := ⟨permits.1, permits.2.trans follows⟩
  applied job result nowMs left isAt isLeft enabled := by
    rw [applyJobResult_of_isAt externals _ failoverReason isAt] at isLeft
    split at isLeft
    · nomatch (Prod.mk.inj isLeft).2
    · split at isLeft
      next retries =>
        obtain ⟨rfl, -⟩ := Prod.mk.inj isLeft
        have failed : result.status = .error := by
          unfold CronJob.retries at retries
          simp only [Bool.and_eq_true, decide_eq_true_eq] at retries
          exact retries.1.1
        rw [failed]
        exact .inr ⟨_, rfl, retries, le_rfl⟩
      next =>
        obtain ⟨rfl, -⟩ := Prod.mk.inj isLeft
        nomatch enabled

/-- Slots of one-shot jobs are not replayed. -/
theorem oneShots_replay (externals : Externals) (config : CronConfig) (jobId : String)
    (guard : CronServiceState → SchedulerEvent → Prop) :
    ReplaysKeep externals IsOneShot (retryLaw config) jobId guard := by
  intro state nowMs job _ _ tracked replayed
  unfold isReplayed at replayed
  simp only [Bool.and_eq_true] at replayed
  have isAt : job.schedule.isAt = true := tracked.kind
  have isCron : job.schedule.isCron = true := replayed.1.1.1.2
  cases schedule : job.schedule with
  | at' atMs time => rw [schedule] at isCron; nomatch isCron
  | every everyMs anchorMs => rw [schedule] at isCron; nomatch isCron
  | cron expr legacyExpr tz staggerMs => rw [schedule] at isAt; nomatch isAt

/-! ### The budget -/

def isStartOf (jobId : String) : CronLogEntry → Bool
  | .started id _ => id = jobId
  | .applied _ _ _ => false

/-- How often a job has been started. -/
def startsOf (jobId : String) (log : List CronLogEntry) : ℕ := log.countP (isStartOf jobId)

/-- How many starts a log may have: none more than errors in a row, and one that is open. -/
structure CountsStarts (maxAttempts : ℤ) (jobId : String) (log : List CronLogEntry) : Prop where
  budget : (startsOf jobId log : ℤ) ≤ 1 + max 0 maxAttempts
  first : lastApplied jobId log = none → openRun jobId log = none → startsOf jobId log = 0
  ended : ∀ result errors, lastApplied jobId log = some (result, errors) →
    openRun jobId log = none → result.status = .error → startsOf jobId log ≤ errors
  running : openRun jobId log ≠ none →
    startsOf jobId log ≤ (lastApplied jobId log).elim 1 fun last => last.2 + 1

theorem CountsStarts.congr {maxAttempts : ℤ} {jobId : String} {log later : List CronLogEntry}
    (counts : CountsStarts maxAttempts jobId log)
    (sameStarts : startsOf jobId later = startsOf jobId log)
    (sameOpen : openRun jobId later = openRun jobId log)
    (sameLast : lastApplied jobId later = lastApplied jobId log) :
    CountsStarts maxAttempts jobId later where
  budget := sameStarts ▸ counts.budget
  first none closed := sameStarts.trans (counts.first (sameLast ▸ none) (sameOpen ▸ closed))
  ended result errors last closed failed := sameStarts ▸
    counts.ended result errors (sameLast ▸ last) (sameOpen ▸ closed) failed
  running isOpen := sameStarts ▸ sameLast ▸ counts.running (sameOpen ▸ isOpen)

/-- Where every start is for a retry, and starts and results are paired, the budget is kept. -/
theorem countsStarts {config : CronConfig} {jobId : String} {log : List CronLogEntry}
    (kept : EachEntry (EntryKept (retryLaw config) jobId) log)
    (paired : EachEntry (EntryPaired jobId) log) :
    CountsStarts (resolveRetryConfig config).maxAttempts jobId log := by
  induction log using List.reverseRecOn with
  | nil => exact ⟨by simp [startsOf]; omega, fun _ _ => rfl, nofun, fun isOpen => absurd rfl isOpen⟩
  | append_singleton log entry inductionHypothesis =>
    have counts := inductionHypothesis kept.earlier paired.earlier
    have entryKept := kept.last
    have entryPaired := paired.last
    cases entry with
    | started id startedAt =>
      by_cases own : id = jobId
      · have closed := entryPaired own
        have allowed := entryKept own
        have isOpen : openRun jobId (log ++ [.started id startedAt]) = some startedAt := by
          rw [openRun_append_started, if_pos own]
        have oneMore : startsOf jobId (log ++ [.started id startedAt]) = startsOf jobId log + 1 := by
          simp [startsOf, isStartOf, own]
        have before : startsOf jobId log + 1 ≤
            (lastApplied jobId log).elim 1 (fun last => last.2 + 1) ∧
            (startsOf jobId log + 1 : ℤ) ≤ 1 + max 0 (resolveRetryConfig config).maxAttempts := by
          cases last : lastApplied jobId log with
          | none =>
            rw [counts.first last closed]
            exact ⟨le_rfl, by omega⟩
          | some pair =>
            obtain ⟨asks, -⟩ := allowed pair.1 pair.2 last
            unfold asksForRetry at asks
            simp only [Bool.and_eq_true, decide_eq_true_eq] at asks
            have withinErrors := counts.ended pair.1 pair.2 last closed asks.1.1
            exact ⟨Nat.succ_le_succ withinErrors, by omega⟩
        exact {
          budget := by rw [oneMore]; exact_mod_cast before.2
          first := fun _ none => absurd (isOpen.symm.trans none) nofun
          ended := fun _ _ _ none => absurd (isOpen.symm.trans none) nofun
          running := fun _ => by
            rw [oneMore, lastApplied_append_started]
            exact before.1 }
      · exact counts.congr (by simp [startsOf, isStartOf, own])
          (by rw [openRun_append_started, if_neg own]) (lastApplied_append_started _ _ _ _)
    | applied id result errors =>
      have sameStarts : startsOf jobId (log ++ [.applied id result errors]) =
          startsOf jobId log := by
        simp [startsOf, isStartOf]
      by_cases own : id = jobId
      · have closed : openRun jobId (log ++ [.applied id result errors]) = none := by
          rw [openRun_append_applied, if_pos own]
        have last : lastApplied jobId (log ++ [.applied id result errors]) =
            some (result, errors) := by
          rw [lastApplied_append_applied, if_pos own]
        have wasOpen : openRun jobId log ≠ none := by
          rw [entryPaired own]
          exact nofun
        exact {
          budget := sameStarts ▸ counts.budget
          first := fun none => absurd (last.symm.trans none) nofun
          ended := by
            intro other count is _ failed
            obtain ⟨rfl, rfl⟩ := Prod.mk.inj (Option.some.inj (last.symm.trans is))
            rw [sameStarts]
            exact (counts.running wasOpen).trans (entryKept own failed)
          running := fun isOpen => absurd closed isOpen }
      · exact counts.congr sameStarts (by rw [openRun_append_applied, if_neg own])
          (by rw [lastApplied_append_applied, if_neg own])

/-! ### One-shot jobs -/

/-- What is promised of a one-shot job: the budget of its starts, the backoff before each retry,
and that it is removed or disabled once no retry is asked for. -/
structure KeepsRetryBudget (config : CronConfig) (jobId : String) (state : CronServiceState) :
    Prop where
  budget : (startsOf jobId state.log : ℤ) ≤ 1 + max 0 (resolveRetryConfig config).maxAttempts
  retried : ∀ before startedAt after, state.log = before ++ .started jobId startedAt :: after →
    ∀ result errors, lastApplied jobId before = some (result, errors) →
      asksForRetry config result errors = true ∧
        result.endedAt + errorBackoffMs errors (resolveRetryConfig config).backoffMs ≤ startedAt
  done : ∀ result errors, lastApplied jobId state.log = some (result, errors) →
    asksForRetry config result errors = false →
      (∀ job, state.file.get jobId = some job → isJobEnabled job = false) ∧
        ∀ store job, state.store = some store → store.get jobId = some job →
          isJobEnabled job = false

/-- A job that is tracked is disabled once no retry is asked for. -/
theorem Tracked.disabled {config : CronConfig} {jobId : String} {log : List CronLogEntry}
    {clock : ℤ} {job : CronJob} (tracked : Tracked IsOneShot (retryLaw config) jobId log clock job)
    {result : RunResult} {errors : ℕ} (last : lastApplied jobId log = some (result, errors))
    (done : asksForRetry config result errors = false) : isJobEnabled job = false := by
  refine Bool.eq_false_of_not_eq_true fun enabled => ?_
  rcases tracked.ready enabled with allowed | ⟨next, -, allowed⟩
  · exact absurd (done.symm.trans (allowed result errors last).1) nofun
  · exact absurd (done.symm.trans (allowed result errors last).1) nofun

/-- One-shot jobs keep their retry budget in every run that is not cut off in the middle of a run
of the job. -/
theorem one_shots_keep_their_budget (externals : Externals) (config : SchedulerConfig)
    (failoverReason : String → Option String) (jobId : String) (file : CronStore) (clock : ℤ)
    (epoch : 0 ≤ clock) (isAt : ∀ job, file.get jobId = some job → job.schedule.isAt = true)
    (events : List SchedulerEvent) (final : CronServiceState)
    (run : Steps (schedulerStep externals config failoverReason)
      (fun state event => uninterrupted jobId state event = true) (.fresh file clock) events
      final) : KeepsRetryBudget config.toCronConfig jobId final := by
  have tracks : Tracks IsOneShot (retryLaw config.toCronConfig) jobId final :=
    (Tracks.fresh epoch isAt).run (retryLaw_holds externals config failoverReason)
      (oneShots_replay externals config.toCronConfig jobId _) run
  exact {
    budget := (countsStarts tracks.kept (PairedRuns.run run).paired).budget
    retried := fun before startedAt after isLog => tracks.kept before _ after isLog rfl
    done := fun _ _ last done => ⟨fun job stored => (tracks.file job stored).disabled last done,
      fun store job isStore stored => (tracks.store store isStore job stored).disabled last done⟩ }

/-! ### A job that is retried once -/

def oneShotFile : CronStore := (∅ : CronStore).set "once" {
  id := "once"
  name := "once"
  schedule := .at' (some (.number 60000)) none
  sessionTarget := .main
  payload := .systemEvent "tick"
  state := { nextRunAtMs := some 60000 } }

def quietExternals : Externals where
  newCron _ _ := .error "RangeError"
  timeZone := "UTC"
  dateParse _ := none
  toNumber _ := none
  digest _ := 0

/-- The job times out twice, and has one retry. -/
def retriedRun : List SchedulerEvent :=
  [.clearMarkers, .plan 1000, .finishStart 1000, .tick 60000 60000, .startRun "once" 60000,
    .endRun "once" 60000 { status := .error, error := some "timeout" } 61000,
    .finishTick 61000 61000, .tick 91000 91000, .startRun "once" 91000,
    .endRun "once" 91000 { status := .error, error := some "timeout" } 92000,
    .finishTick 92000 92000]

theorem one_shot_is_retried_once :
    ∃ final, Steps (schedulerStep quietExternals { maxAttempts := some 1 } fun _ => none)
      (fun state event => uninterrupted "once" state event = true) (.fresh oneShotFile 0)
      retriedRun final ∧ startsOf "once" final.log = 2 ∧
      KeepsRetryBudget { maxAttempts := some 1 } "once" final := by
  have evaluates : (executeUnder
      (schedulerStep quietExternals { maxAttempts := some 1 } fun _ => none)
      (uninterrupted "once") (.fresh oneShotFile 0) retriedRun).map (fun final =>
        startsOf "once" final.log) = some 2 := by
    decide +kernel
  obtain ⟨final, executes, twice⟩ := Option.map_eq_some_iff.1 evaluates
  have run := steps_of_executeUnder executes
  refine ⟨final, run, twice, ?_⟩
  refine one_shots_keep_their_budget quietExternals { maxAttempts := some 1 } _ "once" oneShotFile
    0 le_rfl ?_ _ final run
  intro job stored
  obtain rfl := Option.some.inj ((OrderedMap.get_set_self _ _ _).symm.trans stored)
  rfl

end OpenClaw.Cron
