/-
This file is the jobs of the cron service and what it computes about them between runs: when a job
runs next, the upkeep of the stored jobs, and which of them a recompute may touch.

A store keeps its jobs by id, in the order of the file. Computing the next run of a job may throw,
and what is noted of that is part of the job; log entries and notices are left out.
-/

import OpenClaw.Base.OrderedMap
import OpenClaw.Cron.Schedule

namespace OpenClaw.Cron

open Text

/-! ### Jobs -/

inductive CronRunStatus
  | ok | error | skipped
  deriving DecidableEq

inductive CronSessionTarget
  | main | isolated | current
  | session (sessionId : String)
  deriving DecidableEq

inductive CronWakeMode
  | nextHeartbeat | now
  deriving DecidableEq

structure AgentTurn where
  message : String
  model : Option String := none
  fallbacks : Option (List String) := none
  thinking : Option String := none
  timeoutSeconds : Option ℚ := none
  allowUnsafeExternalContent : Option Bool := none
  externalContentSource : Option String := none
  lightContext : Option Bool := none
  toolsAllow : Option (List String) := none
  deriving DecidableEq

inductive CronPayload
  | systemEvent (text : String)
  | agentTurn (turn : AgentTurn)
  deriving DecidableEq

inductive CronDeliveryMode
  | none | announce | webhook
  deriving DecidableEq

/-- The mode of a failure destination or a failure alert. -/
inductive FailureMode
  | announce | webhook
  deriving DecidableEq

inductive ThreadId
  | number (value : ℚ)
  | text (value : String)
  deriving DecidableEq

structure CronFailureDestination where
  channel : Option String := none
  to' : Option String := none
  accountId : Option String := none
  mode : Option FailureMode := none
  deriving DecidableEq

structure CronDelivery where
  mode : CronDeliveryMode
  channel : Option String := none
  to' : Option String := none
  threadId : Option ThreadId := none
  accountId : Option String := none
  bestEffort : Option Bool := none
  failureDestination : Option CronFailureDestination := none
  deriving DecidableEq

structure CronFailureAlert where
  after : Option ℚ := none
  channel : Option String := none
  to' : Option String := none
  cooldownMs : Option ℚ := none
  mode : Option FailureMode := none
  accountId : Option String := none
  deriving DecidableEq

/-- The failure alerts of a job, which may be switched off. -/
inductive FailureAlertSetting
  | off
  | alert (settings : CronFailureAlert)
  deriving DecidableEq

inductive CronDeliveryStatus
  | delivered | notDelivered | unknown | notRequested
  deriving DecidableEq

structure CronJobState where
  nextRunAtMs : Option ℤ := none
  runningAtMs : Option ℤ := none
  lastRunAtMs : Option ℚ := none
  lastRunStatus : Option CronRunStatus := none
  lastStatus : Option CronRunStatus := none
  lastError : Option String := none
  lastErrorReason : Option String := none
  lastDurationMs : Option ℤ := none
  consecutiveErrors : Option ℕ := none
  lastFailureAlertAtMs : Option ℤ := none
  scheduleErrorCount : Option ℕ := none
  lastDeliveryStatus : Option CronDeliveryStatus := none
  lastDeliveryError : Option String := none
  lastDelivered : Option Bool := none
  deriving DecidableEq

structure CronJob where
  id : String
  agentId : Option String := none
  sessionKey : Option String := none
  name : String
  description : Option String := none
  /-- Legacy jobs have none. -/
  enabled : Option Bool := some true
  deleteAfterRun : Option Bool := none
  /-- Where it is a finite number. -/
  createdAtMs : Option ℚ := none
  updatedAtMs : ℤ := 0
  schedule : CronSchedule
  sessionTarget : CronSessionTarget
  wakeMode : CronWakeMode := .nextHeartbeat
  payload : CronPayload
  delivery : Option CronDelivery := none
  failureAlert : Option FailureAlertSetting := none
  state : CronJobState := {}
  deriving DecidableEq

def isJobEnabled (job : CronJob) : Bool := job.enabled.getD true

def hasScheduledNextRunAtMs (nextRunAtMs : Option ℤ) : Bool := nextRunAtMs.any (0 < ·)

theorem hasScheduledNextRunAtMs_iff (nextRunAtMs : Option ℤ) :
    hasScheduledNextRunAtMs nextRunAtMs = true ↔ ∃ next, nextRunAtMs = some next ∧ 0 < next := by
  rw [hasScheduledNextRunAtMs, Option.any_eq_true]
  simp only [decide_eq_true_eq]

/-! ### Next runs -/

section NextRuns

variable (externals : Externals)

/-- The staggered slot after a time, from a cursor on that is moved a few times at most. -/
def nextStaggered (schedule : CronSchedule) (offsetMs nowMs : ℤ) :
    ℕ → ℤ → Except String (Option ℤ)
  | 0, _ => pure none
  | attempts + 1, cursorMs => do
    match ← computeNextRunAtMs externals schedule cursorMs with
    | none => pure none
    | some baseNext =>
      if nowMs < baseNext + offsetMs then pure (some (baseNext + offsetMs))
      else nextStaggered schedule offsetMs nowMs attempts (max (cursorMs + 1) (baseNext + 1000))

/-- The staggered slot before a time, likewise. -/
def previousStaggered (schedule : CronSchedule) (offsetMs nowMs : ℤ) :
    ℕ → ℤ → Except String (Option ℤ)
  | 0, _ => pure none
  | attempts + 1, cursorMs => do
    match ← computePreviousRunAtMs externals schedule cursorMs with
    | none => pure none
    | some basePrevious =>
      if basePrevious + offsetMs ≤ nowMs then pure (some (basePrevious + offsetMs))
      else previousStaggered schedule offsetMs nowMs attempts (max 0 (basePrevious - 1000))

/-- The offset of a job within its stagger window. -/
def CronJob.offsetMs (job : CronJob) : ℤ :=
  match job.schedule with
  | .cron expr _ _ staggerMs =>
    resolveStableCronOffsetMs externals job.id (resolveCronStaggerMs externals expr staggerMs)
  | _ => 0

def computeStaggeredCronNextRunAtMs (job : CronJob) (nowMs : ℤ) : Except String (Option ℤ) :=
  if job.offsetMs externals ≤ 0 then computeNextRunAtMs externals job.schedule nowMs
  else nextStaggered externals job.schedule (job.offsetMs externals) nowMs 4
    (max 0 (nowMs - job.offsetMs externals))

def computeStaggeredCronPreviousRunAtMs (job : CronJob) (nowMs : ℤ) : Except String (Option ℤ) :=
  if job.offsetMs externals ≤ 0 then computePreviousRunAtMs externals job.schedule nowMs
  else previousStaggered externals job.schedule (job.offsetMs externals) nowMs 4
    (max 0 (nowMs - job.offsetMs externals))

def resolveEveryAnchorMs (anchorMs : Option ScheduleNumber) (fallbackAnchorMs : ℚ) : ℤ :=
  max 0 ⌊(coerceFiniteScheduleNumber externals anchorMs).getD fallbackAnchorMs⌋

/-- The anchor of an interval schedule: its own, or when the job was created. -/
def CronJob.anchorMs (job : CronJob) (anchorMs : Option ScheduleNumber) (nowMs : ℤ) : ℤ :=
  resolveEveryAnchorMs externals anchorMs (job.createdAtMs.getD nowMs)

def computeJobNextRunAtMs (job : CronJob) (nowMs : ℤ) : Except String (Option ℤ) :=
  if !isJobEnabled job then .ok none
  else match job.schedule with
    | .every everyMs anchorMs =>
      match coerceFiniteScheduleNumber externals everyMs with
      | none => .ok none
      | some raw =>
        match (job.state.lastRunAtMs.map fun lastRunAtMs => ⌊lastRunAtMs⌋ + wholeEveryMs raw).filter
            (nowMs < ·) with
        | some nextFromLastRun => .ok (some nextFromLastRun)
        | none => computeNextRunAtMs externals
            (.every (some (.number (wholeEveryMs raw)))
              (some (.number (job.anchorMs externals anchorMs nowMs)))) nowMs
    | .at' atMs time =>
      -- A one-shot job stays due until it has finished well, unless it is set to a later time.
      match job.state.lastRunAtMs.filter fun last =>
          job.state.lastStatus = some .ok && last ≠ 0 with
      | some lastRunAtMs =>
        .ok ((resolveAtMs externals atMs time).filter fun atMs => lastRunAtMs < atMs)
      | none => .ok (resolveAtMs externals atMs time)
    | .cron _ _ _ _ => do
      match ← computeStaggeredCronNextRunAtMs externals job nowMs with
      | some next => pure (some next)
      | none => computeStaggeredCronNextRunAtMs externals job (nextSecondMs nowMs)

def computeJobPreviousRunAtMs (job : CronJob) (nowMs : ℤ) : Except String (Option ℤ) :=
  if !isJobEnabled job || !job.schedule.isCron then .ok none
  else computeStaggeredCronPreviousRunAtMs externals job nowMs

end NextRuns

/-! ### Upkeep -/

def MAX_SCHEDULE_ERRORS : ℕ := 3

/-- After a few errors of its schedule in a row a job is disabled. -/
def recordScheduleComputeError (job : CronJob) (err : String) : CronJob :=
  let errorCount := job.state.scheduleErrorCount.getD 0 + 1
  { job with
    enabled := if MAX_SCHEDULE_ERRORS ≤ errorCount then some false else job.enabled
    state := { job.state with
      scheduleErrorCount := some errorCount
      nextRunAtMs := none
      lastError := some ("schedule error: " ++ err) } }

def STUCK_RUN_MS : ℤ := 2 * 60 * 60 * 1000

/-- A job after some upkeep, and whether that has changed it. -/
structure Upkeep where
  job : CronJob
  changed : Bool

section Upkeep

variable (externals : Externals)

/-- The anchor of an interval schedule is written down. -/
def normalizeAnchor (job : CronJob) (nowMs : ℤ) : Upkeep :=
  match job.schedule with
  | .every everyMs anchorMs =>
    let normalizedAnchorMs := job.anchorMs externals anchorMs nowMs
    if anchorMs = some (.number normalizedAnchorMs) then ⟨job, false⟩
    else ⟨{ job with schedule := .every everyMs (some (.number normalizedAnchorMs)) }, true⟩
  | _ => ⟨job, false⟩

/-- A disabled job neither runs nor will. -/
def clearDisabled (job : CronJob) : Upkeep :=
  ⟨{ job with state := { job.state with nextRunAtMs := none, runningAtMs := none } },
    job.state.nextRunAtMs.isSome || job.state.runningAtMs.isSome⟩

/-- What is no time is no next run, and a marker that is too old is cleared. -/
def clearStale (job : CronJob) (nowMs : ℤ) : Upkeep :=
  let unscheduled := !hasScheduledNextRunAtMs job.state.nextRunAtMs && job.state.nextRunAtMs.isSome
  let stuck := job.state.runningAtMs.any fun runningAt => STUCK_RUN_MS < nowMs - runningAt
  ⟨{ job with state := { job.state with
      nextRunAtMs := if unscheduled then none else job.state.nextRunAtMs
      runningAtMs := if stuck then none else job.state.runningAtMs } }, unscheduled || stuck⟩

/-- What `walkSchedulableJobs` does with a job: `normalizeJobTickState`, and a function for a job
that is enabled. -/
def walkJob (fn : CronJob → Upkeep) (nowMs : ℤ) (job : CronJob) : Upkeep :=
  let anchored := normalizeAnchor externals job nowMs
  if !isJobEnabled anchored.job then
    let cleared := clearDisabled anchored.job
    ⟨cleared.job, anchored.changed || cleared.changed⟩
  else
    let cleared := clearStale anchored.job nowMs
    let done := fn cleared.job
    ⟨done.job, anchored.changed || cleared.changed || done.changed⟩

def recomputeJobNextRunAtMs (nowMs : ℤ) (job : CronJob) : Upkeep :=
  match computeJobNextRunAtMs externals job nowMs with
  | .ok newNext =>
    let hadErrors := job.state.scheduleErrorCount.any (· ≠ 0)
    ⟨{ job with state := { job.state with
        nextRunAtMs := newNext
        scheduleErrorCount := if hadErrors then none else job.state.scheduleErrorCount } },
      decide (job.state.nextRunAtMs ≠ newNext) || hadErrors⟩
  | .error err => ⟨recordScheduleComputeError job err, true⟩

/-- What `recomputeNextRuns` does with an enabled job: a next run that is missing or due is
computed again. -/
def recomputeDue (nowMs : ℤ) (job : CronJob) : Upkeep :=
  if job.state.nextRunAtMs.all fun next => next ≤ 0 || next ≤ nowMs then
    recomputeJobNextRunAtMs externals nowMs job
  else ⟨job, false⟩

/-- Whether the slot that a job waits for is one that it has been started for. -/
def alreadyExecutedSlot (job : CronJob) (next : ℤ) : Bool :=
  job.state.lastRunAtMs.any fun lastRun => (next : ℚ) ≤ lastRun

/-- What `recomputeNextRunsForMaintenance` does with an enabled job: a missing next run is
computed, and one that is due only where it may be and its slot has been executed. -/
def recomputeMissing (recomputeExpired : Bool) (nowMs : ℤ) (job : CronJob) : Upkeep :=
  match job.state.nextRunAtMs.filter (0 < ·) with
  | none => recomputeJobNextRunAtMs externals nowMs job
  | some next =>
    if recomputeExpired && next ≤ nowMs && job.state.runningAtMs.isNone &&
        alreadyExecutedSlot job next then
      recomputeJobNextRunAtMs externals nowMs job
    else ⟨job, false⟩

/-! ### Stores -/

/-- The jobs of a store, by id. -/
abbrev CronStore := OrderedMap String CronJob

def walkSchedulableJobs (fn : CronJob → Upkeep) (nowMs : ℤ) (store : CronStore) :
    CronStore × Bool :=
  (store.mapValues fun _ job => (walkJob externals fn nowMs job).job,
    store.values.any fun job => (walkJob externals fn nowMs job).changed)

def recomputeNextRuns (nowMs : ℤ) (store : CronStore) : CronStore × Bool :=
  walkSchedulableJobs externals (recomputeDue externals nowMs) nowMs store

def recomputeNextRunsForMaintenance (recomputeExpired : Bool) (nowMs : ℤ) (store : CronStore) :
    CronStore × Bool :=
  walkSchedulableJobs externals (recomputeMissing externals recomputeExpired nowMs) nowMs store

end Upkeep

end OpenClaw.Cron
