/-
This file is the scheduler of the cron service: its start with the catch-up of missed runs, the
ticks of its timer, and the runs of jobs between the sections that hold the store lock.

A section is one step; the jobs that it has reserved are then started and end in steps of their
own. The file and the jobs in memory are kept apart, for a tick reads the file again and a restart
forgets the rest. The clock does not go back, and when the timer fires is left open. Beside the
source stands the log of what was started and of the results that were applied.
-/

import OpenClaw.Base.Steps
import OpenClaw.Cron.Results

namespace OpenClaw.Cron

/-! ### Runs -/

inductive RunPhase
  | waiting
  | executing (startedAt : ℤ)
  | ended (result : RunResult)
  deriving DecidableEq

/-- A run that a job has been reserved for. -/
structure CronRun where
  jobId : String
  phase : RunPhase := .waiting
  deriving DecidableEq

def CronRun.result (run : CronRun) : Option RunResult :=
  match run.phase with
  | .ended result => some result
  | _ => none

/-- What an execution reports. -/
structure CronRunOutcome where
  status : CronRunStatus
  error : Option String := none
  delivered : Option Bool := none
  deriving DecidableEq

/-- Where the service stands: in one of the sections of `start`, or started, with the runs of a
tick that is executing. -/
inductive ServicePhase
  | loading
  | planning (interruptedOneShotIds : List String)
  | catchingUp (runs : List CronRun) (deferredJobIds : List String)
  | finishing
  | started (tick : Option (List CronRun))
  deriving DecidableEq

inductive CronLogEntry
  | started (jobId : String) (startedAt : ℤ)
  | applied (jobId : String) (result : RunResult) (consecutiveErrors : ℕ)
  deriving DecidableEq

structure CronServiceState where
  file : CronStore
  store : Option CronStore := none
  clock : ℤ
  phase : ServicePhase := .loading
  log : List CronLogEntry := []
  deriving DecidableEq

structure SchedulerConfig extends CronConfig where
  maxMissedJobsPerRestart : Option ℤ := none
  missedJobStaggerMs : Option ℤ := none
  deriving DecidableEq

def DEFAULT_MISSED_JOB_STAGGER_MS : ℤ := 5000
def DEFAULT_MAX_MISSED_JOBS_PER_RESTART : ℤ := 5

/-! ### Stores -/

/-- Legacy jobs are enabled when they are loaded. -/
def loadJob (job : CronJob) : CronJob := { job with enabled := some (job.enabled.getD true) }

def loadCronStore (file : CronStore) : CronStore := file.mapValues fun _ job => loadJob job

def clearRunningMarker (job : CronJob) : CronJob :=
  { job with state := { job.state with runningAtMs := none } }

/-- A job is reserved under the lock before it is executed outside it. -/
def reserveJob (nowMs : ℤ) (job : CronJob) : CronJob :=
  { job with state := { job.state with runningAtMs := some nowMs, lastError := none } }

def markStarted (startedAt : ℤ) (job : CronJob) : CronJob :=
  { job with state := { job.state with runningAtMs := some startedAt } }

/-- A function is applied to the jobs of some ids. -/
def updateJobs (jobIds : List String) (fn : CronJob → CronJob) (store : CronStore) : CronStore :=
  store.mapValues fun id job => if id ∈ jobIds then fn job else job

section Machine

variable (externals : Externals) (config : SchedulerConfig)
  (failoverReason : String → Option String)

/-- The ids of the jobs of a store that may be started. -/
def collectRunnableJobs (options : RunnableOptions) (nowMs : ℤ) (store : CronStore) :
    List (String × CronJob) :=
  store.entries.filter fun entry => isRunnableJob externals options nowMs entry.2

namespace CronServiceState

variable (state : CronServiceState)

/-- What is read from the clock in a section. -/
def reads (readings : List ℤ) : Option CronServiceState :=
  if List.IsChain (· ≤ ·) (state.clock :: readings) then
    some { state with clock := readings.getLastD state.clock }
  else none

/-- `ensureLoaded`, without a reload. -/
def loaded : CronStore := state.store.getD (loadCronStore state.file)

/-- `persist`. -/
def persist (store : CronStore) : CronServiceState := { state with file := store, store := some store }

/-- `persist`, where something has changed. -/
def persistChanged (upkeep : CronStore × Bool) : CronServiceState :=
  if upkeep.2 then state.persist upkeep.1 else { state with store := some upkeep.1 }

/-! ### Starting -/

/-- The process ends, and another one starts the service. -/
def restart : CronServiceState := { state with store := none, phase := .loading }

/-- The first section of `start`. -/
def clearMarkers : CronServiceState :=
  let store := state.loaded
  let interrupted := store.entries.filter fun entry => entry.2.state.runningAtMs.isSome
  let interruptedOneShotIds :=
    (interrupted.filter fun entry => entry.2.schedule.isAt).map fun entry => entry.2.id
  let next := state.persistChanged
    (store.mapValues fun _ job => clearRunningMarker job, interrupted ≠ [])
  { next with phase := .planning interruptedOneShotIds }

/-- `planStartupCatchup`. -/
def planStartupCatchup (skipJobIds : List String) (nowMs : ℤ) : CronServiceState :=
  let store := state.loaded
  let missed := collectRunnableJobs externals
    { skipJobIds, skipAtIfAlreadyRan := true, allowCronMissedRunByLastRun := true } nowMs store
  if missed = [] then { state with store := some store, phase := .finishing }
  else
    let sorted := (missed.mergeSort fun first second =>
      first.2.state.nextRunAtMs.getD 0 ≤ second.2.state.nextRunAtMs.getD 0).map Prod.fst
    let maxImmediate :=
      (config.maxMissedJobsPerRestart.getD DEFAULT_MAX_MISSED_JOBS_PER_RESTART).toNat
    let candidates := sorted.take maxImmediate
    { state.persist (updateJobs candidates (reserveJob nowMs) store) with
      phase := .catchingUp (candidates.map fun jobId => { jobId }) (sorted.drop maxImmediate) }

/-- `applyOutcomeToStoredJob`. -/
def applyOutcome (nowMs : ℤ) (run : CronRun) : CronServiceState :=
  match run.result, state.loaded.get run.jobId with
  | some result, some job =>
    let (left, shouldDelete) := applyJobResult externals config.toCronConfig failoverReason job
      result false nowMs
    { state with
      store := some (if shouldDelete then state.loaded.delete run.jobId
        else state.loaded.set run.jobId left)
      log := state.log ++
        [.applied run.jobId result (left.state.consecutiveErrors.getD 0)] }
  | _, _ => state

/-- The deferred jobs are spread over the time after a restart. -/
def deferJobs (staggerMs baseNow : ℤ) : List String → ℤ → CronStore → CronStore
  | [], _, store => store
  | jobId :: rest, offset, store =>
    match (store.get jobId).filter isJobEnabled with
    | none => deferJobs staggerMs baseNow rest offset store
    | some job => deferJobs staggerMs baseNow rest (offset + staggerMs)
        (store.set jobId (job.withNextRunAtMs (some (baseNow + offset))))

def staggerMs : ℤ := max 0 (config.missedJobStaggerMs.getD DEFAULT_MISSED_JOB_STAGGER_MS)

/-- `applyStartupCatchupOutcomes`. -/
def applyStartupCatchupOutcomes (runs : List CronRun) (deferredJobIds : List String)
    (baseNow nowMs : ℤ) : CronServiceState :=
  let applied := runs.foldl (fun state run =>
    state.applyOutcome externals config failoverReason baseNow run) state
  let deferred := deferJobs (staggerMs config) baseNow deferredJobIds (staggerMs config)
    applied.loaded
  { applied.persist (recomputeNextRunsForMaintenance externals false nowMs deferred).1 with
    phase := .finishing }

/-- The last section of `start`. -/
def finishStart (nowMs : ℤ) : CronServiceState :=
  { state.persistChanged (recomputeNextRuns externals nowMs state.loaded) with
    phase := .started none }

/-! ### Ticks -/

/-- The first section of `onTimer`. -/
def beginTick (dueCheckNow nowMs : ℤ) : CronServiceState :=
  let store := loadCronStore state.file
  let due := (collectRunnableJobs externals {} dueCheckNow store).map Prod.fst
  if due = [] then
    state.persistChanged (recomputeNextRunsForMaintenance externals true dueCheckNow store)
  else { state.persist (updateJobs due (reserveJob nowMs) store) with
    phase := .started (some (due.map fun jobId => { jobId })) }

/-- The last section of `onTimer`. -/
def finishTick (runs : List CronRun) (alertNow nowMs : ℤ) : CronServiceState :=
  let applied := runs.foldl (fun state run =>
      state.applyOutcome externals config failoverReason alertNow run)
    { state with store := some (loadCronStore state.file) }
  { applied.persist (recomputeNextRunsForMaintenance externals false nowMs applied.loaded).1 with
    phase := .started none }

/-! ### Executions and reads -/

/-- The runs of a phase with one of them, of a job, in another phase. -/
def setPhase (jobId : String) (phase : RunPhase) (runs : List CronRun) : List CronRun :=
  runs.map fun run => if run.jobId = jobId then { run with phase } else run

/-- A reserved job is started: in a tick any that waits, and in the catch-up the first that has
not ended. A tick notes when it has started the job. -/
def startRun (jobId : String) (startedAt : ℤ) : Option CronServiceState :=
  let next := { state with log := state.log ++ [CronLogEntry.started jobId startedAt] }
  match state.phase with
  | .started (some runs) =>
    if { jobId } ∈ runs then
      some { next with
        store := state.store.map (updateJobs [jobId] (markStarted startedAt))
        phase := .started (some (setPhase jobId (.executing startedAt) runs)) }
    else none
  | .catchingUp runs deferredJobIds =>
    if (runs.find? fun run => run.result.isNone) = some { jobId } then
      some { next with
        phase := .catchingUp (setPhase jobId (.executing startedAt) runs) deferredJobIds }
    else none
  | _ => none

/-- An execution ends, with whatever outcome. -/
def endRun (jobId : String) (startedAt : ℤ) (outcome : CronRunOutcome) (endedAt : ℤ) :
    Option CronServiceState :=
  let ended := RunPhase.ended { outcome with startedAt, endedAt }
  match state.phase with
  | .started (some runs) =>
    if ⟨jobId, .executing startedAt⟩ ∈ runs then
      some { state with phase := .started (some (setPhase jobId ended runs)) }
    else none
  | .catchingUp runs deferredJobIds =>
    if ⟨jobId, .executing startedAt⟩ ∈ runs then
      some { state with phase := .catchingUp (setPhase jobId ended runs) deferredJobIds }
    else none
  | _ => none

/-- `ensureLoadedForRead`, of `status`, `list` and `listPage`. -/
def read (nowMs : ℤ) : CronServiceState :=
  state.persistChanged (recomputeNextRunsForMaintenance externals false nowMs state.loaded)

end CronServiceState

/-! ### Steps -/

inductive SchedulerEvent
  | restart
  | clearMarkers
  | plan (nowMs : ℤ)
  | finishCatchup (baseNow nowMs : ℤ)
  | finishStart (nowMs : ℤ)
  | tick (dueCheckNow nowMs : ℤ)
  | finishTick (alertNow nowMs : ℤ)
  | startRun (jobId : String) (startedAt : ℤ)
  | endRun (jobId : String) (startedAt : ℤ) (outcome : CronRunOutcome) (endedAt : ℤ)
  | read (nowMs : ℤ)
  deriving DecidableEq

def allEnded (runs : List CronRun) : Bool := runs.all fun run => run.result.isSome

open CronServiceState

def schedulerStep (state : CronServiceState) : SchedulerEvent → Option CronServiceState
  | .restart => some state.restart
  | .clearMarkers =>
    match state.phase with
    | .loading => some state.clearMarkers
    | _ => none
  | .plan nowMs =>
    match state.phase with
    | .planning skipJobIds => (state.reads [nowMs]).map fun state =>
        state.planStartupCatchup externals config skipJobIds nowMs
    | _ => none
  | .finishCatchup baseNow nowMs =>
    match state.phase with
    | .catchingUp runs deferredJobIds =>
      if allEnded runs then (state.reads [baseNow, nowMs]).map fun state =>
        state.applyStartupCatchupOutcomes externals config failoverReason runs deferredJobIds
          baseNow nowMs
      else none
    | _ => none
  | .finishStart nowMs =>
    match state.phase with
    | .finishing => (state.reads [nowMs]).map fun state => state.finishStart externals nowMs
    | _ => none
  | .tick dueCheckNow nowMs =>
    match state.phase with
    | .started none => (state.reads [dueCheckNow, nowMs]).map fun state =>
        state.beginTick externals dueCheckNow nowMs
    | _ => none
  | .finishTick alertNow nowMs =>
    match state.phase with
    | .started (some runs) =>
      if allEnded runs then (state.reads [alertNow, nowMs]).map fun state =>
        state.finishTick externals config failoverReason runs alertNow nowMs
      else none
    | _ => none
  | .startRun jobId startedAt =>
    (state.reads [startedAt]).bind fun state => state.startRun jobId startedAt
  | .endRun jobId startedAt outcome endedAt =>
    (state.reads [endedAt]).bind fun state => state.endRun jobId startedAt outcome endedAt
  | .read nowMs => (state.reads [nowMs]).map fun state => state.read externals nowMs

end Machine

end OpenClaw.Cron
