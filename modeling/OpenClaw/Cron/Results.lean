/-
This file is what the cron timer does with one job: whether it may be started, and what the result
of a run leaves of it, with its retries, its error backoff and its next run.

Failure alerts are told by the time they are noted at; what they say and where they go is left
out, as are log entries.
-/

import OpenClaw.Cron.Jobs

namespace OpenClaw.Cron

/-! ### Transient errors -/

inductive CronRetryOn
  | rateLimit | overloaded | network | timeout | serverError
  deriving DecidableEq

/-- Whether a text has a part, upper and lower case being the same. -/
def mentions (text : List Char) (part : String) : Bool :=
  (text.map Char.toLower).tails.any part.toList.isPrefixOf

def isWordCharacter (character : Char) : Bool := character.isAlphanum || character = '_'

/-- Whether a word of a text is one of those wanted: `\b`, the word and `\b`. -/
def hasWord (wanted : List Char → Bool) (text : List Char) : Bool :=
  (text.splitOnP fun character => !isWordCharacter character).any wanted

/-- `TRANSIENT_PATTERNS`. -/
def matchesTransientPattern (text : List Char) : CronRetryOn → Bool
  | .rateLimit => ["rate_limit", "rate limit", "too many requests", "429",
      "resource has been exhausted", "cloudflare", "tokens per day"].any (mentions text)
  | .overloaded =>
    hasWord (fun word => String.ofList (word.map Char.toLower) ∈
      ["529", "overloaded", "overloaded_error"]) text ||
    ["high demand", "temporarily overloaded", "temporary overloaded",
      "capacity exceeded"].any (mentions text)
  | .network => ["network", "econnreset", "econnrefused", "fetch failed", "socket"].any
      (mentions text)
  | .timeout => ["timeout", "etimedout"].any (mentions text)
  | .serverError => hasWord (fun word =>
      word.head? = some '5' && word.length = 3 && word.all Char.isDigit) text

def isTransientCronError (error : Option String) (retryOn : Option (List CronRetryOn)) : Bool :=
  match Text.nonEmpty error with
  | none => false
  | some error =>
    let keys := (retryOn.filter (· ≠ [])).getD
      [.rateLimit, .overloaded, .network, .timeout, .serverError]
    keys.any (matchesTransientPattern error.toList)

/-! ### Configuration -/

structure GlobalFailureAlert where
  enabled : Option Bool := none
  after : Option ℚ := none
  cooldownMs : Option ℚ := none
  deriving DecidableEq

structure CronConfig where
  /-- The retry settings of one-shot jobs. -/
  maxAttempts : Option ℤ := none
  backoffMs : Option (List ℤ) := none
  retryOn : Option (List CronRetryOn) := none
  failureAlert : Option GlobalFailureAlert := none
  deriving DecidableEq

def MIN_REFIRE_GAP_MS : ℤ := 2000
def DEFAULT_FAILURE_ALERT_AFTER : ℤ := 2
def DEFAULT_FAILURE_ALERT_COOLDOWN_MS : ℤ := 60 * 60000
def DEFAULT_BACKOFF_SCHEDULE_MS : List ℤ := [30000, 60000, 5 * 60000, 15 * 60000, 60 * 60000]
def DEFAULT_MAX_TRANSIENT_RETRIES : ℤ := 3

def errorBackoffMs (consecutiveErrors : ℕ) (scheduleMs : List ℤ) : ℤ :=
  scheduleMs.getD (min (consecutiveErrors - 1) (scheduleMs.length - 1)) 0

structure RetryConfig where
  maxAttempts : ℤ
  backoffMs : List ℤ
  retryOn : Option (List CronRetryOn)

def resolveRetryConfig (config : CronConfig) : RetryConfig where
  maxAttempts := config.maxAttempts.getD DEFAULT_MAX_TRANSIENT_RETRIES
  backoffMs := (config.backoffMs.filter (· ≠ [])).getD (DEFAULT_BACKOFF_SCHEDULE_MS.take 3)
  retryOn := config.retryOn.filter (· ≠ [])

def clampPositiveInt (value : Option ℚ) (fallback : ℤ) : ℤ :=
  ((value.map Int.floor).filter (1 ≤ ·)).getD fallback

def clampNonNegativeInt (value : Option ℚ) (fallback : ℤ) : ℤ :=
  ((value.map Int.floor).filter (0 ≤ ·)).getD fallback

/-- From how many errors on a job alerts, and how often. -/
structure FailureAlert where
  after : ℤ
  cooldownMs : ℤ

def resolveFailureAlert (config : CronConfig) (job : CronJob) : Option FailureAlert :=
  match job.failureAlert with
  | some .off => none
  | some (.alert settings) => some {
      after := clampPositiveInt
        (settings.after.or (config.failureAlert.bind GlobalFailureAlert.after))
        DEFAULT_FAILURE_ALERT_AFTER
      cooldownMs := clampNonNegativeInt
        (settings.cooldownMs.or (config.failureAlert.bind GlobalFailureAlert.cooldownMs))
        DEFAULT_FAILURE_ALERT_COOLDOWN_MS }
  | none =>
    (config.failureAlert.filter fun global => global.enabled = some true).map fun global => {
      after := clampPositiveInt global.after DEFAULT_FAILURE_ALERT_AFTER
      cooldownMs := clampNonNegativeInt global.cooldownMs DEFAULT_FAILURE_ALERT_COOLDOWN_MS }

/-! ### Results -/

structure RunResult where
  status : CronRunStatus
  error : Option String := none
  delivered : Option Bool := none
  startedAt : ℤ
  endedAt : ℤ
  deriving DecidableEq

/-- `resolveCronDeliveryPlan(job).requested`. -/
def isDeliveryRequested (job : CronJob) : Bool :=
  match job.delivery, job.payload with
  | some delivery, _ => delivery.mode = .announce
  | none, .agentTurn _ => job.sessionTarget ≠ .main
  | none, .systemEvent _ => false

def resolveDeliveryStatus (job : CronJob) (delivered : Option Bool) : CronDeliveryStatus :=
  match delivered with
  | some true => .delivered
  | some false => .notDelivered
  | none => if isDeliveryRequested job then .unknown else .notRequested

section Results

variable (externals : Externals) (config : CronConfig)
  -- `resolveFailoverReasonFromError`
  (failoverReason : String → Option String)

/-- What is noted of a result. -/
def noteResult (job : CronJob) (result : RunResult) : CronJob :=
  let deliveryStatus := resolveDeliveryStatus job result.delivered
  { job with
    updatedAtMs := result.endedAt
    state := { job.state with
      runningAtMs := none
      lastRunAtMs := some result.startedAt
      lastRunStatus := some result.status
      lastStatus := some result.status
      lastDurationMs := some (max 0 (result.endedAt - result.startedAt))
      lastError := result.error
      lastErrorReason :=
        if result.status = .error then result.error.bind failoverReason else none
      lastDelivered := result.delivered
      lastDeliveryStatus := some deliveryStatus
      lastDeliveryError :=
        if deliveryStatus = .notDelivered then Text.nonEmpty result.error else none } }

/-- Whether a failed job alerts now. -/
def alertsFailure (job : CronJob) (consecutiveErrors : ℕ) (nowMs : ℤ) : Bool :=
  (resolveFailureAlert config job).any fun alert =>
    alert.after ≤ (consecutiveErrors : ℤ) && job.delivery.bind CronDelivery.bestEffort ≠ some true &&
      !job.state.lastFailureAlertAtMs.any fun lastAlert =>
        nowMs - lastAlert < max 0 alert.cooldownMs

/-- Errors in a row are counted. -/
def countErrors (job : CronJob) (status : CronRunStatus) (nowMs : ℤ) : CronJob :=
  if status = .error then
    let consecutiveErrors := job.state.consecutiveErrors.getD 0 + 1
    { job with state := { job.state with
        consecutiveErrors := some consecutiveErrors
        lastFailureAlertAtMs :=
          if alertsFailure config job consecutiveErrors nowMs then some nowMs
          else job.state.lastFailureAlertAtMs } }
  else { job with state := { job.state with
      consecutiveErrors := some 0
      lastFailureAlertAtMs := none } }

def CronJob.withNextRunAtMs (job : CronJob) (nextRunAtMs : Option ℤ) : CronJob :=
  { job with state := { job.state with nextRunAtMs } }

def CronJob.disable (job : CronJob) : CronJob :=
  { job with enabled := some false, state := { job.state with nextRunAtMs := none } }

/-- The next run of a one-shot job: it is retried after a transient error while the budget lasts,
and disabled otherwise. -/
def scheduleOneShot (job : CronJob) (result : RunResult) : CronJob :=
  let retry := resolveRetryConfig config
  let consecutive := job.state.consecutiveErrors.getD 0
  if result.status = .error && isTransientCronError result.error retry.retryOn &&
      consecutive ≤ retry.maxAttempts then
    job.withNextRunAtMs (some (result.endedAt + errorBackoffMs consecutive retry.backoffMs))
  else job.disable

/-- The natural next run of a job once a run has ended, and the job with what is noted where the
schedule throws. A forced run of an interval job is left out of its schedule. -/
def computeNaturalNext (job : CronJob) (prevLastRunAtMs : Option ℚ) (preserveSchedule : Bool)
    (endedAt : ℤ) : CronJob × Option ℤ :=
  let counted := if preserveSchedule && job.schedule.isEvery then
    { job with state := { job.state with lastRunAtMs := prevLastRunAtMs } } else job
  match computeJobNextRunAtMs externals counted endedAt with
  | .ok next => (job, next)
  | .error err => (recordScheduleComputeError job err, none)

/-- The next run of a recurring job after an error: after its backoff at the earliest. -/
def scheduleBackoff (job : CronJob) (natural : CronJob × Option ℤ) (endedAt : ℤ) : CronJob :=
  let backoffNext := endedAt +
    errorBackoffMs (job.state.consecutiveErrors.getD 1) DEFAULT_BACKOFF_SCHEDULE_MS
  natural.1.withNextRunAtMs (some (natural.2.elim backoffNext fun next => max next backoffNext))

/-- The next run of a recurring job otherwise: a cron job keeps a gap. -/
def scheduleNatural (natural : CronJob × Option ℤ) (endedAt : ℤ) : CronJob :=
  if natural.1.schedule.isCron then
    let minNext := endedAt + MIN_REFIRE_GAP_MS
    natural.1.withNextRunAtMs (some (natural.2.elim minNext fun next => max next minNext))
  else natural.1.withNextRunAtMs natural.2

/-- A job once a result has been noted. -/
def notedJob (job : CronJob) (result : RunResult) (nowMs : ℤ) : CronJob :=
  countErrors config (noteResult failoverReason job result) result.status nowMs

/-- What a result leaves of a job, and whether the job is to be deleted. -/
def applyJobResult (job : CronJob) (result : RunResult) (preserveSchedule : Bool) (nowMs : ℤ) :
    CronJob × Bool :=
  let noted := notedJob config failoverReason job result nowMs
  if job.schedule.isAt && job.deleteAfterRun = some true && result.status = .ok then (noted, true)
  else if job.schedule.isAt then (scheduleOneShot config noted result, false)
  else if isJobEnabled job then
    let natural := computeNaturalNext externals noted job.state.lastRunAtMs preserveSchedule
      result.endedAt
    if result.status = .error then (scheduleBackoff noted natural result.endedAt, false)
    else (scheduleNatural natural result.endedAt, false)
  else (noted.withNextRunAtMs none, false)

end Results

/-! ### What is noted -/

section Noted

variable {externals : Externals} {config : CronConfig} {failoverReason : String → Option String}
  {job : CronJob} {result : RunResult} {nowMs : ℤ}

/-- The errors in a row once a result has been noted. -/
def CronJob.errorsAfter (job : CronJob) (status : CronRunStatus) : ℕ :=
  if status = .error then job.state.consecutiveErrors.getD 0 + 1 else 0

/-- A result changes neither the job itself nor, before its next run is set, its schedule. -/
theorem notedJob_frame (config : CronConfig) (failoverReason : String → Option String)
    (job : CronJob) (result : RunResult) (nowMs : ℤ) :
    let noted := notedJob config failoverReason job result nowMs
    noted.id = job.id ∧ noted.schedule = job.schedule ∧ noted.enabled = job.enabled ∧
      noted.createdAtMs = job.createdAtMs ∧
      noted.state.nextRunAtMs = job.state.nextRunAtMs ∧
      noted.state.scheduleErrorCount = job.state.scheduleErrorCount := by
  unfold notedJob countErrors
  split <;> exact ⟨rfl, rfl, rfl, rfl, rfl, rfl⟩

/-- What a result says about the run is noted. -/
theorem notedJob_run (config : CronConfig) (failoverReason : String → Option String)
    (job : CronJob) (result : RunResult) (nowMs : ℤ) :
    let noted := notedJob config failoverReason job result nowMs
    noted.state.runningAtMs = none ∧ noted.state.lastRunAtMs = some (result.startedAt : ℚ) ∧
      noted.state.lastStatus = some result.status ∧
      noted.state.lastDurationMs = some (max 0 (result.endedAt - result.startedAt)) ∧
      noted.state.consecutiveErrors = some (job.errorsAfter result.status) := by
  unfold notedJob countErrors CronJob.errorsAfter
  split <;> exact ⟨rfl, rfl, rfl, rfl, rfl⟩

end Noted

/-! ### Due jobs -/

section Due

variable (externals : Externals)

/-- The errors in a row that a backoff is measured by. -/
def CronJob.backoffErrors (job : CronJob) : ℕ := max 1 (job.state.consecutiveErrors.getD 1)

def isErrorBackoffPending (job : CronJob) (nowMs : ℤ) : Bool :=
  !job.schedule.isAt && job.state.lastStatus = some .error &&
    job.state.lastRunAtMs.any fun lastRunAtMs =>
      (nowMs : ℚ) < lastRunAtMs + errorBackoffMs job.backoffErrors DEFAULT_BACKOFF_SCHEDULE_MS

structure RunnableOptions where
  skipJobIds : List String := []
  skipAtIfAlreadyRan : Bool := false
  allowCronMissedRunByLastRun : Bool := false

/-- Whether the next run of a job is due. -/
def isDue (job : CronJob) (nowMs : ℤ) : Bool :=
  job.state.nextRunAtMs.any fun next => 0 < next && next ≤ nowMs

/-- Whether a one-shot job that has run is due for a retry. -/
def isRetryDue (job : CronJob) (nowMs : ℤ) : Bool :=
  job.state.lastStatus = some .error && job.state.nextRunAtMs.any fun next =>
    next ≤ nowMs && job.state.lastRunAtMs.any fun lastRun => lastRun < (next : ℚ)

/-- Whether a slot of a cron job has passed since it last ran. -/
def missedSlot (job : CronJob) (nowMs : ℤ) : Bool :=
  match computeJobPreviousRunAtMs externals job nowMs with
  | .ok (some previousRunAtMs) =>
    job.state.lastRunAtMs.any fun lastRunAtMs => lastRunAtMs < (previousRunAtMs : ℚ)
  | _ => false

def isRunnableJob (options : RunnableOptions) (nowMs : ℤ) (job : CronJob) : Bool :=
  if !isJobEnabled job || job.id ∈ options.skipJobIds || job.state.runningAtMs.isSome then false
  else if options.skipAtIfAlreadyRan && job.schedule.isAt && job.state.lastStatus.isSome then
    isRetryDue job nowMs
  else if isDue job nowMs then true
  else if hasScheduledNextRunAtMs job.state.nextRunAtMs && isErrorBackoffPending job nowMs then
    false
  else options.allowCronMissedRunByLastRun && job.schedule.isCron && missedSlot externals job nowMs

end Due

end OpenClaw.Cron
