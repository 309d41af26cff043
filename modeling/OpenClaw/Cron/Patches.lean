/-
This file is the update of a cron job by a patch: what the patch assigns, the checks in between,
and the next run that is computed behind them.

The source works on the job in the store itself, so the patch is an edit in place: what has been
assigned before a check stays when the check throws. A field of a patch that may be there without
a value is an option of an option. The URL parser is taken as it comes.
-/

import OpenClaw.Base.Edits
import OpenClaw.Cron.Jobs
import OpenClaw.Routing.SessionKey

namespace OpenClaw.Cron

open Text

/-! ### Patches -/

inductive CronSchedulePatch
  | at' (time : String)
  | every (everyMs : ScheduleNumber) (anchorMs : Option ScheduleNumber)
  | cron (expr : String) (tz : Option String) (staggerMs : Option ScheduleNumber)
  deriving DecidableEq

structure AgentTurnPatch where
  message : Option String := none
  model : Option String := none
  fallbacks : Option (List String) := none
  thinking : Option String := none
  timeoutSeconds : Option ℚ := none
  allowUnsafeExternalContent : Option Bool := none
  lightContext : Option Bool := none
  /-- May be `null`. -/
  toolsAllow : Option (Option (List String)) := none
  deriving DecidableEq

inductive CronPayloadPatch
  | systemEvent (text : Option String)
  | agentTurn (turn : AgentTurnPatch)
  deriving DecidableEq

/-- The mode of a delivery patch, with the name it had before. -/
inductive DeliveryModePatch
  | deliver
  | mode (mode : CronDeliveryMode)
  deriving DecidableEq

structure FailureDestinationPatch where
  channel : Option (Option String) := none
  to' : Option (Option String) := none
  accountId : Option (Option String) := none
  mode : Option (Option String) := none
  deriving DecidableEq

structure CronDeliveryPatch where
  mode : Option DeliveryModePatch := none
  channel : Option (Option String) := none
  to' : Option (Option String) := none
  threadId : Option (Option ThreadId) := none
  accountId : Option (Option String) := none
  bestEffort : Option Bool := none
  failureDestination : Option (Option FailureDestinationPatch) := none
  deriving DecidableEq

structure FailureAlertPatch where
  after : Option (Option ℚ) := none
  channel : Option (Option String) := none
  to' : Option (Option String) := none
  cooldownMs : Option (Option ℚ) := none
  mode : Option (Option String) := none
  accountId : Option (Option String) := none
  deriving DecidableEq

inductive FailureAlertSettingPatch
  | off
  | alert (settings : FailureAlertPatch)
  deriving DecidableEq

structure CronJobStatePatch where
  nextRunAtMs : Option (Option ℤ) := none
  runningAtMs : Option (Option ℤ) := none
  lastRunAtMs : Option (Option ℚ) := none
  lastRunStatus : Option (Option CronRunStatus) := none
  lastStatus : Option (Option CronRunStatus) := none
  lastError : Option (Option String) := none
  lastErrorReason : Option (Option String) := none
  lastDurationMs : Option (Option ℤ) := none
  consecutiveErrors : Option (Option ℕ) := none
  lastFailureAlertAtMs : Option (Option ℤ) := none
  scheduleErrorCount : Option (Option ℕ) := none
  lastDeliveryStatus : Option (Option CronDeliveryStatus) := none
  lastDeliveryError : Option (Option String) := none
  lastDelivered : Option (Option Bool) := none
  deriving DecidableEq

structure CronJobPatch where
  name : Option (Option String) := none
  description : Option (Option String) := none
  enabled : Option Bool := none
  deleteAfterRun : Option Bool := none
  schedule : Option CronSchedulePatch := none
  sessionTarget : Option CronSessionTarget := none
  wakeMode : Option CronWakeMode := none
  payload : Option CronPayloadPatch := none
  delivery : Option CronDeliveryPatch := none
  failureAlert : Option FailureAlertSettingPatch := none
  state : Option CronJobStatePatch := none
  agentId : Option (Option String) := none
  sessionKey : Option (Option String) := none
  deriving DecidableEq

/-! ### What a patch assigns -/

def normalizeRequiredName (raw : Option String) : Except String String :=
  match normalizeOptionalString raw with
  | some name => .ok name
  | none => .error "Error: cron job name is required"

def buildPayloadFromPatch : CronPayloadPatch → Except String CronPayload
  | .systemEvent text =>
    match nonEmpty text with
    | some text => .ok (.systemEvent text)
    | none => .error "Error: cron.update payload.kind=\"systemEvent\" requires text"
  | .agentTurn turn =>
    match nonEmpty turn.message with
    | some message => .ok (.agentTurn {
        message
        model := turn.model
        fallbacks := turn.fallbacks
        toolsAllow := turn.toolsAllow.join
        thinking := turn.thinking
        timeoutSeconds := turn.timeoutSeconds
        lightContext := turn.lightContext
        allowUnsafeExternalContent := turn.allowUnsafeExternalContent })
    | none => .error "Error: cron.update payload.kind=\"agentTurn\" requires message"

def mergeCronPayload : CronPayload → CronPayloadPatch → Except String CronPayload
  | .systemEvent existing, .systemEvent text => .ok (.systemEvent (text.getD existing))
  | .agentTurn existing, .agentTurn turn => .ok (.agentTurn { existing with
      message := turn.message.getD existing.message
      model := turn.model.or existing.model
      fallbacks := turn.fallbacks.or existing.fallbacks
      toolsAllow := turn.toolsAllow.getD existing.toolsAllow
      thinking := turn.thinking.or existing.thinking
      timeoutSeconds := turn.timeoutSeconds.or existing.timeoutSeconds
      lightContext := turn.lightContext.or existing.lightContext
      allowUnsafeExternalContent :=
        turn.allowUnsafeExternalContent.or existing.allowUnsafeExternalContent })
  | _, patch => buildPayloadFromPatch patch

/-- `normalizeOptionalThreadValue`. -/
def normalizeOptionalThreadValue : Option ThreadId → Option ThreadId
  | some (.number value) => some (.number (if 0 ≤ value then ⌊value⌋ else ⌈value⌉))
  | some (.text value) => (normalizeOptionalString (some value)).map .text
  | none => none

def failureModeOf (raw : Option String) : Option FailureMode :=
  match normalizeOptionalString raw with
  | some "announce" => some .announce
  | some "webhook" => some .webhook
  | _ => none

/-- A text of a patch, where it is there, and what there was before otherwise. -/
def patchText (patch : Option (Option String)) (existing : Option String) : Option String :=
  (patch.map normalizeOptionalString).getD existing

def mergeFailureDestination (existing : Option CronFailureDestination)
    (patch : FailureDestinationPatch) : CronFailureDestination where
  channel := patchText patch.channel (existing.bind CronFailureDestination.channel)
  to' := patchText patch.to' (existing.bind CronFailureDestination.to')
  accountId := patchText patch.accountId (existing.bind CronFailureDestination.accountId)
  mode := (patch.mode.map failureModeOf).getD (existing.bind CronFailureDestination.mode)

def mergeCronDelivery (existing : Option CronDelivery) (patch : CronDeliveryPatch) :
    CronDelivery where
  mode := match patch.mode with
    | some .deliver => .announce
    | some (.mode mode) => mode
    | none => (existing.map CronDelivery.mode).getD .none
  channel := patchText patch.channel (existing.bind CronDelivery.channel)
  to' := patchText patch.to' (existing.bind CronDelivery.to')
  threadId := (patch.threadId.map normalizeOptionalThreadValue).getD
    (existing.bind CronDelivery.threadId)
  accountId := patchText patch.accountId (existing.bind CronDelivery.accountId)
  bestEffort := patch.bestEffort.or (existing.bind CronDelivery.bestEffort)
  failureDestination := match patch.failureDestination with
    | none => existing.bind CronDelivery.failureDestination
    | some none => none
    | some (some destination) =>
      some (mergeFailureDestination (existing.bind CronDelivery.failureDestination) destination)

def mergeCronFailureAlert (existing : Option FailureAlertSetting) :
    FailureAlertSettingPatch → FailureAlertSetting
  | .off => .off
  | .alert patch =>
    let base : CronFailureAlert := match existing with
      | some (.alert settings) => settings
      | _ => {}
    .alert {
      after := (patch.after.map fun after =>
        (after.filter (0 < ·)).map fun after => (⌊after⌋ : ℚ)).getD base.after
      channel := patchText patch.channel base.channel
      to' := patchText patch.to' base.to'
      cooldownMs := (patch.cooldownMs.map fun cooldownMs =>
        (cooldownMs.filter (0 ≤ ·)).map fun cooldownMs => (⌊cooldownMs⌋ : ℚ)).getD base.cooldownMs
      mode := (patch.mode.map failureModeOf).getD base.mode
      accountId := patchText patch.accountId base.accountId }

/-- `{ ...state, ...patch }`. -/
def CronJobState.patch (state : CronJobState) (patch : CronJobStatePatch) : CronJobState where
  nextRunAtMs := patch.nextRunAtMs.getD state.nextRunAtMs
  runningAtMs := patch.runningAtMs.getD state.runningAtMs
  lastRunAtMs := patch.lastRunAtMs.getD state.lastRunAtMs
  lastRunStatus := patch.lastRunStatus.getD state.lastRunStatus
  lastStatus := patch.lastStatus.getD state.lastStatus
  lastError := patch.lastError.getD state.lastError
  lastErrorReason := patch.lastErrorReason.getD state.lastErrorReason
  lastDurationMs := patch.lastDurationMs.getD state.lastDurationMs
  consecutiveErrors := patch.consecutiveErrors.getD state.consecutiveErrors
  lastFailureAlertAtMs := patch.lastFailureAlertAtMs.getD state.lastFailureAlertAtMs
  scheduleErrorCount := patch.scheduleErrorCount.getD state.scheduleErrorCount
  lastDeliveryStatus := patch.lastDeliveryStatus.getD state.lastDeliveryStatus
  lastDeliveryError := patch.lastDeliveryError.getD state.lastDeliveryError
  lastDelivered := patch.lastDelivered.getD state.lastDelivered

section Patches

variable (externals : Externals)
  -- `toLowerCase`
  (toLowerCase : String → String)
  -- the protocol of `new URL`, where it does not throw
  (urlProtocol : String → Option String)

/-- The schedule of a patch, which keeps or sets a stagger window. -/
def mergeSchedule (existing : CronSchedule) : CronSchedulePatch → CronSchedule
  | .at' time => .at' none (some time)
  | .every everyMs anchorMs => .every (some everyMs) anchorMs
  | .cron expr tz staggerMs =>
    match normalizeCronStaggerMs externals staggerMs, existing with
    | some explicit, _ => .cron (some expr) none tz (some (.number explicit))
    | none, .cron _ _ _ former => .cron (some expr) none tz former
    | none, _ =>
      match resolveDefaultCronStaggerMs expr with
      | some windowMs => .cron (some expr) none tz (some (.number windowMs))
      | none => .cron (some expr) none tz staggerMs

def normalizeOptionalAgentId (raw : Option String) : Option String :=
  (normalizeOptionalString raw).map (Routing.normalizeAgentId toLowerCase)

def normalizeHttpWebhookUrl (value : Option String) : Option String :=
  (normalizeOptionalString value).filter fun url =>
    (urlProtocol url).any fun protocol => protocol = "http:" || protocol = "https:"

namespace CronJobPatch

variable (patch : CronJobPatch)

def assignName (job : CronJob) : Except String CronJob :=
  match patch.name with
  | none => .ok job
  | some raw => (normalizeRequiredName raw).map fun name => { job with name }

/-- What is assigned between the name and the payload. -/
def assignBasics (job : CronJob) : CronJob :=
  { job with
    description := (patch.description.map normalizeOptionalString).getD job.description
    enabled := patch.enabled.or job.enabled
    deleteAfterRun := patch.deleteAfterRun.or job.deleteAfterRun
    schedule := (patch.schedule.map (mergeSchedule externals job.schedule)).getD job.schedule
    sessionTarget := patch.sessionTarget.getD job.sessionTarget
    wakeMode := patch.wakeMode.getD job.wakeMode }

def assignPayload (job : CronJob) : Except String CronJob :=
  match patch.payload with
  | none => .ok job
  | some payload => (mergeCronPayload job.payload payload).map fun payload => { job with payload }

def assignDelivery (job : CronJob) : CronJob :=
  { job with
    delivery := (patch.delivery.map (mergeCronDelivery job.delivery)).or job.delivery
    failureAlert :=
      (patch.failureAlert.map (mergeCronFailureAlert job.failureAlert)).or job.failureAlert }

/-- What is assigned before the last checks. A main job has no delivery but by webhook. -/
def assignRest (job : CronJob) : CronJob :=
  { job with
    delivery := if job.sessionTarget = .main then
        job.delivery.filter fun delivery => delivery.mode = .webhook
      else job.delivery
    state := (patch.state.map job.state.patch).getD job.state
    agentId := (patch.agentId.map (normalizeOptionalAgentId toLowerCase)).getD job.agentId
    sessionKey := (patch.sessionKey.map normalizeOptionalString).getD job.sessionKey }

/-! ### Checks -/

end CronJobPatch

def FAILURE_DESTINATION_ON_MAIN : String :=
  "Error: cron delivery.failureDestination is only supported for sessionTarget=\"isolated\" " ++
    "unless delivery.mode=\"webhook\""

/-- A main job has no failure destination but with a webhook. -/
def assertFailureDestinationTarget (job : CronJob) : Except String Unit :=
  if job.sessionTarget = .main && job.delivery.any fun delivery =>
      delivery.mode ≠ .webhook && delivery.failureDestination.isSome then
    .error FAILURE_DESTINATION_ON_MAIN
  else .ok ()

/-- `assertSafeCronSessionTargetId`. -/
def isSafeSessionTargetId (sessionId : String) : Bool :=
  trim sessionId ≠ "" && (trim sessionId).toList.all fun character =>
    character ≠ '/' && character ≠ '\\' && character.toNat ≠ 0

def assertSupportedJobSpec (job : CronJob) : Except String Unit :=
  match job.sessionTarget, job.payload with
  | .main, .systemEvent _ => .ok ()
  | .main, .agentTurn _ => .error "Error: main cron jobs require payload.kind=\"systemEvent\""
  | .session sessionId, payload =>
    if !isSafeSessionTargetId sessionId then
      .error "Error: invalid cron sessionTarget session id"
    else match payload with
      | .agentTurn _ => .ok ()
      | .systemEvent _ => .error
        "Error: isolated/current/session cron jobs require payload.kind=\"agentTurn\""
  | _, .agentTurn _ => .ok ()
  | _, .systemEvent _ => .error
    "Error: isolated/current/session cron jobs require payload.kind=\"agentTurn\""

def assertMainSessionAgentId (defaultAgentId : Option String) (job : CronJob) :
    Except String Unit :=
  match nonEmpty job.agentId with
  | none => .ok ()
  | some agentId =>
    if job.sessionTarget = .main && Routing.normalizeAgentId toLowerCase agentId ≠
        Routing.normalizeAgentId toLowerCase (defaultAgentId.getD "") then
      .error ("Error: cron: sessionTarget \"main\" is only valid for the default agent. Use " ++
        "sessionTarget \"isolated\" with payload.kind \"agentTurn\" for non-default agents " ++
        "(agentId: " ++ agentId ++ ")")
    else .ok ()

/-- A webhook has a URL, which is written down trimmed, and a main job has no channel. -/
def assertDeliverySupport (job : CronJob) : Except String CronJob :=
  match job.delivery with
  | none => .ok job
  | some delivery =>
    match delivery.mode with
    | .none => .ok job
    | .webhook =>
      match normalizeHttpWebhookUrl urlProtocol delivery.to' with
      | none => .error
        "Error: cron webhook delivery requires delivery.to to be a valid http(s) URL"
      | some target => .ok { job with delivery := some { delivery with to' := some target } }
    | .announce =>
      if job.sessionTarget = .main then .error
        "Error: cron channel delivery config is only supported for sessionTarget=\"isolated\""
      else .ok job

def assertFailureDestinationSupport (job : CronJob) : Except String CronJob :=
  match job.delivery with
  | none => .ok job
  | some delivery =>
    match delivery.failureDestination with
    | none => .ok job
    | some destination =>
      if job.sessionTarget = .main && delivery.mode ≠ .webhook then
        .error FAILURE_DESTINATION_ON_MAIN
      else if destination.mode = some .webhook then
        match normalizeHttpWebhookUrl urlProtocol destination.to' with
        | none => .error ("Error: cron failure destination webhook requires " ++
          "delivery.failureDestination.to to be a valid http(s) URL")
        | some target => .ok { job with
            delivery := some { delivery with
              failureDestination := some { destination with to' := some target } } }
      else .ok job

/-! ### Updates -/

open Edits

def applyJobPatch (patch : CronJobPatch) (defaultAgentId : Option String) :
    EStateM String CronJob Unit := do
  check patch.assignName
  modify (patch.assignBasics externals)
  check patch.assignPayload
  modify patch.assignDelivery
  require assertFailureDestinationTarget
  modify (patch.assignRest toLowerCase)
  require assertSupportedJobSpec
  require (assertMainSessionAgentId toLowerCase defaultAgentId)
  check (assertDeliverySupport urlProtocol)
  check (assertFailureDestinationSupport urlProtocol)

/-- An interval job gets an anchor that is a number. -/
def setEveryAnchor (patch : CronJobPatch) (nowMs : ℤ) (job : CronJob) : CronJob :=
  match job.schedule with
  | .every _ (some (.number _)) => job
  | .every everyMs _ =>
    let fallbackAnchorMs : ℚ := match patch.schedule with
      | some (.every _ _) => nowMs
      | _ => job.createdAtMs.getD nowMs
    { job with schedule := .every everyMs (some (.number (max 0 ⌊fallbackAnchorMs⌋ : ℤ))) }
  | _ => job

/-- The next run of a job that has been updated, where it may have changed or is missing. -/
def scheduleUpdated (patch : CronJobPatch) (nowMs : ℤ) (job : CronJob) : Except String CronJob :=
  let computed := (computeJobNextRunAtMs externals job nowMs).map fun nextRunAtMs =>
    { job with state := { job.state with nextRunAtMs } }
  if patch.schedule.isSome || patch.enabled.isSome then
    if isJobEnabled job then computed
    else .ok { job with state := { job.state with nextRunAtMs := none, runningAtMs := none } }
  else if isJobEnabled job && !hasScheduledNextRunAtMs job.state.nextRunAtMs then computed
  else .ok job

/-- What `update` does with a job. -/
def updateJob (patch : CronJobPatch) (defaultAgentId : Option String) (nowMs : ℤ) :
    EStateM String CronJob Unit := do
  applyJobPatch externals toLowerCase urlProtocol patch defaultAgentId
  modify (setEveryAnchor patch nowMs)
  modify fun job => { job with updatedAtMs := nowMs }
  check (scheduleUpdated externals patch nowMs)

/-- `update`, and the store in memory behind it. -/
def update (store : CronStore) (id : String) (patch : CronJobPatch)
    (defaultAgentId : Option String) (nowMs : ℤ) : Except String CronJob × CronStore :=
  match store.get id with
  | none => (.error ("Error: unknown cron job id: " ++ id), store)
  | some job =>
    match (updateJob externals toLowerCase urlProtocol patch defaultAgentId nowMs).run job with
    | .ok _ left => (.ok left, store.set id left)
    | .error err left => (.error err, store.set id left)

end Patches

end OpenClaw.Cron
