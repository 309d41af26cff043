/-
This file is the delivery half of `task-registry.ts`:
`maybeDeliverTaskTerminalUpdate` and `maybeDeliverTaskStateChangeUpdate`.

Both are asynchronous and are started without being awaited. Each is cut at its
two awaits: the stretch up to `await loadTaskRegistryDeliveryRuntime()` runs
inside the operation that starts the delivery and leaves a `Delivery` behind;
`resumeLoaded` runs once the runtime is there and ends at `await sendMessage`;
`finishDelivery` runs when the send has settled, or when the runtime could not
be loaded.
-/

import OpenClaw.Tasks.Policy
import OpenClaw.Tasks.Registry

namespace OpenClaw.Tasks

open Text

/-! ### The owner of a delivery -/

/-- `getLinkedFlowForDelivery`. -/
def getLinkedFlowForDelivery (world : World) (task : TaskRecord) : Option TaskFlowRecord :=
  match normalizeOptionalString task.parentFlowId with
  | none => none
  | some flowId =>
    if task.scopeKind ≠ .session then none
    else (world.flows.get flowId).filter fun flow =>
      normalizeOptionalString (some flow.ownerKey) = normalizeOptionalString (some task.ownerKey)

/-- `resolveTaskDeliveryOwner`. -/
def resolveTaskDeliveryOwner (env : Env) (world : World) (task : TaskRecord) : TaskDeliveryOwner :=
  let ownOrigin := (world.taskDeliveryStates.get task.taskId).bind fun state =>
    state.requesterOrigin
  match getLinkedFlowForDelivery world task with
  | some flow =>
    { sessionKey := some (trim flow.ownerKey)
      requesterOrigin := normalizeDeliveryContext env (flow.requesterOrigin.or ownOrigin)
      flowId := some flow.flowId }
  | none =>
    if task.scopeKind ≠ .session then {}
    else
      { sessionKey := some (trim task.ownerKey)
        requesterOrigin := normalizeDeliveryContext env ownOrigin }

/-- `canDeliverTaskToRequesterOrigin`. -/
def canDeliverTaskToRequesterOrigin (env : Env) (world : World) (task : TaskRecord) : Bool :=
  let origin := (resolveTaskDeliveryOwner env world task).requesterOrigin
  match origin.bind fun origin => normalizeOptionalString origin.channel,
    origin.bind fun origin => normalizeOptionalString origin.to' with
  | some channel, some _ => env.isDeliverableMessageChannel channel
  | _, _ => false

/-- `resolveMissingOwnerDeliveryStatus`. -/
def resolveMissingOwnerDeliveryStatus (task : TaskRecord) : TaskDeliveryStatus :=
  if task.scopeKind = .system then .notApplicable else .parentMissing

/-! ### Idempotency keys -/

/-- The outcome part of the terminal keys. -/
def terminalOutcomeText (task : TaskRecord) : String :=
  if task.status = .succeeded then
    (task.terminalOutcome.map TaskTerminalOutcome.toText).getD "default"
  else "default"

/-- `resolveTaskTerminalIdempotencyKey`. -/
def resolveTaskTerminalIdempotencyKey (env : Env) (world : World) (task : TaskRecord) : String :=
  match (resolveTaskDeliveryOwner env world task).flowId with
  | some flowId =>
    "flow-terminal:" ++ flowId ++ ":" ++ task.taskId ++ ":" ++ task.status.toText ++ ":" ++
      terminalOutcomeText task
  | none =>
    "task-terminal:" ++ task.taskId ++ ":" ++ task.status.toText ++ ":" ++ terminalOutcomeText task

/-- `resolveTaskStateChangeIdempotencyKey`. -/
def resolveTaskStateChangeIdempotencyKey (task : TaskRecord) (event : TaskEventRecord)
    (owner : TaskDeliveryOwner) : String :=
  match owner.flowId with
  | some flowId =>
    "flow-event:" ++ flowId ++ ":" ++ task.taskId ++ ":" ++ toString event.at' ++ ":" ++
      event.kind.toText
  | none => "task-event:" ++ task.taskId ++ ":" ++ toString event.at' ++ ":" ++ event.kind.toText

/-! ### Session events -/

/-- The common part of `queueTaskSystemEvent` and `queueBlockedTaskFollowup`. -/
def queueSessionEvent (env : Env) (task : TaskRecord) (contextKey text : String) :
    Section Unit := do
  let world ← Sync.read
  match normalizeOptionalString (resolveTaskDeliveryOwner env world task).sessionKey with
  | none => pure ()
  | some ownerKey => do
    hostCall
    handOff (.session task.taskId ownerKey contextKey text)

/-- `queueTaskSystemEvent`. -/
def queueTaskSystemEvent (env : Env) (task : TaskRecord) (text : String) : Section Unit :=
  queueSessionEvent env task ("task:" ++ task.taskId) text

/-- `queueBlockedTaskFollowup`. -/
def queueBlockedTaskFollowup (env : Env) (task : TaskRecord) : Section Unit :=
  match formatTaskBlockedFollowupMessage env task with
  | none => pure ()
  | some text => queueSessionEvent env task ("task:" ++ task.taskId ++ ":blocked-followup") text

/-- The followup of a blocked task, where the delivery code asks for it. -/
def queueFollowupIfBlocked (env : Env) (task : TaskRecord) : Section Unit :=
  if task.terminalOutcome = some .blocked then queueBlockedTaskFollowup env task else pure ()

/-! ### Terminal updates -/

/-- `updateTask(taskId, { deliveryStatus, lastEventAt: Date.now() })`. -/
def recordDeliveryStatus (taskId : String) (deliveryStatus : TaskDeliveryStatus) :
    Section Unit := do
  let now ← dateNow
  let _ ← updateTask taskId { deliveryStatus := some deliveryStatus, lastEventAt := some now }
  pure ()

/-- `tasksWithPendingDelivery.delete(taskId)`. -/
def clearPendingDelivery (taskId : String) (world : World) : World :=
  { world with
    tasksWithPendingDelivery := world.tasksWithPendingDelivery.filter (· ≠ taskId) }

/-- Leaves a delivery at its first await. -/
def awaitDeliveryRuntime (delivery : Delivery) : Section Unit :=
  Sync.modify fun world => { world with inFlight := world.inFlight ++ [delivery] }

/-- The peer of its run a task's terminal delivery is left to. -/
def preferredPeer (world : World) (latest : TaskRecord) : Option TaskRecord :=
  if (nonEmpty latest.runId).isSome then
    pickPreferredRunIdTask (getPeerTasksForDelivery world latest)
  else none

/-- The body of the `try` of `maybeDeliverTaskTerminalUpdate` up to its first await. It
returns whether it is awaiting. -/
def startTerminalDelivery (env : Env) (taskId : String) (latest : TaskRecord) : Section Bool := do
  let world ← Sync.read
  if shouldSuppressDuplicateTerminalDelivery latest
      ((preferredPeer world latest).map TaskRecord.taskId) then do
    recordDeliveryStatus taskId .notApplicable
    pure false
  else
    let owner := resolveTaskDeliveryOwner env world latest
    if (normalizeOptionalString owner.sessionKey).isNone then do
      recordDeliveryStatus taskId (resolveMissingOwnerDeliveryStatus latest)
      pure false
    else
      let eventText := formatTaskTerminalMessage env latest
      if !canDeliverTaskToRequesterOrigin env world latest then do
        Sync.attempt
          (do
            queueTaskSystemEvent env latest eventText
            queueFollowupIfBlocked env latest
            recordDeliveryStatus taskId .sessionQueued)
          fun _ => recordDeliveryStatus taskId .failed
        pure false
      else do
        awaitDeliveryRuntime
          { taskId := taskId, task := latest, kind := .terminal, owner := owner,
            eventText := eventText, stage := .loading }
        pure true

/-- `maybeDeliverTaskTerminalUpdate` up to its first await. -/
def maybeDeliverTaskTerminalUpdate (env : Env) (taskId : String) : Section Unit := do
  let world ← Sync.read
  match world.tasks.get taskId with
  | none => pure ()
  | some current =>
    if !shouldAutoDeliverTaskTerminalUpdate current then pure ()
    else if taskId ∈ world.tasksWithPendingDelivery then pure ()
    else do
      Sync.modify fun world =>
        { world with tasksWithPendingDelivery := world.tasksWithPendingDelivery ++ [taskId] }
      let awaiting ← Sync.attempt (startTerminalDelivery env taskId current) fun error => do
        Sync.modify (clearPendingDelivery taskId)
        Sync.throw error
      if awaiting then pure () else Sync.modify (clearPendingDelivery taskId)

/-- The rest of `maybeDeliverTaskTerminalUpdate` once the runtime import or the send has
settled. -/
def finishTerminalDelivery (env : Env) (delivery : Delivery) (succeeded : Bool) : Section Unit :=
  Sync.ensuring
    (Sync.attempt
      (if succeeded then do
        queueFollowupIfBlocked env delivery.task
        recordDeliveryStatus delivery.taskId .delivered
      else Sync.throw .host)
      fun _ => do
        Sync.attempt
          (do
            queueTaskSystemEvent env delivery.task delivery.eventText
            queueFollowupIfBlocked env delivery.task)
          fun _ => pure ()
        recordDeliveryStatus delivery.taskId .failed)
    (clearPendingDelivery delivery.taskId)

/-! ### State changes -/

/-- `upsertTaskDeliveryState` and `updateTask` after a state change has been delivered. -/
def recordStateChangeDelivery (env : Env) (taskId : String)
    (deliveryState : Option TaskDeliveryState) (event : TaskEventRecord) : Section Unit := do
  upsertTaskDeliveryState env
    { taskId := taskId
      requesterOrigin := deliveryState.bind TaskDeliveryState.requesterOrigin
      lastNotifiedEventAt := some event.at' }
  let now ← dateNow
  let _ ← updateTask taskId { lastEventAt := some now }
  pure ()

/-- The body of the `try` of `maybeDeliverTaskStateChangeUpdate` up to its first await. -/
def startStateChangeDelivery (env : Env) (taskId : String) (current : TaskRecord)
    (event : TaskEventRecord) (eventText : String) : Section Unit := do
  let world ← Sync.read
  let deliveryState := world.taskDeliveryStates.get taskId
  let owner := resolveTaskDeliveryOwner env world current
  if (normalizeOptionalString owner.sessionKey).isNone then
    recordDeliveryStatus taskId (resolveMissingOwnerDeliveryStatus current)
  else if !canDeliverTaskToRequesterOrigin env world current then do
    queueTaskSystemEvent env current eventText
    recordStateChangeDelivery env taskId deliveryState event
  else
    awaitDeliveryRuntime
      { taskId := taskId, task := current, kind := .stateChange event deliveryState,
        owner := owner, eventText := eventText, stage := .loading }

/-- `maybeDeliverTaskStateChangeUpdate` up to its first await. -/
def maybeDeliverTaskStateChangeUpdate (env : Env) (taskId : String)
    (latestEvent : Option TaskEventRecord) : Section Unit := do
  let world ← Sync.read
  match world.tasks.get taskId, latestEvent with
  | some current, some event =>
    let lastNotified := (world.taskDeliveryStates.get taskId).bind
      TaskDeliveryState.lastNotifiedEventAt
    if !shouldAutoDeliverTaskStateChange current then pure ()
    else if event.at' ≤ lastNotified.getD 0 then pure ()
    else match formatTaskStateChangeMessage env current event with
      | none => pure ()
      | some eventText =>
        Sync.attempt (startStateChangeDelivery env taskId current event eventText) fun _ => pure ()
  | _, _ => pure ()

/-! ### Resuming a delivery -/

/-- `void promise`: what a detached delivery throws reaches nobody. -/
def detached (start : Section Unit) : Section Unit := Sync.attempt start fun _ => pure ()

/-- The two deliveries started after a status write. -/
def notifyTask (env : Env) (taskId : String) (event : Option TaskEventRecord) : Section Unit := do
  detached (maybeDeliverTaskStateChangeUpdate env taskId event)
  detached (maybeDeliverTaskTerminalUpdate env taskId)

/-- Takes a delivery out of the awaiting ones. -/
def takeInFlight (delivery : Delivery) : Section Unit :=
  Sync.modify fun world => { world with inFlight := world.inFlight.erase delivery }

/-- The stretch between the two awaits: the message is handed to the channel. -/
def resumeLoaded (env : Env) (delivery : Delivery) : Section Unit := do
  takeInFlight delivery
  let world ← Sync.read
  let idempotencyKey := match delivery.kind with
    | .terminal => resolveTaskTerminalIdempotencyKey env world delivery.task
    | .stateChange event _ =>
      resolveTaskStateChangeIdempotencyKey delivery.task event delivery.owner
  handOff (.channel delivery.taskId idempotencyKey delivery.eventText)
  awaitDeliveryRuntime { delivery with stage := .sending }

/-- The stretch after the last await of a delivery. -/
def finishDelivery (env : Env) (delivery : Delivery) (succeeded : Bool) : Section Unit := do
  takeInFlight delivery
  match delivery.kind with
  | .terminal => finishTerminalDelivery env delivery succeeded
  | .stateChange event deliveryState =>
    if succeeded then
      Sync.attempt (recordStateChangeDelivery env delivery.taskId deliveryState event)
        fun _ => pure ()
    else pure ()

end OpenClaw.Tasks
