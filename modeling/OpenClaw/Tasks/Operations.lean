/-
This file is the operations `task-registry.ts` exports: creating a record (and
merging into an existing one), the agent-event listener, the updates by task id
and by run id, linking to a flow, cancelling, deleting, and the sections of the
maintenance sweep.

An operation that draws a fresh id takes it as an argument.
-/

import OpenClaw.Tasks.Delivery

namespace OpenClaw.Tasks

open Text KeyedIndex

/-! ### Creating records -/

/-- The parameters of `createTaskRecord`. -/
structure CreateTaskParams where
  runtime : TaskRuntime
  taskKind : Option String := none
  sourceId : Option String := none
  requesterSessionKey : Option String := none
  ownerKey : Option String := none
  scopeKind : Option TaskScopeKind := none
  requesterOrigin : Option DeliveryContext := none
  childSessionKey : Option String := none
  parentFlowId : Option String := none
  parentTaskId : Option String := none
  agentId : Option String := none
  runId : Option String := none
  label : Option String := none
  task : String
  preferMetadata : Bool := false
  status : Option TaskStatus := none
  deliveryStatus : Option TaskDeliveryStatus := none
  notifyPolicy : Option TaskNotifyPolicy := none
  startedAt : Option Int := none
  lastEventAt : Option Int := none
  cleanupAfter : Option Int := none
  progressSummary : Option String := none
  terminalSummary : Option String := none
  terminalOutcome : Option TaskTerminalOutcome := none
  deriving DecidableEq, Repr

/-- `resolveTaskRequesterSessionKey`. -/
def resolveTaskRequesterSessionKey (params : CreateTaskParams) : String :=
  match normalizeOptionalString params.requesterSessionKey with
  | some requesterSessionKey => requesterSessionKey
  | none =>
    if params.scopeKind = some .system then "" else (params.ownerKey.map trim).getD ""

/-- `resolveTaskScopeKind`. -/
def resolveTaskScopeKind (scopeKind : Option TaskScopeKind) (requesterSessionKey : String) :
    TaskScopeKind :=
  scopeKind.getD (if trim requesterSessionKey ≠ "" then .session else .system)

/-- `resolveTaskOwnerKey`. -/
def resolveTaskOwnerKey (requesterSessionKey : String) (ownerKey : Option String) : String :=
  (normalizeOptionalString ownerKey).getD (trim requesterSessionKey)

/-- `assertTaskOwner`. -/
def assertTaskOwner (ownerKey : String) (scopeKind : TaskScopeKind) : Section Unit :=
  if trim ownerKey = "" ∧ scopeKind ≠ .system then Sync.throw (.plain "Task ownerKey is required.")
  else pure ()

/-- The check `assertParentFlowLinkAllowed` makes of the flow it finds. -/
def parentFlowLinkError (flows : OrderedMap String TaskFlowRecord) (ownerKey : String)
    (scopeKind : TaskScopeKind) (parentFlowId : Option String) : Option TaskError :=
  match normalizeOptionalString parentFlowId with
  | none => none
  | some flowId =>
    if scopeKind ≠ .session then
      some (.parentFlowLink .scopeKindNotSession
        "Only session-scoped tasks can link to flows." flowId none)
    else match flows.get flowId with
      | none =>
        some (.parentFlowLink .parentFlowNotFound ("Parent flow not found: " ++ flowId) flowId none)
      | some flow =>
        if normalizeOptionalString (some flow.ownerKey) ≠
            normalizeOptionalString (some ownerKey) then
          some (.parentFlowLink .ownerKeyMismatch
            "Task ownerKey must match parent flow ownerKey." flowId none)
        else if flow.cancelRequestedAt.isSome then
          some (.parentFlowLink .cancelRequested
            "Parent flow cancellation has already been requested." flowId (some flow.status))
        else if isTerminalFlowStatus flow.status then
          some (.parentFlowLink .terminal ("Parent flow is already " ++ flow.status.toText ++ ".")
            flowId (some flow.status))
        else none

/-- `assertParentFlowLinkAllowed`. -/
def assertParentFlowLinkAllowed (ownerKey : String) (scopeKind : TaskScopeKind)
    (parentFlowId : Option String) : Section Unit := do
  let world ← Sync.read
  match parentFlowLinkError world.flows ownerKey scopeKind parentFlowId with
  | some error => Sync.throw error
  | none => pure ()

/-- `findExistingTaskForCreate`. -/
def findExistingTaskForCreate (world : World) (params : CreateTaskParams) (ownerKey : String)
    (scopeKind : TaskScopeKind) : Option TaskRecord :=
  match normalizeOptionalString params.runId with
  | none => none
  | some runId =>
    let same (left right : Option String) : Bool :=
      (normalizeOptionalString left).getD "" = (normalizeOptionalString right).getD ""
    let runScopeMatches := (getTasksByRunId world runId).filter fun task =>
      task.runtime = params.runtime && task.scopeKind = scopeKind &&
        same (some task.ownerKey) (some ownerKey) &&
        same task.childSessionKey params.childSessionKey &&
        same task.parentFlowId params.parentFlowId
    match runScopeMatches.find? fun task =>
        same task.label params.label && same (some task.task) (some params.task) with
    | some exact => some exact
    | none =>
      if params.runtime ≠ .acp then none else pickPreferredRunIdTask runScopeMatches

/-- A field that is filled from the parameters only when the record has none. -/
def fillBlank (offered existing : Option String) : Option String :=
  match normalizeOptionalString offered, normalizeOptionalString existing with
  | some value, none => some value
  | _, _ => none

/-- The patch `mergeExistingTaskForCreate` computes. -/
def mergePatch (existing : TaskRecord) (params : CreateTaskParams) : TaskPatch :=
  let nextLabel := normalizeOptionalString params.label
  let nextTask := normalizeOptionalString (some params.task)
  let notifyPolicy :=
    ensureNotifyPolicy params.notifyPolicy params.deliveryStatus existing.ownerKey
      existing.scopeKind
  { sourceId := fillBlank params.sourceId existing.sourceId
    taskKind := fillBlank params.taskKind existing.taskKind
    parentFlowId := fillBlank params.parentFlowId existing.parentFlowId
    parentTaskId := fillBlank params.parentTaskId existing.parentTaskId
    agentId := fillBlank params.agentId existing.agentId
    label :=
      if params.preferMetadata then
        nextLabel.filter fun label => normalizeOptionalString existing.label ≠ some label
      else fillBlank params.label existing.label
    task :=
      if params.preferMetadata then
        nextTask.filter fun task => normalizeOptionalString (some existing.task) ≠ some task
      else none
    deliveryStatus :=
      if params.deliveryStatus = some .pending ∧ existing.deliveryStatus ≠ .delivered then
        some .pending
      else none
    notifyPolicy :=
      if notifyPolicy ≠ existing.notifyPolicy ∧ existing.notifyPolicy = .silent then
        some notifyPolicy
      else none }

/-- The requester origin of the parameters goes to a task that has none. -/
def mergeRequesterOrigin (env : Env) (existing : TaskRecord) (params : CreateTaskParams) :
    Section Unit := do
  let world ← Sync.read
  let requesterOrigin := normalizeDeliveryContext env params.requesterOrigin
  let currentDeliveryState := world.taskDeliveryStates.get existing.taskId
  if requesterOrigin.isSome &&
      (currentDeliveryState.bind TaskDeliveryState.requesterOrigin).isNone then
    upsertTaskDeliveryState env
      { taskId := existing.taskId
        requesterOrigin := requesterOrigin
        lastNotifiedEventAt := currentDeliveryState.bind TaskDeliveryState.lastNotifiedEventAt }
  else pure ()

/-- A parent flow that the merge is going to fill in has to allow the link. -/
def checkMergedParentFlow (existing : TaskRecord) (params : CreateTaskParams) : Section Unit :=
  if (fillBlank params.parentFlowId existing.parentFlowId).isSome then
    assertParentFlowLinkAllowed existing.ownerKey existing.scopeKind params.parentFlowId
  else pure ()

/-- `mergeExistingTaskForCreate`. -/
def mergeExistingTaskForCreate (env : Env) (existing : TaskRecord) (params : CreateTaskParams) :
    Section TaskRecord := do
  mergeRequesterOrigin env existing params
  checkMergedParentFlow existing params
  let patch := mergePatch existing params
  if patch = {} then pure existing
  else do
    let updated ← updateTask existing.taskId patch
    pure (updated.getD existing)

/-- The record `createTaskRecord` builds. -/
def newTaskRecord (taskId : String) (params : CreateTaskParams) (requesterSessionKey ownerKey : String)
    (scopeKind : TaskScopeKind) (now : Int) : TaskRecord :=
  let status := params.status.getD .queued
  let deliveryStatus := params.deliveryStatus.getD (ensureDeliveryStatus ownerKey scopeKind)
  let lastEventAt := (params.lastEventAt.or params.startedAt).getD now
  { taskId := taskId
    runtime := params.runtime
    taskKind := normalizeOptionalString params.taskKind
    sourceId := normalizeOptionalString params.sourceId
    requesterSessionKey := requesterSessionKey
    ownerKey := ownerKey
    scopeKind := scopeKind
    childSessionKey := params.childSessionKey
    parentFlowId := normalizeOptionalString params.parentFlowId
    parentTaskId := normalizeOptionalString params.parentTaskId
    agentId := normalizeOptionalString params.agentId
    runId := normalizeOptionalString params.runId
    label := normalizeOptionalString params.label
    task := params.task
    status := status
    deliveryStatus := deliveryStatus
    notifyPolicy :=
      ensureNotifyPolicy params.notifyPolicy (some deliveryStatus) ownerKey scopeKind
    createdAt := now
    startedAt := params.startedAt
    lastEventAt := some lastEventAt
    cleanupAfter :=
      if isTerminalTaskStatus status && params.cleanupAfter.isNone then
        some (lastEventAt + defaultTaskRetentionMs)
      else params.cleanupAfter
    progressSummary := normalizeTaskSummary params.progressSummary
    terminalSummary := normalizeTaskSummary params.terminalSummary
    terminalOutcome := resolveTaskTerminalOutcome status params.terminalOutcome }

/-- The writes of `createTaskRecord` for a new record, in its order: the task map, the
delivery state (whose store call may throw), the indexes, the store. -/
def insertTaskRecord (env : Env) (record : TaskRecord) (requesterOrigin : Option DeliveryContext) :
    Section Unit := do
  Sync.modify (putTask record.taskId record)
  upsertTaskDeliveryState env
    { taskId := record.taskId
      requesterOrigin := normalizeDeliveryContext env requesterOrigin }
  Sync.modify (addIndexes record.taskId record)
  hostCall
  Sync.attempt (syncFlowFromTask record) fun _ => pure ()

/-- A record that is created terminal is delivered at once. -/
def deliverIfTerminal (env : Env) (record : TaskRecord) : Section Unit :=
  if isTerminalTaskStatus record.status then
    detached (maybeDeliverTaskTerminalUpdate env record.taskId)
  else pure ()

/-- `createTaskRecord`. -/
def createTaskRecord (env : Env) (taskId : String) (params : CreateTaskParams) :
    Section TaskRecord := do
  let requesterSessionKey := resolveTaskRequesterSessionKey params
  let scopeKind := resolveTaskScopeKind params.scopeKind requesterSessionKey
  let ownerKey := resolveTaskOwnerKey requesterSessionKey params.ownerKey
  assertTaskOwner ownerKey scopeKind
  assertParentFlowLinkAllowed ownerKey scopeKind params.parentFlowId
  let world ← Sync.read
  match findExistingTaskForCreate world params ownerKey scopeKind with
  | some existing => mergeExistingTaskForCreate env existing params
  | none => do
    let now ← dateNow
    let record := newTaskRecord taskId params requesterSessionKey ownerKey scopeKind now
    insertTaskRecord env record params.requesterOrigin
    deliverIfTerminal env record
    pure record

/-! ### Agent events -/

/-- The lifecycle phases the listener distinguishes. -/
inductive LifecyclePhase
  | start
  | finish (aborted : Bool)
  | error (message : Option String)
  | other
  deriving DecidableEq, Repr

/-- The streams the listener distinguishes. -/
inductive AgentEventStream
  | lifecycle (phase : LifecyclePhase) (startedAt endedAt : Option Int)
  | error (message : Option String)
  | other
  deriving DecidableEq, Repr

structure AgentEvent where
  runId : String
  sessionKey : Option String := none
  ts : Int
  stream : AgentEventStream
  deriving DecidableEq, Repr

/-- The patch the listener applies to a task that is not terminal. -/
def agentEventPatch (current : TaskRecord) (stream : AgentEventStream) (now : Int) : TaskPatch :=
  match stream with
  | .lifecycle phase startedAt endedAt =>
    let started : TaskPatch :=
      { lastEventAt := some now
        startedAt := (startedAt.or current.startedAt).filter (· ≠ 0) }
    match phase with
    | .start => { started with status := some .running }
    | .finish aborted =>
      { started with
        status := some (if aborted then .timedOut else .succeeded)
        endedAt := some (endedAt.getD now) }
    | .error message =>
      { started with
        status := some .failed
        endedAt := some (endedAt.getD now)
        error := some (message.or current.error) }
    | .other => started
  | .error message => { lastEventAt := some now, error := some (message.or current.error) }
  | .other => { lastEventAt := some now }

/-- The event the listener reports when the status changes. -/
def agentEventReport (current : TaskRecord) (patch : TaskPatch) (now : Int) :
    Option TaskEventRecord :=
  match patch.status with
  | none => none
  | some status =>
    if status = current.status then none
    else some (appendTaskEvent now (.status status) <|
      match status with
      | .failed => (patch.error.getD none).or current.error
      | .succeeded => current.terminalSummary
      | _ => none)

/-- The listener's work on one task of the run. -/
def handleAgentEventFor (env : Env) (event : AgentEvent) (now : Int) (current : TaskRecord) :
    Section Unit :=
  if isTerminalTaskStatus current.status then pure ()
  else do
    let patch := agentEventPatch current event.stream now
    match ← updateTask current.taskId patch with
    | none => pure ()
    | some _ => notifyTask env current.taskId (agentEventReport current patch now)

/-- The listener `ensureListener` registers. -/
def handleAgentEvent (env : Env) (event : AgentEvent) : Section Unit := do
  let world ← Sync.read
  let scopedTasks := getTasksByRunScope world
    { runId := event.runId, sessionKey := event.sessionKey }
  if scopedTasks = [] then pure ()
  else do
    let now ← orNow (if event.ts ≠ 0 then some event.ts else none)
    Sync.forEach (handleAgentEventFor env event now) scopedTasks

/-! ### Updates by task id -/

/-- `setTaskProgressById`. -/
def setTaskProgressById (taskId : String) (progressSummary : Option (Option String))
    (lastEventAt : Option Int) : Section (Option TaskRecord) :=
  updateTask taskId
    { progressSummary := progressSummary.map normalizeTaskSummary, lastEventAt := lastEventAt }

/-- `setTaskTimingById`. -/
def setTaskTimingById (taskId : String) (startedAt endedAt lastEventAt : Option Int) :
    Section (Option TaskRecord) :=
  updateTask taskId { startedAt := startedAt, endedAt := endedAt, lastEventAt := lastEventAt }

/-- `setTaskCleanupAfterById`. -/
def setTaskCleanupAfterById (taskId : String) (cleanupAfter : Int) : Section (Option TaskRecord) :=
  updateTask taskId { cleanupAfter := some cleanupAfter }

/-- `markTaskTerminalById`. -/
def markTaskTerminalById (taskId : String) (status : EndStatus) (endedAt : Int)
    (lastEventAt : Option Int) (error : Option String) (terminalSummary : Option (Option String))
    (terminalOutcome : Option (Option TaskTerminalOutcome)) : Section (Option TaskRecord) :=
  updateTask taskId
    { status := some status.toTaskStatus
      endedAt := some endedAt
      lastEventAt := some (lastEventAt.getD endedAt)
      error := error.map some
      terminalSummary := terminalSummary.map normalizeTaskSummary
      terminalOutcome := terminalOutcome.map (resolveTaskTerminalOutcome status.toTaskStatus) }

/-- `markTaskLostById`. -/
def markTaskLostById (taskId : String) (endedAt : Int) (lastEventAt : Option Int)
    (error : Option String) (cleanupAfter : Option Int) : Section (Option TaskRecord) :=
  updateTask taskId
    { status := some .lost
      endedAt := some endedAt
      lastEventAt := some (lastEventAt.getD endedAt)
      error := error.map some
      cleanupAfter := cleanupAfter }

/-- `updateTaskNotifyPolicyById`. -/
def updateTaskNotifyPolicyById (taskId : String) (notifyPolicy : TaskNotifyPolicy) :
    Section (Option TaskRecord) := do
  let now ← dateNow
  updateTask taskId { notifyPolicy := some notifyPolicy, lastEventAt := some now }

/-- `linkTaskToFlowById`. -/
def linkTaskToFlowById (taskId flowId : String) : Section (Option TaskRecord) := do
  let world ← Sync.read
  match normalizeOptionalString (some flowId), world.tasks.get taskId with
  | some flowId, some current =>
    if (normalizeOptionalString current.parentFlowId).isSome then pure (some current)
    else do
      assertParentFlowLinkAllowed current.ownerKey current.scopeKind (some flowId)
      updateTask taskId { parentFlowId := some flowId }
  | _, _ => pure none

/-! ### Updates by run id -/

/-- The parameters of `updateTaskStateByRunId` beside the run scope. -/
structure TaskStateParams where
  status : Option TaskStatus := none
  startedAt : Option Int := none
  endedAt : Option Int := none
  lastEventAt : Option Int := none
  error : Option String := none
  progressSummary : Option (Option String) := none
  terminalSummary : Option (Option String) := none
  terminalOutcome : Option (Option TaskTerminalOutcome) := none
  eventSummary : Option String := none
  deriving DecidableEq, Repr

/-- The patch `updateTaskStateByRunId` computes for one task. -/
def taskStatePatch (current : TaskRecord) (params : TaskStateParams) : TaskPatch :=
  { status := params.status
    startedAt := params.startedAt
    endedAt := params.endedAt
    lastEventAt := params.lastEventAt
    error := params.error.map some
    progressSummary := params.progressSummary.map normalizeTaskSummary
    terminalSummary := params.terminalSummary.map normalizeTaskSummary
    terminalOutcome :=
      params.terminalOutcome.map
        (resolveTaskTerminalOutcome (params.status.getD current.status)) }

/-- The event `updateTaskStateByRunId` reports for one task. -/
def taskStateReport (current : TaskRecord) (params : TaskStateParams) (eventAt : Int) :
    Option TaskEventRecord :=
  let nextStatus := params.status.getD current.status
  let eventSummary := (normalizeTaskSummary params.eventSummary).or <|
    match nextStatus with
    | .failed => normalizeTaskSummary (params.error.or current.error)
    | .succeeded =>
      normalizeTaskSummary ((params.terminalSummary.getD none).or current.terminalSummary)
    | _ => none
  match params.status.filter (· ≠ current.status) with
  | some status => some (appendTaskEvent eventAt (.status status) eventSummary)
  | none =>
    if (normalizeTaskSummary params.eventSummary).isSome then
      some (appendTaskEvent eventAt .progress eventSummary)
    else none

/-- The body of the loop of `updateTaskStateByRunId`. -/
def updateTaskState (env : Env) (params : TaskStateParams) (current : TaskRecord) :
    Section Unit := do
  let eventAt ← orNow (params.lastEventAt.or params.endedAt)
  match ← updateTask current.taskId (taskStatePatch current params) with
  | none => pure ()
  | some task => notifyTask env task.taskId (taskStateReport current params eventAt)

/-- `updateTaskStateByRunId`. It asks nothing about the status a task already has. -/
def updateTaskStateByRunId (env : Env) (scope : RunScope) (params : TaskStateParams) :
    Section Unit := do
  let world ← Sync.read
  Sync.forEach (updateTaskState env params) (getTasksByRunScope world scope)

/-- `markTaskRunningByRunId`. -/
def markTaskRunningByRunId (env : Env) (scope : RunScope) (startedAt lastEventAt : Option Int)
    (progressSummary : Option (Option String)) (eventSummary : Option String) : Section Unit :=
  updateTaskStateByRunId env scope
    { status := some .running
      startedAt := startedAt
      lastEventAt := lastEventAt
      progressSummary := progressSummary
      eventSummary := eventSummary }

/-- `recordTaskProgressByRunId`. -/
def recordTaskProgressByRunId (env : Env) (scope : RunScope) (lastEventAt : Option Int)
    (progressSummary : Option (Option String)) (eventSummary : Option String) : Section Unit :=
  updateTaskStateByRunId env scope
    { lastEventAt := lastEventAt
      progressSummary := progressSummary
      eventSummary := eventSummary }

/-- What `markTaskTerminalByRunId` takes beside the run scope and the status. -/
structure TaskEndParams where
  startedAt : Option Int := none
  endedAt : Int
  lastEventAt : Option Int := none
  error : Option String := none
  progressSummary : Option (Option String) := none
  terminalSummary : Option (Option String) := none
  terminalOutcome : Option (Option TaskTerminalOutcome) := none
  deriving DecidableEq, Repr

/-- `markTaskTerminalByRunId`. -/
def markTaskTerminalByRunId (env : Env) (scope : RunScope) (status : EndStatus)
    (params : TaskEndParams) : Section Unit :=
  updateTaskStateByRunId env scope
    { status := some status.toTaskStatus
      startedAt := params.startedAt
      endedAt := some params.endedAt
      lastEventAt := params.lastEventAt
      error := params.error
      progressSummary := params.progressSummary
      terminalSummary := params.terminalSummary
      terminalOutcome := params.terminalOutcome }

/-- `completeTaskRunByRunId`. -/
def completeTaskRunByRunId (env : Env) (scope : RunScope) (params : TaskEndParams) :
    Section Unit :=
  markTaskTerminalByRunId env scope .succeeded { params with startedAt := none, error := none }

/-- `failTaskRunByRunId`. -/
def failTaskRunByRunId (env : Env) (scope : RunScope) (status : Option EndStatus)
    (params : TaskEndParams) : Section Unit :=
  markTaskTerminalByRunId env scope (status.getD .failed)
    { params with startedAt := none, terminalOutcome := none }

/-- `setTaskRunDeliveryStatusByRunId`. -/
def setTaskRunDeliveryStatusByRunId (scope : RunScope) (deliveryStatus : TaskDeliveryStatus) :
    Section Unit := do
  let world ← Sync.read
  Sync.forEach
    (fun matched => do
      let _ ← updateTask matched.taskId { deliveryStatus := some deliveryStatus }
      pure ())
    (getTasksByRunScope world scope)

/-! ### Cancelling -/

/-- How far the synchronous first stretch of `cancelTaskById` gets. -/
inductive CancelStart
  /-- The call has returned; `cancelled` is its result. -/
  | returned (cancelled : Bool)
  /-- The call awaits the child session of the task. -/
  | awaiting (taskId : String)
  deriving DecidableEq, Repr

/-- A cancelled task is delivered if it was still there to be updated. -/
def deliverCancelled (env : Env) (updated : Option TaskRecord) : Section Unit :=
  match updated with
  | some task => detached (maybeDeliverTaskTerminalUpdate env task.taskId)
  | none => pure ()

/-- The writes of the last stretch of `cancelTaskById`. -/
def writeTaskCancelled (env : Env) (taskId : String) : Section Bool := do
  let endedAt ← dateNow
  let lastEventAt ← dateNow
  let updated ← updateTask taskId
    { status := some .cancelled
      endedAt := some endedAt
      lastEventAt := some lastEventAt
      error := some (some "Cancelled by operator.") }
  deliverCancelled env updated
  pure true

/-- The last stretch of `cancelTaskById`: the child session has been stopped, or there was
none. -/
def recordTaskCancelled (env : Env) (taskId : String) : Section Bool :=
  Sync.attempt (writeTaskCancelled env taskId) fun _ => pure false

/-- `cancelTaskById` up to its first await. -/
def startCancelTaskById (env : Env) (taskId : String) : Section CancelStart := do
  let world ← Sync.read
  match world.tasks.get (trim taskId) with
  | none => pure (.returned false)
  | some task =>
    if isTerminalTaskStatus task.status then pure (.returned false)
    else match task.runtime with
      | .cli => do
        let cancelled ← recordTaskCancelled env task.taskId
        pure (.returned cancelled)
      | .cron => pure (.returned false)
      | .acp | .subagent =>
        if (normalizeOptionalString task.childSessionKey).isNone then pure (.returned false)
        else pure (.awaiting task.taskId)

/-- `cancelTaskById` after its awaits. `stopped` says whether the child session was cancelled or
the subagent killed. -/
def finishCancelTaskById (env : Env) (taskId : String) (stopped : Bool) : Section Bool :=
  if stopped then recordTaskCancelled env taskId else pure false

/-! ### Deleting -/

/-- The map and index writes of `deleteTaskRecordById`. -/
def eraseTask (taskId : String) (current : TaskRecord) (world : World) : World :=
  rebuildRunIdIndex
    { world with
      taskIdsByOwnerKey := removeAll (ownerKeys current) taskId world.taskIdsByOwnerKey
      taskIdsByParentFlowId := removeAll (parentFlowKeys current) taskId world.taskIdsByParentFlowId
      taskIdsByRelatedSessionKey :=
        removeAll (relatedSessionKeys current) taskId world.taskIdsByRelatedSessionKey
      tasks := world.tasks.delete taskId
      taskDeliveryStates := world.taskDeliveryStates.delete taskId }

/-- `deleteTaskRecordById`. -/
def deleteTaskRecordById (taskId : String) : Section Bool := do
  let world ← Sync.read
  match world.tasks.get taskId with
  | none => pure false
  | some current => do
    Sync.modify (eraseTask taskId current)
    hostCall
    hostCall
    pure true

/-! ### Maintenance -/

/-- `TASK_RECONCILE_GRACE_MS`. -/
def taskReconcileGraceMs : Int := 5 * 60000

/-- `TASK_RETENTION_MS`. -/
def taskRetentionMs : Int := 7 * 24 * 60 * 60000

/-- `shouldMarkLost`, given whether the task still has a backing session. -/
def shouldMarkLost (task : TaskRecord) (now : Int) (hasBackingSession : Bool) : Bool :=
  isActiveTaskStatus task.status &&
    decide (taskReconcileGraceMs ≤ now - (task.lastEventAt.or task.startedAt).getD task.createdAt) &&
    !hasBackingSession

/-- `terminalAt` of the maintenance code. -/
def terminalReferenceAt (task : TaskRecord) : Int :=
  (task.endedAt.or task.lastEventAt).getD task.createdAt

/-- `shouldPruneTerminalTask`. -/
def shouldPruneTerminalTask (task : TaskRecord) (now : Int) : Bool :=
  !isActiveTaskStatus task.status &&
    match task.cleanupAfter with
    | some cleanupAfter => decide (cleanupAfter ≤ now)
    | none => decide (taskRetentionMs ≤ now - terminalReferenceAt task)

/-- `shouldStampCleanupAfter`. -/
def shouldStampCleanupAfter (task : TaskRecord) : Bool :=
  !isActiveTaskStatus task.status && task.cleanupAfter.isNone

/-- `markTaskLost` of the maintenance code. -/
def markTaskLost (env : Env) (task : TaskRecord) (now : Int) : Section Unit := do
  let endedAt := task.endedAt.getD now
  let cleanupAfter := task.cleanupAfter.getD (endedAt + taskRetentionMs)
  let _ ← markTaskLostById task.taskId endedAt (some now)
    (some (task.error.getD "backing session missing")) (some cleanupAfter)
  detached (maybeDeliverTaskTerminalUpdate env task.taskId)

/-- The pruning of one turn of the maintenance loop. -/
def pruneIfExpired (task : TaskRecord) (now : Int) : Section Bool :=
  if shouldPruneTerminalTask task now then deleteTaskRecordById task.taskId else pure false

/-- One turn of the loop of `runTaskRegistryMaintenance`. -/
def maintainTask (env : Env) (taskId : String) (now : Int) (hasBackingSession : Bool) :
    Section Unit := do
  let world ← Sync.read
  match world.tasks.get (trim taskId) with
  | none => pure ()
  | some current =>
    if shouldMarkLost current now hasBackingSession then markTaskLost env current now
    else do
      let pruned ← pruneIfExpired current now
      if !pruned && shouldStampCleanupAfter current then do
        let _ ← setTaskCleanupAfterById current.taskId
          (terminalReferenceAt current + taskRetentionMs)
        pure ()
      else pure ()

end OpenClaw.Tasks
