/-
This file is `task-executor.ts` and `task-flow-registry.maintenance.ts`: the
entry points that combine the two registries. A detached run gets a mirrored
flow of its own, a managed flow starts and retries child tasks, and a flow is
cancelled by cancelling its children one after the other and settling it when
none is active.

`cancelFlowById` awaits every child in turn, so it is cut into the stretch that
requests the cancellation, one stretch for each child, and the stretch that
settles the flow.
-/

import OpenClaw.Tasks.Operations

namespace OpenClaw.Tasks

open Text

/-! ### Detached runs -/

/-- `isOneTaskFlowEligible`. -/
def isOneTaskFlowEligible (task : TaskRecord) : Bool :=
  !((normalizeOptionalString task.parentFlowId).isSome || task.scopeKind ≠ .session) &&
    task.deliveryStatus ≠ .notApplicable && (task.runtime = .acp || task.runtime = .subagent)

/-- `ensureSingleTaskFlow`. -/
def ensureSingleTaskFlow (flowId : String) (task : TaskRecord)
    (requesterOrigin : Option DeliveryContext) : Section TaskRecord :=
  if !isOneTaskFlowEligible task then pure task
  else
    Sync.attempt
      (do
        let flow ← createTaskFlowForTask flowId task requesterOrigin
        match ← linkTaskToFlowById task.taskId flow.flowId with
        | none => do
          let _ ← deleteTaskFlowRecordById flow.flowId
          pure task
        | some linked =>
          if linked.parentFlowId ≠ some flow.flowId then do
            let _ ← deleteTaskFlowRecordById flow.flowId
            pure linked
          else pure linked)
      fun _ => pure task

/-- `createQueuedTaskRun`. -/
def createQueuedTaskRun (env : Env) (taskId flowId : String) (params : CreateTaskParams) :
    Section TaskRecord := do
  let task ← createTaskRecord env taskId { params with status := some .queued }
  ensureSingleTaskFlow flowId task params.requesterOrigin

/-- `createRunningTaskRun`. -/
def createRunningTaskRun (env : Env) (taskId flowId : String) (params : CreateTaskParams) :
    Section TaskRecord := do
  let task ← createTaskRecord env taskId { params with status := some .running }
  ensureSingleTaskFlow flowId task params.requesterOrigin

/-! ### Child tasks of a managed flow -/

/-- The parameters `runTaskInFlow` and the retries share. -/
structure FlowTaskParams where
  runtime : TaskRuntime
  sourceId : Option String := none
  requesterOrigin : Option DeliveryContext := none
  childSessionKey : Option String := none
  parentTaskId : Option String := none
  agentId : Option String := none
  runId : Option String := none
  label : Option String := none
  task : Option String := none
  preferMetadata : Bool := false
  notifyPolicy : Option TaskNotifyPolicy := none
  deliveryStatus : Option TaskDeliveryStatus := none
  status : StartStatus := .queued
  startedAt : Option Int := none
  lastEventAt : Option Int := none
  progressSummary : Option String := none

/-- `RunTaskInFlowResult` and `RetryBlockedFlowResult`: what happened and the reason given. -/
structure FlowTaskResult where
  found : Bool
  created : Bool
  reason : Option String := none
  task : Option TaskRecord := none

/-- `mapRunTaskInFlowCreateError`. -/
def mapRunTaskInFlowCreateError (flowId : String) (error : TaskError) :
    Section FlowTaskResult := do
  let flow ← getTaskFlowById flowId
  match error with
  | .parentFlowLink .cancelRequested _ _ _ =>
    pure { found := true, created := false,
           reason := some "Flow cancellation has already been requested." }
  | .parentFlowLink .terminal _ _ status =>
    let terminalStatus := ((flow.map TaskFlowRecord.status).or status).map TaskFlowStatus.toText
    pure { found := true, created := false,
           reason := some ("Flow is already " ++ terminalStatus.getD "terminal" ++ ".") }
  | .parentFlowLink .parentFlowNotFound _ _ _ =>
    pure { found := false, created := false, reason := some "Flow not found." }
  | error => Sync.throw error

/-- The record parameters `runTaskInFlow` passes on. -/
def childTaskParams (flow : TaskFlowRecord) (params : FlowTaskParams) : CreateTaskParams :=
  { runtime := params.runtime
    sourceId := params.sourceId
    ownerKey := some flow.ownerKey
    scopeKind := some .session
    requesterOrigin := flow.requesterOrigin
    parentFlowId := some flow.flowId
    childSessionKey := params.childSessionKey
    parentTaskId := params.parentTaskId
    agentId := params.agentId
    runId := params.runId
    label := params.label
    task := params.task.getD ""
    preferMetadata := params.preferMetadata
    notifyPolicy := params.notifyPolicy
    deliveryStatus := some (params.deliveryStatus.getD .pending) }

/-- `runTaskInFlow`. -/
def runTaskInFlow (env : Env) (taskId newFlowId flowId : String) (params : FlowTaskParams) :
    Section FlowTaskResult := do
  match ← getTaskFlowById flowId with
  | none => pure { found := false, created := false, reason := some "Flow not found." }
  | some flow =>
    if flow.syncMode ≠ .managed then
      pure { found := true, created := false,
             reason := some "Flow does not accept managed child tasks." }
    else if flow.cancelRequestedAt.isSome then
      pure { found := true, created := false,
             reason := some "Flow cancellation has already been requested." }
    else if isTerminalFlowStatus flow.status then
      pure { found := true, created := false,
             reason := some ("Flow is already " ++ flow.status.toText ++ ".") }
    else
      let common := childTaskParams flow params
      Sync.attempt
        (do
          let task ← match params.status with
            | .running =>
              createRunningTaskRun env taskId newFlowId
                { common with
                  startedAt := params.startedAt
                  lastEventAt := params.lastEventAt
                  progressSummary := params.progressSummary }
            | .queued => createQueuedTaskRun env taskId newFlowId common
          pure { found := true, created := true, task := some task })
        fun error => mapRunTaskInFlowCreateError flow.flowId error

/-- The record parameters `retryBlockedFlowTask` passes on. -/
def retryTaskParams (flow : TaskFlowRecord) (latestTask : TaskRecord) (params : FlowTaskParams) :
    CreateTaskParams :=
  { runtime := latestTask.runtime
    sourceId := params.sourceId.or latestTask.sourceId
    ownerKey := some flow.ownerKey
    scopeKind := some .session
    requesterOrigin := params.requesterOrigin.or flow.requesterOrigin
    parentFlowId := some flow.flowId
    childSessionKey := params.childSessionKey
    parentTaskId := some latestTask.taskId
    agentId := params.agentId.or latestTask.agentId
    runId := params.runId
    label := params.label.or latestTask.label
    task := params.task.getD latestTask.task
    preferMetadata := params.preferMetadata
    notifyPolicy := some (params.notifyPolicy.getD latestTask.notifyPolicy)
    deliveryStatus := some (params.deliveryStatus.getD .pending)
    status := some params.status.toTaskStatus
    startedAt := params.startedAt
    lastEventAt := params.lastEventAt
    progressSummary := params.progressSummary }

/-- `retryBlockedFlowTask`. -/
def retryBlockedFlowTask (env : Env) (taskId flowId : String) (params : FlowTaskParams) :
    Section FlowTaskResult := do
  let world ← Sync.read
  match world.flows.get flowId with
  | none => pure { found := false, created := false, reason := some "Flow not found." }
  | some flow =>
    match findLatestTaskForFlowId world flowId with
    | none =>
      pure { found := true, created := false, reason := some "Flow has no retryable task." }
    | some latestTask =>
      if flow.status ≠ .blocked then
        pure { found := true, created := false, reason := some "Flow is not blocked." }
      else if latestTask.status ≠ .succeeded ∨ latestTask.terminalOutcome ≠ some .blocked then
        pure { found := true, created := false,
               reason := some "Latest TaskFlow task is not blocked." }
      else do
        let task ← createTaskRecord env taskId (retryTaskParams flow latestTask params)
        pure { found := true, created := true, task := some task }

/-! ### Cancelling a flow -/

/-- A running `cancelFlowById`: the flow it works on, the children it still has to cancel, and
the child whose cancellation it awaits. -/
structure FlowCancellation where
  flow : TaskFlowRecord
  remaining : List String
  awaiting : Option String := none

/-- `markFlowCancelRequested`: the flow with the request on it, or nothing when the flow changed
meanwhile. -/
def markFlowCancelRequested (flow : TaskFlowRecord) : Section (Option TaskFlowRecord) :=
  if flow.cancelRequestedAt.isSome then pure (some flow)
  else do
    match ← requestFlowCancel flow.flowId flow.revision none none with
    | .applied marked => pure (some marked)
    | .notFound => pure none
    | .revisionConflict _ => pure none

/-- `cancelFlowById` up to the loop over its active children. -/
def startCancelFlowById (flowId : String) : Section (Option FlowCancellation) := do
  match ← getTaskFlowById flowId with
  | none => pure none
  | some flow =>
    if isTerminalFlowStatus flow.status then pure none
    else do
      match ← markFlowCancelRequested flow with
      | none => pure none
      | some marked => do
        let world ← Sync.read
        let activeTasks := (listTasksForFlowId world flow.flowId).filter fun task =>
          isActiveTaskStatus task.status
        pure (some { flow := marked, remaining := activeTasks.map TaskRecord.taskId })

/-- `cancelManagedFlowAfterChildrenSettle`. -/
def cancelManagedFlowAfterChildrenSettle (flow : TaskFlowRecord) (endedAt : Int) :
    Section TaskFlowUpdateResult :=
  updateFlowRecordByIdExpectedRevision flow.flowId flow.revision (cancelledFlowPatch endedAt)

/-- `cancelFlowById` after the loop. It returns whether the flow is cancelled. -/
def finishCancelFlowById (cancelRequestedFlow : TaskFlowRecord) : Section Bool := do
  let world ← Sync.read
  if hasActiveChild world cancelRequestedFlow.flowId then pure false
  else do
    let now ← dateNow
    let refreshedFlow := (world.flows.get cancelRequestedFlow.flowId).getD cancelRequestedFlow
    if isTerminalFlowStatus refreshedFlow.status then
      pure (refreshedFlow.status = .cancelled)
    else do
      match ← cancelManagedFlowAfterChildrenSettle refreshedFlow now with
      | .applied _ => pure true
      | .notFound => pure false
      | .revisionConflict _ => pure false

/-! ### Flow maintenance -/

/-- `TASK_FLOW_RETENTION_MS`. -/
def taskFlowRetentionMs : Int := 7 * 24 * 60 * 60000

/-- `shouldPruneFlow`. -/
def shouldPruneFlow (world : World) (flow : TaskFlowRecord) (now : Int) : Bool :=
  isTerminalFlowStatus flow.status && !hasActiveChild world flow.flowId &&
    decide (taskFlowRetentionMs ≤ now - flow.endedAt.getD flow.updatedAt)

/-- `shouldFinalizeCancelledFlow`. -/
def shouldFinalizeCancelledFlow (world : World) (flow : TaskFlowRecord) : Bool :=
  flow.syncMode = .managed &&
    !(flow.cancelRequestedAt.isNone || isTerminalFlowStatus flow.status) &&
    !hasActiveChild world flow.flowId

/-- `finalizeCancelledFlow`: at most `attempts` writes. -/
def finalizeCancelledFlow (now : Int) : Nat → TaskFlowRecord → Section Bool
  | 0, _ => pure false
  | attempts + 1, current => do
    let endedAt := max now (max current.updatedAt (current.cancelRequestedAt.getD now))
    match ← updateFlowRecordByIdExpectedRevision current.flowId current.revision
        (cancelledFlowPatch endedAt) with
    | .applied _ => pure true
    | .notFound => pure false
    | .revisionConflict latest => do
      let world ← Sync.read
      if !shouldFinalizeCancelledFlow world latest then pure false
      else finalizeCancelledFlow now attempts latest

/-- One turn of the loop of `runTaskFlowRegistryMaintenance`. -/
def maintainFlow (flowId : String) (now : Int) : Section Unit := do
  let world ← Sync.read
  match world.flows.get flowId with
  | none => pure ()
  | some current =>
    if shouldFinalizeCancelledFlow world current then do
      let _ ← finalizeCancelledFlow now 2 current
      pure ()
    else if shouldPruneFlow world current now then do
      let _ ← deleteTaskFlowRecordById current.flowId
      pure ()
    else pure ()

end OpenClaw.Tasks
