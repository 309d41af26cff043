/-
This file is `task-flow-registry.ts`: building, patching and writing flow
records.

Every write goes through `writeFlowRecord`, which puts the record into the map
and then calls the store; when the store throws, the record stays in the map.
The setters differ in the patch they pass to
`updateFlowRecordByIdExpectedRevision` and in nothing else.
-/

import OpenClaw.Tasks.World

namespace OpenClaw.Tasks

open Text

/-! ### Building and patching records -/

/-- `CreateFlowRecordParams`. -/
structure CreateFlowRecordParams where
  syncMode : Option TaskFlowSyncMode := none
  ownerKey : String
  requesterOrigin : Option DeliveryContext := none
  controllerId : Option String := none
  revision : Option Int := none
  status : Option TaskFlowStatus := none
  notifyPolicy : Option TaskNotifyPolicy := none
  goal : String
  currentStep : Option String := none
  blockedTaskId : Option String := none
  blockedSummary : Option String := none
  stateJson : Option JsonValue := none
  waitJson : Option JsonValue := none
  cancelRequestedAt : Option Int := none
  createdAt : Option Int := none
  updatedAt : Option Int := none
  endedAt : Option Int := none

/-- `TaskFlowUpdateResult`. -/
inductive TaskFlowUpdateResult
  | applied (flow : TaskFlowRecord)
  | notFound
  | revisionConflict (current : TaskFlowRecord)

/-- `assertFlowOwnerKey`. -/
def assertFlowOwnerKey (ownerKey : String) : Except TaskError String :=
  match normalizeOptionalString (some ownerKey) with
  | some normalized => .ok normalized
  | none => .error (.plain "Flow ownerKey is required.")

/-- `assertControllerId`. -/
def assertControllerId (controllerId : Option String) : Except TaskError String :=
  match normalizeOptionalString controllerId with
  | some normalized => .ok normalized
  | none => .error (.plain "Managed flow controllerId is required.")

/-- `normalizeRestoredFlowRecord`. -/
def normalizeRestoredFlowRecord (record : TaskFlowRecord) : Except TaskError TaskFlowRecord :=
  match assertFlowOwnerKey record.ownerKey with
  | .error error => .error error
  | .ok ownerKey =>
    let controllerId := match record.syncMode with
      | .managed =>
        some ((normalizeOptionalString record.controllerId).getD "core/legacy-restored")
      | .taskMirrored => none
    .ok { record with
      ownerKey := ownerKey
      controllerId := controllerId.or record.controllerId
      currentStep := normalizeOptionalString record.currentStep
      blockedTaskId := normalizeOptionalString record.blockedTaskId
      blockedSummary := normalizeOptionalString record.blockedSummary
      revision := max 0 record.revision }

/-- `resolveFlowBlockedSummary`. -/
def resolveFlowBlockedSummary (task : TaskRecord) : Option String :=
  if task.status ≠ .succeeded ∨ task.terminalOutcome ≠ some .blocked then none
  else (normalizeOptionalString task.terminalSummary).or
    (normalizeOptionalString task.progressSummary)

/-- `deriveTaskFlowStatusFromTask`. -/
def deriveTaskFlowStatusFromTask (task : TaskRecord) : TaskFlowStatus :=
  match task.status with
  | .queued => .queued
  | .running => .running
  | .succeeded => if task.terminalOutcome = some .blocked then .blocked else .succeeded
  | .cancelled => .cancelled
  | .lost => .lost
  | .failed | .timedOut => .failed

/-- The statuses `createTaskFlowForTask` and `syncFlowFromTask` stamp an end time for. -/
def endsMirroredFlow : TaskFlowStatus → Bool
  | .succeeded | .blocked | .failed | .cancelled | .lost => true
  | _ => false

/-- `buildFlowRecord`, with the fresh id it draws. -/
def buildFlowRecord (flowId : String) (params : CreateFlowRecordParams) (now : Int) :
    Except TaskError TaskFlowRecord :=
  let createdAt := params.createdAt.getD now
  let syncMode := params.syncMode.getD .managed
  let controllerId := match syncMode with
    | .managed => (assertControllerId params.controllerId).map some
    | .taskMirrored => .ok none
  match controllerId, assertFlowOwnerKey params.ownerKey with
  | .error error, _ => .error error
  | .ok _, .error error => .error error
  | .ok controllerId, .ok ownerKey =>
    .ok
      { flowId := flowId
        syncMode := syncMode
        ownerKey := ownerKey
        requesterOrigin := params.requesterOrigin
        controllerId := controllerId
        revision := max 0 (params.revision.getD 0)
        status := params.status.getD .queued
        notifyPolicy := params.notifyPolicy.getD .doneOnly
        goal := params.goal
        currentStep := normalizeOptionalString params.currentStep
        blockedTaskId := normalizeOptionalString params.blockedTaskId
        blockedSummary := normalizeOptionalString params.blockedSummary
        stateJson := params.stateJson
        waitJson := params.waitJson
        cancelRequestedAt := params.cancelRequestedAt
        createdAt := createdAt
        updatedAt := params.updatedAt.getD createdAt
        endedAt := params.endedAt }

/-- The record `applyFlowPatch` returns, with `updatedAt` already read. -/
def patchedFlow (current : TaskFlowRecord) (patch : FlowRecordPatch) (updatedAt : Int) :
    TaskFlowRecord :=
  { current with
    status := patch.status.getD current.status
    notifyPolicy := patch.notifyPolicy.getD current.notifyPolicy
    goal := (nonEmpty patch.goal).getD current.goal
    controllerId := match patch.controllerId with
      | none => current.controllerId
      | some controllerId => normalizeOptionalString controllerId
    currentStep := match patch.currentStep with
      | none => current.currentStep
      | some currentStep => normalizeOptionalString currentStep
    blockedTaskId := match patch.blockedTaskId with
      | none => current.blockedTaskId
      | some blockedTaskId => normalizeOptionalString blockedTaskId
    blockedSummary := match patch.blockedSummary with
      | none => current.blockedSummary
      | some blockedSummary => normalizeOptionalString blockedSummary
    stateJson := patch.stateJson.or current.stateJson
    waitJson := patch.waitJson.or current.waitJson
    cancelRequestedAt := patch.cancelRequestedAt.getD current.cancelRequestedAt
    revision := current.revision + 1
    updatedAt := updatedAt
    endedAt := patch.endedAt.getD current.endedAt }

/-- `applyFlowPatch`: a managed flow must keep a controller. -/
def applyFlowPatch (current : TaskFlowRecord) (patch : FlowRecordPatch) :
    Section TaskFlowRecord := do
  let controllerId := (patchedFlow current patch 0).controllerId
  if current.syncMode = .managed ∧ (normalizeOptionalString controllerId).isNone then
    Sync.throw (.plain "Managed flow controllerId is required.")
  else do
    let updatedAt ← orNow patch.updatedAt
    pure (patchedFlow current patch updatedAt)

/-! ### Writing records -/

/-- `getTaskFlowById`. -/
def getTaskFlowById (flowId : String) : Section (Option TaskFlowRecord) :=
  Sync.reads fun world => world.flows.get flowId

/-- `writeFlowRecord`: the map first, then the store. -/
def writeFlowRecord (next : TaskFlowRecord) : Section TaskFlowRecord := do
  Sync.modify fun world => { world with flows := world.flows.set next.flowId next }
  hostCall
  pure next

/-- `createFlowRecord`. -/
def createFlowRecord (flowId : String) (params : CreateFlowRecordParams) :
    Section TaskFlowRecord := do
  let now ← orNow params.createdAt
  match buildFlowRecord flowId params now with
  | .error error => Sync.throw error
  | .ok record => writeFlowRecord record

/-- `createManagedTaskFlow`. -/
def createManagedTaskFlow (flowId : String) (params : CreateFlowRecordParams) :
    Section TaskFlowRecord :=
  match assertControllerId params.controllerId with
  | .error error => Sync.throw error
  | .ok controllerId =>
    createFlowRecord flowId
      { params with syncMode := some .managed, controllerId := some controllerId }

/-- `createTaskFlowForTask`. -/
def createTaskFlowForTask (flowId : String) (task : TaskRecord)
    (requesterOrigin : Option DeliveryContext) : Section TaskFlowRecord :=
  let terminalFlowStatus := deriveTaskFlowStatusFromTask task
  createFlowRecord flowId
    { syncMode := some .taskMirrored
      ownerKey := task.ownerKey
      requesterOrigin := requesterOrigin
      status := some terminalFlowStatus
      notifyPolicy := some task.notifyPolicy
      goal := ((normalizeOptionalString task.label).or
        (nonEmpty (some (trim task.task)))).getD "Background task"
      blockedTaskId :=
        if terminalFlowStatus = .blocked then normalizeOptionalString (some task.taskId) else none
      blockedSummary := resolveFlowBlockedSummary task
      createdAt := some task.createdAt
      updatedAt := some (task.lastEventAt.getD task.createdAt)
      endedAt :=
        if endsMirroredFlow terminalFlowStatus then
          some ((task.endedAt.or task.lastEventAt).getD task.createdAt)
        else none }

/-- `updateFlowRecordByIdUnchecked`. -/
def updateFlowRecordByIdUnchecked (flowId : String) (patch : FlowRecordPatch) :
    Section (Option TaskFlowRecord) := do
  match ← getTaskFlowById flowId with
  | none => pure none
  | some current => do
    let next ← applyFlowPatch current patch
    let written ← writeFlowRecord next
    pure (some written)

/-- `updateFlowRecordByIdExpectedRevision`. -/
def updateFlowRecordByIdExpectedRevision (flowId : String) (expectedRevision : Int)
    (patch : FlowRecordPatch) : Section TaskFlowUpdateResult := do
  match ← getTaskFlowById flowId with
  | none => pure .notFound
  | some current =>
    if current.revision ≠ expectedRevision then
      pure (.revisionConflict current)
    else do
      let next ← applyFlowPatch current patch
      let written ← writeFlowRecord next
      pure (.applied written)

/-- `deleteTaskFlowRecordById`. -/
def deleteTaskFlowRecordById (flowId : String) : Section Bool := do
  match ← getTaskFlowById flowId with
  | none => pure false
  | some _ => do
    Sync.modify fun world => { world with flows := world.flows.delete flowId }
    hostCall
    pure true

/-! ### The setters -/

/-- What `setFlowWaiting`, `resumeFlow`, `finishFlow` and `failFlow` are called with. -/
structure FlowStepParams where
  currentStep : Option (Option String) := none
  stateJson : Option JsonValue := none
  waitJson : Option JsonValue := none
  blockedTaskId : Option (Option String) := none
  blockedSummary : Option (Option String) := none
  status : Option StartStatus := none
  updatedAt : Option Int := none
  endedAt : Option Int := none

/-- `setFlowWaiting`. -/
def setFlowWaiting (flowId : String) (expectedRevision : Int) (params : FlowStepParams) :
    Section TaskFlowUpdateResult :=
  updateFlowRecordByIdExpectedRevision flowId expectedRevision
    { status :=
        if (normalizeOptionalString (params.blockedTaskId.getD none)).isSome ||
            (normalizeOptionalString (params.blockedSummary.getD none)).isSome then
          some .blocked
        else some .waiting
      currentStep := params.currentStep
      stateJson := params.stateJson
      waitJson := params.waitJson
      blockedTaskId := params.blockedTaskId
      blockedSummary := params.blockedSummary
      endedAt := some none
      updatedAt := params.updatedAt }

/-- `resumeFlow`. -/
def resumeFlow (flowId : String) (expectedRevision : Int) (params : FlowStepParams) :
    Section TaskFlowUpdateResult :=
  updateFlowRecordByIdExpectedRevision flowId expectedRevision
    { status := some (params.status.getD .queued).toTaskFlowStatus
      currentStep := params.currentStep
      stateJson := params.stateJson
      waitJson := some .null
      blockedTaskId := some none
      blockedSummary := some none
      endedAt := some none
      updatedAt := params.updatedAt }

/-- `params.endedAt ?? params.updatedAt ?? Date.now()`. -/
def resolveFlowEnd (params : FlowStepParams) : Section Int :=
  orNow (params.endedAt.or params.updatedAt)

/-- `finishFlow`. -/
def finishFlow (flowId : String) (expectedRevision : Int) (params : FlowStepParams) :
    Section TaskFlowUpdateResult := do
  let endedAt ← resolveFlowEnd params
  updateFlowRecordByIdExpectedRevision flowId expectedRevision
    { status := some .succeeded
      currentStep := params.currentStep
      stateJson := params.stateJson
      waitJson := some .null
      blockedTaskId := some none
      blockedSummary := some none
      endedAt := some (some endedAt)
      updatedAt := some (params.updatedAt.getD endedAt) }

/-- `failFlow`. -/
def failFlow (flowId : String) (expectedRevision : Int) (params : FlowStepParams) :
    Section TaskFlowUpdateResult := do
  let endedAt ← resolveFlowEnd params
  updateFlowRecordByIdExpectedRevision flowId expectedRevision
    { status := some .failed
      currentStep := params.currentStep
      stateJson := params.stateJson
      waitJson := some .null
      blockedTaskId := params.blockedTaskId
      blockedSummary := params.blockedSummary
      endedAt := some (some endedAt)
      updatedAt := some (params.updatedAt.getD endedAt) }

/-- `requestFlowCancel`. -/
def requestFlowCancel (flowId : String) (expectedRevision : Int)
    (cancelRequestedAt updatedAt : Option Int) : Section TaskFlowUpdateResult := do
  let requestedAt ← orNow (cancelRequestedAt.or updatedAt)
  updateFlowRecordByIdExpectedRevision flowId expectedRevision
    { cancelRequestedAt := some (some requestedAt)
      updatedAt := updatedAt }

/-- The patch that every path which settles a cancelled flow writes. -/
def cancelledFlowPatch (endedAt : Int) : FlowRecordPatch :=
  { status := some .cancelled
    blockedTaskId := some none
    blockedSummary := some none
    waitJson := some .null
    endedAt := some (some endedAt)
    updatedAt := some endedAt }

/-! ### Mirroring a task -/

/-- The patch `syncFlowFromTask` writes to a mirrored flow. -/
def mirroredFlowPatch (task : TaskRecord) (updatedAt : Int) (endedAt : Option Int) :
    FlowRecordPatch :=
  let terminalFlowStatus := deriveTaskFlowStatusFromTask task
  { status := some terminalFlowStatus
    notifyPolicy := some task.notifyPolicy
    goal := some (((normalizeOptionalString task.label).or
      (nonEmpty (some (trim task.task)))).getD "Background task")
    blockedTaskId :=
      if terminalFlowStatus = .blocked then some (nonEmpty (some (trim task.taskId)))
      else some none
    blockedSummary :=
      if terminalFlowStatus = .blocked then some (resolveFlowBlockedSummary task) else some none
    waitJson := some .null
    updatedAt := some updatedAt
    endedAt := some endedAt }

/-- The end time `syncFlowFromTask` writes. -/
def resolveMirroredEnd (task : TaskRecord) : Section (Option Int) :=
  if endsMirroredFlow (deriveTaskFlowStatusFromTask task) then do
    let endedAt ← orNow (task.endedAt.or task.lastEventAt)
    pure (some endedAt)
  else pure none

/-- `syncFlowFromTask`: a mirrored flow follows its task, a managed one is left alone. -/
def syncFlowFromTask (task : TaskRecord) : Section Unit := do
  match normalizeOptionalString task.parentFlowId with
  | none => pure ()
  | some flowId => do
    match ← getTaskFlowById flowId with
    | none => pure ()
    | some flow =>
      if flow.syncMode ≠ .taskMirrored then pure ()
      else do
        let updatedAt ← orNow task.lastEventAt
        let endedAt ← resolveMirroredEnd task
        let _ ← updateFlowRecordByIdUnchecked flowId (mirroredFlowPatch task updatedAt endedAt)
        pure ()

end OpenClaw.Tasks
