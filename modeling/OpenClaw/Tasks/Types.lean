/-
This file is the data of the background-task and task-flow registries: the
records of `task-registry.types.ts` and `task-flow-registry.types.ts`, field by
field, and the patches the registries apply to them.

Times are integers of milliseconds. An optional field is an `Option`. A patch
field is an `Option` of what it writes, so a patch that clears an optional field
writes `some none` and one that leaves it alone writes `none`.
-/

import OpenClaw.Shared.Text

namespace OpenClaw.Tasks

open Text

/-! ### Tasks -/

inductive TaskRuntime
  | subagent | acp | cli | cron
  deriving DecidableEq, Repr

def TaskRuntime.toText : TaskRuntime → String
  | .subagent => "subagent"
  | .acp => "acp"
  | .cli => "cli"
  | .cron => "cron"

inductive TaskStatus
  | queued | running | succeeded | failed | timedOut | cancelled | lost
  deriving DecidableEq, Repr

def TaskStatus.toText : TaskStatus → String
  | .queued => "queued"
  | .running => "running"
  | .succeeded => "succeeded"
  | .failed => "failed"
  | .timedOut => "timed_out"
  | .cancelled => "cancelled"
  | .lost => "lost"

inductive TaskDeliveryStatus
  | pending | delivered | sessionQueued | failed | parentMissing | notApplicable
  deriving DecidableEq, Repr

inductive TaskNotifyPolicy
  | doneOnly | stateChanges | silent
  deriving DecidableEq, Repr

inductive TaskTerminalOutcome
  | succeeded | blocked
  deriving DecidableEq, Repr

def TaskTerminalOutcome.toText : TaskTerminalOutcome → String
  | .succeeded => "succeeded"
  | .blocked => "blocked"

inductive TaskScopeKind
  | session | system
  deriving DecidableEq, Repr

def TaskScopeKind.toText : TaskScopeKind → String
  | .session => "session"
  | .system => "system"

/-- The statuses work may be started with: `"queued" | "running"`. -/
inductive StartStatus
  | queued | running
  deriving DecidableEq, Repr

def StartStatus.toTaskStatus : StartStatus → TaskStatus
  | .queued => .queued
  | .running => .running

/-- The statuses a run may be ended with by its own report. -/
inductive EndStatus
  | succeeded | failed | timedOut | cancelled
  deriving DecidableEq, Repr

def EndStatus.toTaskStatus : EndStatus → TaskStatus
  | .succeeded => .succeeded
  | .failed => .failed
  | .timedOut => .timedOut
  | .cancelled => .cancelled

/-- `TaskStatus | "progress"`. -/
inductive TaskEventKind
  | status (reached : TaskStatus)
  | progress
  deriving DecidableEq, Repr

def TaskEventKind.toText : TaskEventKind → String
  | .status reached => reached.toText
  | .progress => "progress"

structure TaskEventRecord where
  at' : Int
  kind : TaskEventKind
  summary : Option String
  deriving DecidableEq, Repr

/-- A thread id is a string or a number. -/
inductive ThreadId
  | text (text : String)
  | number (number : Int)
  deriving DecidableEq, Repr

structure DeliveryContext where
  channel : Option String := none
  to' : Option String := none
  accountId : Option String := none
  threadId : Option ThreadId := none
  deriving DecidableEq, Repr

structure TaskDeliveryState where
  taskId : String
  requesterOrigin : Option DeliveryContext := none
  lastNotifiedEventAt : Option Int := none
  deriving DecidableEq, Repr

structure TaskRecord where
  taskId : String
  runtime : TaskRuntime
  taskKind : Option String := none
  sourceId : Option String := none
  requesterSessionKey : String
  ownerKey : String
  scopeKind : TaskScopeKind
  childSessionKey : Option String := none
  parentFlowId : Option String := none
  parentTaskId : Option String := none
  agentId : Option String := none
  runId : Option String := none
  label : Option String := none
  task : String
  status : TaskStatus
  deliveryStatus : TaskDeliveryStatus
  notifyPolicy : TaskNotifyPolicy
  createdAt : Int
  startedAt : Option Int := none
  endedAt : Option Int := none
  lastEventAt : Option Int := none
  cleanupAfter : Option Int := none
  error : Option String := none
  progressSummary : Option String := none
  terminalSummary : Option String := none
  terminalOutcome : Option TaskTerminalOutcome := none
  deriving DecidableEq, Repr

/-- The fields `Partial<TaskRecord>` patches of the registry write. -/
structure TaskPatch where
  taskKind : Option String := none
  sourceId : Option String := none
  ownerKey : Option String := none
  childSessionKey : Option String := none
  parentFlowId : Option String := none
  parentTaskId : Option String := none
  agentId : Option String := none
  runId : Option String := none
  label : Option String := none
  task : Option String := none
  status : Option TaskStatus := none
  deliveryStatus : Option TaskDeliveryStatus := none
  notifyPolicy : Option TaskNotifyPolicy := none
  startedAt : Option Int := none
  endedAt : Option Int := none
  lastEventAt : Option Int := none
  cleanupAfter : Option Int := none
  error : Option (Option String) := none
  progressSummary : Option (Option String) := none
  terminalSummary : Option (Option String) := none
  terminalOutcome : Option (Option TaskTerminalOutcome) := none
  deriving DecidableEq, Repr

/-- `{ ...current, ...patch }`. -/
def TaskRecord.merge (current : TaskRecord) (patch : TaskPatch) : TaskRecord :=
  { current with
    taskKind := patch.taskKind.or current.taskKind
    sourceId := patch.sourceId.or current.sourceId
    ownerKey := patch.ownerKey.getD current.ownerKey
    childSessionKey := patch.childSessionKey.or current.childSessionKey
    parentFlowId := patch.parentFlowId.or current.parentFlowId
    parentTaskId := patch.parentTaskId.or current.parentTaskId
    agentId := patch.agentId.or current.agentId
    runId := patch.runId.or current.runId
    label := patch.label.or current.label
    task := patch.task.getD current.task
    status := patch.status.getD current.status
    deliveryStatus := patch.deliveryStatus.getD current.deliveryStatus
    notifyPolicy := patch.notifyPolicy.getD current.notifyPolicy
    startedAt := patch.startedAt.or current.startedAt
    endedAt := patch.endedAt.or current.endedAt
    lastEventAt := patch.lastEventAt.or current.lastEventAt
    cleanupAfter := patch.cleanupAfter.or current.cleanupAfter
    error := patch.error.getD current.error
    progressSummary := patch.progressSummary.getD current.progressSummary
    terminalSummary := patch.terminalSummary.getD current.terminalSummary
    terminalOutcome := patch.terminalOutcome.getD current.terminalOutcome }

/-! ### Task flows -/

inductive JsonValue
  | null
  | boolean (value : Bool)
  | number (value : ℚ)
  | string (value : String)
  | array (items : List JsonValue)
  | object (members : List (String × JsonValue))

inductive TaskFlowSyncMode
  | taskMirrored | managed
  deriving DecidableEq, Repr

inductive TaskFlowStatus
  | queued | running | waiting | blocked | succeeded | failed | cancelled | lost
  deriving DecidableEq, Repr

def TaskFlowStatus.toText : TaskFlowStatus → String
  | .queued => "queued"
  | .running => "running"
  | .waiting => "waiting"
  | .blocked => "blocked"
  | .succeeded => "succeeded"
  | .failed => "failed"
  | .cancelled => "cancelled"
  | .lost => "lost"

def StartStatus.toTaskFlowStatus : StartStatus → TaskFlowStatus
  | .queued => .queued
  | .running => .running

structure TaskFlowRecord where
  flowId : String
  syncMode : TaskFlowSyncMode
  ownerKey : String
  requesterOrigin : Option DeliveryContext := none
  controllerId : Option String := none
  revision : Int
  status : TaskFlowStatus
  notifyPolicy : TaskNotifyPolicy
  goal : String
  currentStep : Option String := none
  blockedTaskId : Option String := none
  blockedSummary : Option String := none
  stateJson : Option JsonValue := none
  waitJson : Option JsonValue := none
  cancelRequestedAt : Option Int := none
  createdAt : Int
  updatedAt : Int
  endedAt : Option Int := none

/-- `FlowRecordPatch`. A nullable field writes `some none` for `null`; `stateJson` and
`waitJson` write JSON `null` itself. -/
structure FlowRecordPatch where
  status : Option TaskFlowStatus := none
  notifyPolicy : Option TaskNotifyPolicy := none
  goal : Option String := none
  currentStep : Option (Option String) := none
  blockedTaskId : Option (Option String) := none
  blockedSummary : Option (Option String) := none
  controllerId : Option (Option String) := none
  stateJson : Option JsonValue := none
  waitJson : Option JsonValue := none
  cancelRequestedAt : Option (Option Int) := none
  updatedAt : Option Int := none
  endedAt : Option (Option Int) := none

/-! ### Status predicates -/

/-- `isActiveTaskStatus`. -/
def isActiveTaskStatus : TaskStatus → Bool
  | .queued | .running => true
  | _ => false

/-- `isTerminalTaskStatus`. -/
def isTerminalTaskStatus : TaskStatus → Bool
  | .succeeded | .failed | .timedOut | .cancelled | .lost => true
  | _ => false

/-- `isTerminalFlowStatus`. -/
def isTerminalFlowStatus : TaskFlowStatus → Bool
  | .succeeded | .failed | .cancelled | .lost => true
  | _ => false

theorem isTerminalTaskStatus_eq_not_active (status : TaskStatus) :
    isTerminalTaskStatus status = !isActiveTaskStatus status := by cases status <;> rfl

end OpenClaw.Tasks
