/-
This file is the step function of the task subsystem: one action for every
synchronous stretch of code that can run between two awaits.

An action carries what the stretch reads from outside: its arguments, the fresh
ids it draws, which of its calls into the stores throw, and the clock. `perform`
is the stretch itself; `step` runs it and keeps the books that no code reads:
the ids ever drawn and the tasks whose cancellation was reported to the
operator.

Every entry point of the program first restores the two registries from their
stores, so a run starts in a restored state.
-/

import OpenClaw.Base.Steps
import OpenClaw.Tasks.Executor

namespace OpenClaw.Tasks

open KeyedIndex

/-! ### Restoring -/

/-- What `loadSnapshot` of the task store returns: a store keys its records by their ids. -/
structure TaskSnapshot where
  tasks : OrderedMap String TaskRecord
  deliveryStates : OrderedMap String TaskDeliveryState
  keyed : ∀ entry ∈ tasks.entries, entry.2.taskId = entry.1

/-- What `loadSnapshot` of the flow store returns. -/
structure FlowSnapshot where
  flows : OrderedMap String TaskFlowRecord
  keyed : ∀ entry ∈ flows.entries, entry.2.flowId = entry.1

/-- `restoreTaskRegistryOnce`: the maps are filled and the indexes rebuilt; a store that throws
leaves the registry empty. -/
def restoreTaskRegistry (snapshot : Option TaskSnapshot) (world : World) : World :=
  match snapshot with
  | none => world
  | some snapshot =>
    { world with
      tasks := snapshot.tasks
      taskDeliveryStates := snapshot.deliveryStates
      taskIdsByRunId := rebuild runIdKeys snapshot.tasks
      taskIdsByOwnerKey := rebuild ownerKeys snapshot.tasks
      taskIdsByParentFlowId := rebuild parentFlowKeys snapshot.tasks
      taskIdsByRelatedSessionKey := rebuild relatedSessionKeys snapshot.tasks }

/-- The loop of `ensureFlowRegistryReady`. -/
def normalizeRestoredFlows :
    List (String × TaskFlowRecord) → OrderedMap String TaskFlowRecord →
      Except TaskError (OrderedMap String TaskFlowRecord)
  | [], flows => .ok flows
  | (flowId, flow) :: rest, flows =>
    match normalizeRestoredFlowRecord flow with
    | .error error => .error error
    | .ok normalized => normalizeRestoredFlows rest (flows.set flowId normalized)

/-- `ensureFlowRegistryReady`: one record that cannot be normalised discards them all. -/
def restoreFlowRegistry (snapshot : Option FlowSnapshot) (world : World) : World :=
  match snapshot with
  | none => world
  | some snapshot =>
    match normalizeRestoredFlows snapshot.flows.entries ∅ with
    | .error _ => world
    | .ok restored => { world with flows := restored }

/-! ### Actions -/

/-- The four setters of a managed flow. -/
inductive FlowStep
  | waiting | resume | finish | fail
  deriving DecidableEq, Repr

inductive Action
  | createTaskRecord (taskId : String) (params : CreateTaskParams)
  | createQueuedTaskRun (taskId flowId : String) (params : CreateTaskParams)
  | createRunningTaskRun (taskId flowId : String) (params : CreateTaskParams)
  | runTaskInFlow (taskId newFlowId flowId : String) (params : FlowTaskParams)
  | retryBlockedFlowTask (taskId flowId : String) (params : FlowTaskParams)
  | agentEvent (event : AgentEvent)
  | setTaskProgressById (taskId : String) (progressSummary : Option (Option String))
      (lastEventAt : Option Int)
  | setTaskTimingById (taskId : String) (startedAt endedAt lastEventAt : Option Int)
  | setTaskCleanupAfterById (taskId : String) (cleanupAfter : Int)
  | markTaskTerminalById (taskId : String) (status : EndStatus) (endedAt : Int)
      (lastEventAt : Option Int) (error : Option String) (terminalSummary : Option (Option String))
      (terminalOutcome : Option (Option TaskTerminalOutcome))
  | markTaskLostById (taskId : String) (endedAt : Int) (lastEventAt : Option Int)
      (error : Option String) (cleanupAfter : Option Int)
  | updateTaskNotifyPolicyById (taskId : String) (notifyPolicy : TaskNotifyPolicy)
  | linkTaskToFlowById (taskId flowId : String)
  | markTaskRunningByRunId (scope : RunScope) (startedAt lastEventAt : Option Int)
      (progressSummary : Option (Option String)) (eventSummary : Option String)
  | recordTaskProgressByRunId (scope : RunScope) (lastEventAt : Option Int)
      (progressSummary : Option (Option String)) (eventSummary : Option String)
  | markTaskTerminalByRunId (scope : RunScope) (status : EndStatus) (params : TaskEndParams)
  | completeTaskRunByRunId (scope : RunScope) (params : TaskEndParams)
  | failTaskRunByRunId (scope : RunScope) (status : Option EndStatus) (params : TaskEndParams)
  | setTaskRunDeliveryStatusByRunId (scope : RunScope) (deliveryStatus : TaskDeliveryStatus)
  | startCancelTaskById (taskId : String)
  | finishCancelTaskById (taskId : String) (stopped : Bool)
  | deleteTaskRecordById (taskId : String)
  | maintainTask (taskId : String) (now : Int) (hasBackingSession : Bool)
  | maybeDeliverTaskTerminalUpdate (taskId : String)
  | maybeDeliverTaskStateChangeUpdate (taskId : String) (event : Option TaskEventRecord)
  | resumeLoaded (delivery : Delivery)
  | finishDelivery (delivery : Delivery) (succeeded : Bool)
  | createFlowRecord (flowId : String) (params : CreateFlowRecordParams)
  | createManagedTaskFlow (flowId : String) (params : CreateFlowRecordParams)
  | flowStep (kind : FlowStep) (flowId : String) (expectedRevision : Int) (params : FlowStepParams)
  | requestFlowCancel (flowId : String) (expectedRevision : Int)
      (cancelRequestedAt updatedAt : Option Int)
  | deleteTaskFlowRecordById (flowId : String)
  | startCancelFlowById (flowId : String)
  | startFlowChild (cancellation : Nat)
  | finishFlowChild (cancellation : Nat) (stopped : Bool)
  | finishCancelFlowById (cancellation : Nat)
  | maintainFlow (flowId : String) (now : Int)

/-- The ids an action draws. -/
def Action.drawnIds : Action → List String
  | .createTaskRecord taskId _ => [taskId]
  | .createQueuedTaskRun taskId flowId _ => [taskId, flowId]
  | .createRunningTaskRun taskId flowId _ => [taskId, flowId]
  | .runTaskInFlow taskId newFlowId _ _ => [taskId, newFlowId]
  | .retryBlockedFlowTask taskId _ _ => [taskId]
  | .createFlowRecord flowId _ => [flowId]
  | .createManagedTaskFlow flowId _ => [flowId]
  | _ => []

/-- The four setters by name. -/
def performFlowStep (kind : FlowStep) (flowId : String) (expectedRevision : Int)
    (params : FlowStepParams) : Section TaskFlowUpdateResult :=
  match kind with
  | .waiting => setFlowWaiting flowId expectedRevision params
  | .resume => resumeFlow flowId expectedRevision params
  | .finish => finishFlow flowId expectedRevision params
  | .fail => failFlow flowId expectedRevision params

/-! ### The state of a run -/

/-- The registries, the asynchronous cancellations under way, and the books. -/
structure State where
  world : World := {}
  taskCancels : List String := []
  flowCancels : List FlowCancellation := []
  operatorCancelled : List String := []
  usedIds : List String := []

/-- The state after both registries have been restored. -/
def restored (tasks : Option TaskSnapshot) (flows : Option FlowSnapshot) : State :=
  let world := restoreFlowRegistry flows (restoreTaskRegistry tasks {})
  { world := world, usedIds := world.tasks.keys ++ world.flows.keys }

/-- The inputs of one step: an action, which store calls throw, and the clock. -/
structure Input where
  action : Action
  failures : List Bool := []
  clock : List Int := []

/-- Whether an action's ids are fresh and the asynchronous work it continues is there. -/
def enabled (state : State) (action : Action) : Bool :=
  decide action.drawnIds.Nodup && action.drawnIds.all (fun id => decide (id ∉ state.usedIds)) &&
    match action with
    | .finishCancelTaskById taskId _ => decide (taskId ∈ state.taskCancels)
    | .resumeLoaded delivery =>
      decide (delivery ∈ state.world.inFlight ∧ delivery.stage = .loading)
    | .finishDelivery delivery succeeded =>
      decide (delivery ∈ state.world.inFlight ∧ (succeeded → delivery.stage = .sending))
    | .startFlowChild index => (state.flowCancels[index]?).any fun cancellation =>
        cancellation.awaiting.isNone && !cancellation.remaining.isEmpty
    | .finishFlowChild index _ => (state.flowCancels[index]?).any fun cancellation =>
        cancellation.awaiting.isSome
    | .finishCancelFlowById index => (state.flowCancels[index]?).any fun cancellation =>
        cancellation.awaiting.isNone && cancellation.remaining.isEmpty
    | _ => true

/-- What a section leaves for the books of the run. -/
inductive Report
  | nothing
  | cancelStarted (taskId : String) (start : CancelStart)
  | cancelFinished (taskId : String) (cancelled : Bool)
  | flowCancelStarted (cancellation : Option FlowCancellation)
  | flowChildStarted (index : Nat) (taskId : String) (rest : List String) (start : CancelStart)
  | flowChildFinished (index : Nat) (taskId : String) (cancelled : Bool)
  | flowCancelFinished (index : Nat)

/-- A section whose result nobody books. -/
def unreported {Value : Type} (program : Section Value) : Section Report := do
  let _ ← program
  pure .nothing

/-- The next turn of the loop of a running `cancelFlowById`: the next child is cancelled. -/
def startFlowChild (env : Env) (flowCancels : List FlowCancellation) (index : Nat) :
    Section Report :=
  match (flowCancels[index]?).map FlowCancellation.remaining with
  | some (taskId :: rest) => do
    let start ← startCancelTaskById env taskId
    pure (.flowChildStarted index taskId rest start)
  | _ => pure .nothing

/-- The child a running `cancelFlowById` awaits has been stopped, or could not be. -/
def finishFlowChild (env : Env) (flowCancels : List FlowCancellation) (index : Nat)
    (stopped : Bool) : Section Report :=
  match (flowCancels[index]?).bind FlowCancellation.awaiting with
  | some taskId => do
    let cancelled ← finishCancelTaskById env taskId stopped
    pure (.flowChildFinished index taskId cancelled)
  | none => pure .nothing

/-- A running `cancelFlowById` has left its loop. -/
def finishFlowCancel (flowCancels : List FlowCancellation) (index : Nat) : Section Report :=
  match flowCancels[index]? with
  | some cancellation =>
    Sync.attempt
      (do
        let _ ← finishCancelFlowById cancellation.flow
        pure (.flowCancelFinished index))
      fun _ => pure (.flowCancelFinished index)
  | none => pure .nothing

/-- The synchronous stretch of an action. -/
def perform (env : Env) (state : State) : Action → Section Report
  | .createTaskRecord taskId params => unreported (createTaskRecord env taskId params)
  | .createQueuedTaskRun taskId flowId params =>
    unreported (createQueuedTaskRun env taskId flowId params)
  | .createRunningTaskRun taskId flowId params =>
    unreported (createRunningTaskRun env taskId flowId params)
  | .runTaskInFlow taskId newFlowId flowId params =>
    unreported (runTaskInFlow env taskId newFlowId flowId params)
  | .retryBlockedFlowTask taskId flowId params =>
    unreported (retryBlockedFlowTask env taskId flowId params)
  | .agentEvent event => unreported (handleAgentEvent env event)
  | .setTaskProgressById taskId progressSummary lastEventAt =>
    unreported (setTaskProgressById taskId progressSummary lastEventAt)
  | .setTaskTimingById taskId startedAt endedAt lastEventAt =>
    unreported (setTaskTimingById taskId startedAt endedAt lastEventAt)
  | .setTaskCleanupAfterById taskId cleanupAfter =>
    unreported (setTaskCleanupAfterById taskId cleanupAfter)
  | .markTaskTerminalById taskId status endedAt lastEventAt error terminalSummary terminalOutcome =>
    unreported
      (markTaskTerminalById taskId status endedAt lastEventAt error terminalSummary terminalOutcome)
  | .markTaskLostById taskId endedAt lastEventAt error cleanupAfter =>
    unreported (markTaskLostById taskId endedAt lastEventAt error cleanupAfter)
  | .updateTaskNotifyPolicyById taskId notifyPolicy =>
    unreported (updateTaskNotifyPolicyById taskId notifyPolicy)
  | .linkTaskToFlowById taskId flowId => unreported (linkTaskToFlowById taskId flowId)
  | .markTaskRunningByRunId scope startedAt lastEventAt progressSummary eventSummary =>
    unreported
      (markTaskRunningByRunId env scope startedAt lastEventAt progressSummary eventSummary)
  | .recordTaskProgressByRunId scope lastEventAt progressSummary eventSummary =>
    unreported (recordTaskProgressByRunId env scope lastEventAt progressSummary eventSummary)
  | .markTaskTerminalByRunId scope status params =>
    unreported (markTaskTerminalByRunId env scope status params)
  | .completeTaskRunByRunId scope params => unreported (completeTaskRunByRunId env scope params)
  | .failTaskRunByRunId scope status params =>
    unreported (failTaskRunByRunId env scope status params)
  | .setTaskRunDeliveryStatusByRunId scope deliveryStatus =>
    unreported (setTaskRunDeliveryStatusByRunId scope deliveryStatus)
  | .startCancelTaskById taskId => do
    let start ← startCancelTaskById env taskId
    pure (.cancelStarted taskId start)
  | .finishCancelTaskById taskId stopped => do
    let cancelled ← finishCancelTaskById env taskId stopped
    pure (.cancelFinished taskId cancelled)
  | .deleteTaskRecordById taskId => unreported (deleteTaskRecordById taskId)
  | .maintainTask taskId now hasBackingSession =>
    unreported (maintainTask env taskId now hasBackingSession)
  | .maybeDeliverTaskTerminalUpdate taskId =>
    unreported (maybeDeliverTaskTerminalUpdate env taskId)
  | .maybeDeliverTaskStateChangeUpdate taskId event =>
    unreported (maybeDeliverTaskStateChangeUpdate env taskId event)
  | .resumeLoaded delivery => unreported (resumeLoaded env delivery)
  | .finishDelivery delivery succeeded => unreported (finishDelivery env delivery succeeded)
  | .createFlowRecord flowId params => unreported (createFlowRecord flowId params)
  | .createManagedTaskFlow flowId params => unreported (createManagedTaskFlow flowId params)
  | .flowStep kind flowId expectedRevision params =>
    unreported (performFlowStep kind flowId expectedRevision params)
  | .requestFlowCancel flowId expectedRevision cancelRequestedAt updatedAt =>
    unreported (requestFlowCancel flowId expectedRevision cancelRequestedAt updatedAt)
  | .deleteTaskFlowRecordById flowId => unreported (deleteTaskFlowRecordById flowId)
  | .startCancelFlowById flowId => do
    let cancellation ← startCancelFlowById flowId
    pure (.flowCancelStarted cancellation)
  | .startFlowChild index => startFlowChild env state.flowCancels index
  | .finishFlowChild index stopped => finishFlowChild env state.flowCancels index stopped
  | .finishCancelFlowById index => finishFlowCancel state.flowCancels index
  | .maintainFlow flowId now => unreported (maintainFlow flowId now)

/-- The task whose cancellation a call reported as done, under the id its record carries. -/
def Report.operatorCancelled : Report → List String
  | .cancelStarted taskId (.returned true) => [Text.trim taskId]
  | .cancelFinished taskId true => [taskId]
  | .flowChildStarted _ taskId _ (.returned true) => [Text.trim taskId]
  | .flowChildFinished _ taskId true => [taskId]
  | _ => []

/-- Books what a section reported. -/
def book (report : Report) (state : State) : State :=
  let state := { state with
    operatorCancelled := state.operatorCancelled ++ report.operatorCancelled }
  match report with
  | .cancelStarted _ (.awaiting taskId) =>
    { state with taskCancels := state.taskCancels ++ [taskId] }
  | .cancelFinished taskId _ => { state with taskCancels := state.taskCancels.erase taskId }
  | .flowCancelStarted (some cancellation) =>
    { state with flowCancels := state.flowCancels ++ [cancellation] }
  | .flowChildStarted index _ rest start =>
    { state with
      flowCancels := state.flowCancels.modify index fun cancellation =>
        { cancellation with
          remaining := rest
          awaiting := match start with
            | .awaiting taskId => some taskId
            | .returned _ => none } }
  | .flowChildFinished index _ _ =>
    { state with
      flowCancels := state.flowCancels.modify index fun cancellation =>
        { cancellation with awaiting := none } }
  | .flowCancelFinished index => { state with flowCancels := state.flowCancels.eraseIdx index }
  | _ => state

/-- The world a section starts in: the host has the step's failures and clock. -/
def prepared (input : Input) (world : World) : World :=
  { world with
    host := { world.host with failures := input.failures, clock := input.clock } }

/-- One step: the section runs, whatever it throws reaches its caller only. -/
def step (env : Env) (state : State) (input : Input) : Option State :=
  if enabled state input.action then
    let outcome := perform env state input.action (prepared input state.world)
    let state := { state with
      world := outcome.2, usedIds := state.usedIds ++ input.action.drawnIds }
    match outcome.1 with
    | .ok report => some (book report state)
    | .error _ => some state
  else none

end OpenClaw.Tasks
