/-
This file computes the authority of every action from the state it starts in and
shows that the action stays within it.

The authority of an action is read off its arguments and the state: which tasks
it addresses, which status it writes without asking, which record it creates,
and which flow it moves, creates or deletes. What the invariants of the
subsystem need to know about an action is exactly this.
-/

import OpenClaw.Tasks.ActionWrites

namespace OpenClaw.Tasks

open Text KeyedIndex

/-! ### The authority of an action -/

/-- The tasks whose status an action addresses. -/
def addressed (state : State) (world : World) : Action → List String
  | .agentEvent event =>
    (getTasksByRunScope world { runId := event.runId, sessionKey := event.sessionKey }).map
      TaskRecord.taskId
  | .markTaskTerminalById taskId _ _ _ _ _ _ => [taskId]
  | .markTaskLostById taskId _ _ _ _ => [taskId]
  | .markTaskRunningByRunId scope _ _ _ _ =>
    (getTasksByRunScope world scope).map TaskRecord.taskId
  | .recordTaskProgressByRunId scope _ _ _ =>
    (getTasksByRunScope world scope).map TaskRecord.taskId
  | .markTaskTerminalByRunId scope _ _ => (getTasksByRunScope world scope).map TaskRecord.taskId
  | .completeTaskRunByRunId scope _ => (getTasksByRunScope world scope).map TaskRecord.taskId
  | .failTaskRunByRunId scope _ _ => (getTasksByRunScope world scope).map TaskRecord.taskId
  | .setTaskRunDeliveryStatusByRunId scope _ =>
    (getTasksByRunScope world scope).map TaskRecord.taskId
  | .startCancelTaskById taskId => [trim taskId]
  | .finishCancelTaskById taskId _ => [taskId]
  | .maintainTask taskId _ _ => [trim taskId]
  | .startFlowChild index =>
    (((state.flowCancels[index]?).bind fun cancellation => cancellation.remaining.head?).map
      trim).toList
  | .finishFlowChild index _ => ((state.flowCancels[index]?).bind FlowCancellation.awaiting).toList
  | _ => []

/-- The status an action writes without asking which status the task has. -/
def Action.forcedStatus : Action → Option TaskStatus
  | .markTaskTerminalById _ status _ _ _ _ _ => some status.toTaskStatus
  | .markTaskLostById _ _ _ _ _ => some .lost
  | .markTaskRunningByRunId _ _ _ _ _ => some .running
  | .markTaskTerminalByRunId _ status _ => some status.toTaskStatus
  | .completeTaskRunByRunId _ _ => some .succeeded
  | .failTaskRunByRunId _ status _ => some (status.getD .failed).toTaskStatus
  | .finishCancelTaskById _ _ => some .cancelled
  | .finishFlowChild _ _ => some .cancelled
  | _ => none

/-- The call of `createTaskRecord` an action may come to. -/
def creationOf (world : World) : Action → Option (String × CreateTaskParams)
  | .createTaskRecord taskId params => some (taskId, params)
  | .createQueuedTaskRun taskId _ params => some (taskId, { params with status := some .queued })
  | .createRunningTaskRun taskId _ params => some (taskId, { params with status := some .running })
  | .runTaskInFlow taskId _ flowId params =>
    ((world.flows.get flowId).filter AcceptsChildren).map fun flow =>
      (taskId, childRunParams flow params)
  | .retryBlockedFlowTask taskId flowId params =>
    (world.flows.get flowId).bind fun flow =>
      ((findLatestTaskForFlowId world flowId).filter (Retryable flow)).map fun latestTask =>
        (taskId, retryTaskParams flow latestTask params)
  | _ => none

/-- The tasks an action erases: any task on request, terminal ones by maintenance. -/
def Action.erases (taskId : String) (record : TaskRecord) : Action → Prop
  | .deleteTaskRecordById target => taskId = target
  | .maintainTask target _ _ => taskId = trim target ∧ isTerminalTaskStatus record.status = true
  | _ => False

/-- The flow an action moves by a setter, and the revision it names. -/
def Action.moves (flowId : String) (revision : Int) : Action → Prop
  | .flowStep _ target expectedRevision _ => flowId = target ∧ revision = expectedRevision
  | _ => False

/-- The flows an action deletes: any flow on request, terminal ones by maintenance, and the flow
of a detached run when linking it fails. -/
def Action.deletes (world : World) (flowId : String) : Action → Prop
  | .deleteTaskFlowRecordById target => flowId = target
  | .maintainFlow _ _ =>
    ∃ current, world.flows.get flowId = some current ∧ isTerminalFlowStatus current.status = true
  | action => flowId ∈ action.drawnIds

/-- What an action may do when its section starts in `start`. -/
def authorityOf (state : State) (start : World) (action : Action) : Authority where
  targets taskId := taskId ∈ addressed state start action
  forced taskId former status :=
    statusOf start taskId = some former ∧ action.forcedStatus = some status
  inserts middle record origin := ∃ taskId params, creationOf start action = some (taskId, params) ∧
    (Authority.creation start taskId params).inserts middle record origin
  erases taskId record := action.erases taskId record
  steps flowId := ∃ current, start.flows.get flowId = some current ∧
    action.moves flowId current.revision
  creates flowId := flowId ∈ action.drawnIds
  deletes flowId := action.deletes start flowId

/-! ### Every action stays within its authority -/

/-- The registries are keyed, and the ids the action draws are in use nowhere. -/
structure Ready (start : World) (action : Action) : Prop where
  keyed : Keyed start
  freshTask : ∀ id ∈ action.drawnIds, start.tasks.get id = none
  freshFlow : ∀ id ∈ action.drawnIds, start.flows.get id = none

section Perform

variable {env : Env} {state : State} {start : World} {action : Action}

theorem related_unreported {relation : World → World → Prop} [IsPreorder World relation]
    {Value : Type} {program : Section Value} {world : World}
    (related : Sync.Related relation program world) :
    Sync.Related relation (unreported program) world :=
  related.bind fun _ final _ => Sync.related_pure _ final

/-- The creation an action comes to is part of its authority. -/
theorem creation_within_authorityOf {taskId : String} {params : CreateTaskParams}
    (creation : creationOf start action = some (taskId, params)) :
    (Authority.creation start taskId params).Within (authorityOf state start action) :=
  Authority.creation_within fun _ _ _ granted => ⟨taskId, params, creation, granted⟩

/-- The tasks of the run are addressed by the actions that look them up. -/
theorem addressed_runScope {scope : RunScope} (known : addressed state start action =
      (getTasksByRunScope start scope).map TaskRecord.taskId) :
    ∀ task ∈ getTasksByRunScope start scope,
      (authorityOf state start action).targets task.taskId := by
  intro task member
  show task.taskId ∈ addressed state start action
  rw [known]
  exact List.mem_map_of_mem member

/-- The updates by run id force the status they write. -/
theorem writes_stateByRunId {scope : RunScope} {params : TaskStateParams}
    (keyed : Keyed start) (known : addressed state start action =
      (getTasksByRunScope start scope).map TaskRecord.taskId)
    (forced : ∀ status, params.status = some status → action.forcedStatus = some status) :
    Sync.Related (Writes env (authorityOf state start action))
      (updateTaskStateByRunId env scope params) start := by
  refine writes_updateTaskStateByRunId keyed (addressed_runScope known) ?_
  intro task member status written
  exact ⟨(awaited_runScope keyed scope).statuses task member, forced status written⟩

/-- The updates by task id force the status they write. -/
theorem writes_statusOfTask {taskId : String} {patch : TaskPatch}
    (keys : patch.runId = none ∧ patch.ownerKey = none ∧ patch.childSessionKey = none)
    (unlinked : patch.parentFlowId = none) (known : addressed state start action = [taskId])
    (forced : patch.status = action.forcedStatus) :
    Sync.Related (Writes env (authorityOf state start action)) (updateTask taskId patch) start := by
  refine writes_statusById keys unlinked fun former status stored written => ?_
  refine ⟨?_, Or.inr ⟨stored, forced ▸ written⟩⟩
  show taskId ∈ addressed state start action
  rw [known]
  exact List.mem_singleton_self taskId

/-- The section of an action makes the writes its authority grants and no others. -/
theorem perform_writes (ready : Ready start action) :
    Sync.Related (Writes env (authorityOf state start action)) (perform env state action)
      start := by
  obtain ⟨keyed, freshTask, freshFlow⟩ := ready
  cases action with
  | createTaskRecord taskId params =>
    refine related_unreported ((writes_creation keyed (freshTask taskId ?_)).weaken
      fun _ writes => writes.within (creation_within_authorityOf rfl))
    exact List.mem_singleton_self taskId
  | createQueuedTaskRun taskId flowId params =>
    refine related_unreported (writes_createTaskRun keyed (freshTask taskId ?_)
      (freshFlow flowId ?_) (creation_within_authorityOf rfl) ?_ ?_) <;>
      simp [authorityOf, Action.drawnIds, Action.deletes]
  | createRunningTaskRun taskId flowId params =>
    refine related_unreported (writes_createTaskRun keyed (freshTask taskId ?_)
      (freshFlow flowId ?_) (creation_within_authorityOf rfl) ?_ ?_) <;>
      simp [authorityOf, Action.drawnIds, Action.deletes]
  | runTaskInFlow taskId newFlowId flowId params =>
    refine related_unreported (writes_runTaskInFlow keyed (freshTask taskId ?_)
      (freshFlow newFlowId ?_) (fun flow stored accepts => creation_within_authorityOf ?_) ?_ ?_)
    · simp [Action.drawnIds]
    · simp [Action.drawnIds]
    · rw [creationOf, stored, Option.filter_some, if_pos (decide_eq_true accepts), Option.map_some]
    · simp [authorityOf, Action.drawnIds]
    · simp [authorityOf, Action.drawnIds, Action.deletes]
  | retryBlockedFlowTask taskId flowId params =>
    refine related_unreported (writes_retryBlockedFlowTask keyed (freshTask taskId ?_)
      fun flow latestTask stored latest retryable => creation_within_authorityOf ?_)
    · exact List.mem_singleton_self taskId
    · rw [creationOf, stored, Option.bind_some, latest, Option.filter_some,
        if_pos (decide_eq_true retryable), Option.map_some]
  | agentEvent event =>
    exact related_unreported (writes_handleAgentEvent keyed (addressed_runScope rfl))
  | setTaskProgressById taskId progressSummary lastEventAt =>
    exact related_unreported (writes_updateTask_quiet {} start)
  | setTaskTimingById taskId startedAt endedAt lastEventAt =>
    exact related_unreported (writes_updateTask_quiet {} start)
  | setTaskCleanupAfterById taskId cleanupAfter =>
    exact related_unreported (writes_updateTask_quiet {} start)
  | markTaskTerminalById taskId status endedAt lastEventAt error terminalSummary terminalOutcome =>
    exact related_unreported (writes_statusOfTask ⟨rfl, rfl, rfl⟩ rfl rfl rfl)
  | markTaskLostById taskId endedAt lastEventAt error cleanupAfter =>
    exact related_unreported (writes_statusOfTask ⟨rfl, rfl, rfl⟩ rfl rfl rfl)
  | updateTaskNotifyPolicyById taskId notifyPolicy =>
    refine related_unreported ((writes_aside (aside_dateNow start)).bind fun now read _ => ?_)
    exact writes_updateTask_quiet {} read
  | linkTaskToFlowById taskId flowId =>
    exact related_unreported (writes_linkTaskToFlowById taskId flowId start)
  | markTaskRunningByRunId scope startedAt lastEventAt progressSummary eventSummary =>
    exact related_unreported (writes_stateByRunId keyed rfl fun _ written => written)
  | recordTaskProgressByRunId scope lastEventAt progressSummary eventSummary =>
    exact related_unreported (writes_stateByRunId keyed rfl fun _ written => written)
  | markTaskTerminalByRunId scope status params =>
    exact related_unreported (writes_stateByRunId keyed rfl fun _ written => written)
  | completeTaskRunByRunId scope params =>
    exact related_unreported (writes_stateByRunId keyed rfl fun _ written => written)
  | failTaskRunByRunId scope status params =>
    exact related_unreported (writes_stateByRunId keyed rfl fun _ written => written)
  | setTaskRunDeliveryStatusByRunId scope deliveryStatus =>
    exact related_unreported (writes_setTaskRunDeliveryStatusByRunId keyed (addressed_runScope rfl))
  | startCancelTaskById taskId =>
    refine (writes_startCancelTaskById keyed ?_).bind fun _ final _ => Sync.related_pure _ final
    exact List.mem_singleton_self (trim taskId)
  | finishCancelTaskById taskId stopped =>
    have finished : Sync.Related (Writes env (authorityOf state start
        (.finishCancelTaskById taskId stopped))) (finishCancelTaskById env taskId stopped) start :=
      writes_finishCancelTaskById (List.mem_singleton_self taskId) fun _ stored => ⟨stored, rfl⟩
    exact finished.bind fun _ final _ => Sync.related_pure _ final
  | deleteTaskRecordById taskId =>
    exact related_unreported (writes_deleteTaskRecordById fun _ _ => rfl)
  | maintainTask taskId now hasBackingSession =>
    refine related_unreported (writes_maintainTask keyed ?_ fun record _ terminal =>
      ⟨rfl, terminal⟩)
    exact List.mem_singleton_self (trim taskId)
  | maybeDeliverTaskTerminalUpdate taskId =>
    exact related_unreported (writes_maybeDeliverTaskTerminalUpdate taskId start)
  | maybeDeliverTaskStateChangeUpdate taskId event =>
    exact related_unreported (writes_maybeDeliverTaskStateChangeUpdate taskId event start)
  | resumeLoaded delivery => exact related_unreported (writes_resumeLoaded delivery start)
  | finishDelivery delivery succeeded =>
    exact related_unreported (writes_finishDelivery delivery succeeded start)
  | createFlowRecord flowId params =>
    refine related_unreported (writes_aside (aside_createFlowRecord (freshFlow flowId ?_) ?_)) <;>
      exact List.mem_singleton_self flowId
  | createManagedTaskFlow flowId params =>
    refine related_unreported
      (writes_aside (aside_createManagedTaskFlow (freshFlow flowId ?_) ?_)) <;>
      exact List.mem_singleton_self flowId
  | flowStep kind flowId expectedRevision params =>
    refine related_unreported (writes_aside (aside_performFlowStep fun current stored agrees => ?_))
    have known : current.flowId = flowId := keyed.flows flowId current stored
    exact ⟨current, known.symm ▸ stored, known, agrees⟩
  | requestFlowCancel flowId expectedRevision cancelRequestedAt updatedAt =>
    exact related_unreported (writes_aside (aside_requestFlowCancel _ _ _ _ start))
  | deleteTaskFlowRecordById flowId =>
    exact related_unreported (writes_aside (aside_deleteTaskFlowRecordById rfl))
  | startCancelFlowById flowId =>
    exact (writes_aside (aside_startCancelFlowById flowId start)).bind fun _ final _ =>
      Sync.related_pure _ final
  | startFlowChild index =>
    show Sync.Related _ (startFlowChild env state.flowCancels index) start
    unfold startFlowChild
    split
    · rename_i taskId rest pending
      obtain ⟨cancellation, found, remaining⟩ := Option.map_eq_some_iff.1 pending
      refine (writes_startCancelTaskById keyed ?_).bind fun _ final _ => Sync.related_pure _ final
      show trim taskId ∈ addressed state start (.startFlowChild index)
      simp [addressed, found, remaining]
    · exact Sync.related_pure _ start
  | finishFlowChild index stopped =>
    show Sync.Related _ (finishFlowChild env state.flowCancels index stopped) start
    unfold finishFlowChild
    split
    · rename_i taskId awaited
      have target : taskId ∈ addressed state start (.finishFlowChild index stopped) := by
        rw [addressed, awaited]
        exact List.mem_singleton_self taskId
      have finished : Sync.Related (Writes env (authorityOf state start
          (.finishFlowChild index stopped))) (finishCancelTaskById env taskId stopped) start :=
        writes_finishCancelTaskById target fun _ stored => ⟨stored, rfl⟩
      exact finished.bind fun _ final _ => Sync.related_pure _ final
    · exact Sync.related_pure _ start
  | finishCancelFlowById index =>
    show Sync.Related _ (finishFlowCancel state.flowCancels index) start
    unfold finishFlowCancel
    split
    · refine Sync.Related.attempt ?_ fun _ failed _ => Sync.related_pure _ failed
      exact (writes_aside (aside_finishCancelFlowById _ start)).bind fun _ final _ =>
        Sync.related_pure _ final
    · exact Sync.related_pure _ start
  | maintainFlow flowId now =>
    refine related_unreported (writes_aside (aside_maintainFlow fun current stored terminal => ?_))
    have known : current.flowId = flowId := keyed.flows flowId current stored
    exact ⟨current, known.symm ▸ stored, terminal⟩

end Perform

/-! ### What one step does to the state -/

@[simp] theorem book_world (report : Report) (state : State) :
    (book report state).world = state.world := by
  unfold book
  dsimp only
  split <;> rfl

@[simp] theorem book_usedIds (report : Report) (state : State) :
    (book report state).usedIds = state.usedIds := by
  unfold book
  dsimp only
  split <;> rfl

/-- The state a section leaves before its report is booked. -/
def performed (env : Env) (state : State) (input : Input) : State :=
  { state with
    world := (perform env state input.action (prepared input state.world)).2
    usedIds := state.usedIds ++ input.action.drawnIds }

variable {input : Input} {state next : State} {env : Env}

/-- A step runs the section of its action and books the report, if there is one. -/
theorem step_cases (taken : step env state input = some next) :
    enabled state input.action = true ∧
      ((∃ report, (perform env state input.action (prepared input state.world)).1 = .ok report ∧
          next = book report (performed env state input)) ∨
        (∃ error, (perform env state input.action (prepared input state.world)).1 = .error error) ∧
          next = performed env state input) := by
  unfold step at taken
  split at taken
  · rename_i able
    refine ⟨able, ?_⟩
    dsimp only at taken
    split at taken
    · rename_i report ran
      exact Or.inl ⟨report, ran, (Option.some.inj taken).symm⟩
    · rename_i error ran
      exact Or.inr ⟨⟨error, ran⟩, (Option.some.inj taken).symm⟩
  · simp at taken

theorem step_world (taken : step env state input = some next) :
    next.world = (perform env state input.action (prepared input state.world)).2 ∧
      next.usedIds = state.usedIds ++ input.action.drawnIds := by
  obtain ⟨-, ⟨report, -, rfl⟩ | ⟨-, rfl⟩⟩ := step_cases taken
  · rw [book_world, book_usedIds]
    exact ⟨rfl, rfl⟩
  · exact ⟨rfl, rfl⟩

theorem fresh_of_enabled {state : State} {action : Action} (able : enabled state action = true) :
    ∀ id ∈ action.drawnIds, id ∉ state.usedIds := by
  intro id drawn
  unfold enabled at able
  rw [Bool.and_eq_true, Bool.and_eq_true, List.all_eq_true] at able
  exact of_decide_eq_true (able.1.2 id drawn)

/-! ### The books of a run -/

/-- A managed flow has a controller. -/
def Controlled (flows : Flows) : Prop :=
  ∀ flowId flow, flows.get flowId = some flow → flow.syncMode = .managed →
    (normalizeOptionalString flow.controllerId).isSome

theorem FlowWrites.controlled {authority : Authority} {flows next : Flows}
    (writes : FlowWrites authority flows next) (controlled : Controlled flows) :
    Controlled next := by
  induction writes with
  | refl => exact controlled
  | tail front write inductionHypothesis =>
    intro flowId flow stored managed
    cases write with
    | create record granted fresh wellBuilt =>
      rw [OrderedMap.get_set] at stored
      split at stored
      · cases stored
        exact wellBuilt managed
      · exact inductionHypothesis flowId flow stored managed
    | patch patchedId current patch updatedAt found keepsRequest keepsController cause =>
      rw [OrderedMap.get_set] at stored
      split at stored
      · cases stored
        have former := inductionHypothesis patchedId current found managed
        simp only [patchedFlow, keepsController]
        exact former
      · exact inductionHypothesis flowId flow stored managed
    | delete deletedId granted =>
      rw [OrderedMap.get_delete] at stored
      split at stored
      · simp at stored
      · exact inductionHypothesis flowId flow stored managed

/-- A task nobody may create stays absent. -/
theorem Writes.task_absent {authority : Authority} {world next : World}
    (writes : Writes env authority world next) {taskId : String}
    (spared : ∀ middle record origin, authority.inserts middle record origin →
      record.taskId ≠ taskId) (absent : world.tasks.get taskId = none) :
    next.tasks.get taskId = none := by
  induction writes with
  | refl => exact absent
  | @tail middle _ front write inductionHypothesis =>
    cases write with
    | aside tables flows => rw [tables.tasks, inductionHypothesis]
    | update updatedId patch legit =>
      cases stored : middle.tasks.get updatedId with
      | none => rw [updateTask_of_absent patch stored, inductionHypothesis]
      | some current =>
        obtain ⟨cleanupAfter, tasks⟩ := updateTask_tasks patch stored
        have different : taskId ≠ updatedId := by
          rintro rfl
          rw [inductionHypothesis] at stored
          simp at stored
        rw [tasks, OrderedMap.get_set_of_ne _ _ different, inductionHypothesis]
    | insert record origin legit =>
      rw [insertTaskRecord_tasks, OrderedMap.get_set_of_ne _ _
        (spared _ _ _ legit.granted).symm, inductionHypothesis]
    | erase erasedId current stored granted =>
      show (middle.tasks.delete erasedId).get taskId = none
      rw [OrderedMap.get_delete, inductionHypothesis, ite_self]

/-- An action creates tasks under the ids it draws. -/
theorem inserts_drawn {state : State} {start middle : World} {action : Action}
    {record : TaskRecord} {origin : Option DeliveryContext}
    (granted : (authorityOf state start action).inserts middle record origin) :
    record.taskId ∈ action.drawnIds := by
  obtain ⟨taskId, params, creation, creates, -⟩ := granted
  obtain ⟨now, built⟩ := creates.built
  have known : record.taskId = taskId := by rw [built, newTaskRecord]
  rw [known]
  cases action <;> simp only [creationOf, reduceCtorEq, Option.some.injEq, Prod.mk.injEq,
    Option.map_eq_some_iff, Option.bind_eq_some_iff] at creation
  case createTaskRecord => exact creation.1 ▸ List.mem_singleton_self _
  case createQueuedTaskRun => exact creation.1 ▸ List.mem_cons_self
  case createRunningTaskRun => exact creation.1 ▸ List.mem_cons_self
  case runTaskInFlow =>
    obtain ⟨flow, -, same, -⟩ := creation
    exact same ▸ List.mem_cons_self
  case retryBlockedFlowTask =>
    obtain ⟨flow, -, latestTask, -, same, -⟩ := creation
    exact same ▸ List.mem_singleton_self _

/-- The registries are keyed and controlled, and every id in them was drawn or restored. -/
structure Booked (state : State) : Prop where
  keyed : Keyed state.world
  controlled : Controlled state.world.flows
  tasks : ∀ taskId, taskId ∉ state.usedIds → state.world.tasks.get taskId = none
  flows : ∀ flowId, flowId ∉ state.usedIds → state.world.flows.get flowId = none

theorem Booked.ready {state : State} (booked : Booked state)
    (able : enabled state input.action = true) :
    Ready (prepared input state.world) input.action where
  keyed := ⟨booked.keyed.tasks, booked.keyed.flows⟩
  freshTask id drawn := booked.tasks id (fresh_of_enabled able id drawn)
  freshFlow id drawn := booked.flows id (fresh_of_enabled able id drawn)

/-- What a step writes, said once for all actions. -/
theorem step_writes (booked : Booked state) (taken : step env state input = some next) :
    Writes env (authorityOf state (prepared input state.world) input.action)
      (prepared input state.world) next.world := by
  rw [(step_world taken).1]
  exact perform_writes (booked.ready (step_cases taken).1)

theorem Booked.step (booked : Booked state)
    (taken : step env state input = some next) : Booked next := by
  have writes := step_writes booked taken
  have used := (step_world taken).2
  refine ⟨writes.keyed ⟨booked.keyed.tasks, booked.keyed.flows⟩,
    writes.flows.controlled booked.controlled, fun taskId unused => ?_, fun flowId unused => ?_⟩
  · rw [used, List.mem_append, not_or] at unused
    refine writes.task_absent (fun _ _ _ granted same => unused.2 ?_)
      (booked.tasks taskId unused.1)
    exact same ▸ inserts_drawn granted
  · rw [used, List.mem_append, not_or] at unused
    exact writes.flows.absent booked.keyed.flows unused.2 (booked.flows flowId unused.1)

/-! ### The restored registries -/

theorem normalizeRestoredFlowRecord_ok {record normalized : TaskFlowRecord}
    (ran : normalizeRestoredFlowRecord record = .ok normalized) :
    normalized.flowId = record.flowId ∧ (normalized.syncMode = .managed →
      (normalizeOptionalString normalized.controllerId).isSome) := by
  unfold normalizeRestoredFlowRecord at ran
  split at ran
  · simp at ran
  · cases ran
    refine ⟨rfl, fun managed => ?_⟩
    dsimp only at managed ⊢
    rw [managed]
    cases given : normalizeOptionalString record.controllerId with
    | none =>
      show (normalizeOptionalString (some "core/legacy-restored")).isSome = true
      decide
    | some controllerId =>
      rw [Option.getD_some, Option.some_or, ← given, normalizeOptionalString_idem, given]
      rfl

theorem normalizeRestoredFlows_ok {entries : List (String × TaskFlowRecord)}
    {flows restored : Flows} (ran : normalizeRestoredFlows entries flows = .ok restored)
    (keys : ∀ entry ∈ entries, entry.2.flowId = entry.1)
    (keyed : flows.KeyedBy TaskFlowRecord.flowId) (controlled : Controlled flows) :
    restored.KeyedBy TaskFlowRecord.flowId ∧ Controlled restored := by
  induction entries generalizing flows with
  | nil =>
    cases ran
    exact ⟨keyed, controlled⟩
  | cons entry rest inductionHypothesis =>
    obtain ⟨flowId, flow⟩ := entry
    unfold normalizeRestoredFlows at ran
    split at ran
    · simp at ran
    · rename_i normalized normal
      obtain ⟨known, wellBuilt⟩ := normalizeRestoredFlowRecord_ok normal
      have own : normalized.flowId = flowId := known.trans (keys _ List.mem_cons_self)
      refine inductionHypothesis ran (fun entry member => keys entry (List.mem_cons_of_mem _ member))
        (keyed.set own) fun otherId other stored managed => ?_
      rw [OrderedMap.get_set] at stored
      split at stored
      · cases stored
        exact wellBuilt managed
      · exact controlled otherId other stored managed

theorem restoreTaskRegistry_flows (tasks : Option TaskSnapshot) (world : World) :
    (restoreTaskRegistry tasks world).flows = world.flows := by cases tasks <;> rfl

theorem restoreFlowRegistry_tasks (flows : Option FlowSnapshot) (world : World) :
    (restoreFlowRegistry flows world).tasks = world.tasks := by
  unfold restoreFlowRegistry
  split
  · rfl
  · split <;> rfl

/-- The registries are in order when they have been restored. -/
theorem booked_restored (tasks : Option TaskSnapshot) (flows : Option FlowSnapshot) :
    Booked (restored tasks flows) := by
  have taskKeys : (restoreFlowRegistry flows (restoreTaskRegistry tasks {})).tasks.KeyedBy
      TaskRecord.taskId := by
    rw [restoreFlowRegistry_tasks]
    cases tasks with
    | none => exact OrderedMap.keyedBy_empty _
    | some snapshot =>
      intro taskId record stored
      exact snapshot.keyed (taskId, record) ((OrderedMap.get_eq_some_iff ..).1 stored)
  have flowsInOrder : (restoreFlowRegistry flows (restoreTaskRegistry tasks {})).flows.KeyedBy
      TaskFlowRecord.flowId ∧
        Controlled (restoreFlowRegistry flows (restoreTaskRegistry tasks {})).flows := by
    have empty : (∅ : Flows).KeyedBy TaskFlowRecord.flowId ∧ Controlled ∅ :=
      ⟨OrderedMap.keyedBy_empty _, fun _ _ stored => by simp at stored⟩
    have untouched : (restoreTaskRegistry tasks {}).flows = ∅ := restoreTaskRegistry_flows tasks {}
    unfold restoreFlowRegistry
    split
    · rw [untouched]
      exact empty
    · rename_i snapshot
      split
      · rw [untouched]
        exact empty
      · rename_i restored ran
        exact normalizeRestoredFlows_ok ran snapshot.keyed empty.1 empty.2
  refine ⟨⟨taskKeys, flowsInOrder.1⟩, flowsInOrder.2, fun taskId unused => ?_,
    fun flowId unused => ?_⟩
  · exact OrderedMap.get_eq_none_of_not_mem_keys fun listed =>
      unused (List.mem_append_left _ listed)
  · exact OrderedMap.get_eq_none_of_not_mem_keys fun listed =>
      unused (List.mem_append_right _ listed)

end OpenClaw.Tasks
