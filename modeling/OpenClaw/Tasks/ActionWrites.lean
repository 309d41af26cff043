/-
This file continues the operations one by one: those on a single task, those on
flows, and the entry points that create a record together with its flow.
-/

import OpenClaw.Tasks.OperationWrites

namespace OpenClaw.Tasks

open Text KeyedIndex

/-! ### Operations on one task -/

section SingleTask

variable {env : Env} {authority : Authority} {world : World} {taskId : String}

theorem writes_linkTaskToFlowById (taskId flowId : String) (world : World) :
    Sync.Related (Writes env authority) (linkTaskToFlowById taskId flowId) world := by
  unfold linkTaskToFlowById
  refine Sync.related_read_bind ?_
  split
  · rename_i flowId current key stored
    split
    · exact Sync.related_pure _ world
    · rename_i unlinked
      refine (writes_assertParentFlowLinkAllowed _ _ _ world).bind fun _ checked ran => ?_
      obtain ⟨rfl, allowed⟩ := assertParentFlowLinkAllowed_ok ran
      have legit : LegitUpdate authority checked taskId { parentFlowId := some flowId } := by
        refine ⟨rfl, rfl, rfl, fun _ _ _ written => by simp at written, ?_⟩
        intro other linked found written
        obtain rfl : current = other := Option.some.inj (stored.symm.trans found)
        obtain rfl : flowId = linked := Option.some.inj written
        exact ⟨Option.not_isSome_iff_eq_none.1 unlinked, allowed⟩
      exact writes_updateTask legit
  · exact Sync.related_pure _ world

/-- Writing a status by task id. -/
theorem writes_statusById {patch : TaskPatch}
    (keys : patch.runId = none ∧ patch.ownerKey = none ∧ patch.childSessionKey = none)
    (unlinked : patch.parentFlowId = none)
    (permitted : ∀ former status, statusOf world taskId = some former →
      patch.status = some status → authority.targets taskId ∧
        (isTerminalTaskStatus former = false ∨ authority.forced taskId former status)) :
    Sync.Related (Writes env authority) (updateTask taskId patch) world := by
  refine writes_updateTask ⟨keys.1, keys.2.1, keys.2.2, ?_, ?_⟩
  · intro current status stored written
    exact permitted current.status status (by rw [statusOf, stored, Option.map_some]) written
  · intro current flowId _ linked
    simp [unlinked] at linked

theorem writes_deliverCancelled (updated : Option TaskRecord) (world : World) :
    Sync.Related (Writes env authority) (deliverCancelled env updated) world := by
  unfold deliverCancelled
  split
  · exact writes_detached (writes_maybeDeliverTaskTerminalUpdate _ world)
  · exact Sync.related_pure _ world

theorem writes_recordTaskCancelled
    (permitted : ∀ former, statusOf world taskId = some former → authority.targets taskId ∧
      (isTerminalTaskStatus former = false ∨ authority.forced taskId former .cancelled)) :
    Sync.Related (Writes env authority) (recordTaskCancelled env taskId) world := by
  unfold recordTaskCancelled writeTaskCancelled
  refine Sync.Related.attempt ?_ fun _ failed _ => Sync.related_pure _ failed
  refine (writes_aside (aside_dateNow world)).bind fun endedAt first ranFirst => ?_
  refine (writes_aside (aside_dateNow first)).bind fun lastEventAt second ranSecond => ?_
  have same : statusOf second taskId = statusOf world taskId :=
    (dateNow_statusOf ranSecond taskId).trans (dateNow_statusOf ranFirst taskId)
  refine Sync.Related.bind (writes_statusById ⟨rfl, rfl, rfl⟩ rfl ?_) fun updated written _ => ?_
  · intro former status stored written
    obtain rfl : TaskStatus.cancelled = status := Option.some.inj written
    exact permitted former (same ▸ stored)
  · exact (writes_deliverCancelled updated written).bind fun _ final _ => Sync.related_pure _ final

/-- A cancellation starts with a look at the status, so it forces nothing. -/
theorem writes_startCancelTaskById (keyed : Keyed world)
    (target : authority.targets (trim taskId)) :
    Sync.Related (Writes env authority) (startCancelTaskById env taskId) world := by
  unfold startCancelTaskById
  refine Sync.related_read_bind ?_
  split
  · exact Sync.related_pure _ world
  · rename_i task stored
    split
    · exact Sync.related_pure _ world
    · rename_i active
      have known : task.taskId = trim taskId := keyed.tasks _ task stored
      split
      · refine Sync.Related.bind (writes_recordTaskCancelled ?_) fun _ final _ =>
          Sync.related_pure _ final
        rw [known, statusOf, stored]
        rintro former found
        obtain rfl : task.status = former := Option.some.inj found
        exact ⟨target, Or.inl (by simpa using active)⟩
      · exact Sync.related_pure _ world
      · split <;> exact Sync.related_pure _ world
      · split <;> exact Sync.related_pure _ world

theorem writes_finishCancelTaskById {stopped : Bool} (target : authority.targets taskId)
    (forces : ∀ former, statusOf world taskId = some former →
      authority.forced taskId former .cancelled) :
    Sync.Related (Writes env authority) (finishCancelTaskById env taskId stopped) world := by
  unfold finishCancelTaskById
  split
  · exact writes_recordTaskCancelled fun former stored => ⟨target, Or.inr (forces former stored)⟩
  · exact Sync.related_pure _ world

theorem writes_deleteTaskRecordById
    (erases : ∀ record, world.tasks.get taskId = some record → authority.erases taskId record) :
    Sync.Related (Writes env authority) (deleteTaskRecordById taskId) world := by
  unfold deleteTaskRecordById
  refine Sync.related_read_bind ?_
  split
  · exact Sync.related_pure _ world
  · rename_i current stored
    refine Sync.Related.bind (Sync.related_modify ?_) fun _ erased _ => ?_
    · exact .single (.erase world taskId current stored (erases current stored))
    · refine (writes_aside (aside_hostCall erased)).bind fun _ first _ => ?_
      exact (writes_aside (aside_hostCall first)).bind fun _ final _ => Sync.related_pure _ final

theorem writes_markTaskLost {task : TaskRecord} {now : Int}
    (stored : statusOf world task.taskId = some task.status)
    (active : isTerminalTaskStatus task.status = false) (target : authority.targets task.taskId) :
    Sync.Related (Writes env authority) (markTaskLost env task now) world := by
  unfold markTaskLost markTaskLostById
  dsimp only
  refine Sync.Related.bind (writes_statusById ⟨rfl, rfl, rfl⟩ rfl ?_) fun _ lost _ =>
    writes_detached (writes_maybeDeliverTaskTerminalUpdate _ lost)
  intro former status found _
  obtain rfl : task.status = former := Option.some.inj (stored.symm.trans found)
  exact ⟨target, Or.inl active⟩

theorem writes_maintainTask {now : Int} {hasBackingSession : Bool}
    (keyed : Keyed world) (target : authority.targets (trim taskId))
    (erases : ∀ record, world.tasks.get (trim taskId) = some record →
      isTerminalTaskStatus record.status = true → authority.erases (trim taskId) record) :
    Sync.Related (Writes env authority) (maintainTask env taskId now hasBackingSession) world := by
  unfold maintainTask
  refine Sync.related_read_bind ?_
  split
  · exact Sync.related_pure _ world
  · rename_i current stored
    have known : current.taskId = trim taskId := keyed.tasks _ current stored
    split
    · rename_i gone
      refine writes_markTaskLost (by rw [known, statusOf, stored, Option.map_some]) ?_
        (known ▸ target)
      rw [isTerminalTaskStatus_eq_not_active]
      simp only [shouldMarkLost, Bool.and_eq_true] at gone
      rw [gone.1.1, Bool.not_true]
    · refine Sync.Related.bind ?_ fun pruned middle _ => ?_
      · unfold pruneIfExpired
        split
        · rename_i expired
          rw [known]
          refine writes_deleteTaskRecordById fun record found => erases record found ?_
          obtain rfl : current = record := Option.some.inj (stored.symm.trans found)
          simp only [shouldPruneTerminalTask, Bool.and_eq_true] at expired
          rw [isTerminalTaskStatus_eq_not_active]
          exact expired.1
        · exact Sync.related_pure _ world
      · split
        · exact (writes_updateTask_quiet {} middle).bind fun _ final _ =>
            Sync.related_pure _ final
        · exact Sync.related_pure _ middle

end SingleTask

/-! ### Operations on flows -/

section Flows

variable {authority : Authority} {flowId : String} {params : CreateFlowRecordParams} {world : World}

theorem assertControllerId_ok {controllerId : Option String} {normalized : String}
    (asserted : assertControllerId controllerId = .ok normalized) :
    normalizeOptionalString (some normalized) = some normalized := by
  unfold assertControllerId at asserted
  split at asserted
  · rename_i value key
    cases asserted
    rw [← key, normalizeOptionalString_idem]
  · simp at asserted

theorem buildFlowRecord_ok {now : Int}
    {record : TaskFlowRecord} (built : buildFlowRecord flowId params now = .ok record) :
    record.flowId = flowId ∧
      (record.syncMode = .managed → (normalizeOptionalString record.controllerId).isSome) := by
  unfold buildFlowRecord at built
  dsimp only at built
  split at built
  · simp at built
  · simp at built
  · rename_i controllerId ownerKey chosen owned
    cases built
    refine ⟨rfl, fun managed => ?_⟩
    have mode : params.syncMode.getD .managed = .managed := managed
    rw [mode] at chosen
    cases asserted : assertControllerId params.controllerId with
    | error error => simp [asserted, Except.map] at chosen
    | ok normalized =>
      simp only [asserted, Except.map, Except.ok.injEq] at chosen
      rw [← chosen, assertControllerId_ok asserted]
      rfl

theorem aside_createFlowRecord
    (fresh : world.flows.get flowId = none) (granted : authority.creates flowId) :
    Sync.Related (Aside authority) (createFlowRecord flowId params) world := by
  unfold createFlowRecord
  refine (aside_orNow _ world).bind fun now read ran => ?_
  have sameFlows := orNow_flows ran
  split
  · exact Sync.related_throw _ read
  · rename_i record built
    obtain ⟨known, controlled⟩ := buildFlowRecord_ok built
    refine aside_writeFlowRecord (.single (.create _ record (known ▸ granted) ?_ controlled))
    rw [known, sameFlows]
    exact fresh

theorem createFlowRecord_ok {world middle : World} {record : TaskFlowRecord}
    (ran : createFlowRecord flowId params world = (.ok record, middle)) :
    record.flowId = flowId := by
  unfold createFlowRecord at ran
  obtain ⟨now, clock, read⟩ := orNow_run params.createdAt world
  rw [Sync.bind_run_ok read] at ran
  cases built : buildFlowRecord flowId params now with
  | error error => simp [built] at ran
  | ok built' =>
    simp only [built] at ran
    unfold writeFlowRecord at ran
    rw [Sync.modify_bind] at ran
    cases called : hostCall _ with
    | mk outcome final =>
      cases outcome with
      | error error =>
        rw [Sync.bind_run_error called] at ran
        simp at ran
      | ok _ =>
        rw [Sync.bind_run_ok called, Sync.pure_run, Prod.mk.injEq, Except.ok.injEq] at ran
        exact ran.1 ▸ (buildFlowRecord_ok built).1

theorem aside_createManagedTaskFlow
    (fresh : world.flows.get flowId = none) (granted : authority.creates flowId) :
    Sync.Related (Aside authority) (createManagedTaskFlow flowId params) world := by
  unfold createManagedTaskFlow
  split
  · exact Sync.related_throw _ world
  · exact aside_createFlowRecord fresh granted

theorem aside_deleteTaskFlowRecordById (granted : authority.deletes flowId) :
    Sync.Related (Aside authority) (deleteTaskFlowRecordById flowId) world := by
  unfold deleteTaskFlowRecordById getTaskFlowById
  refine Sync.related_reads_bind ?_
  split
  · exact Sync.related_pure _ world
  · refine Sync.Related.bind (Sync.related_modify ?_) fun _ deleted _ => ?_
    · exact ⟨⟨rfl, rfl, rfl, rfl, rfl, List.suffix_refl _⟩,
        .single (.delete world.flows flowId granted)⟩
    · exact (aside_hostCall deleted).bind fun _ final _ => Sync.related_pure _ final

/-- A setter moves the flow whose revision it names. -/
theorem aside_performFlowStep {kind : FlowStep} {expectedRevision : Int}
    {params : FlowStepParams} (steps : ∀ current, world.flows.get flowId = some current →
      current.revision = expectedRevision → authority.steps current.flowId) :
    Sync.Related (Aside authority) (performFlowStep kind flowId expectedRevision params) world := by
  cases kind with
  | waiting =>
    exact aside_updateFlowRecordByIdExpectedRevision fun current stored agrees =>
      ⟨by simp, rfl, .stepped (steps current stored agrees)⟩
  | resume =>
    exact aside_updateFlowRecordByIdExpectedRevision fun current stored agrees =>
      ⟨by simp, rfl, .stepped (steps current stored agrees)⟩
  | finish =>
    unfold performFlowStep finishFlow resolveFlowEnd
    refine (aside_orNow _ world).bind fun endedAt read ran => ?_
    refine aside_updateFlowRecordByIdExpectedRevision fun current stored agrees =>
      ⟨by simp, rfl, .stepped (steps current ?_ agrees)⟩
    exact orNow_flows ran ▸ stored
  | fail =>
    unfold performFlowStep failFlow resolveFlowEnd
    refine (aside_orNow _ world).bind fun endedAt read ran => ?_
    refine aside_updateFlowRecordByIdExpectedRevision fun current stored agrees =>
      ⟨by simp, rfl, .stepped (steps current ?_ agrees)⟩
    exact orNow_flows ran ▸ stored

theorem aside_requestFlowCancel (flowId : String) (expectedRevision : Int)
    (cancelRequestedAt updatedAt : Option Int) (world : World) :
    Sync.Related (Aside authority)
      (requestFlowCancel flowId expectedRevision cancelRequestedAt updatedAt) world := by
  unfold requestFlowCancel
  refine (aside_orNow _ world).bind fun requestedAt read _ => ?_
  exact aside_updateFlowRecordByIdExpectedRevision fun current _ _ =>
    ⟨by simp, rfl, .untouched rfl⟩

theorem aside_startCancelFlowById (flowId : String) (world : World) :
    Sync.Related (Aside authority) (startCancelFlowById flowId) world := by
  unfold startCancelFlowById getTaskFlowById
  refine Sync.related_reads_bind ?_
  split
  · exact Sync.related_pure _ world
  · rename_i flow _
    split
    · exact Sync.related_pure _ world
    · refine Sync.Related.bind ?_ fun marked middle _ => ?_
      · unfold markFlowCancelRequested
        split
        · exact Sync.related_pure _ world
        · refine (aside_requestFlowCancel _ _ none none world).bind fun result final _ => ?_
          cases result <;> exact Sync.related_pure _ final
      · split
        · exact Sync.related_pure _ middle
        · exact Sync.related_read_bind (Sync.related_pure _ middle)

theorem aside_finishCancelFlowById (flow : TaskFlowRecord) (world : World) :
    Sync.Related (Aside authority) (finishCancelFlowById flow) world := by
  unfold finishCancelFlowById cancelManagedFlowAfterChildrenSettle
  refine Sync.related_read_bind ?_
  split
  · exact Sync.related_pure _ world
  · refine (aside_dateNow world).bind fun now read _ => ?_
    dsimp only
    split
    · exact Sync.related_pure _ read
    · refine (aside_updateFlowRecordByIdExpectedRevision fun current _ _ =>
        legitPatch_cancelled current now).bind fun result final _ => ?_
      cases result <;> exact Sync.related_pure _ final

theorem aside_finalizeCancelledFlow (now : Int) (attempts : Nat) (flow : TaskFlowRecord)
    (world : World) :
    Sync.Related (Aside authority) (finalizeCancelledFlow now attempts flow) world := by
  induction attempts generalizing flow world with
  | zero => exact Sync.related_pure _ world
  | succ attempts inductionHypothesis =>
    unfold finalizeCancelledFlow
    refine (aside_updateFlowRecordByIdExpectedRevision fun current _ _ =>
      legitPatch_cancelled current _).bind fun result middle _ => ?_
    cases result with
    | applied flow => exact Sync.related_pure _ middle
    | notFound => exact Sync.related_pure _ middle
    | revisionConflict latest =>
      refine Sync.related_read_bind ?_
      split
      · exact Sync.related_pure _ middle
      · exact inductionHypothesis latest middle

/-- The flow maintenance deletes terminal flows only. -/
theorem aside_maintainFlow {now : Int} (deletes : ∀ current, world.flows.get flowId = some current →
      isTerminalFlowStatus current.status = true → authority.deletes current.flowId) :
    Sync.Related (Aside authority) (maintainFlow flowId now) world := by
  unfold maintainFlow
  refine Sync.related_read_bind ?_
  split
  · exact Sync.related_pure _ world
  · rename_i current stored
    split
    · exact (aside_finalizeCancelledFlow now 2 current world).bind fun _ final _ =>
        Sync.related_pure _ final
    · split
      · rename_i expired
        simp only [shouldPruneFlow, Bool.and_eq_true] at expired
        exact (aside_deleteTaskFlowRecordById (deletes current stored expired.1.1)).bind
          fun _ final _ => Sync.related_pure _ final
      · exact Sync.related_pure _ world

end Flows

/-! ### What happens to the flow map -/

variable {authority : Authority}

theorem Write.flows {env : Env} {world next : World}
    (write : Write env authority world next) : FlowWrites authority world.flows next.flows := by
  cases write with
  | aside tables flows => exact flows
  | update taskId patch legit =>
    exact (updateTask_flows taskId patch world).within (Authority.nothing_within authority)
  | insert record origin legit =>
    exact (insertTaskRecord_flows env record origin world).within
      (Authority.nothing_within authority)
  | erase taskId current stored granted => exact Relation.ReflTransGen.refl

theorem Writes.flows {env : Env} {world next : World} (writes : Writes env authority world next) :
    FlowWrites authority world.flows next.flows := by
  induction writes with
  | refl => exact Relation.ReflTransGen.refl
  | tail _ write inductionHypothesis => exact inductionHypothesis.trans write.flows

/-- A flow nobody may create stays absent. -/
theorem FlowWrites.absent {flows next : Flows}
    (writes : FlowWrites authority flows next) (keyed : flows.KeyedBy TaskFlowRecord.flowId)
    {flowId : String} (spared : ¬ authority.creates flowId) (absent : flows.get flowId = none) :
    next.get flowId = none := by
  induction writes with
  | refl => exact absent
  | tail front write inductionHypothesis =>
    cases write with
    | create record granted fresh controlled =>
      have different : flowId ≠ record.flowId := by
        rintro rfl
        exact spared granted
      rw [OrderedMap.get_set_of_ne _ _ different]
      exact inductionHypothesis
    | patch patchedId current patch updatedAt stored keepsRequest keepsController cause =>
      have known := FlowWrites.keyed front keyed patchedId current stored
      rw [OrderedMap.get_set, if_neg, inductionHypothesis]
      rintro rfl
      rw [known, stored] at inductionHypothesis
      simp at inductionHypothesis
    | delete deletedId granted =>
      rw [OrderedMap.get_delete, inductionHypothesis, ite_self]

/-! ### Creating a record with its flow -/

section CreatingRuns

variable {env : Env} {world : World} {params : CreateTaskParams}

/-- The authority to create one record. -/
def Authority.creation (start : World) (taskId : String) (params : CreateTaskParams) : Authority :=
  { Authority.nothing with
    inserts := fun middle record origin =>
      CreatesRecord start taskId params record ∧ origin = params.requesterOrigin ∧
        middle.host.failures = start.host.failures ∧
        middle.taskDeliveryStates = start.taskDeliveryStates }

theorem Authority.creation_within {start : World} {taskId : String}
    (inserts : ∀ middle record origin,
      (Authority.creation start taskId params).inserts middle record origin →
        authority.inserts middle record origin) :
    (Authority.creation start taskId params).Within authority where
  targets _ := False.elim
  forced _ _ _ := False.elim
  inserts := inserts
  erases _ _ := False.elim
  steps _ := False.elim
  creates _ := False.elim
  deletes _ := False.elim

theorem writes_creation {taskId : String}
    (keyed : Keyed world) (fresh : world.tasks.get taskId = none) :
    Sync.Related (Writes env (Authority.creation world taskId params))
      (createTaskRecord env taskId params) world :=
  writes_createTaskRecord keyed ⟨fresh, fun _ _ creates failures states =>
    ⟨creates, rfl, failures, states⟩⟩

/-- The flow of a detached run is created, linked, and deleted again when the link fails. -/
theorem writes_ensureSingleTaskFlow {flowId : String} {task : TaskRecord}
    {requesterOrigin : Option DeliveryContext}
    (fresh : world.flows.get flowId = none) (creates : authority.creates flowId)
    (deletes : authority.deletes flowId) :
    Sync.Related (Writes env authority) (ensureSingleTaskFlow flowId task requesterOrigin)
      world := by
  unfold ensureSingleTaskFlow
  split
  · exact Sync.related_pure _ world
  · refine Sync.Related.attempt ?_ fun _ failed _ => Sync.related_pure _ failed
    unfold createTaskFlowForTask
    refine (writes_aside (aside_createFlowRecord fresh creates)).bind fun flow created ran => ?_
    rw [createFlowRecord_ok ran]
    have discarded (result : TaskRecord) (current : World) :
        Sync.Related (Writes env authority) (do
          let _ ← deleteTaskFlowRecordById flowId
          pure result) current :=
      (writes_aside (aside_deleteTaskFlowRecordById deletes)).bind fun _ final _ =>
        Sync.related_pure _ final
    refine (writes_linkTaskToFlowById _ _ created).bind fun linked middle _ => ?_
    cases linked with
    | none => exact discarded task middle
    | some linked =>
      dsimp only
      split
      · exact discarded linked middle
      · exact Sync.related_pure _ middle

/-- `createQueuedTaskRun` and `createRunningTaskRun`. -/
theorem writes_createTaskRun {taskId flowId : String}
    (keyed : Keyed world) (freshTask : world.tasks.get taskId = none)
    (freshFlow : world.flows.get flowId = none)
    (within : (Authority.creation world taskId params).Within authority)
    (creates : authority.creates flowId) (deletes : authority.deletes flowId) :
    Sync.Related (Writes env authority) (do
      let task ← createTaskRecord env taskId params
      ensureSingleTaskFlow flowId task params.requesterOrigin) world := by
  have creation : Sync.Related (Writes env (Authority.creation world taskId params)) _ world :=
    writes_creation keyed freshTask
  refine Sync.Related.bind (creation.weaken fun _ writes => writes.within within)
    fun task created ran => writes_ensureSingleTaskFlow ?_ creates deletes
  have written : Writes env (Authority.creation world taskId params) world created := by
    rw [Sync.Related, ran] at creation
    exact creation
  exact written.flows.absent keyed.flows (fun granted => granted) freshFlow

theorem writes_mapRunTaskInFlowCreateError (flowId : String) (error : TaskError) (world : World) :
    Sync.Related (Writes env authority) (mapRunTaskInFlowCreateError flowId error) world := by
  unfold mapRunTaskInFlowCreateError getTaskFlowById
  refine Sync.related_reads_bind ?_
  split
  · exact Sync.related_pure _ world
  · exact Sync.related_pure _ world
  · exact Sync.related_pure _ world
  · exact Sync.related_throw _ world

/-- The parameters of the record `runTaskInFlow` creates. -/
def childRunParams (flow : TaskFlowRecord) (params : FlowTaskParams) : CreateTaskParams :=
  match params.status with
  | .running =>
    { childTaskParams flow params with
      startedAt := params.startedAt
      lastEventAt := params.lastEventAt
      progressSummary := params.progressSummary
      status := some .running }
  | .queued => { childTaskParams flow params with status := some .queued }

/-- What `runTaskInFlow` asks of a flow before it creates a child. -/
def AcceptsChildren (flow : TaskFlowRecord) : Prop :=
  flow.syncMode = .managed ∧ flow.cancelRequestedAt = none ∧
    isTerminalFlowStatus flow.status = false

instance (flow : TaskFlowRecord) : Decidable (AcceptsChildren flow) := instDecidableAnd

/-- What `retryBlockedFlowTask` asks of a flow and its latest task. -/
def Retryable (flow : TaskFlowRecord) (latestTask : TaskRecord) : Prop :=
  flow.status = .blocked ∧ latestTask.status = .succeeded ∧
    latestTask.terminalOutcome = some .blocked

instance (flow : TaskFlowRecord) (latestTask : TaskRecord) : Decidable (Retryable flow latestTask) :=
  instDecidableAnd

theorem writes_runTaskInFlow {taskId newFlowId flowId : String} {params : FlowTaskParams}
    (keyed : Keyed world) (freshTask : world.tasks.get taskId = none)
    (freshFlow : world.flows.get newFlowId = none)
    (within : ∀ flow, world.flows.get flowId = some flow → AcceptsChildren flow →
      (Authority.creation world taskId (childRunParams flow params)).Within authority)
    (creates : authority.creates newFlowId) (deletes : authority.deletes newFlowId) :
    Sync.Related (Writes env authority) (runTaskInFlow env taskId newFlowId flowId params)
      world := by
  unfold runTaskInFlow getTaskFlowById
  refine Sync.related_reads_bind ?_
  split
  · exact Sync.related_pure _ world
  · rename_i flow stored
    split
    · exact Sync.related_pure _ world
    · rename_i managed
      split
      · exact Sync.related_pure _ world
      · rename_i unrequested
        split
        · exact Sync.related_pure _ world
        · rename_i unfinished
          refine Sync.Related.attempt ?_ fun error failed _ =>
            writes_mapRunTaskInFlowCreateError _ error failed
          have granted := within flow stored ⟨not_not.1 managed,
            Option.not_isSome_iff_eq_none.1 unrequested, Bool.eq_false_iff.2 unfinished⟩
          unfold childRunParams at granted
          cases status : params.status with
          | running =>
            rw [status] at granted
            exact (writes_createTaskRun keyed freshTask freshFlow granted creates deletes).bind
              fun task final _ => Sync.related_pure _ final
          | queued =>
            rw [status] at granted
            exact (writes_createTaskRun keyed freshTask freshFlow granted creates deletes).bind
              fun task final _ => Sync.related_pure _ final

theorem writes_retryBlockedFlowTask {taskId flowId : String} {params : FlowTaskParams}
    (keyed : Keyed world) (fresh : world.tasks.get taskId = none)
    (within : ∀ flow latestTask, world.flows.get flowId = some flow →
      findLatestTaskForFlowId world flowId = some latestTask → Retryable flow latestTask →
        (Authority.creation world taskId (retryTaskParams flow latestTask params)).Within
          authority) :
    Sync.Related (Writes env authority) (retryBlockedFlowTask env taskId flowId params) world := by
  unfold retryBlockedFlowTask
  refine Sync.related_read_bind ?_
  split
  · exact Sync.related_pure _ world
  · rename_i flow stored
    split
    · exact Sync.related_pure _ world
    · rename_i latestTask latest
      split
      · exact Sync.related_pure _ world
      · rename_i blocked
        split
        · exact Sync.related_pure _ world
        · rename_i finished
          rw [not_or, not_not, not_not] at finished
          have creation : Sync.Related (Writes env (Authority.creation world taskId
              (retryTaskParams flow latestTask params))) _ world := writes_creation keyed fresh
          have granted : Sync.Related (Writes env authority) _ world :=
            creation.weaken fun _ writes =>
              writes.within (within flow latestTask stored latest ⟨not_not.1 blocked, finished⟩)
          exact granted.bind fun task final _ => Sync.related_pure _ final

end CreatingRuns

end OpenClaw.Tasks
