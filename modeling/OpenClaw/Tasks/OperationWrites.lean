/-
This file shows that the operations of the registries are chains of legitimate
writes. There is one lemma for each operation, saying which authority it needs;
a caller cites it and never looks into the operation again.

The deliveries need no authority at all: they write delivery statuses and times
but never a task's status, its parent flow or its run. Loops address several
tasks read before the loop, so their proofs carry along that the tasks still to
come have kept their status.
-/

import OpenClaw.Tasks.Writes

namespace OpenClaw.Tasks

open Text KeyedIndex

/-! ### Frames -/

/-- Every task stands under its own id, and so does every flow. -/
structure Keyed (world : World) : Prop where
  tasks : world.tasks.KeyedBy TaskRecord.taskId
  flows : world.flows.KeyedBy TaskFlowRecord.flowId

variable {authority : Authority}

theorem FlowWrites.keyed {flows next : Flows}
    (writes : FlowWrites authority flows next) (keyed : flows.KeyedBy TaskFlowRecord.flowId) :
    next.KeyedBy TaskFlowRecord.flowId := by
  induction writes with
  | refl => exact keyed
  | tail _ write inductionHypothesis =>
    cases write with
    | create record granted fresh controlled => exact inductionHypothesis.set rfl
    | patch flowId current patch updatedAt stored keepsRequest keepsController cause =>
      exact inductionHypothesis.set rfl
    | delete flowId granted => exact inductionHypothesis.delete flowId

theorem Write.keyed {env : Env} {world next : World}
    (write : Write env authority world next) (keyed : Keyed world) : Keyed next := by
  cases write with
  | aside tables flows => exact ⟨tables.tasks ▸ keyed.tasks, flows.keyed keyed.flows⟩
  | update taskId patch legit =>
    refine ⟨?_, (updateTask_flows taskId patch world).keyed keyed.flows⟩
    cases stored : world.tasks.get taskId with
    | none =>
      rw [updateTask_of_absent patch stored]
      exact keyed.tasks
    | some current =>
      obtain ⟨cleanupAfter, tasks⟩ := updateTask_tasks patch stored
      rw [tasks]
      exact keyed.tasks.set (keyed.tasks taskId current stored)
  | insert record origin legit =>
    refine ⟨?_, (insertTaskRecord_flows env record origin world).keyed keyed.flows⟩
    rw [insertTaskRecord_tasks]
    exact keyed.tasks.set rfl
  | erase taskId current stored granted => exact ⟨keyed.tasks.delete taskId, keyed.flows⟩

theorem Writes.keyed {env : Env} {world next : World}
    (writes : Writes env authority world next) (keyed : Keyed world) : Keyed next := by
  induction writes with
  | refl => exact keyed
  | tail _ write inductionHypothesis => exact write.keyed inductionHypothesis

/-- The status of a task, when there is one. -/
def statusOf (world : World) (taskId : String) : Option TaskStatus :=
  (world.tasks.get taskId).map TaskRecord.status

/-- An authority that only updates tasks. -/
structure Authority.UpdatesOnly (authority : Authority) : Prop where
  inserts : ∀ world record origin, ¬ authority.inserts world record origin
  erases : ∀ taskId record, ¬ authority.erases taskId record

/-- An operation that only updates leaves the status of every task it does not address. -/
theorem Writes.statusOf_eq {env : Env} {world next : World}
    (writes : Writes env authority world next) (updatesOnly : authority.UpdatesOnly)
    {taskId : String} (spared : ¬ authority.targets taskId) :
    statusOf next taskId = statusOf world taskId := by
  induction writes with
  | refl => rfl
  | tail _ write inductionHypothesis =>
    rw [← inductionHypothesis]
    cases write with
    | aside tables flows => rw [statusOf, tables.tasks, statusOf]
    | update updatedId patch legit =>
      rename_i middle _
      cases stored : middle.tasks.get updatedId with
      | none => rw [updateTask_of_absent patch stored]
      | some current =>
        obtain ⟨cleanupAfter, tasks⟩ := updateTask_tasks patch stored
        rw [statusOf, tasks, OrderedMap.get_set]
        by_cases same : taskId = updatedId
        · subst same
          rw [if_pos rfl, statusOf, stored, Option.map_some, Option.map_some]
          cases written : patch.status with
          | none => simp [updatedRecord, TaskRecord.merge, written]
          | some status => exact absurd (legit.status current status stored written).1 spared
        · rw [if_neg same, statusOf]
    | insert record origin legit => exact absurd legit.granted (updatesOnly.inserts _ _ _)
    | erase erasedId current stored granted => exact absurd granted (updatesOnly.erases _ _)

/-! ### Deliveries -/

section Deliveries

variable {env : Env}

theorem writes_aside {Value : Type} {program : Section Value} {world : World}
    (aside : Sync.Related (Aside authority) program world) :
    Sync.Related (Writes env authority) program world := aside.weaken fun _ => Aside.writes

/-- A patch that writes neither a status, nor a parent flow, nor an index key. -/
structure Quiet (patch : TaskPatch) : Prop where
  runId : patch.runId = none := by rfl
  ownerKey : patch.ownerKey = none := by rfl
  childSessionKey : patch.childSessionKey = none := by rfl
  status : patch.status = none := by rfl
  parentFlowId : patch.parentFlowId = none := by rfl

theorem Quiet.legit {patch : TaskPatch} (quiet : Quiet patch) (world : World) (taskId : String) :
    LegitUpdate authority world taskId patch where
  keepsRunId := quiet.runId
  keepsOwnerKey := quiet.ownerKey
  keepsChildSessionKey := quiet.childSessionKey
  status current status _ written := by simp [quiet.status] at written
  link current flowId _ written := by simp [quiet.parentFlowId] at written

theorem writes_updateTask {taskId : String} {patch : TaskPatch} {world : World}
    (legit : LegitUpdate authority world taskId patch) :
    Sync.Related (Writes env authority) (updateTask taskId patch) world :=
  .single (.update world taskId patch legit)

theorem writes_updateTask_quiet {taskId : String} {patch : TaskPatch} (quiet : Quiet patch)
    (world : World) : Sync.Related (Writes env authority) (updateTask taskId patch) world :=
  writes_updateTask (quiet.legit world taskId)

theorem writes_recordDeliveryStatus (taskId : String) (deliveryStatus : TaskDeliveryStatus)
    (world : World) :
    Sync.Related (Writes env authority) (recordDeliveryStatus taskId deliveryStatus) world := by
  unfold recordDeliveryStatus
  refine (writes_aside (aside_dateNow world)).bind fun now middle _ => ?_
  exact (writes_updateTask_quiet {} middle).bind fun _ final _ => Sync.related_pure _ final

theorem writes_queueSessionEvent (task : TaskRecord) (contextKey text : String) (world : World) :
    Sync.Related (Writes env authority) (queueSessionEvent env task contextKey text) world := by
  unfold queueSessionEvent
  refine Sync.related_read_bind ?_
  split
  · exact Sync.related_pure _ world
  · exact (writes_aside (aside_hostCall world)).bind fun _ called _ =>
      writes_aside (aside_handOff _ called)

theorem writes_queueFollowupIfBlocked (task : TaskRecord) (world : World) :
    Sync.Related (Writes env authority) (queueFollowupIfBlocked env task) world := by
  unfold queueFollowupIfBlocked queueBlockedTaskFollowup
  split
  · split
    · exact Sync.related_pure _ world
    · exact writes_queueSessionEvent task _ _ world
  · exact Sync.related_pure _ world

/-- The books of the deliveries are no part of the registries. -/
theorem writes_books (world : World) (pending : List String) (inFlight : List Delivery) :
    Writes env authority world
      { world with tasksWithPendingDelivery := pending, inFlight := inFlight } := by
  have tables : SameTables world
      { world with tasksWithPendingDelivery := pending, inFlight := inFlight } :=
    ⟨rfl, rfl, rfl, rfl, rfl, List.suffix_refl _⟩
  exact (aside_of_sameFlows tables rfl).writes

theorem writes_clearPendingDelivery (taskId : String) (world : World) :
    Writes env authority world (clearPendingDelivery taskId world) := writes_books world _ _

theorem writes_awaitDeliveryRuntime (delivery : Delivery) (world : World) :
    Sync.Related (Writes env authority) (awaitDeliveryRuntime delivery) world :=
  writes_books world _ _

theorem writes_startTerminalDelivery (taskId : String) (latest : TaskRecord) (world : World) :
    Sync.Related (Writes env authority) (startTerminalDelivery env taskId latest) world := by
  unfold startTerminalDelivery
  refine Sync.related_read_bind ?_
  dsimp only
  split
  · exact (writes_recordDeliveryStatus taskId _ world).bind fun _ final _ =>
      Sync.related_pure _ final
  · split
    · exact (writes_recordDeliveryStatus taskId _ world).bind fun _ final _ =>
        Sync.related_pure _ final
    · split
      · refine Sync.Related.bind (Sync.Related.attempt ?_ fun _ failed _ =>
          writes_recordDeliveryStatus taskId _ failed) fun _ final _ => Sync.related_pure _ final
        refine (writes_queueSessionEvent latest _ _ world).bind fun _ queued _ => ?_
        exact (writes_queueFollowupIfBlocked latest queued).bind fun _ followed _ =>
          writes_recordDeliveryStatus taskId _ followed
      · exact (writes_awaitDeliveryRuntime _ world).bind fun _ final _ =>
          Sync.related_pure _ final

theorem writes_maybeDeliverTaskTerminalUpdate (taskId : String) (world : World) :
    Sync.Related (Writes env authority) (maybeDeliverTaskTerminalUpdate env taskId) world := by
  unfold maybeDeliverTaskTerminalUpdate
  refine Sync.related_read_bind ?_
  split
  · exact Sync.related_pure _ world
  · split
    · exact Sync.related_pure _ world
    · split
      · exact Sync.related_pure _ world
      · refine (Sync.related_modify (writes_books world _ _)).bind fun _ pending _ => ?_
        refine Sync.Related.bind (Sync.Related.attempt
          (writes_startTerminalDelivery taskId _ pending) fun _ failed _ => ?_)
          fun awaiting started _ => ?_
        · exact (Sync.related_modify (writes_clearPendingDelivery taskId failed)).bind
            fun _ final _ => Sync.related_throw _ final
        · split
          · exact Sync.related_pure _ started
          · exact Sync.related_modify (writes_clearPendingDelivery taskId started)

theorem writes_finishTerminalDelivery (delivery : Delivery) (succeeded : Bool) (world : World) :
    Sync.Related (Writes env authority) (finishTerminalDelivery env delivery succeeded) world := by
  unfold finishTerminalDelivery
  refine Sync.Related.ensuring (Sync.Related.attempt ?_ fun _ failed _ => ?_)
    (writes_clearPendingDelivery delivery.taskId)
  · split
    · exact (writes_queueFollowupIfBlocked delivery.task world).bind fun _ followed _ =>
        writes_recordDeliveryStatus _ _ followed
    · exact Sync.related_throw _ world
  · refine (Sync.Related.attempt ?_ fun _ fallback _ => Sync.related_pure _ fallback).bind
      fun _ final _ => writes_recordDeliveryStatus _ _ final
    exact (writes_queueSessionEvent delivery.task _ _ failed).bind fun _ queued _ =>
      writes_queueFollowupIfBlocked delivery.task queued

theorem writes_recordStateChangeDelivery (taskId : String)
    (deliveryState : Option TaskDeliveryState) (event : TaskEventRecord) (world : World) :
    Sync.Related (Writes env authority)
      (recordStateChangeDelivery env taskId deliveryState event) world := by
  unfold recordStateChangeDelivery
  refine (writes_aside (aside_upsertTaskDeliveryState env _ world)).bind fun _ stated _ => ?_
  refine (writes_aside (aside_dateNow stated)).bind fun now read _ => ?_
  exact (writes_updateTask_quiet {} read).bind fun _ final _ => Sync.related_pure _ final

theorem writes_startStateChangeDelivery (taskId : String) (current : TaskRecord)
    (event : TaskEventRecord) (eventText : String) (world : World) :
    Sync.Related (Writes env authority)
      (startStateChangeDelivery env taskId current event eventText) world := by
  unfold startStateChangeDelivery
  refine Sync.related_read_bind ?_
  dsimp only
  split
  · exact writes_recordDeliveryStatus taskId _ world
  · split
    · exact (writes_queueSessionEvent current _ _ world).bind fun _ queued _ =>
        writes_recordStateChangeDelivery taskId _ event queued
    · exact writes_awaitDeliveryRuntime _ world

theorem writes_maybeDeliverTaskStateChangeUpdate (taskId : String)
    (latestEvent : Option TaskEventRecord) (world : World) :
    Sync.Related (Writes env authority)
      (maybeDeliverTaskStateChangeUpdate env taskId latestEvent) world := by
  unfold maybeDeliverTaskStateChangeUpdate
  refine Sync.related_read_bind ?_
  split
  · dsimp only
    split
    · exact Sync.related_pure _ world
    · split
      · exact Sync.related_pure _ world
      · split
        · exact Sync.related_pure _ world
        · exact (writes_startStateChangeDelivery taskId _ _ _ world).attempt fun _ failed _ =>
            Sync.related_pure _ failed
  · exact Sync.related_pure _ world

theorem writes_detached {start : Section Unit} {world : World}
    (started : Sync.Related (Writes env authority) start world) :
    Sync.Related (Writes env authority) (detached start) world :=
  started.attempt fun _ failed _ => Sync.related_pure _ failed

theorem writes_notifyTask (taskId : String) (event : Option TaskEventRecord) (world : World) :
    Sync.Related (Writes env authority) (notifyTask env taskId event) world := by
  unfold notifyTask
  refine (writes_detached (writes_maybeDeliverTaskStateChangeUpdate taskId event world)).bind
    fun _ notified _ => ?_
  exact writes_detached (writes_maybeDeliverTaskTerminalUpdate taskId notified)

theorem writes_takeInFlight (delivery : Delivery) (world : World) :
    Sync.Related (Writes env authority) (takeInFlight delivery) world := writes_books world _ _

theorem writes_resumeLoaded (delivery : Delivery) (world : World) :
    Sync.Related (Writes env authority) (resumeLoaded env delivery) world := by
  unfold resumeLoaded
  refine (writes_takeInFlight delivery world).bind fun _ taken _ => Sync.related_read_bind ?_
  exact (writes_aside (aside_handOff _ taken)).bind fun _ handed _ =>
    writes_awaitDeliveryRuntime _ handed

theorem writes_finishDelivery (delivery : Delivery) (succeeded : Bool) (world : World) :
    Sync.Related (Writes env authority) (finishDelivery env delivery succeeded) world := by
  unfold finishDelivery
  refine (writes_takeInFlight delivery world).bind fun _ taken _ => ?_
  split
  · exact writes_finishTerminalDelivery delivery succeeded taken
  · split
    · exact (writes_recordStateChangeDelivery delivery.taskId _ _ taken).attempt
        fun _ failed _ => Sync.related_pure _ failed
    · exact Sync.related_pure _ taken

end Deliveries

/-! ### Lookups return stored tasks -/

theorem stored_of_mem_tasksUnder {index : KeyedIndex String String}
    {tasks : OrderedMap String TaskRecord} {key : String} {task : TaskRecord}
    (keyed : tasks.KeyedBy TaskRecord.taskId) (member : task ∈ tasksUnder index tasks key) :
    tasks.get task.taskId = some task := by
  obtain ⟨taskId, -, stored⟩ := List.mem_filterMap.1 member
  exact keyed taskId task stored ▸ stored

/-- A lookup lists no task twice. -/
theorem nodup_tasksUnder (index : KeyedIndex String String) {tasks : OrderedMap String TaskRecord}
    (keyed : tasks.KeyedBy TaskRecord.taskId) (key : String) :
    ((tasksUnder index tasks key).map TaskRecord.taskId).Nodup := by
  have sublist (ids : List String) :
      ((ids.filterMap tasks.get).map TaskRecord.taskId).Sublist ids := by
    induction ids with
    | nil => exact List.Sublist.refl []
    | cons taskId rest inductionHypothesis =>
      cases stored : tasks.get taskId with
      | none =>
        rw [List.filterMap_cons_none stored]
        exact inductionHypothesis.cons taskId
      | some task =>
        rw [List.filterMap_cons_some stored, List.map_cons, keyed taskId task stored]
        exact inductionHypothesis.cons_cons taskId
  exact (lookup index key).nodup.sublist (sublist _)

theorem nodup_runScope {world : World} (keyed : Keyed world) (scope : RunScope) :
    ((getTasksByRunScope world scope).map TaskRecord.taskId).Nodup := by
  have all := nodup_tasksUnder world.taskIdsByRunId keyed.tasks (trim scope.runId)
  have filtered (keep : TaskRecord → Bool) {matched : List TaskRecord}
      (nodup : (matched.map TaskRecord.taskId).Nodup) :
      ((matched.filter keep).map TaskRecord.taskId).Nodup :=
    nodup.sublist (List.filter_sublist.map _)
  unfold getTasksByRunScope getTasksByRunId
  dsimp only
  split
  · split
    · exact filtered _ (filtered _ all)
    · exact filtered _ (filtered _ all)
  · split
    · exact filtered _ all
    · exact List.nodup_nil

theorem stored_of_mem_runScope {world : World} {scope : RunScope} {task : TaskRecord}
    (keyed : Keyed world) (member : task ∈ getTasksByRunScope world scope) :
    world.tasks.get task.taskId = some task := by
  have found : task ∈ getTasksByRunId world scope.runId := by
    unfold getTasksByRunScope at member
    dsimp only at member
    split at member
    · split at member <;> exact List.mem_of_mem_filter (List.mem_of_mem_filter member)
    · split at member
      · exact List.mem_of_mem_filter member
      · exact absurd member List.not_mem_nil
  exact stored_of_mem_tasksUnder keyed.tasks found

theorem stored_of_findExisting {world : World} {params : CreateTaskParams} {ownerKey : String}
    {scopeKind : TaskScopeKind} {existing : TaskRecord} (keyed : Keyed world)
    (found : findExistingTaskForCreate world params ownerKey scopeKind = some existing) :
    world.tasks.get existing.taskId = some existing := by
  unfold findExistingTaskForCreate at found
  split at found
  · simp at found
  · rename_i runId key
    dsimp only at found
    have member : existing ∈ getTasksByRunId world runId := by
      split at found
      · rename_i exact matched
        cases found
        exact List.mem_of_mem_filter (List.mem_of_find?_eq_some matched)
      · split at found
        · simp at found
        · have sorted := List.mem_of_mem_head? found
          rw [List.mem_insertionSort] at sorted
          exact List.mem_of_mem_filter sorted
    exact stored_of_mem_tasksUnder keyed.tasks member

/-! ### Creating records -/

section Creating

variable {env : Env} {params : CreateTaskParams} {world middle : World}

/-- The owner fields `createTaskRecord` resolves from its parameters. -/
def resolvedOwner (params : CreateTaskParams) : String × TaskScopeKind × String :=
  let requesterSessionKey := resolveTaskRequesterSessionKey params
  (requesterSessionKey, resolveTaskScopeKind params.scopeKind requesterSessionKey,
    resolveTaskOwnerKey requesterSessionKey params.ownerKey)

/-- `createTaskRecord` passes its checks and finds no record to merge into, so it inserts. -/
structure CreatesRecord (world : World) (taskId : String) (params : CreateTaskParams)
    (record : TaskRecord) : Prop where
  owned : ¬ (trim (resolvedOwner params).2.2 = "" ∧ (resolvedOwner params).2.1 ≠ .system)
  unmatched : findExistingTaskForCreate world params (resolvedOwner params).2.2
    (resolvedOwner params).2.1 = none
  allowed : parentFlowLinkError world.flows (resolvedOwner params).2.2 (resolvedOwner params).2.1
    params.parentFlowId = none
  built : ∃ now, record = newTaskRecord taskId params (resolvedOwner params).1
    (resolvedOwner params).2.2 (resolvedOwner params).2.1 now

theorem parentFlowLinkError_normalize (flows : Flows) (ownerKey : String)
    (scopeKind : TaskScopeKind) (given : Option String) :
    parentFlowLinkError flows ownerKey scopeKind (normalizeOptionalString given) =
      parentFlowLinkError flows ownerKey scopeKind given := by
  unfold parentFlowLinkError
  rw [normalizeOptionalString_idem]

/-- `assertParentFlowLinkAllowed` reads and returns when the link is allowed. -/
theorem assertParentFlowLinkAllowed_ok {ownerKey : String} {scopeKind : TaskScopeKind}
    {parentFlowId : Option String}
    (ran : assertParentFlowLinkAllowed ownerKey scopeKind parentFlowId world = (.ok (), middle)) :
    middle = world ∧ parentFlowLinkError world.flows ownerKey scopeKind parentFlowId = none := by
  unfold assertParentFlowLinkAllowed at ran
  rw [Sync.read_bind] at ran
  cases error : parentFlowLinkError world.flows ownerKey scopeKind parentFlowId with
  | some error => simp [error] at ran
  | none =>
    simp only [error, Sync.pure_run, Prod.mk.injEq, true_and] at ran
    exact ⟨ran.symm, rfl⟩

theorem writes_assertParentFlowLinkAllowed (ownerKey : String) (scopeKind : TaskScopeKind)
    (parentFlowId : Option String) (world : World) :
    Sync.Related (Writes env authority)
      (assertParentFlowLinkAllowed ownerKey scopeKind parentFlowId) world := by
  unfold assertParentFlowLinkAllowed
  refine Sync.related_read_bind ?_
  split
  · exact Sync.related_throw _ world
  · exact Sync.related_pure _ world

theorem fillBlank_eq_some {offered existing : Option String} {value : String}
    (filled : fillBlank offered existing = some value) :
    normalizeOptionalString offered = some value ∧ normalizeOptionalString existing = none := by
  unfold fillBlank at filled
  split at filled
  · rename_i blank
    cases filled
    exact ⟨by assumption, blank⟩
  · simp at filled

theorem upsertTaskDeliveryState_tables (env : Env) (state : DeliveryStateParams)
    (world : World) : (upsertTaskDeliveryState env state world).2.tasks = world.tasks ∧
      (upsertTaskDeliveryState env state world).2.flows = world.flows := by
  unfold upsertTaskDeliveryState
  rw [Sync.read_bind]
  dsimp only
  split <;> exact ⟨rfl, rfl⟩

theorem writes_mergeRequesterOrigin (existing : TaskRecord) (params : CreateTaskParams)
    (world : World) :
    Sync.Related (Writes env authority) (mergeRequesterOrigin env existing params) world := by
  unfold mergeRequesterOrigin
  refine Sync.related_read_bind ?_
  dsimp only
  split
  · exact writes_aside (aside_upsertTaskDeliveryState env _ world)
  · exact Sync.related_pure _ world

theorem mergeRequesterOrigin_tables (env : Env) (existing : TaskRecord)
    (params : CreateTaskParams) (world : World) :
    (mergeRequesterOrigin env existing params world).2.tasks = world.tasks ∧
      (mergeRequesterOrigin env existing params world).2.flows = world.flows := by
  unfold mergeRequesterOrigin
  rw [Sync.read_bind]
  split
  · exact upsertTaskDeliveryState_tables env _ world
  · exact ⟨rfl, rfl⟩

theorem writes_checkMergedParentFlow (existing : TaskRecord) (params : CreateTaskParams)
    (world : World) :
    Sync.Related (Writes env authority) (checkMergedParentFlow existing params) world := by
  unfold checkMergedParentFlow
  split
  · exact writes_assertParentFlowLinkAllowed _ _ _ world
  · exact Sync.related_pure _ world

theorem checkMergedParentFlow_ok {existing : TaskRecord}
    (ran : checkMergedParentFlow existing params world = (.ok (), middle)) :
    middle = world ∧ ∀ flowId, fillBlank params.parentFlowId existing.parentFlowId = some flowId →
      parentFlowLinkError world.flows existing.ownerKey existing.scopeKind (some flowId) = none := by
  unfold checkMergedParentFlow at ran
  split at ran
  · obtain ⟨same, allowed⟩ := assertParentFlowLinkAllowed_ok ran
    refine ⟨same, fun flowId filled => ?_⟩
    rw [← (fillBlank_eq_some filled).1, parentFlowLinkError_normalize]
    exact allowed
  · rename_i blank
    simp only [Sync.pure_run, Prod.mk.injEq, true_and] at ran
    refine ⟨ran.symm, fun flowId filled => ?_⟩
    simp [filled] at blank

theorem writes_mergeExistingTaskForCreate {existing : TaskRecord}
    {world : World} (stored : world.tasks.get existing.taskId = some existing) :
    Sync.Related (Writes env authority) (mergeExistingTaskForCreate env existing params)
      world := by
  unfold mergeExistingTaskForCreate
  refine (writes_mergeRequesterOrigin existing params world).bind fun _ merged ranMerge => ?_
  obtain ⟨sameTasks, sameFlows⟩ : merged.tasks = world.tasks ∧ merged.flows = world.flows := by
    have tables := mergeRequesterOrigin_tables env existing params world
    rw [ranMerge] at tables
    exact tables
  refine (writes_checkMergedParentFlow existing params merged).bind fun _ checked ranCheck => ?_
  obtain ⟨rfl, allowed⟩ := checkMergedParentFlow_ok ranCheck
  dsimp only
  split
  · exact Sync.related_pure _ checked
  · refine (writes_updateTask ⟨rfl, rfl, rfl, ?_, ?_⟩).bind fun _ final _ =>
      Sync.related_pure _ final
    · intro current status _ written
      simp [mergePatch] at written
    · intro current flowId found written
      have same : existing = current := by
        rw [sameTasks, stored] at found
        exact Option.some.inj found
      subst same
      exact ⟨(fillBlank_eq_some written).2, allowed flowId written⟩

theorem writes_deliverIfTerminal (record : TaskRecord) (world : World) :
    Sync.Related (Writes env authority) (deliverIfTerminal env record) world := by
  unfold deliverIfTerminal
  split
  · exact writes_detached (writes_maybeDeliverTaskTerminalUpdate _ world)
  · exact Sync.related_pure _ world

theorem assertTaskOwner_ok {ownerKey : String} {scopeKind : TaskScopeKind}
    (ran : assertTaskOwner ownerKey scopeKind world = (.ok (), middle)) :
    middle = world ∧ ¬ (trim ownerKey = "" ∧ scopeKind ≠ .system) := by
  unfold assertTaskOwner at ran
  split at ran
  · simp at ran
  · rename_i owned
    simp only [Sync.pure_run, Prod.mk.injEq, true_and] at ran
    exact ⟨ran.symm, owned⟩

/-- What the insertion of `createTaskRecord` needs: a fresh id and the authority to insert the
record it builds, into a world that differs from the one it started in by the clock only. -/
structure MayCreate (authority : Authority) (world : World) (taskId : String)
    (params : CreateTaskParams) : Prop where
  fresh : world.tasks.get taskId = none
  granted : ∀ record middle, CreatesRecord world taskId params record →
    middle.host.failures = world.host.failures →
    middle.taskDeliveryStates = world.taskDeliveryStates →
    authority.inserts middle record params.requesterOrigin

theorem writes_createTaskRecord {taskId : String} {world : World}
    (keyed : Keyed world) (may : MayCreate authority world taskId params) :
    Sync.Related (Writes env authority) (createTaskRecord env taskId params) world := by
  unfold createTaskRecord
  refine Sync.Related.bind ?_ fun _ owned ranOwner => ?_
  · unfold assertTaskOwner
    split
    · exact Sync.related_throw _ world
    · exact Sync.related_pure _ world
  obtain ⟨rfl, ownerGiven⟩ := assertTaskOwner_ok ranOwner
  refine (writes_assertParentFlowLinkAllowed _ _ _ owned).bind fun _ checked ranCheck => ?_
  obtain ⟨rfl, allowed⟩ := assertParentFlowLinkAllowed_ok ranCheck
  refine Sync.related_read_bind ?_
  split
  · rename_i existing found
    exact writes_mergeExistingTaskForCreate (stored_of_findExisting keyed found)
  · rename_i unmatched
    refine (writes_aside (aside_dateNow checked)).bind fun now read ranRead => ?_
    obtain rfl : read = (dateNow checked).2 := by rw [ranRead]
    have creates : CreatesRecord checked taskId params
        (newTaskRecord taskId params (resolvedOwner params).1 (resolvedOwner params).2.2
          (resolvedOwner params).2.1 now) :=
      ⟨ownerGiven, unmatched, allowed, now, rfl⟩
    have insertion : Sync.Related (Writes env authority)
        (insertTaskRecord env (newTaskRecord taskId params (resolvedOwner params).1
          (resolvedOwner params).2.2 (resolvedOwner params).2.1 now) params.requesterOrigin)
        (dateNow checked).2 := by
      refine .single (.insert _ _ _ ⟨may.fresh, ?_, may.granted _ _ creates rfl rfl⟩)
      exact (parentFlowLinkError_normalize _ _ _ _).trans allowed
    refine insertion.bind fun _ inserted _ => ?_
    exact (writes_deliverIfTerminal _ inserted).bind fun _ final _ => Sync.related_pure _ final

end Creating

/-! ### Loops over the tasks of a run -/

section Loops

variable {env : Env} {world : World} {middle : World}

/-- The authority of one turn of a loop that updates tasks. -/
def Authority.turn (taskId : String) (forced : TaskStatus → TaskStatus → Prop) : Authority :=
  { Authority.nothing with
    targets := fun target => target = taskId
    forced := fun target former status => target = taskId ∧ forced former status }

theorem Authority.turn_within {taskId : String}
    {forced : TaskStatus → TaskStatus → Prop} (target : authority.targets taskId)
    (grants : ∀ former status, forced former status → authority.forced taskId former status) :
    (Authority.turn taskId forced).Within authority where
  targets _ same := same ▸ target
  forced _ former status granted := granted.1 ▸ grants former status granted.2
  inserts _ _ _ := False.elim
  erases _ _ := False.elim
  steps _ := False.elim
  creates _ := False.elim
  deletes _ := False.elim

theorem Authority.turn_updatesOnly (taskId : String) (forced : TaskStatus → TaskStatus → Prop) :
    (Authority.turn taskId forced).UpdatesOnly :=
  ⟨fun _ _ _ => False.elim, fun _ _ => False.elim⟩

/-- What a loop knows of the tasks still to come: they are stored with the status they had when
the loop read them, and there is no task among them twice. -/
structure Awaited (remaining : List TaskRecord) (world : World) : Prop where
  keyed : Keyed world
  nodup : (remaining.map TaskRecord.taskId).Nodup
  statuses : ∀ task ∈ remaining, statusOf world task.taskId = some task.status

theorem awaited_runScope (keyed : Keyed world) (scope : RunScope) :
    Awaited (getTasksByRunScope world scope) world where
  keyed := keyed
  nodup := nodup_runScope keyed scope
  statuses task member := by
    rw [statusOf, stored_of_mem_runScope keyed member, Option.map_some]

/-- A loop over tasks stays within an authority when each turn stays within the part of it that
concerns its own task. -/
theorem writes_forEach_tasks {body : TaskRecord → Section Unit}
    {matched : List TaskRecord} (awaited : Awaited matched world)
    (forced : TaskRecord → TaskStatus → TaskStatus → Prop)
    (within : ∀ task ∈ matched,
      (Authority.turn task.taskId (forced task)).Within authority)
    (turn : ∀ task ∈ matched, ∀ current, statusOf current task.taskId = some task.status →
      Sync.Related (Writes env (Authority.turn task.taskId (forced task))) (body task) current) :
    Sync.Related (Writes env authority) (Sync.forEach body matched) world := by
  refine Sync.related_forEach (fun remaining current => Awaited remaining current ∧
    ∀ task ∈ remaining, task ∈ matched) ?_ ?_ ⟨awaited, fun _ member => member⟩
  · rintro task rest current ⟨known, among⟩
    have member := among task (List.mem_cons_self ..)
    exact (turn task member current (known.statuses task (List.mem_cons_self ..))).weaken
      fun _ writes => writes.within (within task member)
  · rintro task rest current ⟨known, among⟩
    have writes := turn task (among task (List.mem_cons_self ..)) current
      (known.statuses task (List.mem_cons_self ..))
    obtain ⟨unlisted, nodup⟩ := List.nodup_cons.1 known.nodup
    refine ⟨⟨writes.keyed known.keyed, nodup, fun other member => ?_⟩,
      fun other member => among other (List.mem_cons_of_mem task member)⟩
    have different : ¬ (Authority.turn task.taskId (forced task)).targets other.taskId :=
      fun same => unlisted (same ▸ List.mem_map_of_mem member)
    rw [writes.statusOf_eq (Authority.turn_updatesOnly _ _) different]
    exact known.statuses other (List.mem_cons_of_mem task member)

/-- A status write that its authority forces, or that meets a task that is not terminal. -/
theorem legit_statusWrite {taskId : String}
    {former : TaskStatus} {patch : TaskPatch} (stored : statusOf world taskId = some former)
    (keys : patch.runId = none ∧ patch.ownerKey = none ∧ patch.childSessionKey = none)
    (unlinked : patch.parentFlowId = none)
    (permitted : ∀ status, patch.status = some status → authority.targets taskId ∧
      (isTerminalTaskStatus former = false ∨ authority.forced taskId former status)) :
    LegitUpdate authority world taskId patch where
  keepsRunId := keys.1
  keepsOwnerKey := keys.2.1
  keepsChildSessionKey := keys.2.2
  status current status found written := by
    rw [statusOf, found, Option.map_some, Option.some.injEq] at stored
    rw [stored]
    exact permitted status written
  link current flowId _ linked := by simp [unlinked] at linked

/-- The listener's turn on one task needs no force: it skips the terminal ones. -/
theorem writes_handleAgentEventFor {event : AgentEvent} {now : Int} {current : TaskRecord}
    (stored : statusOf world current.taskId = some current.status) :
    Sync.Related (Writes env (Authority.turn current.taskId fun _ _ => False))
      (handleAgentEventFor env event now current) world := by
  unfold handleAgentEventFor
  split
  · exact Sync.related_pure _ world
  · rename_i active
    have legit : LegitUpdate (Authority.turn current.taskId fun _ _ => False) world current.taskId
        (agentEventPatch current event.stream now) := by
      refine legit_statusWrite stored ?_ ?_ fun _ _ => ⟨rfl, Or.inl (by simpa using active)⟩
      · unfold agentEventPatch
        split
        · dsimp only
          split <;> exact ⟨rfl, rfl, rfl⟩
        · exact ⟨rfl, rfl, rfl⟩
        · exact ⟨rfl, rfl, rfl⟩
      · unfold agentEventPatch
        split
        · dsimp only
          split <;> rfl
        · rfl
        · rfl
    refine (writes_updateTask legit).bind fun updated written _ => ?_
    split
    · exact Sync.related_pure _ written
    · exact writes_notifyTask _ _ written

/-- The clock is no part of what a loop knows. -/
theorem Awaited.read {remaining : List TaskRecord} {given : Option Int}
    {time : Int} (awaited : Awaited remaining world)
    (ran : orNow given world = (.ok time, middle)) : Awaited remaining middle := by
  obtain ⟨_, clock, read⟩ := orNow_run given world
  rw [read, Prod.mk.injEq] at ran
  obtain ⟨-, rfl⟩ := ran
  exact ⟨⟨awaited.keyed.tasks, awaited.keyed.flows⟩, awaited.nodup, awaited.statuses⟩

theorem orNow_statusOf {given : Option Int} {time : Int}
    (ran : orNow given world = (.ok time, middle)) (taskId : String) :
    statusOf middle taskId = statusOf world taskId := by
  obtain ⟨_, clock, read⟩ := orNow_run given world
  rw [read, Prod.mk.injEq] at ran
  obtain ⟨-, rfl⟩ := ran
  rfl

theorem dateNow_statusOf {time : Int} (ran : dateNow world = (.ok time, middle)) (taskId : String) :
    statusOf middle taskId = statusOf world taskId :=
  orNow_statusOf (show orNow none world = (.ok time, middle) from ran) taskId

theorem writes_handleAgentEvent {event : AgentEvent} (keyed : Keyed world)
    (targets : ∀ task ∈ getTasksByRunScope world
      { runId := event.runId, sessionKey := event.sessionKey }, authority.targets task.taskId) :
    Sync.Related (Writes env authority) (handleAgentEvent env event) world := by
  unfold handleAgentEvent
  refine Sync.related_read_bind ?_
  dsimp only
  split
  · exact Sync.related_pure _ world
  · refine (writes_aside (aside_orNow _ world)).bind fun now read ranRead => ?_
    refine writes_forEach_tasks ((awaited_runScope keyed _).read ranRead) (fun _ _ _ => False)
      (fun task member => Authority.turn_within (targets task member) fun _ _ => False.elim)
      fun task _ current stored => writes_handleAgentEventFor stored

/-- What the loop of `updateTaskStateByRunId` does to one task. -/
theorem writes_updateTaskState {params : TaskStateParams} {current : TaskRecord}
    (stored : statusOf world current.taskId = some current.status) :
    Sync.Related (Writes env (Authority.turn current.taskId fun former status =>
        former = current.status ∧ params.status = some status))
      (updateTaskState env params current) world := by
  unfold updateTaskState
  refine (writes_aside (aside_orNow _ world)).bind fun eventAt read ranRead => ?_
  have legit : LegitUpdate (Authority.turn current.taskId fun former status =>
      former = current.status ∧ params.status = some status) read current.taskId
      (taskStatePatch current params) :=
    legit_statusWrite ((orNow_statusOf ranRead _).trans stored) ⟨rfl, rfl, rfl⟩ rfl
      fun _ written => ⟨rfl, Or.inr ⟨rfl, rfl, written⟩⟩
  refine (writes_updateTask legit).bind fun updated written _ => ?_
  split
  · exact Sync.related_pure _ written
  · exact writes_notifyTask _ _ written

/-- `updateTaskStateByRunId` forces its status on every task of the run. -/
theorem writes_updateTaskStateByRunId {scope : RunScope}
    {params : TaskStateParams} (keyed : Keyed world)
    (targets : ∀ task ∈ getTasksByRunScope world scope, authority.targets task.taskId)
    (forces : ∀ task ∈ getTasksByRunScope world scope, ∀ status, params.status = some status →
      authority.forced task.taskId task.status status) :
    Sync.Related (Writes env authority) (updateTaskStateByRunId env scope params) world := by
  unfold updateTaskStateByRunId
  refine Sync.related_read_bind ?_
  refine writes_forEach_tasks (awaited_runScope keyed scope) _
    (fun task member => Authority.turn_within (targets task member) ?_)
    fun task _ current stored => writes_updateTaskState stored
  rintro former status ⟨rfl, written⟩
  exact forces task member status written

theorem writes_setTaskRunDeliveryStatusByRunId {scope : RunScope}
    {deliveryStatus : TaskDeliveryStatus} (keyed : Keyed world)
    (targets : ∀ task ∈ getTasksByRunScope world scope, authority.targets task.taskId) :
    Sync.Related (Writes env authority) (setTaskRunDeliveryStatusByRunId scope deliveryStatus)
      world := by
  unfold setTaskRunDeliveryStatusByRunId
  refine Sync.related_read_bind ?_
  refine writes_forEach_tasks (awaited_runScope keyed scope) (fun _ _ _ => False)
    (fun task member => Authority.turn_within (targets task member) fun _ _ => False.elim)
    fun task _ current _ => ?_
  exact (writes_updateTask_quiet {} current).bind fun _ final _ => Sync.related_pure _ final

end Loops

end OpenClaw.Tasks
