/-
This file is about managed flows whose cancellation has been requested: no task
can be linked to them any more, they are cancelled with their last active child,
and a cancelled flow stays cancelled.

The first holds of every run. The second needs the store: `updateTask` settles
the flow after it has called the store, so when that call throws the child has
ended and the flow has not. The third needs the callers: the setters compare the
revision and nothing else, so one that names the revision of a cancelled flow
moves it on.
-/

import OpenClaw.Tasks.Indexes
import OpenClaw.Tasks.Lifecycle

namespace OpenClaw.Tasks

open Text KeyedIndex

/-! ### The fate of one flow -/

/-- If the flow is there, it is managed, its cancellation has been requested, and its status is
among those kept. -/
def Fate (Kept : TaskFlowStatus → Prop) (flows : Flows) (flowId : String) : Prop :=
  ∀ flow, flows.get flowId = some flow →
    flow.syncMode = .managed ∧ flow.cancelRequestedAt.isSome = true ∧ Kept flow.status

variable {authority : Authority} {flowId : String} {Kept : TaskFlowStatus → Prop}

/-- The request stays, and the status changes to `cancelled` or by a setter. -/
theorem FlowWrites.fate {flows next : Flows} (writes : FlowWrites authority flows next)
    (keyed : flows.KeyedBy TaskFlowRecord.flowId) (uncreated : ¬ authority.creates flowId)
    (moved : authority.steps flowId → ∀ status, Kept status) (closed : Kept .cancelled)
    (initially : Fate Kept flows flowId) : Fate Kept next flowId := by
  induction writes with
  | refl => exact initially
  | tail front write inductionHypothesis =>
    intro flow stored
    cases write with
    | create record granted fresh controlled =>
      have different : flowId ≠ record.flowId := by
        rintro rfl
        exact uncreated granted
      rw [OrderedMap.get_set_of_ne _ _ different] at stored
      exact inductionHypothesis flow stored
    | patch patchedId current patch updatedAt found keepsRequest keepsController cause =>
      rw [OrderedMap.get_set] at stored
      split at stored
      · rename_i same
        have known := FlowWrites.keyed front keyed patchedId current found
        obtain ⟨managed, requested, kept⟩ := inductionHypothesis current (by rw [same, known, found])
        cases stored
        refine ⟨managed, ?_, ?_⟩
        · show (patch.cancelRequestedAt.getD current.cancelRequestedAt).isSome = true
          cases given : patch.cancelRequestedAt with
          | none => exact requested
          | some time =>
            cases time with
            | none => exact absurd given keepsRequest
            | some time => rfl
        · show Kept (patch.status.getD current.status)
          cases cause with
          | mirrored mode => simp [managed] at mode
          | untouched silent =>
            rw [silent]
            exact kept
          | cancelled settles =>
            rw [settles]
            exact closed
          | stepped granted => exact moved (same ▸ granted) _
      · exact inductionHypothesis flow stored
    | delete deletedId granted =>
      rw [OrderedMap.get_delete] at stored
      split at stored
      · simp at stored
      · exact inductionHypothesis flow stored

/-! ### Children -/

/-- The task is linked to the flow. -/
def ChildOf (flowId : String) (record : TaskRecord) : Prop :=
  normalizeOptionalString record.parentFlowId = some flowId

/-- The task is recorded and linked to the flow. -/
def IsChild (world : World) (flowId taskId : String) : Prop :=
  ∃ record, world.tasks.get taskId = some record ∧ ChildOf flowId record

/-- The task is linked to the flow and queued or running. -/
def ActiveChild (world : World) (flowId taskId : String) : Prop :=
  ∃ record, world.tasks.get taskId = some record ∧ ChildOf flowId record ∧
    isActiveTaskStatus record.status = true

/-- A link is allowed only to a flow that is there and whose cancellation has not been
requested. -/
theorem unrequested_of_allowed {flows : Flows} {ownerKey : String} {scopeKind : TaskScopeKind}
    {given : Option String} (allowed : parentFlowLinkError flows ownerKey scopeKind given = none)
    (names : normalizeOptionalString given = some flowId) :
    ∃ flow, flows.get flowId = some flow ∧ flow.cancelRequestedAt = none := by
  unfold parentFlowLinkError at allowed
  rw [names] at allowed
  dsimp only at allowed
  split at allowed
  · simp at allowed
  · split at allowed
    · simp at allowed
    · rename_i flow stored
      split at allowed
      · simp at allowed
      · split at allowed
        · simp at allowed
        · rename_i unrequested
          exact ⟨flow, stored, Option.not_isSome_iff_eq_none.1 unrequested⟩

/-- No record may be linked to a flow of this fate. -/
theorem not_linkable {flows : Flows} {flowId ownerKey : String} {scopeKind : TaskScopeKind}
    {given : Option String} (fate : Fate Kept flows flowId)
    (allowed : parentFlowLinkError flows ownerKey scopeKind given = none) :
    normalizeOptionalString given ≠ some flowId := by
  intro names
  obtain ⟨flow, stored, unrequested⟩ := unrequested_of_allowed allowed names
  have requested := (fate flow stored).2.1
  rw [unrequested] at requested
  simp at requested

variable {current : TaskRecord} {world : World}

/-- An update links a task only to a flow that accepts it. -/
theorem updatedRecord_childOf {taskId flowId : String}
    {patch : TaskPatch} {cleanupAfter : Option Int}
    (legit : LegitUpdate authority world taskId patch)
    (stored : world.tasks.get taskId = some current) (fate : Fate Kept world.flows flowId)
    (linked : ChildOf flowId (updatedRecord current patch cleanupAfter)) :
    ChildOf flowId current := by
  cases written : patch.parentFlowId with
  | none =>
    simp only [ChildOf, updatedRecord, TaskRecord.merge, written, Option.none_or] at linked
    exact linked
  | some given =>
    simp only [ChildOf, updatedRecord, TaskRecord.merge, written, Option.some_or] at linked
    exact absurd linked (not_linkable fate (legit.link current given stored written).2)

variable {next : World} {env : Env} {taskId : String}

theorem Write.isChild (write : Write env authority world next) (fate : Fate Kept world.flows flowId)
    (linked : IsChild next flowId taskId) : IsChild world flowId taskId := by
  obtain ⟨record, stored, child⟩ := linked
  cases write with
  | aside tables flows => exact ⟨record, tables.tasks ▸ stored, child⟩
  | update updatedId patch legit =>
    cases found : world.tasks.get updatedId with
    | none =>
      rw [updateTask_of_absent patch found] at stored
      exact ⟨record, stored, child⟩
    | some current =>
      obtain ⟨cleanupAfter, tasks⟩ := updateTask_tasks patch found
      rw [tasks, OrderedMap.get_set] at stored
      split at stored
      · rename_i same
        cases stored
        exact ⟨current, same ▸ found, updatedRecord_childOf legit found fate child⟩
      · exact ⟨record, stored, child⟩
  | insert inserted origin legit =>
    rw [insertTaskRecord_tasks, OrderedMap.get_set] at stored
    split at stored
    · cases stored
      exact absurd child (not_linkable fate legit.allowed)
    · exact ⟨record, stored, child⟩
  | erase erasedId current found granted =>
    have shown : (world.tasks.delete erasedId).get taskId = some record := stored
    rw [OrderedMap.get_delete] at shown
    split at shown
    · simp at shown
    · exact ⟨record, shown, child⟩

/-- No task is linked to a flow whose cancellation has been requested. -/
theorem Writes.isChild
    (writes : Writes env authority world next) (keyed : Keyed world)
    (uncreated : ¬ authority.creates flowId) (fate : Fate (fun _ => True) world.flows flowId)
    (linked : IsChild next flowId taskId) : IsChild world flowId taskId := by
  induction writes with
  | refl => exact linked
  | tail front write inductionHypothesis =>
    have reached := (Writes.flows front).fate keyed.flows uncreated (fun _ _ => trivial) trivial fate
    exact inductionHypothesis (write.isChild reached linked)

/-! ### The parent-flow index lists real children -/

/-- What the parent-flow index lists under a key is linked to it, though it may miss tasks. -/
def ParentsSound (world : World) : Prop :=
  Sound parentFlowKeys world.tasks world.taskIdsByParentFlowId

theorem ParentsSound.of_sameTables (sound : ParentsSound world)
    (same : SameTables world next) : ParentsSound next := by
  unfold ParentsSound
  rw [same.tasks, same.byParentFlowId]
  exact sound

theorem ParentsSound.writeUpdatedTask {taskId : String}
    (sound : ParentsSound world) (stored : world.tasks.get taskId = some current)
    (next : TaskRecord) (patch : TaskPatch) :
    ParentsSound (writeUpdatedTask taskId current next patch world) := by
  unfold ParentsSound
  rw [writeUpdatedTask_tasks]
  unfold OpenClaw.Tasks.writeUpdatedTask reindexParentFlow exchangeParentFlowIndex
  have untouched : (reindexSessions taskId current next
      (reindexRunId current patch (putTask taskId next world))).taskIdsByParentFlowId =
        world.taskIdsByParentFlowId :=
    (reindexSessions_others ..).2.trans (reindexRunId_others ..).2.1
  split
  · dsimp only
    rw [untouched]
    exact Sound.exchange sound stored next
  · rename_i unchanged
    rw [untouched]
    exact Sound.overwrite sound stored (parentFlowKeys_eq (not_not.1 unchanged))

theorem Write.parentsSound
    (write : Write env authority world next) (sound : ParentsSound world) : ParentsSound next := by
  cases write with
  | aside tables flows => exact sound.of_sameTables tables
  | update taskId patch legit =>
    cases stored : world.tasks.get taskId with
    | none =>
      rw [updateTask_of_absent patch stored]
      exact sound
    | some current =>
      obtain ⟨cleanupAfter, clock, aside⟩ := updateTask_of_stored patch stored
      have ticked : ParentsSound { world with host := { world.host with clock := clock } } := sound
      exact (ticked.writeUpdatedTask stored _ patch).of_sameTables aside.tables
  | insert record origin legit =>
    rcases insertTaskRecord_cases env record origin world with aside | ⟨-, aside⟩
    · refine ParentsSound.of_sameTables ?_ aside.tables
      unfold ParentsSound addIndexes putTask
      dsimp only
      exact Sound.insert sound legit.fresh record
    · refine ParentsSound.of_sameTables ?_ aside.tables
      unfold ParentsSound putTask
      dsimp only
      exact Sound.extend sound legit.fresh record
  | erase taskId current stored granted =>
    unfold ParentsSound eraseTask rebuildRunIdIndex
    dsimp only
    exact Sound.erase sound stored

theorem Writes.parentsSound
    (writes : Writes env authority world next) (sound : ParentsSound world) :
    ParentsSound next := by
  induction writes with
  | refl => exact sound
  | tail _ write inductionHypothesis => exact write.parentsSound inductionHypothesis

/-- A flow none of whose children is active has no active child in the index. -/
theorem hasActiveChild_eq_false (sound : ParentsSound world)
    (normal : normalizeOptionalString (some flowId) = some flowId)
    (quiet : ∀ taskId, ¬ ActiveChild world flowId taskId) : hasActiveChild world flowId = false := by
  unfold hasActiveChild listTasksForFlowId
  rw [normal, List.any_eq_false]
  intro task member active
  unfold listTasksFromIndex at member
  dsimp only at member
  rw [List.mem_insertionSort, List.mem_reverse] at member
  obtain ⟨taskId, listed, stored⟩ := List.mem_filterMap.1 member
  obtain ⟨record, found, carries⟩ := sound flowId taskId listed
  obtain rfl : task = record := Option.some.inj (stored.symm.trans found)
  exact quiet taskId ⟨task, found, Option.mem_toList.1 carries, active⟩

/-! ### Settling -/

/-- The record is in the map, whatever the store then does. -/
theorem writeFlowRecord_flows (next : TaskFlowRecord) (world : World) :
    (writeFlowRecord next world).2.flows = world.flows.set next.flowId next := by
  unfold writeFlowRecord
  rw [Sync.modify_bind]
  cases called : hostCall { world with flows := world.flows.set next.flowId next } with
  | mk outcome final =>
    have kept : final.flows = world.flows.set next.flowId next := by
      rw [hostCall, Prod.mk.injEq] at called
      exact called.2 ▸ rfl
    cases outcome with
    | error error =>
      rw [Sync.bind_run_error called]
      exact kept
    | ok _ =>
      rw [Sync.bind_run_ok called]
      exact kept

variable {flow : TaskFlowRecord} {input : Input}

/-- A patch that names the revision of a stored flow is written into the map, whatever the store
then does. -/
theorem updateFlowRecord_applied (patch : FlowRecordPatch)
    (stored : world.flows.get flowId = some flow) (keepsController : patch.controllerId = none)
    (controlled : flow.syncMode = .managed → (normalizeOptionalString flow.controllerId).isSome) :
    ∃ updatedAt, (updateFlowRecordByIdExpectedRevision flowId flow.revision patch world).2.flows =
        world.flows.set flow.flowId (patchedFlow flow patch updatedAt) ∧
      ∀ result, (updateFlowRecordByIdExpectedRevision flowId flow.revision patch world).1 =
        .ok result → ∃ written, result = .applied written := by
  unfold updateFlowRecordByIdExpectedRevision getTaskFlowById
  rw [Sync.reads_bind]
  simp only [stored, ne_eq, not_true_eq_false, if_false]
  obtain ⟨updatedAt, clock, read⟩ := orNow_run patch.updatedAt world
  have applied : applyFlowPatch flow patch world = (.ok (patchedFlow flow patch updatedAt),
      { world with host := { world.host with clock := clock } }) := by
    unfold applyFlowPatch
    dsimp only
    have keeps : (patchedFlow flow patch 0).controllerId = flow.controllerId := by
      simp only [patchedFlow, keepsController]
    rw [keeps, if_neg fun both => by
      have given := controlled both.1
      rw [Option.isNone_iff_eq_none] at both
      rw [both.2] at given
      simp at given]
    exact Sync.bind_run_ok read
  rw [Sync.bind_run_ok applied]
  refine ⟨updatedAt, ?_⟩
  have flows := writeFlowRecord_flows (patchedFlow flow patch updatedAt)
    { world with host := { world.host with clock := clock } }
  cases wrote : writeFlowRecord (patchedFlow flow patch updatedAt)
      { world with host := { world.host with clock := clock } } with
  | mk outcome final =>
    rw [wrote] at flows
    cases outcome with
    | error error =>
      rw [Sync.bind_run_error wrote]
      exact ⟨flows, fun result absurd => by simp at absurd⟩
    | ok written =>
      rw [Sync.bind_run_ok wrote]
      exact ⟨flows, fun result same => ⟨written, (Except.ok.inj same).symm⟩⟩

/-- The flow is cancelled. -/
def FlowCancelled (flowId : String) (world : World) : Prop :=
  ∃ flow, world.flows.get flowId = some flow ∧ flow.syncMode = .managed ∧
    flow.cancelRequestedAt.isSome = true ∧ flow.status = .cancelled

/-- The first attempt settles the flow: its revision has just been read. -/
theorem leaves_settleCancelledFlow
    (endedAt : Int) (attempts : Nat) (keyed : Keyed world) (controlled : Controlled world.flows)
    (stored : world.flows.get flowId = some flow) (managed : flow.syncMode = .managed)
    (requested : flow.cancelRequestedAt.isSome = true) :
    Sync.Leaves (FlowCancelled flowId) (settleCancelledFlow flowId endedAt (attempts + 1) flow)
      world := by
  obtain ⟨updatedAt, flows, results⟩ := updateFlowRecord_applied
    (cancelledFlowPatch endedAt) stored rfl (controlled flowId flow stored)
  have cancelled : FlowCancelled flowId (updateFlowRecordByIdExpectedRevision flowId flow.revision
      (cancelledFlowPatch endedAt) world).2 := by
    refine ⟨patchedFlow flow (cancelledFlowPatch endedAt) updatedAt, ?_, managed, requested, rfl⟩
    rw [flows, keyed.flows flowId flow stored, OrderedMap.get_set_self]
  unfold settleCancelledFlow
  refine Sync.Leaves.bind (fun error middle ran => ?_) fun result middle ran => ?_
  · rw [ran] at cancelled
    exact cancelled
  · rw [ran] at cancelled results
    obtain ⟨written, rfl⟩ := results result rfl
    exact cancelled

/-- A task of a flow that awaits its cancellation settles the flow when no child is active. -/
theorem leaves_syncManagedFlowCancellation
    {task : TaskRecord} (keyed : Keyed world) (controlled : Controlled world.flows)
    (child : ChildOf flowId task) (stored : world.flows.get flowId = some flow)
    (awaits : awaitsCancellation flow = true) (quiet : hasActiveChild world flowId = false) :
    Sync.Leaves (FlowCancelled flowId) (syncManagedFlowCancellationFromTask task) world := by
  unfold awaitsCancellation at awaits
  simp only [Bool.and_eq_true, decide_eq_true_eq] at awaits
  unfold syncManagedFlowCancellationFromTask
  rw [child]
  dsimp only
  unfold Sync.Leaves
  rw [Sync.read_bind]
  simp only [stored, quiet, awaitsCancellation, awaits, decide_true, Bool.and_true,
    Bool.not_true, Bool.or_false]
  obtain ⟨endedAt, clock, read⟩ := orNow_run (task.endedAt.or task.lastEventAt) world
  rw [if_neg (by simp), Sync.bind_run_ok read]
  exact leaves_settleCancelledFlow endedAt 1 ⟨keyed.tasks, keyed.flows⟩ controlled stored
    awaits.1.1 awaits.1.2

theorem syncFlowFromTask_managed {task : TaskRecord}
    (child : ChildOf flowId task) (stored : world.flows.get flowId = some flow)
    (managed : flow.syncMode = .managed) : syncFlowFromTask task world = (.ok (), world) := by
  unfold syncFlowFromTask getTaskFlowById
  rw [child]
  dsimp only
  rw [Sync.reads_bind]
  simp [stored, managed]

/-- What `updateTask` needs to settle a flow with its last active child. -/
structure AwaitsLastChild (world : World) (flowId : String) (flow : TaskFlowRecord) : Prop where
  keyed : Keyed world
  controlled : Controlled world.flows
  sound : ParentsSound world
  stored : world.flows.get flowId = some flow
  awaits : awaitsCancellation flow = true

/-- Once the store has accepted the last active child, the flow is cancelled. -/
theorem persistUpdatedTask_settles {written : World}
    {next : TaskRecord} (waiting : AwaitsLastChild written flowId flow)
    (child : ChildOf flowId next) (accepted : written.host.failures.head? ≠ some true)
    (quiet : ∀ other, ¬ ActiveChild written flowId other) :
    FlowCancelled flowId (persistUpdatedTask next written).2 := by
  obtain ⟨keyed, controlled, sound, stored, awaits⟩ := waiting
  have normal : normalizeOptionalString (some flowId) = some flowId := by
    rw [← child, normalizeOptionalString_idem]
  have managed : flow.syncMode = .managed := by
    unfold awaitsCancellation at awaits
    simp only [Bool.and_eq_true, decide_eq_true_eq] at awaits
    exact awaits.1.1
  obtain ⟨called, called_eq⟩ : ∃ called, called = { written with
      host := { written.host with failures := written.host.failures.tail } } := ⟨_, rfl⟩
  have calls : hostCall written = (.ok (), called) := by rw [hostCall, if_neg accepted, called_eq]
  have keyedCalled : Keyed called := by
    rw [called_eq]
    exact ⟨keyed.tasks, keyed.flows⟩
  have controlledCalled : Controlled called.flows := by
    rw [called_eq]
    exact controlled
  have storedCalled : called.flows.get flowId = some flow := by
    rw [called_eq]
    exact stored
  have none : hasActiveChild called flowId = false := by
    rw [called_eq]
    exact hasActiveChild_eq_false sound normal quiet
  have settles := leaves_syncManagedFlowCancellation keyedCalled controlledCalled child
    storedCalled awaits none
  have synced : Sync.attempt (syncFlowFromTask next) (fun _ => pure ()) called =
      (.ok (), called) := by
    rw [Sync.attempt, syncFlowFromTask_managed child storedCalled managed]
  unfold persistUpdatedTask
  rw [Sync.bind_run_ok calls, Sync.bind_run_ok synced]
  have attempted : Sync.Leaves (FlowCancelled flowId)
      (Sync.attempt (syncManagedFlowCancellationFromTask next) fun _ => pure ()) called :=
    settles.keep_attempt fun _ failed kept => kept
  exact attempted.keep fun _ final kept => kept

/-- An update that leaves a flow without active children cancels it, unless the store throws. -/
theorem updateTask_settles {taskId flowId : String} {patch : TaskPatch}
    (waiting : AwaitsLastChild world flowId flow)
    (stored : world.tasks.get taskId = some current) (child : ChildOf flowId current)
    (unlinked : patch.parentFlowId = none) (accepted : world.host.failures.head? ≠ some true)
    (quiet : ∀ other, ¬ ActiveChild (updateTask taskId patch world).2 flowId other) :
    FlowCancelled flowId (updateTask taskId patch world).2 := by
  obtain ⟨cleanupAfter, clock, ran⟩ := updateTask_run patch stored
  obtain ⟨ticked, ticked_eq⟩ : ∃ ticked, ticked =
      { world with host := { world.host with clock := clock } } := ⟨_, rfl⟩
  have stored' : ticked.tasks.get taskId = some current := ticked_eq ▸ stored
  rw [← ticked_eq] at ran
  have tasks : (updateTask taskId patch world).2.tasks = (writeUpdatedTask taskId current
      (updatedRecord current patch cleanupAfter) patch ticked).tasks := by
    have aside : Sync.Related (Aside Authority.nothing) (persistUpdatedTask _) _ :=
      aside_persistUpdatedTask (updatedRecord current patch cleanupAfter)
        (writeUpdatedTask taskId current (updatedRecord current patch cleanupAfter) patch ticked)
    rw [ran]
    exact aside.tables.tasks
  have linked : ChildOf flowId (updatedRecord current patch cleanupAfter) := by
    simp only [ChildOf, updatedRecord, TaskRecord.merge, unlinked, Option.none_or]
    exact child
  rw [ran]
  refine persistUpdatedTask_settles ⟨⟨?_, ?_⟩, ?_, ?_, ?_, waiting.awaits⟩ linked ?_ ?_
  · rw [writeUpdatedTask_tasks, ticked_eq]
    exact waiting.keyed.tasks.set (waiting.keyed.tasks taskId current stored)
  · rw [writeUpdatedTask_flows, ticked_eq]
    exact waiting.keyed.flows
  · rw [writeUpdatedTask_flows, ticked_eq]
    exact waiting.controlled
  · have sound : ParentsSound ticked := by
      rw [ticked_eq]
      exact waiting.sound
    exact sound.writeUpdatedTask stored' _ patch
  · rw [writeUpdatedTask_flows, ticked_eq]
    exact waiting.stored
  · rw [writeUpdatedTask_host, ticked_eq]
    exact accepted
  · rintro other ⟨record, found, active⟩
    exact quiet other ⟨record, tasks ▸ found, active⟩

/-! ### Active children during a step -/

/-- A child of the flow is not linked again. -/
theorem unlinked_of_child {taskId flowId : String}
    {patch : TaskPatch} (legit : LegitUpdate authority world taskId patch)
    (stored : world.tasks.get taskId = some current) (child : ChildOf flowId current) :
    patch.parentFlowId = none := by
  cases written : patch.parentFlowId with
  | none => rfl
  | some given =>
    have unlinked := (legit.link current given stored written).1
    rw [child] at unlinked
    simp at unlinked

/-- An active child stays one, unless the write is an update of that very task. -/
theorem Write.activeChild_or_update
    (write : Write env authority world next)
    (erasesEnded : ∀ record, authority.erases taskId record →
      isTerminalTaskStatus record.status = true) (active : ActiveChild world flowId taskId) :
    ActiveChild next flowId taskId ∨ ∃ patch, LegitUpdate authority world taskId patch ∧
      next = (updateTask taskId patch world).2 := by
  obtain ⟨record, stored, child, running⟩ := active
  cases write with
  | aside tables flows => exact Or.inl ⟨record, by rw [tables.tasks, stored], child, running⟩
  | update updatedId patch legit =>
    by_cases same : taskId = updatedId
    · subst same
      exact Or.inr ⟨patch, legit, rfl⟩
    · refine Or.inl ⟨record, ?_, child, running⟩
      cases found : world.tasks.get updatedId with
      | none => rw [updateTask_of_absent patch found, stored]
      | some current =>
        obtain ⟨cleanupAfter, tasks⟩ := updateTask_tasks patch found
        rw [tasks, OrderedMap.get_set_of_ne _ _ same, stored]
  | insert inserted origin legit =>
    have different : taskId ≠ inserted.taskId := by
      rintro rfl
      rw [legit.fresh] at stored
      simp at stored
    refine Or.inl ⟨record, ?_, child, running⟩
    rw [insertTaskRecord_tasks, OrderedMap.get_set_of_ne _ _ different, stored]
  | erase erasedId current found granted =>
    have different : taskId ≠ erasedId := by
      rintro rfl
      obtain rfl : current = record := Option.some.inj (found.symm.trans stored)
      have ended := erasesEnded current granted
      rw [isTerminalTaskStatus_eq_not_active, running] at ended
      simp at ended
    refine Or.inl ⟨record, ?_, child, running⟩
    show (world.tasks.delete erasedId).get taskId = some record
    rw [OrderedMap.get_delete_of_ne _ different, stored]

/-- An active child that no status write addresses stays active. -/
theorem Writes.activeChild (writes : Writes env authority world next)
    (spared : ¬ authority.targets taskId)
    (erasesEnded : ∀ record, authority.erases taskId record →
      isTerminalTaskStatus record.status = true) (active : ActiveChild world flowId taskId) :
    ActiveChild next flowId taskId := by
  induction writes with
  | refl => exact active
  | tail _ write inductionHypothesis =>
    rcases write.activeChild_or_update erasesEnded inductionHypothesis with kept |
      ⟨patch, legit, rfl⟩
    · exact kept
    · obtain ⟨record, stored, child, running⟩ := inductionHypothesis
      obtain ⟨cleanupAfter, tasks⟩ := updateTask_tasks patch stored
      have silent : patch.status = none := by
        cases written : patch.status with
        | none => rfl
        | some status => exact absurd (legit.status record status stored written).1 spared
      refine ⟨updatedRecord record patch cleanupAfter, ?_, ?_, ?_⟩
      · rw [tasks, OrderedMap.get_set_self]
      · simp only [ChildOf, updatedRecord, TaskRecord.merge,
          unlinked_of_child legit stored child, Option.none_or]
        exact child
      · simp only [updatedRecord, TaskRecord.merge, silent, Option.getD_none]
        exact running

theorem Write.failures
    (write : Write env authority world next) : next.host.failures <:+ world.host.failures := by
  cases write with
  | aside tables flows => exact tables.failures
  | update taskId patch legit =>
    cases stored : world.tasks.get taskId with
    | none => rw [updateTask_of_absent patch stored]
    | some current =>
      obtain ⟨cleanupAfter, clock, aside⟩ := updateTask_of_stored patch stored
      have remaining := aside.tables.failures
      rw [writeUpdatedTask_host] at remaining
      exact remaining
  | insert record origin legit =>
    rcases insertTaskRecord_cases env record origin world with aside | ⟨-, aside⟩
    · have remaining := aside.tables.failures
      unfold addIndexes putTask at remaining
      exact remaining
    · have remaining := aside.tables.failures
      unfold putTask at remaining
      exact remaining
  | erase taskId current stored granted =>
    unfold eraseTask rebuildRunIdIndex
    exact List.suffix_refl _

/-- The flow is cancelled or gone, or it awaits its cancellation and has an active child. -/
def Settling (world : World) (flowId : String) : Prop :=
  Fate (· = .cancelled) world.flows flowId ∨
    ∃ flow, world.flows.get flowId = some flow ∧ awaitsCancellation flow = true ∧
      ∃ taskId, ActiveChild world flowId taskId

/-- The authority of an operation under which a flow settles with its last active child. -/
structure LetsSettle (authority : Authority) (flowId : String) : Prop where
  uncreated : ¬ authority.creates flowId
  unmoved : ¬ authority.steps flowId
  erasesEnded : ∀ taskId record, authority.erases taskId record →
    isTerminalTaskStatus record.status = true

theorem Write.settling (write : Write env authority world next)
    (lets : LetsSettle authority flowId) (keyed : Keyed world) (controlled : Controlled world.flows)
    (sound : ParentsSound world) (accepted : true ∉ world.host.failures)
    (settling : Settling world flowId) : Settling next flowId := by
  have unmoved (Kept : TaskFlowStatus → Prop) : authority.steps flowId → ∀ status, Kept status :=
    fun granted => absurd granted lets.unmoved
  rcases settling with cancelled | ⟨flow, stored, awaits, taskId, active⟩
  · exact Or.inl (write.flows.fate keyed.flows lets.uncreated (unmoved _) rfl cancelled)
  have awaiting := awaits
  unfold awaitsCancellation at awaiting
  simp only [Bool.and_eq_true, decide_eq_true_eq] at awaiting
  have fate : Fate (fun status => status = flow.status ∨ status = .cancelled) next.flows flowId := by
    refine write.flows.fate keyed.flows lets.uncreated (unmoved _) (Or.inr rfl) ?_
    intro current found
    obtain rfl : flow = current := Option.some.inj (stored.symm.trans found)
    exact ⟨awaiting.1.1, awaiting.1.2, Or.inl rfl⟩
  by_cases occupied : ∃ other, ActiveChild next flowId other
  · by_cases ended : Fate (· = .cancelled) next.flows flowId
    · exact Or.inl ended
    · unfold Fate at ended
      push Not at ended
      obtain ⟨current, found, unfinished⟩ := ended
      obtain ⟨managed, requested, same | closed⟩ := fate current found
      · refine Or.inr ⟨current, found, ?_, occupied⟩
        unfold awaitsCancellation
        rw [managed, requested, same, awaiting.2]
        rfl
      · exact absurd closed (unfinished managed requested)
  · rw [not_exists] at occupied
    rcases write.activeChild_or_update (lets.erasesEnded taskId) active with kept |
      ⟨patch, legit, rfl⟩
    · exact absurd kept (occupied taskId)
    · obtain ⟨record, recorded, child, -⟩ := active
      have head : world.host.failures.head? ≠ some true := fun flagged =>
        accepted (List.mem_of_mem_head? flagged)
      obtain ⟨settled, found, managed, requested, cancelled⟩ :=
        updateTask_settles ⟨keyed, controlled, sound, stored, awaits⟩ recorded child
          (unlinked_of_child legit recorded child) head occupied
      refine Or.inl fun current again => ?_
      obtain rfl : settled = current := Option.some.inj (found.symm.trans again)
      exact ⟨managed, requested, cancelled⟩

theorem Writes.settling (writes : Writes env authority world next)
    (lets : LetsSettle authority flowId) (keyed : Keyed world) (controlled : Controlled world.flows)
    (sound : ParentsSound world) (accepted : true ∉ world.host.failures)
    (settling : Settling world flowId) : Settling next flowId := by
  have kept : true ∉ next.host.failures ∧ Settling next flowId := by
    induction writes with
    | refl => exact ⟨accepted, settling⟩
    | @tail middle _ front write inductionHypothesis =>
      have writes : Writes env authority world middle := front
      exact ⟨fun member => inductionHypothesis.1 (write.failures.subset member),
        write.settling lets (writes.keyed keyed) (writes.flows.controlled controlled)
          (writes.parentsSound sound) inductionHypothesis.1 inductionHypothesis.2⟩
  exact kept.2

/-! ### Steps and runs -/

/-- A managed flow is there and its cancellation has been requested. -/
def CancelRequested (state : State) (flowId : String) : Prop :=
  ∃ flow, state.world.flows.get flowId = some flow ∧ flow.syncMode = .managed ∧
    flow.cancelRequestedAt.isSome = true

/-- No task has been linked to the flow in between. -/
def NoNewChildren (flowId : String) (earlier later : State) : Prop :=
  ∀ taskId, IsChild later.world flowId taskId → IsChild earlier.world flowId taskId

/-- A cancelled flow is still cancelled, if it is still there. -/
def StaysCancelled (flowId : String) (earlier later : State) : Prop :=
  ∀ former flow, earlier.world.flows.get flowId = some former → former.status = .cancelled →
    later.world.flows.get flowId = some flow → flow.status = .cancelled

/-- If the step ends the last active child of the flow, the flow is cancelled afterwards, unless it
was already terminal. -/
def EndsWithLastChild (flowId : String) (state next : State) : Prop :=
  (∃ taskId status, ActiveChild state.world flowId taskId ∧
      statusOf next.world taskId = some status ∧ isTerminalTaskStatus status = true) →
    (∀ taskId, ¬ ActiveChild next.world flowId taskId) →
      ∀ former flow, state.world.flows.get flowId = some former →
        next.world.flows.get flowId = some flow →
          isTerminalFlowStatus former.status = true ∨ flow.status = .cancelled

/-- The step names the revision of no cancelled flow in a setter, and no store call throws when it
addresses all active children of a flow that awaits its cancellation. -/
structure SettlesCancellations (state : State) (input : Input) : Prop where
  unmoved : ∀ flowId flow, state.world.flows.get flowId = some flow → flow.syncMode = .managed →
    flow.cancelRequestedAt.isSome = true → flow.status = .cancelled →
      ¬ input.action.moves flowId flow.revision
  accepted : ∀ flowId flow, state.world.flows.get flowId = some flow →
    awaitsCancellation flow = true → (∃ taskId, ActiveChild state.world flowId taskId) →
      (∀ taskId, ActiveChild state.world flowId taskId →
        taskId ∈ addressed state state.world input.action) → true ∉ input.failures

/-- An action that addresses a task moves no flow and erases only ended tasks. -/
theorem letsSettle_of_addressed {state : State} {start world : World} {action : Action}
    (uncreated : flowId ∉ action.drawnIds) (target : taskId ∈ addressed state world action) :
    LetsSettle (authorityOf state start action) flowId where
  uncreated := uncreated
  unmoved := by
    rintro ⟨current, -, moves⟩
    cases action <;> simp [Action.moves, addressed] at moves target
  erasesEnded erasedId record granted := by
    have erases : action.erases erasedId record := granted
    cases action <;> simp [Action.erases, addressed] at erases target
    exact erases.2

theorem step_endsWithLastChild {state next : State}
    (booked : Booked state) (sound : ParentsSound state.world)
    (admitted : SettlesCancellations state input) (taken : step env state input = some next)
    (requested : CancelRequested state flowId) : EndsWithLastChild flowId state next := by
  rintro ⟨endedId, status, active, reached, terminal⟩ quiet former flow stored later
  rw [or_iff_not_imp_left, Bool.not_eq_true]
  intro running
  have writes := step_writes booked taken
  have target : endedId ∈ addressed state state.world input.action := by
    by_contra spared
    obtain ⟨record, found, child, busy⟩ := active
    have same := step_status_of_unaddressed booked taken
      (by rw [statusOf, found, Option.map_some]) spared status reached
    rw [same, isTerminalTaskStatus_eq_not_active, busy] at terminal
    simp at terminal
  have uncreated : flowId ∉ input.action.drawnIds := by
    intro drawn
    have unused := fresh_of_enabled (step_cases taken).1 flowId drawn
    rw [booked.flows flowId unused] at stored
    simp at stored
  have lets : LetsSettle (authorityOf state (prepared input state.world) input.action) flowId :=
    letsSettle_of_addressed uncreated target
  obtain ⟨current, found, managed, asked⟩ := requested
  obtain rfl : former = current := Option.some.inj (stored.symm.trans found)
  have awaits : awaitsCancellation former = true := by
    unfold awaitsCancellation
    rw [managed, asked, running]
    rfl
  by_cases all : ∀ taskId, ActiveChild state.world flowId taskId →
      taskId ∈ addressed state state.world input.action
  · have accepted := admitted.accepted flowId former stored awaits ⟨endedId, active⟩ all
    have settled := writes.settling lets ⟨booked.keyed.tasks, booked.keyed.flows⟩ booked.controlled
      sound accepted (Or.inr ⟨former, stored, awaits, endedId, active⟩)
    rcases settled with cancelled | ⟨-, -, -, other, busy⟩
    · exact (cancelled flow later).2.2
    · exact absurd busy (quiet other)
  · push Not at all
    obtain ⟨other, busy, spared⟩ := all
    rw [← addressed_prepared state input] at spared
    exact absurd (writes.activeChild spared (lets.erasesEnded other) busy) (quiet other)

theorem step_parentsSound {state next : State} (booked : Booked state)
    (sound : ParentsSound state.world) (taken : step env state input = some next) :
    ParentsSound next.world := (step_writes booked taken).parentsSound sound

/-- What a step keeps of a flow whose cancellation has been requested. -/
theorem step_fate {state next : State} (booked : Booked state) (used : flowId ∈ state.usedIds)
    (taken : step env state input = some next) (closed : Kept .cancelled)
    (moved : ∀ flow, state.world.flows.get flowId = some flow →
      input.action.moves flowId flow.revision → ∀ status, Kept status)
    (fate : Fate Kept state.world.flows flowId) : Fate Kept next.world.flows flowId := by
  refine (step_writes booked taken).flows.fate booked.keyed.flows ?_ ?_ closed fate
  · intro drawn
    exact fresh_of_enabled (step_cases taken).1 flowId drawn used
  · rintro ⟨flow, stored, moves⟩
    exact moved flow stored moves

section Runs

/-- The books of a run and what the parent-flow index lists are in order. -/
def InOrder (state : State) : Prop := Booked state ∧ ParentsSound state.world

theorem inOrder_step {state next : State} {input : Input} (inOrder : InOrder state)
    (taken : step env state input = some next) : InOrder next :=
  ⟨inOrder.1.step taken, step_parentsSound inOrder.1 inOrder.2 taken⟩

theorem inOrder_restored (tasks : Option TaskSnapshot) (flows : Option FlowSnapshot) :
    InOrder (restored tasks flows) :=
  ⟨booked_restored tasks flows, (indexed_restored tasks flows).parentFlowId.sound⟩

theorem used_of_requested {state : State} (booked : Booked state)
    (requested : CancelRequested state flowId) : flowId ∈ state.usedIds := by
  obtain ⟨flow, stored, -⟩ := requested
  by_contra unused
  rw [booked.flows flowId unused] at stored
  simp at stored

theorem used_step {state next : State} {input : Input} (used : flowId ∈ state.usedIds)
    (taken : step env state input = some next) : flowId ∈ next.usedIds := by
  rw [(step_world taken).2]
  exact List.mem_append_left _ used

theorem noNewChildren_of_run {guard : State → Input → Prop} {earlier later : State}
    {inputs : List Input} (run : Machine.Steps (step env) guard earlier inputs later)
    (booked : Booked earlier) (requested : CancelRequested earlier flowId) :
    NoNewChildren flowId earlier later := by
  have preserved : ∀ state input next,
      (Booked state ∧ flowId ∈ state.usedIds ∧ Fate (fun _ => True) state.world.flows flowId ∧
        NoNewChildren flowId earlier state) → guard state input →
      step env state input = some next →
      (Booked next ∧ flowId ∈ next.usedIds ∧ Fate (fun _ => True) next.world.flows flowId ∧
        NoNewChildren flowId earlier next) := by
    rintro state input next ⟨booked, used, fate, children⟩ - taken
    refine ⟨booked.step taken, used_step used taken, step_fate booked used taken trivial
      (fun _ _ _ _ => trivial) fate, fun taskId linked => children taskId ?_⟩
    refine (step_writes booked taken).isChild ⟨booked.keyed.tasks, booked.keyed.flows⟩ ?_ fate
      linked
    exact fun drawn => fresh_of_enabled (step_cases taken).1 flowId drawn used
  refine (run.invariant preserved ⟨booked, used_of_requested booked requested, ?_,
    fun _ linked => linked⟩).2.2.2
  obtain ⟨flow, stored, managed, asked⟩ := requested
  intro current found
  obtain rfl : flow = current := Option.some.inj (stored.symm.trans found)
  exact ⟨managed, asked, trivial⟩

theorem staysCancelled_of_run {earlier later : State} {inputs : List Input}
    (run : Machine.Steps (step env) SettlesCancellations earlier inputs later)
    (booked : Booked earlier) (requested : CancelRequested earlier flowId) :
    StaysCancelled flowId earlier later := by
  intro former flow stored cancelled storedLater
  have preserved : ∀ state input next,
      (Booked state ∧ flowId ∈ state.usedIds ∧ Fate (· = .cancelled) state.world.flows flowId) →
      SettlesCancellations state input → step env state input = some next →
      (Booked next ∧ flowId ∈ next.usedIds ∧ Fate (· = .cancelled) next.world.flows flowId) := by
    rintro state input next ⟨booked, used, fate⟩ admitted taken
    refine ⟨booked.step taken, used_step used taken, step_fate booked used taken rfl ?_ fate⟩
    intro current found moves
    obtain ⟨managed, asked, closed⟩ := fate current found
    exact absurd moves (admitted.unmoved flowId current found managed asked closed)
  refine ((run.invariant preserved ⟨booked, used_of_requested booked requested, ?_⟩).2.2 flow
    storedLater).2.2
  obtain ⟨current, found, managed, asked⟩ := requested
  obtain rfl : former = current := Option.some.inj (stored.symm.trans found)
  intro again refound
  obtain rfl : former = again := Option.some.inj (stored.symm.trans refound)
  exact ⟨managed, asked, cancelled⟩

end Runs

/-- In every run whose steps let cancellations settle: once the cancellation of a managed flow has
been requested no task is linked to it, a cancelled flow stays cancelled, and every step that ends
the last active child cancels the flow unless it was already terminal. -/
theorem managed_cancellation_is_sticky (env : Env) (tasks : Option TaskSnapshot)
    (flows : Option FlowSnapshot) (front back : List Input) (earlier later : State)
    (before : Machine.Steps (step env) SettlesCancellations (restored tasks flows) front earlier)
    (between : Machine.Steps (step env) SettlesCancellations earlier back later) :
    ∀ flowId, CancelRequested earlier flowId →
      NoNewChildren flowId earlier later ∧ StaysCancelled flowId earlier later ∧
        ∀ input next, SettlesCancellations later input → step env later input = some next →
          CancelRequested later flowId → EndsWithLastChild flowId later next := by
  intro flowId requested
  have keeps : ∀ state input next, InOrder state → SettlesCancellations state input →
      step env state input = some next → InOrder next :=
    fun _ _ _ inOrder _ taken => inOrder_step inOrder taken
  have inOrder := before.invariant keeps (inOrder_restored tasks flows)
  refine ⟨noNewChildren_of_run between inOrder.1 requested,
    staysCancelled_of_run between inOrder.1 requested, ?_⟩
  intro input next admitted taken stillRequested
  have reached := between.invariant keeps inOrder
  exact step_endsWithLastChild reached.1 reached.2 admitted taken stillRequested

def createFlow : Input where
  action := .createManagedTaskFlow "flow-1"
    { ownerKey := "agent:main:main", controllerId := some "core/tests", goal := "ship" }

def runChild : Input where
  action := .runTaskInFlow "task-1" "flow-2" "flow-1"
    { runtime := .cli, task := some "build", status := .running }

def requestCancel : Input where
  action := .requestFlowCancel "flow-1" 0 (some 1000) none

/-- The only child ends while some store calls throw. -/
def endChild (failures : List Bool) : Input where
  action := .markTaskTerminalById "task-1" .succeeded 2000 none none none none
  failures := failures

theorem settlesCancellations_of_plain {state : State}
    (unmoved : ∀ flowId revision, ¬ input.action.moves flowId revision)
    (accepted : input.failures = []) : SettlesCancellations state input where
  unmoved flowId flow _ _ _ _ := unmoved flowId flow.revision
  accepted _ _ _ _ _ _ := by simp [accepted]

/-- With a store that accepts the child, the flow is cancelled with it. -/
theorem requested_flow_ends_with_child :
    ∃ earlier next, Machine.Steps (step telegramEnv) SettlesCancellations (restored none none)
        [createFlow, runChild, requestCancel] earlier ∧
      step telegramEnv earlier (endChild []) = some next ∧ CancelRequested earlier "flow-1" ∧
      EndsWithLastChild "flow-1" earlier next ∧
      (next.world.flows.get "flow-1").map TaskFlowRecord.status = some .cancelled := by
  have evaluated : (Machine.execute (step telegramEnv) (restored none none)
      [createFlow, runChild, requestCancel]).map (fun earlier =>
        ((earlier.world.flows.get "flow-1").map fun flow =>
          (flow.syncMode, flow.cancelRequestedAt.isSome),
        (step telegramEnv earlier (endChild [])).map fun next =>
          (next.world.flows.get "flow-1").map TaskFlowRecord.status)) =
      some (some (.managed, true), some (some .cancelled)) := by decide +kernel
  obtain ⟨earlier, ran, shown⟩ := Option.map_eq_some_iff.1 evaluated
  obtain ⟨asked, ended⟩ := Prod.mk.inj shown
  obtain ⟨next, taken, cancelled⟩ := Option.map_eq_some_iff.1 ended
  obtain ⟨flow, stored, modes⟩ := Option.map_eq_some_iff.1 asked
  obtain ⟨managed, requested⟩ := Prod.mk.inj modes
  have run : Machine.Steps (step telegramEnv) SettlesCancellations (restored none none)
      [createFlow, runChild, requestCancel] earlier := by
    refine (Machine.steps_of_execute ran).promote fun input member state => ?_
    have listed : input = createFlow ∨ input = runChild ∨ input = requestCancel := by
      simpa using member
    rcases listed with rfl | rfl | rfl <;>
      exact settlesCancellations_of_plain (fun _ _ => id) rfl
  have waiting : CancelRequested earlier "flow-1" := ⟨flow, stored, managed, requested⟩
  have sticky := (managed_cancellation_is_sticky telegramEnv none none _ _ earlier earlier run
    (.nil earlier) "flow-1" waiting).2.2
  refine ⟨earlier, next, run, taken, waiting, ?_, cancelled⟩
  exact sticky (endChild []) next (settlesCancellations_of_plain (fun _ _ => id) rfl) taken waiting

def startCancel : Input where
  action := .startCancelFlowById "flow-1"

def finishCancel : Input where
  action := .finishCancelFlowById 0

def resumeCancelled : Input where
  action := .flowStep .resume "flow-1" 2 {}

set_option synthInstance.maxSize 400 in
/-- A setter that names the revision of a cancelled flow moves it on, and a store that throws at
the last child leaves its flow uncancelled. -/
theorem cancelled_flow_resumes_and_last_child_is_missed :
    (¬ ∀ (env : Env) (tasks : Option TaskSnapshot) (flows : Option FlowSnapshot)
      (front back : List Input) (earlier later : State),
      Machine.Steps (step env) Machine.Unguarded (restored tasks flows) front earlier →
      Machine.Steps (step env) Machine.Unguarded earlier back later →
        ∀ flowId, CancelRequested earlier flowId → StaysCancelled flowId earlier later) ∧
    ¬ ∀ (env : Env) (tasks : Option TaskSnapshot) (flows : Option FlowSnapshot)
      (front : List Input) (earlier next : State) (input : Input),
      Machine.Steps (step env) Machine.Unguarded (restored tasks flows) front earlier →
      step env earlier input = some next →
        ∀ flowId, CancelRequested earlier flowId → EndsWithLastChild flowId earlier next := by
  constructor
  · intro claimed
    have evaluated : (Machine.execute (step telegramEnv) (restored none none)
        [createFlow, startCancel, finishCancel]).map (fun earlier =>
          ((earlier.world.flows.get "flow-1").map fun flow =>
            (flow.syncMode, flow.cancelRequestedAt.isSome, flow.status),
          (Machine.execute (step telegramEnv) earlier [resumeCancelled]).map fun later =>
            (later.world.flows.get "flow-1").map TaskFlowRecord.status)) =
        some (some (.managed, true, .cancelled), some (some .queued)) := by decide +kernel
    obtain ⟨earlier, ran, shown⟩ := Option.map_eq_some_iff.1 evaluated
    obtain ⟨closed, reopened⟩ := Prod.mk.inj shown
    obtain ⟨former, stored, modes⟩ := Option.map_eq_some_iff.1 closed
    obtain ⟨managed, modes⟩ := Prod.mk.inj modes
    obtain ⟨requested, cancelled⟩ := Prod.mk.inj modes
    obtain ⟨later, went, moved⟩ := Option.map_eq_some_iff.1 reopened
    obtain ⟨flow, found, queued⟩ := Option.map_eq_some_iff.1 moved
    have stays := claimed telegramEnv none none _ _ earlier later (Machine.steps_of_execute ran)
      (Machine.steps_of_execute went) "flow-1" ⟨former, stored, managed, requested⟩ former flow
      stored cancelled found
    rw [queued] at stays
    simp at stays
  · intro claimed
    have evaluated : (Machine.execute (step telegramEnv) (restored none none)
        [createFlow, runChild, requestCancel]).map (fun earlier =>
          ((earlier.world.flows.get "flow-1").map fun flow =>
            (flow.syncMode, flow.cancelRequestedAt.isSome, flow.status),
          (earlier.world.tasks.get "task-1").map fun task =>
            (normalizeOptionalString task.parentFlowId, isActiveTaskStatus task.status),
          (step telegramEnv earlier (endChild [true])).map fun next =>
            ((next.world.flows.get "flow-1").map TaskFlowRecord.status,
              statusOf next.world "task-1",
              next.world.tasks.entries.all fun entry => !isActiveTaskStatus entry.2.status))) =
        some (some (.managed, true, .queued), some (some "flow-1", true),
          some (some .queued, some .succeeded, true)) := by decide +kernel
    obtain ⟨earlier, ran, shown⟩ := Option.map_eq_some_iff.1 evaluated
    obtain ⟨asked, shown⟩ := Prod.mk.inj shown
    obtain ⟨linked, ended⟩ := Prod.mk.inj shown
    obtain ⟨former, stored, modes⟩ := Option.map_eq_some_iff.1 asked
    obtain ⟨managed, modes⟩ := Prod.mk.inj modes
    obtain ⟨requested, queued⟩ := Prod.mk.inj modes
    obtain ⟨task, recorded, child⟩ := Option.map_eq_some_iff.1 linked
    obtain ⟨parent, active⟩ := Prod.mk.inj child
    obtain ⟨next, taken, after⟩ := Option.map_eq_some_iff.1 ended
    obtain ⟨missed, after⟩ := Prod.mk.inj after
    obtain ⟨succeeded, quiet⟩ := Prod.mk.inj after
    obtain ⟨flow, found, status⟩ := Option.map_eq_some_iff.1 missed
    have idleChildren (taskId : String) : ¬ ActiveChild next.world "flow-1" taskId := by
      rintro ⟨record, listed, -, busy⟩
      have idle := List.all_eq_true.1 quiet _ ((OrderedMap.get_eq_some_iff ..).1 listed)
      rw [busy] at idle
      simp at idle
    have ends := claimed telegramEnv none none _ earlier next (endChild [true])
      (Machine.steps_of_execute ran) taken "flow-1" ⟨former, stored, managed, requested⟩
      ⟨"task-1", .succeeded, ⟨task, recorded, parent, active⟩, succeeded, rfl⟩ idleChildren former
      flow stored found
    rw [queued, status] at ends
    simp [isTerminalFlowStatus] at ends

end OpenClaw.Tasks
