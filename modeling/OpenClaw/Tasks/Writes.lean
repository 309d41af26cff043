/-
This file says once what a stretch of the registries' code can write.

Every operation is a chain of writes of four kinds: it works aside (on the host,
the delivery bookkeeping and the flow map), it updates a task through
`updateTask`, it inserts a new record through `insertTaskRecord`, or it erases
one. What makes a write legitimate is recorded with it: a status is written only
to a task that was not terminal, or because the operation forces it; a parent
flow is written only to a task that had none and after the link was allowed; a
flow is patched by its mirror, by a cancellation request, by the settlement of a
cancellation, or by a setter.

What an operation is authorised to do is an `Authority`. The following files
show that every action stays within an authority computed from the state it
starts in, and derive each invariant of the subsystem from the four kinds of
writes alone.
-/

import OpenClaw.Tasks.Machine

namespace OpenClaw.Tasks

open Text KeyedIndex

/-- The flow map. -/
abbrev Flows := OrderedMap String TaskFlowRecord

/-! ### Authorities -/

/-- What an operation may do beyond what every operation may. -/
structure Authority where
  /-- The tasks whose status it addresses. -/
  targets : String → Prop
  /-- The status writes it makes whatever status the task has: task, old status, new status. -/
  forced : String → TaskStatus → TaskStatus → Prop
  /-- The records it inserts, with the world it inserts them into. -/
  inserts : World → TaskRecord → Option DeliveryContext → Prop
  /-- The tasks it erases. -/
  erases : String → TaskRecord → Prop
  /-- The flows it moves by a setter. -/
  steps : String → Prop
  /-- The flows it creates. -/
  creates : String → Prop
  /-- The flows it deletes. -/
  deletes : String → Prop

/-- An authority that grants nothing. -/
def Authority.nothing : Authority where
  targets _ := False
  forced _ _ _ := False
  inserts _ _ _ := False
  erases _ _ := False
  steps _ := False
  creates _ := False
  deletes _ := False

/-- One authority grants all that another does. -/
structure Authority.Within (smaller larger : Authority) : Prop where
  targets : ∀ taskId, smaller.targets taskId → larger.targets taskId
  forced : ∀ taskId former status, smaller.forced taskId former status →
    larger.forced taskId former status
  inserts : ∀ world record origin, smaller.inserts world record origin →
    larger.inserts world record origin
  erases : ∀ taskId record, smaller.erases taskId record → larger.erases taskId record
  steps : ∀ flowId, smaller.steps flowId → larger.steps flowId
  creates : ∀ flowId, smaller.creates flowId → larger.creates flowId
  deletes : ∀ flowId, smaller.deletes flowId → larger.deletes flowId

theorem Authority.nothing_within (authority : Authority) : Authority.nothing.Within authority where
  targets _ := False.elim
  forced _ _ _ := False.elim
  inserts _ _ _ := False.elim
  erases _ _ := False.elim
  steps _ := False.elim
  creates _ := False.elim
  deletes _ := False.elim

/-! ### Writes to the flow map -/

/-- What may change the status of a flow. -/
inductive StatusCause (authority : Authority) (flow : TaskFlowRecord) (patch : FlowRecordPatch) :
    Prop
  /-- The flow mirrors its task. -/
  | mirrored (mode : flow.syncMode = .taskMirrored)
  /-- The status stays. -/
  | untouched (silent : patch.status = none)
  /-- The flow is cancelled. -/
  | cancelled (settles : patch.status = some .cancelled)
  /-- A setter with the matching revision moves the flow. -/
  | stepped (granted : authority.steps flow.flowId)

/-- A write to the flow map. -/
inductive FlowWrite (authority : Authority) : Flows → Flows → Prop
  | create (flows : Flows) (record : TaskFlowRecord) (granted : authority.creates record.flowId)
      (fresh : flows.get record.flowId = none)
      (controlled : record.syncMode = .managed →
        (normalizeOptionalString record.controllerId).isSome) :
      FlowWrite authority flows (flows.set record.flowId record)
  | patch (flows : Flows) (flowId : String) (current : TaskFlowRecord) (patch : FlowRecordPatch)
      (updatedAt : Int) (stored : flows.get flowId = some current)
      (keepsRequest : patch.cancelRequestedAt ≠ some none)
      (keepsController : patch.controllerId = none) (cause : StatusCause authority current patch) :
      FlowWrite authority flows (flows.set current.flowId (patchedFlow current patch updatedAt))
  | delete (flows : Flows) (flowId : String) (granted : authority.deletes flowId) :
      FlowWrite authority flows (flows.delete flowId)

/-- A chain of writes to the flow map. -/
abbrev FlowWrites (authority : Authority) : Flows → Flows → Prop :=
  Relation.ReflTransGen (FlowWrite authority)

/-! ### Writes to the registries -/

/-- The task map and its indexes are the same, and the host has only used up inputs. -/
structure SameTables (world next : World) : Prop where
  tasks : next.tasks = world.tasks
  byRunId : next.taskIdsByRunId = world.taskIdsByRunId
  byOwnerKey : next.taskIdsByOwnerKey = world.taskIdsByOwnerKey
  byParentFlowId : next.taskIdsByParentFlowId = world.taskIdsByParentFlowId
  byRelatedSessionKey : next.taskIdsByRelatedSessionKey = world.taskIdsByRelatedSessionKey
  failures : next.host.failures <:+ world.host.failures

/-- When `updateTask` may be called with a patch. -/
structure LegitUpdate (authority : Authority) (world : World) (taskId : String)
    (patch : TaskPatch) : Prop where
  keepsRunId : patch.runId = none
  keepsOwnerKey : patch.ownerKey = none
  keepsChildSessionKey : patch.childSessionKey = none
  status : ∀ current status, world.tasks.get taskId = some current → patch.status = some status →
    authority.targets taskId ∧ (isTerminalTaskStatus current.status = false ∨
      authority.forced taskId current.status status)
  link : ∀ current flowId, world.tasks.get taskId = some current →
    patch.parentFlowId = some flowId → normalizeOptionalString current.parentFlowId = none ∧
      parentFlowLinkError world.flows current.ownerKey current.scopeKind (some flowId) = none

/-- When `insertTaskRecord` may be called with a record. -/
structure LegitInsert (authority : Authority) (world : World) (record : TaskRecord)
    (origin : Option DeliveryContext) : Prop where
  fresh : world.tasks.get record.taskId = none
  allowed : parentFlowLinkError world.flows record.ownerKey record.scopeKind record.parentFlowId =
    none
  granted : authority.inserts world record origin

/-- A write to the registries. -/
inductive Write (env : Env) (authority : Authority) : World → World → Prop
  | aside {world next : World} (tables : SameTables world next)
      (flows : FlowWrites authority world.flows next.flows) : Write env authority world next
  | update (world : World) (taskId : String) (patch : TaskPatch)
      (legit : LegitUpdate authority world taskId patch) :
      Write env authority world (updateTask taskId patch world).2
  | insert (world : World) (record : TaskRecord) (origin : Option DeliveryContext)
      (legit : LegitInsert authority world record origin) :
      Write env authority world (insertTaskRecord env record origin world).2
  | erase (world : World) (taskId : String) (current : TaskRecord)
      (stored : world.tasks.get taskId = some current)
      (granted : authority.erases taskId current) :
      Write env authority world (eraseTask taskId current world)

/-- A chain of writes to the registries. -/
abbrev Writes (env : Env) (authority : Authority) : World → World → Prop :=
  Relation.ReflTransGen (Write env authority)

instance (env : Env) (authority : Authority) : IsPreorder World (Writes env authority) where
  refl _ := Relation.ReflTransGen.refl
  trans _ _ _ := Relation.ReflTransGen.trans

/-! ### Larger authorities -/

variable {smaller larger : Authority}

theorem FlowWrite.within (within : smaller.Within larger)
    {flows next : Flows} (write : FlowWrite smaller flows next) : FlowWrite larger flows next := by
  cases write with
  | create record granted fresh controlled =>
    exact .create flows record (within.creates _ granted) fresh controlled
  | patch flowId current patch updatedAt stored keepsRequest keepsController cause =>
    refine .patch flows flowId current patch updatedAt stored keepsRequest keepsController ?_
    cases cause with
    | mirrored mode => exact .mirrored mode
    | untouched silent => exact .untouched silent
    | cancelled settles => exact .cancelled settles
    | stepped granted => exact .stepped (within.steps _ granted)
  | delete flowId granted => exact .delete flows flowId (within.deletes _ granted)

theorem FlowWrites.within (within : smaller.Within larger)
    {flows next : Flows} (writes : FlowWrites smaller flows next) : FlowWrites larger flows next :=
  writes.lift id fun _ _ write => write.within within

variable {world next : World}

theorem Write.within {env : Env} (within : smaller.Within larger)
    (write : Write env smaller world next) : Write env larger world next := by
  cases write with
  | aside tables flows => exact .aside tables (flows.within within)
  | update taskId patch legit =>
    refine .update world taskId patch
      ⟨legit.keepsRunId, legit.keepsOwnerKey, legit.keepsChildSessionKey,
        fun current status stored written => ?_, legit.link⟩
    obtain ⟨target, cause⟩ := legit.status current status stored written
    exact ⟨within.targets _ target, cause.imp_right (within.forced _ _ _)⟩
  | insert record origin legit =>
    exact .insert world record origin
      ⟨legit.fresh, legit.allowed, within.inserts _ _ _ legit.granted⟩
  | erase taskId current stored granted =>
    exact .erase world taskId current stored (within.erases _ _ granted)

theorem Writes.within {env : Env} (within : smaller.Within larger)
    (writes : Writes env smaller world next) : Writes env larger world next :=
  writes.lift id fun _ _ write => write.within within

/-! ### Working aside -/

theorem SameTables.refl (world : World) : SameTables world world :=
  ⟨rfl, rfl, rfl, rfl, rfl, List.suffix_refl _⟩

theorem SameTables.trans {first second third : World} (front : SameTables first second)
    (back : SameTables second third) : SameTables first third :=
  ⟨back.tasks.trans front.tasks, back.byRunId.trans front.byRunId,
    back.byOwnerKey.trans front.byOwnerKey, back.byParentFlowId.trans front.byParentFlowId,
    back.byRelatedSessionKey.trans front.byRelatedSessionKey, back.failures.trans front.failures⟩

/-- Indexing a record keeps tables the same that were the same before. -/
theorem SameTables.addIndexes (same : SameTables world next)
    (taskId : String) (record : TaskRecord) :
    SameTables (addIndexes taskId record world) (addIndexes taskId record next) := by
  unfold OpenClaw.Tasks.addIndexes
  exact
    { tasks := same.tasks
      byRunId := by rw [same.byRunId]
      byOwnerKey := by rw [same.byOwnerKey]
      byParentFlowId := by rw [same.byParentFlowId]
      byRelatedSessionKey := by rw [same.byRelatedSessionKey]
      failures := same.failures }

/-- Work on the flow map and the host only. -/
structure Aside (authority : Authority) (world next : World) : Prop where
  tables : SameTables world next
  flows : FlowWrites authority world.flows next.flows

instance (authority : Authority) : IsPreorder World (Aside authority) where
  refl world := ⟨SameTables.refl world, Relation.ReflTransGen.refl⟩
  trans _ _ _ front back :=
    ⟨front.tables.trans back.tables, front.flows.trans back.flows⟩

variable {authority : Authority}

theorem Aside.writes {env : Env}
    (aside : Aside authority world next) : Writes env authority world next :=
  .single (.aside aside.tables aside.flows)

/-- Work aside that leaves the flow map alone. -/
theorem aside_of_sameFlows (tables : SameTables world next) (flows : next.flows = world.flows) :
    Aside authority world next := ⟨tables, flows ▸ Relation.ReflTransGen.refl⟩

section Host

theorem aside_hostCall (world : World) : Sync.Related (Aside authority) hostCall world :=
  aside_of_sameFlows ⟨rfl, rfl, rfl, rfl, rfl, List.tail_suffix _⟩ rfl

theorem aside_dateNow (world : World) : Sync.Related (Aside authority) dateNow world :=
  aside_of_sameFlows ⟨rfl, rfl, rfl, rfl, rfl, List.suffix_refl _⟩ rfl

theorem aside_handOff (item : HandOff) (world : World) :
    Sync.Related (Aside authority) (handOff item) world :=
  aside_of_sameFlows ⟨rfl, rfl, rfl, rfl, rfl, List.suffix_refl _⟩ rfl

/-- A host call throws only when the section's next failure flag is set. -/
theorem hostCall_throws {world middle : World} {error : TaskError}
    (ran : hostCall world = (.error error, middle)) : world.host.failures.head? = some true := by
  by_contra succeeds
  rw [hostCall, if_neg succeeds] at ran
  simp at ran

end Host

/-! ### The flow registry works aside -/

section FlowRegistry

variable {patch : FlowRecordPatch}

/-- Reading the clock when no time is given moves the clock and nothing else. -/
theorem orNow_run (given : Option Int) (world : World) :
    ∃ time clock, orNow given world =
      (.ok time, { world with host := { world.host with clock := clock } }) := by
  cases given with
  | some time => exact ⟨time, world.host.clock, rfl⟩
  | none => exact ⟨_, _, rfl⟩

theorem aside_orNow (given : Option Int) (world : World) :
    Sync.Related (Aside authority) (orNow given) world := by
  obtain ⟨time, clock, ran⟩ := orNow_run given world
  rw [Sync.Related, ran]
  exact aside_of_sameFlows ⟨rfl, rfl, rfl, rfl, rfl, List.suffix_refl _⟩ rfl

/-- After the clock has been read the flow map is still the same. -/
theorem orNow_flows {given : Option Int} {world middle : World} {time : Int}
    (ran : orNow given world = (.ok time, middle)) : middle.flows = world.flows := by
  obtain ⟨_, _, read⟩ := orNow_run given world
  rw [read, Prod.mk.injEq] at ran
  exact ran.2 ▸ rfl

/-- What a patch of a stored flow needs to be a legitimate flow write. -/
structure LegitPatch (authority : Authority) (flow : TaskFlowRecord) (patch : FlowRecordPatch) :
    Prop where
  keepsRequest : patch.cancelRequestedAt ≠ some none
  keepsController : patch.controllerId = none
  cause : StatusCause authority flow patch

theorem aside_writeFlowRecord {next : TaskFlowRecord}
    (write : FlowWrites authority world.flows (world.flows.set next.flowId next)) :
    Sync.Related (Aside authority) (writeFlowRecord next) world := by
  refine Sync.Related.bind (Sync.related_modify ?_) fun _ written _ => ?_
  · exact ⟨⟨rfl, rfl, rfl, rfl, rfl, List.suffix_refl _⟩, write⟩
  · exact (aside_hostCall written).bind fun _ final _ => Sync.related_pure _ final

theorem applyFlowPatch_ok {current : TaskFlowRecord} {world middle : World} {next : TaskFlowRecord}
    (ran : applyFlowPatch current patch world = (.ok next, middle)) :
    (∃ updatedAt, next = patchedFlow current patch updatedAt) ∧ middle.flows = world.flows := by
  unfold applyFlowPatch at ran
  split at ran
  · simp at ran
  · obtain ⟨updatedAt, clock, read⟩ := orNow_run patch.updatedAt world
    rw [Sync.bind_run_ok read, Sync.pure_run, Prod.mk.injEq, Except.ok.injEq] at ran
    exact ⟨⟨updatedAt, ran.1.symm⟩, ran.2 ▸ rfl⟩

theorem aside_applyFlowPatch (current : TaskFlowRecord) (patch : FlowRecordPatch) (world : World) :
    Sync.Related (Aside authority) (applyFlowPatch current patch) world := by
  unfold applyFlowPatch
  dsimp only
  split
  · exact Sync.related_throw _ world
  · exact (aside_orNow _ world).bind fun _ middle _ => Sync.related_pure _ middle

/-- Patching a stored flow and writing it back. -/
theorem aside_patchFlow {Value : Type} {flowId : String} {current : TaskFlowRecord}
    (stored : world.flows.get flowId = some current) (legit : LegitPatch authority current patch)
    (result : TaskFlowRecord → Value) :
    Sync.Related (Aside authority) (do
      let next ← applyFlowPatch current patch
      let written ← writeFlowRecord next
      pure (result written)) world := by
  refine (aside_applyFlowPatch current patch world).bind fun next middle ran => ?_
  obtain ⟨⟨updatedAt, rfl⟩, sameFlows⟩ := applyFlowPatch_ok ran
  refine (aside_writeFlowRecord (.single ?_)).bind fun written final _ =>
    Sync.related_pure _ final
  exact .patch middle.flows flowId current patch updatedAt (sameFlows ▸ stored)
    legit.keepsRequest legit.keepsController legit.cause

theorem aside_updateFlowRecordByIdExpectedRevision {flowId : String} {expectedRevision : Int}
    (legit : ∀ current, world.flows.get flowId = some current →
      current.revision = expectedRevision → LegitPatch authority current patch) :
    Sync.Related (Aside authority)
      (updateFlowRecordByIdExpectedRevision flowId expectedRevision patch) world := by
  unfold updateFlowRecordByIdExpectedRevision getTaskFlowById
  refine Sync.related_reads_bind ?_
  split
  · exact Sync.related_pure _ world
  · rename_i current stored
    split
    · exact Sync.related_pure _ world
    · rename_i agrees
      exact aside_patchFlow stored (legit current stored (not_not.1 agrees)) _

theorem aside_updateFlowRecordByIdUnchecked {flowId : String}
    (legit : ∀ current, world.flows.get flowId = some current →
      LegitPatch authority current patch) :
    Sync.Related (Aside authority) (updateFlowRecordByIdUnchecked flowId patch) world := by
  unfold updateFlowRecordByIdUnchecked getTaskFlowById
  refine Sync.related_reads_bind ?_
  split
  · exact Sync.related_pure _ world
  · rename_i current stored
    exact aside_patchFlow stored (legit current stored) _

theorem legitPatch_cancelled (flow : TaskFlowRecord) (endedAt : Int) :
    LegitPatch authority flow (cancelledFlowPatch endedAt) :=
  ⟨by simp [cancelledFlowPatch], rfl, .cancelled rfl⟩

theorem aside_settleCancelledFlow (flowId : String) (endedAt : Int) (attempts : Nat)
    (flow : TaskFlowRecord) (world : World) :
    Sync.Related (Aside authority) (settleCancelledFlow flowId endedAt attempts flow) world := by
  induction attempts generalizing flow world with
  | zero => exact Sync.related_pure _ world
  | succ attempts inductionHypothesis =>
    unfold settleCancelledFlow
    refine (aside_updateFlowRecordByIdExpectedRevision fun current _ _ =>
      legitPatch_cancelled current endedAt).bind fun result middle _ => ?_
    cases result with
    | applied flow => exact Sync.related_pure _ middle
    | notFound => exact Sync.related_pure _ middle
    | revisionConflict current =>
      refine (Sync.related_read middle).bind fun seen final _ => ?_
      split
      · exact Sync.related_pure _ final
      · exact inductionHypothesis current final

/-- The end time of a mirrored flow is read off the task or the clock. -/
theorem resolveMirroredEnd_run (task : TaskRecord) (world : World) :
    ∃ endedAt clock, resolveMirroredEnd task world =
      (.ok endedAt, { world with host := { world.host with clock := clock } }) := by
  unfold resolveMirroredEnd
  split
  · obtain ⟨time, clock, read⟩ := orNow_run (task.endedAt.or task.lastEventAt) world
    exact ⟨some time, clock, Sync.bind_run_ok read⟩
  · exact ⟨none, world.host.clock, rfl⟩

theorem aside_clock (world : World) (clock : List Int) :
    Aside authority world { world with host := { world.host with clock := clock } } :=
  aside_of_sameFlows ⟨rfl, rfl, rfl, rfl, rfl, List.suffix_refl _⟩ rfl

/-- A mirrored flow follows its task aside. -/
theorem aside_syncFlowFromTask (task : TaskRecord) (world : World) :
    Sync.Related (Aside authority) (syncFlowFromTask task) world := by
  unfold syncFlowFromTask getTaskFlowById
  split
  · exact Sync.related_pure _ world
  · rename_i flowId key
    refine Sync.related_reads_bind ?_
    split
    · exact Sync.related_pure _ world
    · rename_i flow stored
      split
      · exact Sync.related_pure _ world
      · rename_i mirrored
        obtain ⟨updatedAt, firstClock, firstRead⟩ := orNow_run task.lastEventAt world
        obtain ⟨endedAt, clock, read⟩ := resolveMirroredEnd_run task
          { world with host := { world.host with clock := firstClock } }
        rw [Sync.Related, Sync.bind_run_ok firstRead, Sync.bind_run_ok read]
        refine trans_of (Aside authority) (aside_clock world clock) ?_
        refine (aside_updateFlowRecordByIdUnchecked fun current found => ?_).bind
          fun _ final _ => Sync.related_pure _ final
        have same : flow = current := Option.some.inj (stored.symm.trans found)
        exact ⟨by simp [mirroredFlowPatch], rfl, .mirrored (same ▸ not_not.1 mirrored)⟩

/-- A managed flow whose cancellation was requested is settled aside. -/
theorem aside_syncManagedFlowCancellationFromTask (task : TaskRecord) (world : World) :
    Sync.Related (Aside authority) (syncManagedFlowCancellationFromTask task) world := by
  unfold syncManagedFlowCancellationFromTask
  split
  · exact Sync.related_pure _ world
  · rename_i flowId key
    refine Sync.related_read_bind ?_
    split
    · exact Sync.related_pure _ world
    · split
      · exact Sync.related_pure _ world
      · exact (aside_orNow _ world).bind fun endedAt middle _ =>
          aside_settleCancelledFlow flowId endedAt 2 _ middle

end FlowRegistry

/-! ### What `updateTask` writes -/

/-- The record an update leaves: the merge of the patch, with some cleanup time. -/
def updatedRecord (current : TaskRecord) (patch : TaskPatch) (cleanupAfter : Option Int) :
    TaskRecord :=
  { current.merge patch with cleanupAfter := cleanupAfter }

theorem patchedTask_run (current : TaskRecord) (patch : TaskPatch) (world : World) :
    ∃ cleanupAfter clock, patchedTask current patch world =
      (.ok (updatedRecord current patch cleanupAfter),
        { world with host := { world.host with clock := clock } }) := by
  unfold patchedTask
  dsimp only
  split
  · obtain ⟨terminalAt, clock, read⟩ := orNow_run
      ((current.merge patch).endedAt.or (current.merge patch).lastEventAt) world
    exact ⟨_, clock, Sync.bind_run_ok read⟩
  · exact ⟨(current.merge patch).cleanupAfter, world.host.clock, rfl⟩

variable {taskId : String} {current : TaskRecord}

theorem updateTask_of_absent (patch : TaskPatch)
    (absent : world.tasks.get taskId = none) : updateTask taskId patch world = (.ok none, world) := by
  unfold updateTask
  rw [Sync.read_bind]
  simp only [absent, Sync.pure_run]

/-- The follow-ups of an update work aside. -/
theorem aside_persistUpdatedTask (next : TaskRecord) (world : World) :
    Sync.Related (Aside authority) (persistUpdatedTask next) world := by
  unfold persistUpdatedTask
  refine (aside_hostCall world).bind fun _ called _ => ?_
  refine ((aside_syncFlowFromTask next called).attempt fun _ failed _ =>
    Sync.related_pure _ failed).bind fun _ synced _ => ?_
  exact ((aside_syncManagedFlowCancellationFromTask next synced).attempt fun _ failed _ =>
    Sync.related_pure _ failed).bind fun _ final _ => Sync.related_pure _ final

/-- An update of a stored task reads the clock if it has to, writes the map and the indexes, and
persists. -/
theorem updateTask_run (patch : TaskPatch) (stored : world.tasks.get taskId = some current) :
    ∃ cleanupAfter clock, updateTask taskId patch world =
      persistUpdatedTask (updatedRecord current patch cleanupAfter)
        (writeUpdatedTask taskId current (updatedRecord current patch cleanupAfter) patch
          { world with host := { world.host with clock := clock } }) := by
  obtain ⟨cleanupAfter, clock, ran⟩ := patchedTask_run current patch world
  refine ⟨cleanupAfter, clock, ?_⟩
  unfold updateTask
  rw [Sync.read_bind]
  simp only [stored]
  rw [Sync.bind_run_ok ran, Sync.modify_bind]

/-- An update of a stored task writes the map and the indexes and then works aside. -/
theorem updateTask_of_stored (patch : TaskPatch) (stored : world.tasks.get taskId = some current) :
    ∃ cleanupAfter clock, Aside Authority.nothing
      (writeUpdatedTask taskId current (updatedRecord current patch cleanupAfter) patch
        { world with host := { world.host with clock := clock } })
      (updateTask taskId patch world).2 := by
  obtain ⟨cleanupAfter, clock, ran⟩ := updateTask_run patch stored
  refine ⟨cleanupAfter, clock, ?_⟩
  rw [ran]
  exact aside_persistUpdatedTask _ _

/-- What an update writes leaves the flow map and the host alone. -/
theorem writeUpdatedTask_frame (taskId : String) (current next : TaskRecord) (patch : TaskPatch)
    (world : World) :
    (writeUpdatedTask taskId current next patch world).tasks = world.tasks.set taskId next ∧
      (writeUpdatedTask taskId current next patch world).flows = world.flows ∧
      (writeUpdatedTask taskId current next patch world).host = world.host := by
  have byRunId (seen : World) : (reindexRunId current patch seen).tasks = seen.tasks ∧
      (reindexRunId current patch seen).flows = seen.flows ∧
      (reindexRunId current patch seen).host = seen.host := by
    unfold reindexRunId rebuildRunIdIndex
    split <;> exact ⟨rfl, rfl, rfl⟩
  have bySession (seen : World) : (reindexSessions taskId current next seen).tasks = seen.tasks ∧
      (reindexSessions taskId current next seen).flows = seen.flows ∧
      (reindexSessions taskId current next seen).host = seen.host := by
    unfold reindexSessions exchangeSessionIndexes
    split <;> exact ⟨rfl, rfl, rfl⟩
  have byParent (seen : World) : (reindexParentFlow taskId current next seen).tasks = seen.tasks ∧
      (reindexParentFlow taskId current next seen).flows = seen.flows ∧
      (reindexParentFlow taskId current next seen).host = seen.host := by
    unfold reindexParentFlow exchangeParentFlowIndex
    split <;> exact ⟨rfl, rfl, rfl⟩
  unfold writeUpdatedTask
  rw [(byParent _).1, (byParent _).2.1, (byParent _).2.2, (bySession _).1, (bySession _).2.1,
    (bySession _).2.2, (byRunId _).1, (byRunId _).2.1, (byRunId _).2.2]
  exact ⟨rfl, rfl, rfl⟩

@[simp] theorem writeUpdatedTask_tasks (taskId : String) (current next : TaskRecord)
    (patch : TaskPatch) (world : World) :
    (writeUpdatedTask taskId current next patch world).tasks = world.tasks.set taskId next :=
  (writeUpdatedTask_frame taskId current next patch world).1

@[simp] theorem writeUpdatedTask_flows (taskId : String) (current next : TaskRecord)
    (patch : TaskPatch) (world : World) :
    (writeUpdatedTask taskId current next patch world).flows = world.flows :=
  (writeUpdatedTask_frame taskId current next patch world).2.1

@[simp] theorem writeUpdatedTask_host (taskId : String) (current next : TaskRecord)
    (patch : TaskPatch) (world : World) :
    (writeUpdatedTask taskId current next patch world).host = world.host :=
  (writeUpdatedTask_frame taskId current next patch world).2.2

/-- The task map after an update. -/
theorem updateTask_tasks (patch : TaskPatch) (stored : world.tasks.get taskId = some current) :
    ∃ cleanupAfter, (updateTask taskId patch world).2.tasks =
      world.tasks.set taskId (updatedRecord current patch cleanupAfter) := by
  obtain ⟨cleanupAfter, clock, aside⟩ := updateTask_of_stored patch stored
  exact ⟨cleanupAfter, by rw [aside.tables.tasks, writeUpdatedTask_tasks]⟩

/-- The flow map after an update, whatever the task was. -/
theorem updateTask_flows (taskId : String) (patch : TaskPatch) (world : World) :
    FlowWrites Authority.nothing world.flows (updateTask taskId patch world).2.flows := by
  cases stored : world.tasks.get taskId with
  | none => rw [updateTask_of_absent patch stored]
  | some current =>
    obtain ⟨cleanupAfter, clock, aside⟩ := updateTask_of_stored patch stored
    have writes := aside.flows
    rw [writeUpdatedTask_flows] at writes
    exact writes

/-! ### What `insertTaskRecord` writes -/

theorem aside_upsertTaskDeliveryState (env : Env) (state : DeliveryStateParams) (world : World) :
    Sync.Related (Aside authority) (upsertTaskDeliveryState env state) world := by
  unfold upsertTaskDeliveryState
  refine Sync.related_read_bind ?_
  dsimp only
  split
  · exact Sync.related_pure _ world
  · refine Sync.Related.bind (Sync.related_modify ?_) fun _ written _ => aside_hostCall written
    exact aside_of_sameFlows ⟨rfl, rfl, rfl, rfl, rfl, List.suffix_refl _⟩ rfl

/-- The store call of the delivery state of a new record throws. -/
def DeliveryWriteThrows (env : Env) (world : World) (taskId : String)
    (origin : Option DeliveryContext) : Prop :=
  world.host.failures.head? = some true ∧
    ((normalizeDeliveryContext env (normalizeDeliveryContext env origin)).isSome ∨
      (world.taskDeliveryStates.get taskId).isSome)

theorem upsertTaskDeliveryState_throws {env : Env} {world middle : World}
    {origin : Option DeliveryContext} {error : TaskError}
    (ran : upsertTaskDeliveryState env
      { taskId := taskId, requesterOrigin := normalizeDeliveryContext env origin } world =
        (.error error, middle)) : DeliveryWriteThrows env world taskId origin := by
  unfold upsertTaskDeliveryState at ran
  rw [Sync.read_bind] at ran
  dsimp only at ran
  split at ran
  · simp at ran
  · rename_i writes
    rw [Sync.modify_bind] at ran
    have flag := hostCall_throws ran
    refine ⟨flag, ?_⟩
    by_contra neither
    simp only [not_or, Option.isSome_iff_ne_none, not_not] at neither
    exact writes (by simp [neither.1, neither.2])

/-- A new record is put into the map and indexed, unless the store call of its delivery state
throws in between. -/
theorem insertTaskRecord_cases (env : Env) (record : TaskRecord) (origin : Option DeliveryContext)
    (world : World) :
    Aside Authority.nothing (addIndexes record.taskId record (putTask record.taskId record world))
        (insertTaskRecord env record origin world).2 ∨
      DeliveryWriteThrows env world record.taskId origin ∧
        Aside Authority.nothing (putTask record.taskId record world)
          (insertTaskRecord env record origin world).2 := by
  unfold insertTaskRecord
  rw [Sync.modify_bind]
  have upsert : Sync.Related (Aside Authority.nothing) _ _ :=
    aside_upsertTaskDeliveryState env
      { taskId := record.taskId, requesterOrigin := normalizeDeliveryContext env origin }
      (putTask record.taskId record world)
  unfold Sync.Related at upsert
  cases ran : upsertTaskDeliveryState env
      { taskId := record.taskId, requesterOrigin := normalizeDeliveryContext env origin }
      (putTask record.taskId record world) with
  | mk outcome middle =>
    rw [ran] at upsert
    cases outcome with
    | error error =>
      right
      rw [Sync.bind_run_error ran]
      have throws := upsertTaskDeliveryState_throws ran
      exact ⟨throws, upsert⟩
    | ok _ =>
      left
      rw [Sync.bind_run_ok ran, Sync.modify_bind]
      have indexed : Aside Authority.nothing
          (addIndexes record.taskId record (putTask record.taskId record world))
          (addIndexes record.taskId record middle) :=
        ⟨upsert.tables.addIndexes record.taskId record, upsert.flows⟩
      refine trans_of (Aside Authority.nothing) indexed ?_
      refine (aside_hostCall _).bind fun _ called _ => ?_
      exact (aside_syncFlowFromTask record called).attempt fun _ failed _ =>
        Sync.related_pure _ failed

/-- The task map after an insertion. -/
theorem insertTaskRecord_tasks (env : Env) (record : TaskRecord) (origin : Option DeliveryContext)
    (world : World) : (insertTaskRecord env record origin world).2.tasks =
      world.tasks.set record.taskId record := by
  rcases insertTaskRecord_cases env record origin world with aside | ⟨-, aside⟩ <;>
    exact aside.tables.tasks

/-- The flow map after an insertion. -/
theorem insertTaskRecord_flows (env : Env) (record : TaskRecord) (origin : Option DeliveryContext)
    (world : World) : FlowWrites Authority.nothing world.flows
      (insertTaskRecord env record origin world).2.flows := by
  rcases insertTaskRecord_cases env record origin world with aside | ⟨-, aside⟩ <;>
    exact aside.flows

end OpenClaw.Tasks
