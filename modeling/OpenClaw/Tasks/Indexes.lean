/-
This file is about the four lookup indexes of the task registry: by run id, by
owner key, by parent flow id and by related session key.

`updateTask` maintains them incrementally, `deleteTaskRecordById` rebuilds one
and edits the others, and every write is followed by store calls that can throw.
All of that keeps them equal to the indexes recomputed from the task map. The
exception is `createTaskRecord`: it writes the map, then the delivery state, and
only then the indexes, so a store that throws at the delivery state leaves a
task behind that no index mentions.
-/

import OpenClaw.Tasks.StepWrites

namespace OpenClaw.Tasks

open Text KeyedIndex

/-! ### Indexes that agree with the task map -/

/-- The four indexes have the keys, and under each key the tasks, of the indexes recomputed from
the task map. -/
structure IndexesConsistent (world : World) : Prop where
  runId : Equivalent world.taskIdsByRunId (rebuild runIdKeys world.tasks)
  ownerKey : Equivalent world.taskIdsByOwnerKey (rebuild ownerKeys world.tasks)
  parentFlowId : Equivalent world.taskIdsByParentFlowId (rebuild parentFlowKeys world.tasks)
  relatedSessionKey :
    Equivalent world.taskIdsByRelatedSessionKey (rebuild relatedSessionKeys world.tasks)

/-- Each index lists exactly the tasks that carry a key, and lists no key without a task. -/
structure Indexed (world : World) : Prop where
  runId : Exact runIdKeys world.tasks world.taskIdsByRunId
  ownerKey : Exact ownerKeys world.tasks world.taskIdsByOwnerKey
  parentFlowId : Exact parentFlowKeys world.tasks world.taskIdsByParentFlowId
  relatedSessionKey : Exact relatedSessionKeys world.tasks world.taskIdsByRelatedSessionKey

theorem indexed_iff_consistent (world : World) : Indexed world ↔ IndexesConsistent world := by
  constructor
  · rintro ⟨runId, ownerKey, parentFlowId, relatedSessionKey⟩
    exact ⟨exact_iff_equivalent_rebuild.1 runId, exact_iff_equivalent_rebuild.1 ownerKey,
      exact_iff_equivalent_rebuild.1 parentFlowId, exact_iff_equivalent_rebuild.1 relatedSessionKey⟩
  · rintro ⟨runId, ownerKey, parentFlowId, relatedSessionKey⟩
    exact ⟨exact_iff_equivalent_rebuild.2 runId, exact_iff_equivalent_rebuild.2 ownerKey,
      exact_iff_equivalent_rebuild.2 parentFlowId, exact_iff_equivalent_rebuild.2 relatedSessionKey⟩

/-- The indexes only depend on the tables. -/
theorem Indexed.of_sameTables {world next : World} (indexed : Indexed world)
    (same : SameTables world next) : Indexed next := by
  obtain ⟨tasks, byRunId, byOwnerKey, byParentFlowId, byRelatedSessionKey, -⟩ := same
  constructor
  · rw [tasks, byRunId]
    exact indexed.runId
  · rw [tasks, byOwnerKey]
    exact indexed.ownerKey
  · rw [tasks, byParentFlowId]
    exact indexed.parentFlowId
  · rw [tasks, byRelatedSessionKey]
    exact indexed.relatedSessionKey

/-! ### Updating -/

section Updating

variable {world : World} {taskId : String} {current next : TaskRecord}

/-- Tasks with the same normalised session keys have the same session index keys. -/
theorem sessionKeys_eq (sameOwner : normalizeOptionalString (some current.ownerKey) =
      normalizeOptionalString (some next.ownerKey))
    (sameChild : normalizeOptionalString current.childSessionKey =
      normalizeOptionalString next.childSessionKey) :
    ownerKeys next = ownerKeys current ∧ relatedSessionKeys next = relatedSessionKeys current := by
  unfold ownerKeys relatedSessionKeys
  rw [sameOwner, sameChild]
  exact ⟨rfl, rfl⟩

/-- Tasks whose parent flow ids trim alike have the same parent-flow index key. -/
theorem parentFlowKeys_eq
    (same : current.parentFlowId.map trim = next.parentFlowId.map trim) :
    parentFlowKeys next = parentFlowKeys current := by
  unfold parentFlowKeys normalizeOptionalString
  rw [same]

theorem exact_reindexRunId {patch : TaskPatch} (exact : Exact runIdKeys world.tasks
      world.taskIdsByRunId) (stored : world.tasks.get taskId = some current)
    (keepsRunId : patch.runId = none) (sameRunId : next.runId = current.runId) :
    Exact runIdKeys (world.tasks.set taskId next)
      (reindexRunId current patch (putTask taskId next world)).taskIdsByRunId := by
  unfold reindexRunId
  rw [if_neg (by simp [keepsRunId, nonEmpty])]
  refine exact.overwrite stored ?_
  unfold runIdKeys
  rw [sameRunId]

/-- The run-id rebuild does not look at the other indexes. -/
theorem reindexRunId_others (current : TaskRecord) (patch : TaskPatch) (world : World) :
    (reindexRunId current patch world).taskIdsByOwnerKey = world.taskIdsByOwnerKey ∧
      (reindexRunId current patch world).taskIdsByParentFlowId = world.taskIdsByParentFlowId ∧
      (reindexRunId current patch world).taskIdsByRelatedSessionKey =
        world.taskIdsByRelatedSessionKey := by
  unfold reindexRunId rebuildRunIdIndex
  split <;> exact ⟨rfl, rfl, rfl⟩

theorem reindexSessions_others (taskId : String) (current next : TaskRecord) (world : World) :
    (reindexSessions taskId current next world).taskIdsByRunId = world.taskIdsByRunId ∧
      (reindexSessions taskId current next world).taskIdsByParentFlowId =
        world.taskIdsByParentFlowId := by
  unfold reindexSessions exchangeSessionIndexes
  split <;> exact ⟨rfl, rfl⟩

theorem reindexParentFlow_others (taskId : String) (current next : TaskRecord) (world : World) :
    (reindexParentFlow taskId current next world).taskIdsByRunId = world.taskIdsByRunId ∧
      (reindexParentFlow taskId current next world).taskIdsByOwnerKey = world.taskIdsByOwnerKey ∧
      (reindexParentFlow taskId current next world).taskIdsByRelatedSessionKey =
        world.taskIdsByRelatedSessionKey := by
  unfold reindexParentFlow exchangeParentFlowIndex
  split <;> exact ⟨rfl, rfl, rfl⟩

/-- The session indexes follow the task, whether or not they are exchanged. -/
theorem exact_reindexSessions {tasks : OrderedMap String TaskRecord} (next : TaskRecord)
    (ownerKey : Exact ownerKeys tasks world.taskIdsByOwnerKey)
    (related : Exact relatedSessionKeys tasks world.taskIdsByRelatedSessionKey)
    (stored : tasks.get taskId = some current) :
    Exact ownerKeys (tasks.set taskId next)
        (reindexSessions taskId current next world).taskIdsByOwnerKey ∧
      Exact relatedSessionKeys (tasks.set taskId next)
        (reindexSessions taskId current next world).taskIdsByRelatedSessionKey := by
  unfold reindexSessions exchangeSessionIndexes
  split
  · dsimp only
    exact ⟨ownerKey.exchange stored next, related.exchange stored next⟩
  · rename_i unchanged
    rw [not_or, not_not, not_not] at unchanged
    obtain ⟨sameOwner, sameRelated⟩ := sessionKeys_eq unchanged.1 unchanged.2
    exact ⟨ownerKey.overwrite stored sameOwner, related.overwrite stored sameRelated⟩

/-- The parent-flow index follows the task, whether or not it is exchanged. -/
theorem exact_reindexParentFlow {tasks : OrderedMap String TaskRecord}
    (exact : Exact parentFlowKeys tasks world.taskIdsByParentFlowId)
    (stored : tasks.get taskId = some current) :
    Exact parentFlowKeys (tasks.set taskId next)
      (reindexParentFlow taskId current next world).taskIdsByParentFlowId := by
  unfold reindexParentFlow exchangeParentFlowIndex
  split
  · dsimp only
    exact exact.exchange stored next
  · rename_i unchanged
    exact exact.overwrite stored (parentFlowKeys_eq (not_not.1 unchanged))

theorem Indexed.writeUpdatedTask {patch : TaskPatch} (indexed : Indexed world)
    (stored : world.tasks.get taskId = some current) (keepsRunId : patch.runId = none)
    (sameRunId : next.runId = current.runId) :
    Indexed (writeUpdatedTask taskId current next patch world) := by
  have tasks := writeUpdatedTask_tasks taskId current next patch world
  unfold OpenClaw.Tasks.writeUpdatedTask at tasks ⊢
  obtain ⟨runIdOwner, runIdParent, runIdRelated⟩ :=
    reindexRunId_others current patch (putTask taskId next world)
  obtain ⟨sessionRunId, sessionParent⟩ := reindexSessions_others taskId current next
    (reindexRunId current patch (putTask taskId next world))
  obtain ⟨parentRunId, parentOwner, parentRelated⟩ := reindexParentFlow_others taskId current next
    (reindexSessions taskId current next (reindexRunId current patch (putTask taskId next world)))
  have sessions : Exact ownerKeys (world.tasks.set taskId next) _ ∧
      Exact relatedSessionKeys (world.tasks.set taskId next) _ :=
    exact_reindexSessions next (runIdOwner ▸ indexed.ownerKey)
      (runIdRelated ▸ indexed.relatedSessionKey) stored
  constructor
  · rw [tasks, parentRunId, sessionRunId]
    exact exact_reindexRunId indexed.runId stored keepsRunId sameRunId
  · rw [tasks, parentOwner]
    exact sessions.1
  · rw [tasks]
    refine exact_reindexParentFlow ?_ stored
    rw [sessionParent, runIdParent]
    exact indexed.parentFlowId
  · rw [tasks, parentRelated]
    exact sessions.2

end Updating

/-! ### Inserting and erasing -/

/-- A record no index has to mention. -/
def Unindexed (record : TaskRecord) : Prop :=
  runIdKeys record = [] ∧ ownerKeys record = [] ∧ parentFlowKeys record = [] ∧
    relatedSessionKeys record = []

theorem Indexed.insert {world : World} (indexed : Indexed world) {record : TaskRecord}
    (fresh : world.tasks.get record.taskId = none) :
    Indexed (addIndexes record.taskId record (putTask record.taskId record world)) := by
  unfold addIndexes putTask
  constructor <;> dsimp only
  · exact indexed.runId.insert fresh record
  · exact indexed.ownerKey.insert fresh record
  · exact indexed.parentFlowId.insert fresh record
  · exact indexed.relatedSessionKey.insert fresh record

/-- A record without keys needs no index. -/
theorem Indexed.insert_unindexed {world : World} (indexed : Indexed world) {record : TaskRecord}
    (fresh : world.tasks.get record.taskId = none) (unindexed : Unindexed record) :
    Indexed (putTask record.taskId record world) := by
  obtain ⟨noRunId, noOwnerKey, noParentFlowId, noRelated⟩ := unindexed
  have inserted := indexed.insert fresh
  unfold addIndexes at inserted
  rw [noRunId, noOwnerKey, noParentFlowId, noRelated] at inserted
  exact ⟨inserted.runId, inserted.ownerKey, inserted.parentFlowId, inserted.relatedSessionKey⟩

theorem Indexed.erase {world : World} (indexed : Indexed world) {taskId : String}
    {current : TaskRecord} (stored : world.tasks.get taskId = some current) :
    Indexed (eraseTask taskId current world) := by
  unfold eraseTask rebuildRunIdIndex
  constructor <;> dsimp only
  · exact exact_rebuild runIdKeys _
  · exact indexed.ownerKey.erase stored
  · exact indexed.parentFlowId.erase stored
  · exact indexed.relatedSessionKey.erase stored

/-! ### Writes keep the indexes -/

/-- Every record the authority inserts is inserted whole, or has no index key. -/
def InsertsWhole (env : Env) (authority : Authority) : Prop :=
  ∀ world record origin, authority.inserts world record origin →
    DeliveryWriteThrows env world record.taskId origin → Unindexed record

theorem Write.indexed {env : Env} {authority : Authority} {world next : World}
    (write : Write env authority world next) (whole : InsertsWhole env authority)
    (indexed : Indexed world) : Indexed next := by
  cases write with
  | aside tables flows => exact indexed.of_sameTables tables
  | update taskId patch legit =>
    cases stored : world.tasks.get taskId with
    | none =>
      rw [updateTask_of_absent patch stored]
      exact indexed
    | some current =>
      obtain ⟨cleanupAfter, clock, aside⟩ := updateTask_of_stored patch stored
      have ticked : Indexed { world with host := { world.host with clock := clock } } :=
        ⟨indexed.runId, indexed.ownerKey, indexed.parentFlowId, indexed.relatedSessionKey⟩
      refine Indexed.of_sameTables (ticked.writeUpdatedTask stored legit.keepsRunId ?_) aside.tables
      simp [updatedRecord, TaskRecord.merge, legit.keepsRunId]
  | insert record origin legit =>
    rcases insertTaskRecord_cases env record origin world with aside | ⟨throws, aside⟩
    · exact (indexed.insert legit.fresh).of_sameTables aside.tables
    · have unindexed := whole world record origin legit.granted throws
      exact (indexed.insert_unindexed legit.fresh unindexed).of_sameTables aside.tables
  | erase taskId current stored granted => exact indexed.erase stored

theorem Writes.indexed {env : Env} {authority : Authority} {world next : World}
    (writes : Writes env authority world next) (whole : InsertsWhole env authority)
    (indexed : Indexed world) : Indexed next := by
  induction writes with
  | refl => exact indexed
  | tail _ write inductionHypothesis => exact write.indexed whole inductionHypothesis

/-! ### Runs -/

/-- The step creates a record that has an index key and a delivery state to write, and the first
store call of the step, which is the one for the delivery state, throws. -/
structure HalfInserts (env : Env) (state : State) (input : Input) (taskId : String)
    (params : CreateTaskParams) (record : TaskRecord) : Prop where
  creation : creationOf (prepared input state.world) input.action = some (taskId, params)
  creates : CreatesRecord (prepared input state.world) taskId params record
  throws : input.failures.head? = some true
  writesDeliveryState :
    (normalizeDeliveryContext env (normalizeDeliveryContext env params.requesterOrigin)).isSome ∨
      (state.world.taskDeliveryStates.get taskId).isSome
  indexed : ¬ Unindexed record

/-- The steps after which the indexes agree with the task map. -/
def IndexesWholeInserts (env : Env) (state : State) (input : Input) : Prop :=
  ∀ taskId params record, ¬ HalfInserts env state input taskId params record

theorem insertsWhole_of_guard {env : Env} {state : State} {input : Input}
    (admitted : IndexesWholeInserts env state input) :
    InsertsWhole env (authorityOf state (prepared input state.world) input.action) := by
  rintro middle record origin ⟨taskId, params, creation, creates, rfl, failures, states⟩ throws
  by_contra keys
  refine admitted taskId params record ⟨creation, creates, ?_, ?_, keys⟩
  · have flag := throws.1
    rw [failures] at flag
    exact flag
  · have written := throws.2
    obtain ⟨now, built⟩ := creates.built
    have known : record.taskId = taskId := by rw [built, newTaskRecord]
    rw [states, known] at written
    exact written

theorem indexed_step {env : Env} {state next : State} {input : Input} (booked : Booked state)
    (indexed : Indexed state.world) (admitted : IndexesWholeInserts env state input)
    (taken : step env state input = some next) : Indexed next.world := by
  refine (step_writes booked taken).indexed (insertsWhole_of_guard admitted) ?_
  exact ⟨indexed.runId, indexed.ownerKey, indexed.parentFlowId, indexed.relatedSessionKey⟩

/-- Restoring rebuilds all four indexes. -/
theorem indexed_restored (tasks : Option TaskSnapshot) (flows : Option FlowSnapshot) :
    Indexed (restored tasks flows).world := by
  have rebuilt : Indexed (restoreTaskRegistry tasks {}) := by
    cases tasks with
    | none => exact ⟨exact_empty _, exact_empty _, exact_empty _, exact_empty _⟩
    | some snapshot =>
      exact ⟨exact_rebuild _ _, exact_rebuild _ _, exact_rebuild _ _, exact_rebuild _ _⟩
  show Indexed (restoreFlowRegistry flows (restoreTaskRegistry tasks {}))
  unfold restoreFlowRegistry
  split
  · exact rebuilt
  · split
    · exact rebuilt
    · exact ⟨rebuilt.runId, rebuilt.ownerKey, rebuilt.parentFlowId, rebuilt.relatedSessionKey⟩

/-- In every run without a half-finished insertion, whatever else the stores throw, the indexes
agree with the task map in every state. -/
theorem indexes_consistent_of_whole_inserts (env : Env) (tasks : Option TaskSnapshot)
    (flows : Option FlowSnapshot) (inputs : List Input) (final : State)
    (run : Machine.Steps (step env) (IndexesWholeInserts env) (restored tasks flows) inputs final) :
    IndexesConsistent final.world := by
  rw [← indexed_iff_consistent]
  have preserved : ∀ state input next, Booked state ∧ Indexed state.world →
      IndexesWholeInserts env state input → step env state input = some next →
        Booked next ∧ Indexed next.world := by
    rintro state input next ⟨booked, indexed⟩ admitted taken
    exact ⟨booked.step taken, indexed_step booked indexed admitted taken⟩
  exact (run.invariant preserved ⟨booked_restored tasks flows, indexed_restored tasks flows⟩).2

/-- A task with a run and a requester, created while some store calls throw. -/
def insertWithFailures (failures : List Bool) : Input where
  action := .createTaskRecord "task-1"
    { runtime := .cli
      ownerKey := some "agent:main:main"
      scopeKind := some .session
      requesterOrigin := some { channel := some "telegram", to' := some "42" }
      runId := some "run-1"
      task := "build" }
  failures := failures
  clock := [1000]

/-- A store that throws at the task record leaves consistent indexes. -/
theorem indexes_consistent_after_failed_task_write :
    ∃ final, Machine.Steps (step telegramEnv) (IndexesWholeInserts telegramEnv)
      (restored none none) [insertWithFailures [false, true]] final ∧
        IndexesConsistent final.world := by
  have evaluated : (Machine.execute (step telegramEnv) (restored none none)
      [insertWithFailures [false, true]]).isSome := by decide +kernel
  obtain ⟨final, ran⟩ := Option.isSome_iff_exists.1 evaluated
  have run : Machine.Steps (step telegramEnv) (IndexesWholeInserts telegramEnv)
      (restored none none) [insertWithFailures [false, true]] final := by
    refine (Machine.steps_of_execute ran).promote fun input member state => ?_
    rw [List.mem_singleton.1 member]
    intro taskId params record half
    simpa [insertWithFailures] using half.throws
  exact ⟨final, run, indexes_consistent_of_whole_inserts telegramEnv none none _ final run⟩

/-- After a half-finished insertion the task is in the map and no index mentions it. -/
theorem indexes_inconsistent_after_half_insert :
    ¬ ∀ (env : Env) (tasks : Option TaskSnapshot) (flows : Option FlowSnapshot)
      (inputs : List Input) (final : State),
      Machine.Steps (step env) Machine.Unguarded (restored tasks flows) inputs final →
        IndexesConsistent final.world := by
  intro claimed
  have evaluated : (Machine.execute (step telegramEnv) (restored none none) [insertWithFailures [true]]).map
      (fun final => ((final.world.tasks.get "task-1").map runIdKeys,
        (lookup final.world.taskIdsByRunId "run-1").elements)) = some (some ["run-1"], []) := by
    decide +kernel
  obtain ⟨final, ran, shown⟩ := Option.map_eq_some_iff.1 evaluated
  obtain ⟨stored, unlisted⟩ := Prod.mk.inj shown
  obtain ⟨record, found, keys⟩ := Option.map_eq_some_iff.1 stored
  have consistent := claimed telegramEnv none none [insertWithFailures [true]] final (Machine.steps_of_execute ran)
  have exact := ((indexed_iff_consistent final.world).2 consistent).runId
  have listed : "task-1" ∈ lookup final.world.taskIdsByRunId "run-1" :=
    (exact.found "run-1" "task-1").2 ⟨record, found, by rw [keys]; exact List.mem_singleton_self _⟩
  have member : "task-1" ∈ (lookup final.world.taskIdsByRunId "run-1").elements := listed
  rw [unlisted] at member
  exact List.not_mem_nil member

end OpenClaw.Tasks
