/-
This file is the core of `task-registry.ts`: the lookup indexes, the lookups by
run, and the two functions every write to an existing task or delivery state
goes through, `updateTask` and `upsertTaskDeliveryState`.

`updateTask` writes the map, then the indexes, then calls the store; only when
the store has accepted the task does it let the parent flow follow: a mirrored
flow takes the task's status, and a managed flow whose cancellation was
requested is cancelled once no child of it is active. Both follow-ups are
best-effort and swallow what they throw.
-/

import OpenClaw.Tasks.FlowRegistry

namespace OpenClaw.Tasks

open Text KeyedIndex

/-- `DEFAULT_TASK_RETENTION_MS`. -/
def defaultTaskRetentionMs : Int := 7 * 24 * 60 * 60000

/-! ### Index keys -/

/-- The key of the run-id index. -/
def runIdKeys (task : TaskRecord) : List String := (normalizeOptionalString task.runId).toList

/-- The key of the owner index. -/
def ownerKeys (task : TaskRecord) : List String :=
  (normalizeOptionalString (some task.ownerKey)).toList

/-- The key of the parent-flow index. -/
def parentFlowKeys (task : TaskRecord) : List String :=
  (normalizeOptionalString task.parentFlowId).toList

/-- `getTaskRelatedSessionIndexKeys`. -/
def relatedSessionKeys (task : TaskRecord) : List String :=
  ([normalizeOptionalString (some task.ownerKey),
    normalizeOptionalString task.childSessionKey].filterMap id).eraseDups

/-! ### Writing the maps and indexes -/

/-- `tasks.set(taskId, record)`. -/
def putTask (taskId : String) (record : TaskRecord) (world : World) : World :=
  { world with tasks := world.tasks.set taskId record }

/-- `rebuildRunIdIndex`. -/
def rebuildRunIdIndex (world : World) : World :=
  { world with taskIdsByRunId := rebuild runIdKeys world.tasks }

/-- `addRunIdIndex`, `addOwnerKeyIndex`, `addParentFlowIdIndex` and `addRelatedSessionKeyIndex`
of a new task. -/
def addIndexes (taskId : String) (record : TaskRecord) (world : World) : World :=
  { world with
    taskIdsByRunId := addAll (runIdKeys record) taskId world.taskIdsByRunId
    taskIdsByOwnerKey := addAll (ownerKeys record) taskId world.taskIdsByOwnerKey
    taskIdsByParentFlowId := addAll (parentFlowKeys record) taskId world.taskIdsByParentFlowId
    taskIdsByRelatedSessionKey :=
      addAll (relatedSessionKeys record) taskId world.taskIdsByRelatedSessionKey }

/-- `deleteOwnerKeyIndex`, `addOwnerKeyIndex`, `deleteRelatedSessionKeyIndex` and
`addRelatedSessionKeyIndex` of an updated task. -/
def exchangeSessionIndexes (taskId : String) (current next : TaskRecord) (world : World) : World :=
  { world with
    taskIdsByOwnerKey :=
      addAll (ownerKeys next) taskId (removeAll (ownerKeys current) taskId world.taskIdsByOwnerKey)
    taskIdsByRelatedSessionKey :=
      addAll (relatedSessionKeys next) taskId
        (removeAll (relatedSessionKeys current) taskId world.taskIdsByRelatedSessionKey) }

/-- `deleteParentFlowIdIndex` and `addParentFlowIdIndex` of an updated task. -/
def exchangeParentFlowIndex (taskId : String) (current next : TaskRecord) (world : World) : World :=
  { world with
    taskIdsByParentFlowId :=
      addAll (parentFlowKeys next) taskId
        (removeAll (parentFlowKeys current) taskId world.taskIdsByParentFlowId) }

/-! ### Lookups -/

/-- The tasks an index lists under a key, in the order of its set. -/
def tasksUnder (index : KeyedIndex String String) (tasks : OrderedMap String TaskRecord)
    (key : String) : List TaskRecord :=
  (lookup index key).elements.filterMap tasks.get

/-- `getTasksByRunId`. -/
def getTasksByRunId (world : World) (runId : String) : List TaskRecord :=
  tasksUnder world.taskIdsByRunId world.tasks (trim runId)

/-- `taskRunScopeKey`: the parts joined by a NUL character. -/
def taskRunScopeKey (task : TaskRecord) : String :=
  (String.singleton (Char.ofNat 0)).intercalate
    [task.runtime.toText, task.scopeKind.toText,
      (normalizeOptionalString (some task.ownerKey)).getD "",
      (normalizeOptionalString task.childSessionKey).getD ""]

/-- Whether two tasks agree in runtime, scope, owner and child session. -/
def sameRunPeer (left right : TaskRecord) : Bool :=
  left.runtime = right.runtime && left.scopeKind = right.scopeKind &&
    (normalizeOptionalString (some left.ownerKey)).getD "" =
      (normalizeOptionalString (some right.ownerKey)).getD "" &&
    (normalizeOptionalString left.childSessionKey).getD "" =
      (normalizeOptionalString right.childSessionKey).getD ""

/-- What `getTasksByRunScope` is called with. -/
structure RunScope where
  runId : String
  runtime : Option TaskRuntime := none
  sessionKey : Option String := none
  deriving DecidableEq, Repr

/-- `getTasksByRunScope`. -/
def getTasksByRunScope (world : World) (scope : RunScope) : List TaskRecord :=
  let matched := (getTasksByRunId world scope.runId).filter fun task =>
    scope.runtime.all fun runtime => task.runtime = runtime
  match normalizeOptionalString scope.sessionKey with
  | some sessionKey =>
    let childMatches := matched.filter fun task =>
      normalizeOptionalString task.childSessionKey = some sessionKey
    if childMatches ≠ [] then childMatches
    else matched.filter fun task =>
      task.scopeKind = .session && normalizeOptionalString (some task.ownerKey) = some sessionKey
  | none => if (matched.map taskRunScopeKey).eraseDups.length ≤ 1 then matched else []

/-- `getPeerTasksForDelivery`. -/
def getPeerTasksForDelivery (world : World) (task : TaskRecord) : List TaskRecord :=
  match normalizeOptionalString task.runId with
  | none => []
  | some runId => (getTasksByRunId world runId).filter fun candidate =>
      sameRunPeer candidate task

/-- `taskLookupPriority`. -/
def taskLookupPriority (task : TaskRecord) : Nat := if task.runtime = .cli then 1 else 0

/-- `pickPreferredRunIdTask`: lowest priority number first, then oldest first. -/
def pickPreferredRunIdTask (matched : List TaskRecord) : Option TaskRecord :=
  (matched.insertionSort fun left right =>
    taskLookupPriority left < taskLookupPriority right ∨
      taskLookupPriority left = taskLookupPriority right ∧ left.createdAt ≤ right.createdAt).head?

/-- `listTasksFromIndex`: newest first, and the later insertion first among equals. -/
def listTasksFromIndex (index : KeyedIndex String String) (tasks : OrderedMap String TaskRecord)
    (key : String) : List TaskRecord :=
  (tasksUnder index tasks key).reverse.insertionSort fun left right =>
    right.createdAt ≤ left.createdAt

/-- `listTasksForFlowId`. -/
def listTasksForFlowId (world : World) (flowId : String) : List TaskRecord :=
  match normalizeOptionalString (some flowId) with
  | none => []
  | some key => listTasksFromIndex world.taskIdsByParentFlowId world.tasks key

/-- `findLatestTaskForFlowId`. -/
def findLatestTaskForFlowId (world : World) (flowId : String) : Option TaskRecord :=
  (listTasksForFlowId world flowId).head?

/-- Whether some child of a flow is queued or running. -/
def hasActiveChild (world : World) (flowId : String) : Bool :=
  (listTasksForFlowId world flowId).any fun task => isActiveTaskStatus task.status

/-! ### Field resolution -/

/-- `normalizeTaskSummary`. -/
def normalizeTaskSummary (value : Option String) : Option String :=
  nonEmpty (value.map fun text => trim (collapseWhiteSpace text))

/-- `resolveTaskTerminalOutcome`. -/
def resolveTaskTerminalOutcome (status : TaskStatus) (outcome : Option TaskTerminalOutcome) :
    Option TaskTerminalOutcome :=
  match outcome with
  | some outcome => some outcome
  | none => if status = .succeeded then some .succeeded else none

/-- `ensureDeliveryStatus`. -/
def ensureDeliveryStatus (ownerKey : String) (scopeKind : TaskScopeKind) : TaskDeliveryStatus :=
  match scopeKind with
  | .system => .notApplicable
  | .session => if trim ownerKey ≠ "" then .pending else .parentMissing

/-- `ensureNotifyPolicy`. -/
def ensureNotifyPolicy (notifyPolicy : Option TaskNotifyPolicy)
    (deliveryStatus : Option TaskDeliveryStatus) (ownerKey : String) (scopeKind : TaskScopeKind) :
    TaskNotifyPolicy :=
  match notifyPolicy with
  | some policy => policy
  | none =>
    if deliveryStatus.getD (ensureDeliveryStatus ownerKey scopeKind) = .notApplicable then .silent
    else .doneOnly

/-- `appendTaskEvent`. -/
def appendTaskEvent (occurredAt : Int) (kind : TaskEventKind) (summary : Option String) :
    TaskEventRecord :=
  { at' := occurredAt, kind := kind, summary := normalizeTaskSummary summary }

/-! ### Settling a managed flow -/

/-- Whether `syncManagedFlowCancellationFromTask` has a flow to settle. -/
def awaitsCancellation (flow : TaskFlowRecord) : Bool :=
  flow.syncMode = .managed && flow.cancelRequestedAt.isSome && !isTerminalFlowStatus flow.status

/-- The loop of `syncManagedFlowCancellationFromTask`: at most `attempts` writes, each against
the revision read last. -/
def settleCancelledFlow (flowId : String) (endedAt : Int) : Nat → TaskFlowRecord → Section Unit
  | 0, _ => pure ()
  | attempts + 1, flow => do
    match ← updateFlowRecordByIdExpectedRevision flowId flow.revision
        (cancelledFlowPatch endedAt) with
    | .applied _ => pure ()
    | .notFound => pure ()
    | .revisionConflict current => do
      let world ← Sync.read
      if !awaitsCancellation current || hasActiveChild world flowId then pure ()
      else settleCancelledFlow flowId endedAt attempts current

/-- `syncManagedFlowCancellationFromTask`. -/
def syncManagedFlowCancellationFromTask (task : TaskRecord) : Section Unit := do
  match normalizeOptionalString task.parentFlowId with
  | none => pure ()
  | some flowId => do
    let world ← Sync.read
    match world.flows.get flowId with
    | none => pure ()
    | some flow =>
      if !awaitsCancellation flow || hasActiveChild world flowId then pure ()
      else do
        let endedAt ← orNow (task.endedAt.or task.lastEventAt)
        settleCancelledFlow flowId endedAt 2 flow

/-! ### The two writers -/

/-- The record `updateTask` writes: a task that is terminal gets a cleanup time. -/
def patchedTask (current : TaskRecord) (patch : TaskPatch) : Section TaskRecord :=
  let next := current.merge patch
  if isTerminalTaskStatus next.status && next.cleanupAfter.isNone then do
    let terminalAt ← orNow (next.endedAt.or next.lastEventAt)
    pure { next with cleanupAfter := some (terminalAt + defaultTaskRetentionMs) }
  else pure next

/-- The run-id index is rebuilt when the patch names another run. -/
def reindexRunId (current : TaskRecord) (patch : TaskPatch) (world : World) : World :=
  if (nonEmpty patch.runId).isSome ∧ patch.runId ≠ current.runId then rebuildRunIdIndex world
  else world

/-- The owner and session indexes are exchanged when `sessionIndexChanged`. -/
def reindexSessions (taskId : String) (current next : TaskRecord) (world : World) : World :=
  if normalizeOptionalString (some current.ownerKey) ≠
        normalizeOptionalString (some next.ownerKey) ∨
      normalizeOptionalString current.childSessionKey ≠
        normalizeOptionalString next.childSessionKey then
    exchangeSessionIndexes taskId current next world
  else world

/-- The parent-flow index is exchanged when `parentFlowIndexChanged`. -/
def reindexParentFlow (taskId : String) (current next : TaskRecord) (world : World) : World :=
  if current.parentFlowId.map trim ≠ next.parentFlowId.map trim then
    exchangeParentFlowIndex taskId current next world
  else world

/-- The map write and the index maintenance of `updateTask`. -/
def writeUpdatedTask (taskId : String) (current next : TaskRecord) (patch : TaskPatch)
    (world : World) : World :=
  reindexParentFlow taskId current next <|
    reindexSessions taskId current next <|
      reindexRunId current patch (putTask taskId next world)

/-- What `updateTask` does once the maps are written: the store first, then the parent flow. -/
def persistUpdatedTask (next : TaskRecord) : Section (Option TaskRecord) := do
  hostCall
  Sync.attempt (syncFlowFromTask next) fun _ => pure ()
  Sync.attempt (syncManagedFlowCancellationFromTask next) fun _ => pure ()
  pure (some next)

/-- `updateTask`. -/
def updateTask (taskId : String) (patch : TaskPatch) : Section (Option TaskRecord) := do
  let world ← Sync.read
  match world.tasks.get taskId with
  | none => pure none
  | some current => do
    let next ← patchedTask current patch
    Sync.modify (writeUpdatedTask taskId current next patch)
    persistUpdatedTask next

/-- What `upsertTaskDeliveryState` is called with. -/
structure DeliveryStateParams where
  taskId : String
  requesterOrigin : Option DeliveryContext := none
  lastNotifiedEventAt : Option Int := none

/-- `upsertTaskDeliveryState`: nothing is written when there is nothing to say and nothing to
overwrite. -/
def upsertTaskDeliveryState (env : Env) (state : DeliveryStateParams) : Section Unit := do
  let world ← Sync.read
  let next : TaskDeliveryState :=
    { taskId := state.taskId
      requesterOrigin := normalizeDeliveryContext env state.requesterOrigin
      lastNotifiedEventAt := state.lastNotifiedEventAt }
  if next.requesterOrigin.isNone && next.lastNotifiedEventAt.isNone &&
      (world.taskDeliveryStates.get state.taskId).isNone then
    pure ()
  else do
    Sync.modify fun world =>
      { world with taskDeliveryStates := world.taskDeliveryStates.set state.taskId next }
    hostCall

end OpenClaw.Tasks
