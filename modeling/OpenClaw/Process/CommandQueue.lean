/-
This file is the command queue: its lanes, the tasks they run, and those who wait for active
tasks to end.

The queue calls out while it works: a dequeued entry's `onWait` and the start of its task run in
the middle of a pump, and both may call the queue again. So the machine has a call stack. Its
frames are the pump loops that are under way, the callbacks above them, what a completion still
has to do after its pump, and the drain pass of `resetAllLanes`. A call comes from outside, with
the stack empty, or from the callback on top; every other step goes on with the frame on top. A
promise that is awaited and a timer go off only on an empty stack.

Whether an entry has waited beyond its `warnAfterMs`, what a task gives and when a timer fires is
left to the steps. With the state stands what is not in the code but told by the steps: the
entries accepted and started, the tasks that came to their completion, and what every promise was
settled with. `resetCommandQueueStateForTest`, which only tests call, is no step.
-/

import OpenClaw.Base.OrderedMap
import OpenClaw.Base.Steps
import OpenClaw.Shared.Text

namespace OpenClaw.CommandQueue

open Text

/-! ### Lanes, tasks and waiters -/

/-- What a task's promise comes to. -/
inductive Outcome
  | fulfilled (value : ℕ)
  | rejected (reason : ℕ)
  deriving DecidableEq

/-- What the promise of an enqueue call is settled with: the outcome of its task, a
`CommandLaneClearedError` or a `GatewayDrainingError`. -/
inductive Settlement
  | task (outcome : Outcome)
  | cleared
  | draining
  deriving DecidableEq

/-- A `QueueEntry`: the promise of its enqueue call, numbered in the order of the calls, and
whether it brought an `onWait`. -/
structure QueueEntry where
  promise : ℕ
  hasOnWait : Bool
  deriving DecidableEq

structure LaneState where
  queue : List QueueEntry := []
  activeTaskIds : List ℕ := []
  maxConcurrent : ℕ := 1
  draining : Bool := false
  generation : ℕ := 0
  deriving DecidableEq

/-- An `ActiveTaskWaiter`; its timer is armed as long as it is registered. -/
structure ActiveTaskWaiter where
  id : ℕ
  activeTaskIds : List ℕ
  deriving DecidableEq

/-- The variables of the function that runs a task. -/
structure Task where
  taskId : ℕ
  taskGeneration : ℕ
  lane : String
  entry : QueueEntry
  deriving DecidableEq

inductive Frame
  /-- The loop of a pump, before its condition. -/
  | pump (lane : String)
  /-- A dequeued entry's `onWait`. -/
  | onWait (lane : String) (entry : QueueEntry)
  /-- A task, up to where it returns its promise. -/
  | task (task : Task)
  /-- The end of a completion. -/
  | settling (entry : QueueEntry) (outcome : Outcome)
  /-- The drain pass of `resetAllLanes`, with the lanes to come. -/
  | resetting (lanes : List String)
  deriving DecidableEq

structure QueueState where
  gatewayDraining : Bool := false
  lanes : OrderedMap String LaneState := ∅
  activeTaskWaiters : List ActiveTaskWaiter := []
  nextTaskId : ℕ := 1
  stack : List Frame := []
  /-- The functions that await their task's promise. -/
  awaiting : List Task := []
  nextPromise : ℕ := 0
  nextWaiter : ℕ := 0
  accepted : List (String × QueueEntry) := []
  started : List Task := []
  completed : List (Task × Outcome) := []
  promises : List (ℕ × Settlement) := []
  waits : List (ℕ × Bool) := []
  deriving DecidableEq

def QueueState.initial : QueueState := {}

def normalizeLane (lane : String) : String := if trim lane = "" then "main" else trim lane

/-- The state of a lane, with the values `getLaneState` creates it with when there is none. -/
def QueueState.lane (state : QueueState) (lane : String) : LaneState :=
  (state.lanes.get lane).getD {}

def QueueState.setLane (state : QueueState) (lane : String) (laneState : LaneState) : QueueState :=
  { state with lanes := state.lanes.set lane laneState }

/-- The ids of all active tasks, lane by lane. -/
def QueueState.activeTasks (state : QueueState) : List ℕ :=
  state.lanes.values.flatMap LaneState.activeTaskIds

/-! ### Those who wait -/

def hasPendingActiveTasks (state : QueueState) (taskIds : List ℕ) : Bool :=
  state.lanes.values.any fun laneState => laneState.activeTaskIds.any taskIds.contains

def resolveActiveTaskWaiter (state : QueueState) (waiter : ActiveTaskWaiter) (drained : Bool) :
    QueueState :=
  if waiter ∈ state.activeTaskWaiters then
    { state with
      activeTaskWaiters := state.activeTaskWaiters.erase waiter
      waits := state.waits ++ [(waiter.id, drained)] }
  else state

def notifyActiveTaskWaiters (state : QueueState) : QueueState :=
  state.activeTaskWaiters.foldl
    (fun state waiter =>
      if waiter.activeTaskIds.isEmpty || !hasPendingActiveTasks state waiter.activeTaskIds then
        resolveActiveTaskWaiter state waiter true
      else state) state

def waitForActiveTasks (state : QueueState) (timeoutMs : ℤ) : QueueState :=
  let activeAtStart := state.activeTasks
  let waiter : ActiveTaskWaiter := ⟨state.nextWaiter, activeAtStart⟩
  let state := { state with nextWaiter := state.nextWaiter + 1 }
  if activeAtStart = [] then { state with waits := state.waits ++ [(waiter.id, true)] }
  else if timeoutMs ≤ 0 then { state with waits := state.waits ++ [(waiter.id, false)] }
  else notifyActiveTaskWaiters
    { state with activeTaskWaiters := state.activeTaskWaiters ++ [waiter] }

/-! ### Pumps -/

/-- `drainLane`: a pump of the lane goes on the stack, unless one is draining it. -/
def drainLane (state : QueueState) (lane : String) : QueueState :=
  if (state.lane lane).draining then state
  else
    let state := state.setLane lane { state.lane lane with draining := true }
    { state with stack := .pump lane :: state.stack }

/-- The start of a dequeued entry, up to the call of its task. -/
def startTask (state : QueueState) (lane : String) (entry : QueueEntry) : QueueState :=
  let laneState := state.lane lane
  let task : Task := ⟨state.nextTaskId, laneState.generation, lane, entry⟩
  let state := state.setLane lane
    { laneState with activeTaskIds := laneState.activeTaskIds ++ [task.taskId] }
  { state with
    nextTaskId := state.nextTaskId + 1
    started := state.started ++ [task]
    stack := .task task :: state.stack }

/-- One turn of the loop of a pump; `late` says that the entry has waited beyond its
`warnAfterMs`. The pump is the frame on top and `below` what is under it. -/
def pumpTurn (state : QueueState) (lane : String) (below : List Frame) (late : Bool) : QueueState :=
  let laneState := state.lane lane
  match laneState.queue with
  | entry :: queue =>
    if laneState.activeTaskIds.length < laneState.maxConcurrent then
      let state := state.setLane lane { laneState with queue }
      if late && entry.hasOnWait then { state with stack := .onWait lane entry :: state.stack }
      else startTask state lane entry
    else { state.setLane lane { laneState with draining := false } with stack := below }
  | [] => { state.setLane lane { laneState with draining := false } with stack := below }

/-- What a task's function does after its `await`: `completeTask`, and when the lane is still of
the task's generation the waiters are told and the lane is pumped. The frame of the task, if it
had one, is gone already. -/
def completeTask (state : QueueState) (task : Task) (outcome : Outcome) : QueueState :=
  let state := { state with completed := state.completed ++ [(task, outcome)] }
  let laneState := state.lane task.lane
  if task.taskGeneration = laneState.generation then
    let state := notifyActiveTaskWaiters (state.setLane task.lane
      { laneState with activeTaskIds := laneState.activeTaskIds.filter (· ≠ task.taskId) })
    { state with stack := .pump task.lane :: .settling task.entry outcome :: state.stack }
  else { state with stack := .settling task.entry outcome :: state.stack }

/-! ### The calls -/

def enqueueCommandInLane (state : QueueState) (lane : String) (hasOnWait : Bool) : QueueState :=
  let entry : QueueEntry := ⟨state.nextPromise, hasOnWait⟩
  let state := { state with nextPromise := state.nextPromise + 1 }
  if state.gatewayDraining then
    { state with promises := state.promises ++ [(entry.promise, .draining)] }
  else
    let cleaned := normalizeLane lane
    let laneState := state.lane cleaned
    let state := state.setLane cleaned { laneState with queue := laneState.queue ++ [entry] }
    drainLane { state with accepted := state.accepted ++ [(cleaned, entry)] } cleaned

/-- `setCommandLaneConcurrency`, for a whole number. -/
def setCommandLaneConcurrency (state : QueueState) (lane : String) (maxConcurrent : ℤ) :
    QueueState :=
  let cleaned := normalizeLane lane
  drainLane (state.setLane cleaned
    { state.lane cleaned with maxConcurrent := (max 1 maxConcurrent).toNat }) cleaned

def clearCommandLane (state : QueueState) (lane : String) : QueueState :=
  let cleaned := normalizeLane lane
  match state.lanes.get cleaned with
  | none => state
  | some laneState =>
    { state.setLane cleaned { laneState with queue := [] } with
      promises := state.promises ++ laneState.queue.map fun entry => (entry.promise, .cleared) }

/-- `resetAllLanes`, up to its drain pass. -/
def resetAllLanes (state : QueueState) : QueueState :=
  let lanesToDrain := (state.lanes.entries.filter fun entry => !entry.2.queue.isEmpty).map Prod.fst
  { state with
    gatewayDraining := false
    lanes := state.lanes.mapValues fun _ laneState =>
      { laneState with
        generation := laneState.generation + 1, activeTaskIds := [], draining := false }
    stack := .resetting lanesToDrain :: state.stack }

inductive Call
  | enqueueCommandInLane (lane : String) (hasOnWait : Bool)
  | setCommandLaneConcurrency (lane : String) (maxConcurrent : ℤ)
  | clearCommandLane (lane : String)
  | markGatewayDraining
  | resetAllLanes
  | waitForActiveTasks (timeoutMs : ℤ)
  deriving DecidableEq

def runCall (state : QueueState) : Call → QueueState
  | .enqueueCommandInLane lane hasOnWait => enqueueCommandInLane state lane hasOnWait
  | .setCommandLaneConcurrency lane maxConcurrent =>
    setCommandLaneConcurrency state lane maxConcurrent
  | .clearCommandLane lane => clearCommandLane state lane
  | .markGatewayDraining => { state with gatewayDraining := true }
  | .resetAllLanes => resetAllLanes state
  | .waitForActiveTasks timeoutMs => waitForActiveTasks state timeoutMs

/-! ### The machine -/

inductive Action
  /-- A call of the queue, from outside or from the callback on top. -/
  | call (call : Call)
  /-- The code of the queue goes on with the frame on top. -/
  | resume (late : Bool)
  /-- The `onWait` on top returns or throws. -/
  | onWaitReturns
  /-- The task on top returns a promise. -/
  | taskReturns
  /-- The task on top throws. -/
  | taskThrows (reason : ℕ)
  /-- A promise that is awaited is settled. -/
  | taskSettles (taskId : ℕ) (outcome : Outcome)
  /-- The timer of a waiter fires. -/
  | timeout (waiterId : ℕ)
  deriving DecidableEq

/-- Whether code from outside is running. -/
def callsMayCome : List Frame → Bool
  | [] | .onWait _ _ :: _ | .task _ :: _ => true
  | _ => false

/-- The frame on top goes on. -/
def resumeFrame (state : QueueState) (late : Bool) : Option QueueState :=
  match state.stack with
  | .pump lane :: below => some (pumpTurn state lane below late)
  | .settling entry outcome :: below =>
    some { state with
      stack := below, promises := state.promises ++ [(entry.promise, .task outcome)] }
  | .resetting (lane :: lanes) :: below =>
    some (drainLane { state with stack := .resetting lanes :: below } lane)
  | .resetting [] :: below => some (notifyActiveTaskWaiters { state with stack := below })
  | _ => none

def step (state : QueueState) : Action → Option QueueState
  | .call call => if callsMayCome state.stack then some (runCall state call) else none
  | .resume late => resumeFrame state late
  | .onWaitReturns =>
    match state.stack with
    | .onWait lane entry :: below => some (startTask { state with stack := below } lane entry)
    | _ => none
  | .taskReturns =>
    match state.stack with
    | .task task :: below =>
      some { state with stack := below, awaiting := state.awaiting ++ [task] }
    | _ => none
  | .taskThrows reason =>
    match state.stack with
    | .task task :: below =>
      some (completeTask { state with stack := below } task (.rejected reason))
    | _ => none
  | .taskSettles taskId outcome =>
    if state.stack = [] then
      match state.awaiting.find? (·.taskId = taskId) with
      | some task =>
        some (completeTask { state with awaiting := state.awaiting.erase task } task outcome)
      | none => none
    else none
  | .timeout waiterId =>
    if state.stack = [] then
      match state.activeTaskWaiters.find? (·.id = waiterId) with
      | some waiter => some (resolveActiveTaskWaiter state waiter false)
      | none => none
    else none

/-- The states the queue can come to. -/
def Reachable (state : QueueState) : Prop :=
  Machine.Reachable step QueueState.initial state

end OpenClaw.CommandQueue
