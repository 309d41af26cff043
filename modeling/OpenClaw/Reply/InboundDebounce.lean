/-
This file is `inbound-debounce.ts`: items of one key that come close together are handed on in
one call, through a buffer with a timer, and all work of a key runs on a chain of promises.

A chain is kept as the list of its tasks in the order in which they are put on it. A task waits
for the task that was the end of the chain when it came, and for its own release if it has
reserved its place before it is ready; a buffer is the task that flushes it. The timer of a buffer
may fire at any time once it is set. Whether a call of `onFlush` fails, and whether `onError`
fails on it, is part of the step that ends the call.
-/

import OpenClaw.Base.Steps
import OpenClaw.Shared.Text

namespace OpenClaw.InboundDebounce

open Text

/-- What a debouncer is made with. A number that is not finite is left out. -/
structure InboundDebounceCreateParams (Item : Type) where
  debounceMs : ℤ
  maxTrackedKeys : Option ℤ := none
  buildKey : Item → Option String
  shouldDebounce : Option (Item → Bool) := none
  resolveDebounceMs : Item → Option ℤ := fun _ => none

def defaultMaxTrackedKeys : ℤ := 2048

inductive Status
  | waiting
  | running
  | done
  deriving DecidableEq

/-- A task on the chain of a key. -/
structure Task (Item : Type) where
  items : List Item
  /-- The end of the chain when the task was put on it. -/
  previous : Option ℕ := none
  /-- The place is not reserved only, or has been released. -/
  ready : Bool
  /-- A task that the place is released after. -/
  behind : Option ℕ := none
  /-- The timer of a buffer is set. -/
  timeout : Bool := false
  status : Status := .waiting
  deriving DecidableEq

/-- What there is of one key. -/
structure Lane (Item : Type) where
  tasks : List (Task Item) := []
  /-- `buffers.get(key)`, as the place of its task. -/
  buffer : Option ℕ := none
  /-- `keyChains.get(key)`, as the place of the last task. -/
  keyChain : Option ℕ := none
  deriving DecidableEq

section Lanes

variable {Item : Type}

def Lane.modify (lane : Lane Item) (place : ℕ) (change : Task Item → Task Item) : Lane Item :=
  { lane with tasks := lane.tasks.modify place change }

/-- Puts a task at the end of the chain. -/
def enqueueKeyTask (lane : Lane Item) (task : Task Item) : Lane Item :=
  { lane with
    tasks := lane.tasks ++ [{ task with previous := lane.keyChain }]
    keyChain := some lane.tasks.length }

/-- Closes a buffer: no more items, no timer, and its task may run. -/
def flushBuffer (lane : Lane Item) (buffer : ℕ) : Lane Item :=
  let closed := lane.modify buffer fun task => { task with timeout := false, ready := true }
  if lane.buffer = some buffer then { closed with buffer := none } else closed

def flushKey (lane : Lane Item) : Lane Item :=
  match lane.buffer with
  | none => lane
  | some buffer => flushBuffer lane buffer

/-- An item that is not to be debounced: a place behind the buffer, a place on the chain, or
at once. -/
def enqueueImmediate (lane : Lane Item) (item : Item) : Lane Item × Option (List Item) :=
  match lane.buffer with
  | some buffer =>
    (flushKey (enqueueKeyTask lane { items := [item], ready := false, behind := some buffer }),
      none)
  | none =>
    if lane.keyChain.isSome then (enqueueKeyTask lane { items := [item], ready := true }, none)
    else (lane, some [item])

/-- An item that is to be debounced, if its key can be tracked. -/
def enqueueDebounced (lane : Lane Item) (item : Item) (canTrack : Bool) : Lane Item :=
  match lane.buffer with
  | some buffer =>
    lane.modify buffer fun task => { task with items := task.items ++ [item], timeout := true }
  | none =>
    if canTrack then
      { enqueueKeyTask lane { items := [item], ready := false, timeout := true } with
        buffer := some lane.tasks.length }
    else enqueueKeyTask lane { items := [item], ready := true }

def isDone (lane : Lane Item) (place : ℕ) : Bool :=
  lane.tasks[place]?.any (·.status = .done)

/-- The place reserved behind a buffer is released when the flush of the buffer has been awaited. -/
def release (lane : Lane Item) (place : ℕ) : Option (Lane Item) :=
  match lane.tasks[place]? with
  | none => none
  | some task =>
    if !task.ready && task.behind.any (isDone lane) then
      some (lane.modify place fun task => { task with ready := true })
    else none

/-- The next task of the chain runs: it calls `onFlush`, unless it has no items. -/
def start (lane : Lane Item) (place : ℕ) : Option (Lane Item × Option (List Item)) :=
  match lane.tasks[place]? with
  | none => none
  | some task =>
    if task.status = .waiting && task.ready && task.previous.all (isDone lane) then
      if task.items.isEmpty then
        some (lane.modify place fun task => { task with status := .done }, none)
      else some (lane.modify place fun task => { task with status := .running }, some task.items)
    else none

/-- How a call of `onFlush` ends. -/
inductive FlushOutcome
  | fulfilled
  | rejected (onErrorThrows : Bool)
  deriving DecidableEq

/-- `runFlush` throws neither what `onFlush` throws nor what `onError` does, so that the task is
done with every outcome. -/
def finish (lane : Lane Item) (place : ℕ) (_outcome : FlushOutcome) : Option (Lane Item) :=
  match lane.tasks[place]? with
  | none => none
  | some task =>
    if task.status = .running then
      some (lane.modify place fun task => { task with status := .done })
    else none

/-- The chain is dropped when its last task has settled. -/
def dropChain (lane : Lane Item) : Option (Lane Item) :=
  if lane.keyChain.any (isDone lane) then some { lane with keyChain := none } else none

/-- The timer of a buffer fires. -/
def fire (lane : Lane Item) (place : ℕ) : Option (Lane Item) :=
  if lane.tasks[place]?.any (·.timeout) then some (flushBuffer lane place) else none

end Lanes

/-! ### The debouncer -/

structure Debouncer (Item : Type) where
  lanes : String → Lane Item := fun _ => {}
  /-- The items that have been enqueued, in order. -/
  arrived : List Item := []
  /-- The calls of `onFlush` in order, each with the key of its items. -/
  calls : List (Option String × List Item) := []

inductive Action (Item : Type)
  | enqueue (item : Item)
  | timer (key : String) (place : ℕ)
  | flushKey (key : String)
  | release (key : String) (place : ℕ)
  | start (key : String) (place : ℕ)
  | finish (key : String) (place : ℕ) (outcome : FlushOutcome)
  | dropChain (key : String)
  deriving DecidableEq

section Debouncers

variable {Item : Type} (params : InboundDebounceCreateParams Item)

/-- The key of an item; an empty one is none. -/
def keyOf (item : Item) : Option String := nonEmpty (params.buildKey item)

def resolveDebounceMs (item : Item) : ℕ :=
  ((params.resolveDebounceMs item).getD params.debounceMs).toNat

def canDebounce (item : Item) : Bool :=
  0 < resolveDebounceMs params item &&
    (params.shouldDebounce.map fun shouldDebounce => shouldDebounce item).getD true

def maxTrackedKeys : ℕ := (max 1 (params.maxTrackedKeys.getD defaultMaxTrackedKeys)).toNat

def isTracked (state : Debouncer Item) (key : String) : Bool :=
  (state.lanes key).buffer.isSome || (state.lanes key).keyChain.isSome

def canTrackKey (state : Debouncer Item) (key : String) : Bool :=
  isTracked state key ||
    ((state.arrived.filterMap (keyOf params)).dedup.filter (isTracked state)).length <
      maxTrackedKeys params

def Debouncer.setLane (state : Debouncer Item) (key : String) (lane : Lane Item) :
    Debouncer Item :=
  { state with lanes := Function.update state.lanes key lane }

/-- Calls `onFlush`, or does not. -/
def Debouncer.call (state : Debouncer Item) (key : Option String) (items : Option (List Item)) :
    Debouncer Item :=
  { state with calls := state.calls ++ (items.map fun items => (key, items)).toList }

def enqueue (state : Debouncer Item) (item : Item) : Debouncer Item :=
  let arrival := { state with arrived := state.arrived ++ [item] }
  match keyOf params item with
  | none => arrival.call none (some [item])
  | some key =>
    let lane := state.lanes key
    if canDebounce params item then
      arrival.setLane key (enqueueDebounced lane item (canTrackKey params state key))
    else
      let (next, call) := enqueueImmediate lane item
      (arrival.setLane key next).call (some key) call

def step (state : Debouncer Item) : Action Item → Option (Debouncer Item)
  | .enqueue item => some (enqueue params state item)
  | .timer key place => (fire (state.lanes key) place).map (state.setLane key)
  | .flushKey key => some (state.setLane key (flushKey (state.lanes key)))
  | .release key place => (release (state.lanes key) place).map (state.setLane key)
  | .start key place =>
    (start (state.lanes key) place).map fun (lane, call) =>
      (state.setLane key lane).call (some key) call
  | .finish key place outcome =>
    (finish (state.lanes key) place outcome).map (state.setLane key)
  | .dropChain key => (dropChain (state.lanes key)).map (state.setLane key)

end Debouncers

end OpenClaw.InboundDebounce
