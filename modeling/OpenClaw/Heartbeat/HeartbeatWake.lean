/-
This file is the scheduler of heartbeat wakes: the wakes waiting for each target, the one timer,
and the batches whose handler calls are in progress.

The scheduler runs on one thread, so a step is what happens between two points at which it waits:
a request, a timer that fires, the end of a handler call, a registration, a disposal. A batch
waits in one handler call at a time. Registering a handler forgets the batches of the handler
before but does not end them, so several can be in progress. One clock is read for the due times
and for the timers, in whole milliseconds, and it does not go back.
-/

import OpenClaw.Base.OrderedMap
import OpenClaw.Base.Steps
import OpenClaw.Shared.Text

namespace OpenClaw.Heartbeat

open Text

/-! ### Reasons -/

inductive HeartbeatReasonKind
  | retry | interval | manual | execEvent | wake | cron | hook | other
  deriving DecidableEq

def normalizeHeartbeatWakeReason (reason : Option String) : String :=
  (normalizeOptionalString reason).getD "requested"

def startsWith (text front : String) : Bool := front.toList.isPrefixOf text.toList

def resolveHeartbeatReasonKind (reason : Option String) : HeartbeatReasonKind :=
  let trimmed := (normalizeOptionalString reason).getD ""
  if trimmed = "retry" then .retry
  else if trimmed = "interval" then .interval
  else if trimmed = "manual" then .manual
  else if trimmed = "exec-event" then .execEvent
  else if trimmed = "wake" then .wake
  else if startsWith trimmed "acp:spawn:" then .wake
  else if startsWith trimmed "cron:" then .cron
  else if startsWith trimmed "hook:" then .hook
  else .other

def isHeartbeatActionWakeReason (reason : Option String) : Bool :=
  let kind := resolveHeartbeatReasonKind reason
  kind = .manual || kind = .execEvent || kind = .hook

/-- The priorities of `REASON_PRIORITY`. -/
def resolveReasonPriority (reason : String) : ℕ :=
  let kind := resolveHeartbeatReasonKind (some reason)
  if kind = .retry then 0
  else if kind = .interval then 1
  else if isHeartbeatActionWakeReason (some reason) then 3
  else 2

/-! ### Wakes -/

/-- The agent and the session of a wake. -/
structure WakeTarget where
  agentId : Option String
  sessionKey : Option String
  deriving DecidableEq

/-- `normalizeWakeTarget` is `normalizeOptionalString`. -/
def WakeTarget.normalized (target : WakeTarget) : WakeTarget :=
  ⟨normalizeOptionalString target.agentId, normalizeOptionalString target.sessionKey⟩

def getWakeTargetKey (target : WakeTarget) : String :=
  target.normalized.agentId.getD "" ++ "::" ++ target.normalized.sessionKey.getD ""

/-- A `PendingWakeReason`, which is always made of normalised parts. -/
structure PendingWake where
  reason : String
  priority : ℕ
  requestedAt : ℕ
  target : WakeTarget
  reasonNormal : normalizeHeartbeatWakeReason (some reason) = reason
  targetNormal : target.normalized = target
  ranked : priority = resolveReasonPriority reason
  deriving DecidableEq

theorem normalizeHeartbeatWakeReason_again (reason : Option String) :
    normalizeHeartbeatWakeReason (some (normalizeHeartbeatWakeReason reason)) =
      normalizeHeartbeatWakeReason reason := by
  unfold normalizeHeartbeatWakeReason
  cases normalized : normalizeOptionalString reason with
  | none => decide
  | some value => rw [Option.getD_some, ← normalized, normalizeOptionalString_idem, normalized,
      Option.getD_some]

theorem WakeTarget.normalized_again (target : WakeTarget) :
    target.normalized.normalized = target.normalized := by
  simp [WakeTarget.normalized]

/-- The wake that a request makes. -/
def PendingWake.ofRequest (reason : Option String) (target : WakeTarget) (now : ℕ) : PendingWake where
  reason := normalizeHeartbeatWakeReason reason
  priority := resolveReasonPriority (normalizeHeartbeatWakeReason reason)
  requestedAt := now
  target := target.normalized
  reasonNormal := normalizeHeartbeatWakeReason_again reason
  targetNormal := target.normalized_again
  ranked := rfl

theorem PendingWake.ofRequest_priority (reason : Option String) (target : WakeTarget) (now : ℕ) :
    (PendingWake.ofRequest reason target now).priority =
      resolveReasonPriority (normalizeHeartbeatWakeReason reason) := by
  simp only [PendingWake.ofRequest]

theorem PendingWake.ofRequest_target (reason : Option String) (target : WakeTarget) (now : ℕ) :
    (PendingWake.ofRequest reason target now).target = target.normalized := by
  simp only [PendingWake.ofRequest]

/-! ### The state -/

inductive WakeTimerKind
  | normal | retry
  deriving DecidableEq

/-- The timer with the delay and the kind its callback keeps, and the time it fires at. -/
structure WakeTimer where
  dueAt : ℕ
  kind : WakeTimerKind
  delay : ℕ
  firesAt : ℕ
  deriving DecidableEq

/-- A batch in progress: it waits for the call of `current`, and `rest` come after. -/
structure WakeBatch where
  /-- The generation of the registration whose handler it calls. -/
  generation : ℕ
  /-- The delay of the timer that started it. -/
  delay : ℕ
  pendingBatch : List PendingWake
  current : PendingWake
  rest : List PendingWake
  deriving DecidableEq

/-- What happened, in order. -/
inductive WakeEntry
  /-- A handler was registered. -/
  | registered
  /-- A handler of a registration was called. -/
  | called (generation : ℕ) (target : WakeTarget) (reason : String) (time : ℕ)
  /-- A call was skipped because requests were in flight, or threw. -/
  | refused (target : WakeTarget) (time : ℕ)
  deriving DecidableEq

/-- The variables of the module, with the batches in progress, the clock and the history. -/
structure WakeState where
  handler : Option ℕ
  handlerGeneration : ℕ
  pendingWakes : OrderedMap String PendingWake
  scheduled : Bool
  running : Bool
  timer : Option WakeTimer
  batches : List WakeBatch
  now : ℕ
  history : List WakeEntry
  deriving DecidableEq

def WakeState.initial : WakeState := ⟨none, 0, ∅, false, false, none, [], 0, []⟩

/-! ### Waiting wakes -/

/-- Whether a wake takes the place of the one that waits under its key. -/
def PendingWake.replaces (next previous : PendingWake) : Bool :=
  next.priority > previous.priority ||
    next.priority = previous.priority && next.requestedAt ≥ previous.requestedAt

/-- `queuePendingWakeReason`. -/
def queuePendingWakeReason (state : WakeState) (reason : Option String) (target : WakeTarget) :
    WakeState :=
  let next := PendingWake.ofRequest reason target state.now
  let key := getWakeTargetKey next.target
  match state.pendingWakes.get key with
  | none => { state with pendingWakes := state.pendingWakes.set key next }
  | some previous =>
    if next.replaces previous then
      { state with pendingWakes := state.pendingWakes.set key next }
    else state

section Queue

variable (state : WakeState) (reason : Option String) (target : WakeTarget)

/-- Queueing changes the waiting wakes alone. -/
theorem queuePendingWakeReason_eq : queuePendingWakeReason state reason target =
    { state with pendingWakes := (queuePendingWakeReason state reason target).pendingWakes } := by
  unfold queuePendingWakeReason
  dsimp only
  split
  · rfl
  · split <;> rfl

@[simp] theorem queuePendingWakeReason_handler :
    (queuePendingWakeReason state reason target).handler = state.handler := by
  rw [queuePendingWakeReason_eq]

@[simp] theorem queuePendingWakeReason_handlerGeneration :
    (queuePendingWakeReason state reason target).handlerGeneration = state.handlerGeneration := by
  rw [queuePendingWakeReason_eq]

@[simp] theorem queuePendingWakeReason_running :
    (queuePendingWakeReason state reason target).running = state.running := by
  rw [queuePendingWakeReason_eq]

@[simp] theorem queuePendingWakeReason_batches :
    (queuePendingWakeReason state reason target).batches = state.batches := by
  rw [queuePendingWakeReason_eq]

end Queue

/-- A wake of a batch is queued again. -/
def queueAgain (state : WakeState) (wake : PendingWake) : WakeState :=
  queuePendingWakeReason state (some wake.reason) wake.target

/-! ### The timer -/

def defaultCoalesceMs : ℕ := 250

def defaultRetryMs : ℕ := 1000

/-- What `setTimeout` makes of a delay: it takes those from 1 to 2^31 - 1 and else waits for 1. -/
def timeoutDelay (delay : ℕ) : ℕ := if 1 ≤ delay ∧ delay < 2 ^ 31 then delay else 1

/-- `schedule`, with a delay that is finite. -/
def schedule (state : WakeState) (delay : ℕ) (kind : WakeTimerKind) : WakeState :=
  let dueAt := state.now + delay
  let armed := { state with timer := some ⟨dueAt, kind, delay, state.now + timeoutDelay delay⟩ }
  match state.timer with
  | none => armed
  | some timer =>
    if timer.kind = .retry then state
    else if timer.dueAt ≤ dueAt then state
    else armed

section Schedule

variable (state : WakeState) (delay : ℕ) (kind : WakeTimerKind)

/-- A retry timer and one that is due in time are kept; else the timer is armed anew. -/
theorem schedule_cases :
    (∃ timer, state.timer = some timer ∧ schedule state delay kind = state ∧
      (timer.kind = .retry ∨ timer.dueAt ≤ state.now + delay)) ∨
    ((∀ timer, state.timer = some timer → timer.kind = .normal ∧ state.now + delay < timer.dueAt) ∧
      schedule state delay kind = { state with
        timer := some ⟨state.now + delay, kind, delay, state.now + timeoutDelay delay⟩ }) := by
  cases armed : state.timer with
  | none =>
    right
    simp [schedule, armed]
  | some timer =>
    cases own : timer.kind with
    | retry =>
      left
      exact ⟨timer, rfl, by simp [schedule, armed, own], .inl own⟩
    | normal =>
      by_cases early : timer.dueAt ≤ state.now + delay
      · left
        exact ⟨timer, rfl, by simp [schedule, armed, own, early], .inr early⟩
      · right
        refine ⟨fun _ same => ?_, by simp [schedule, armed, own, early]⟩
        injection same with same
        exact same ▸ ⟨own, Nat.lt_of_not_le early⟩

/-- Scheduling changes the timer alone. -/
theorem schedule_eq : schedule state delay kind =
    { state with timer := (schedule state delay kind).timer } := by
  obtain ⟨_, _, same, _⟩ | ⟨_, same⟩ := schedule_cases state delay kind <;> rw [same]

theorem schedule_timer_isSome : (schedule state delay kind).timer.isSome := by
  obtain ⟨timer, armed, same, _⟩ | ⟨_, same⟩ := schedule_cases state delay kind
  · rw [same, armed]
    rfl
  · rw [same]
    rfl

@[simp] theorem schedule_handler : (schedule state delay kind).handler = state.handler := by
  rw [schedule_eq]

@[simp] theorem schedule_handlerGeneration :
    (schedule state delay kind).handlerGeneration = state.handlerGeneration := by
  rw [schedule_eq]

@[simp] theorem schedule_pendingWakes :
    (schedule state delay kind).pendingWakes = state.pendingWakes := by
  rw [schedule_eq]

@[simp] theorem schedule_running : (schedule state delay kind).running = state.running := by
  rw [schedule_eq]

@[simp] theorem schedule_batches : (schedule state delay kind).batches = state.batches := by
  rw [schedule_eq]

@[simp] theorem schedule_history : (schedule state delay kind).history = state.history := by
  rw [schedule_eq]

end Schedule

/-- The delay of a `coalesceMs`, which is missing where it is not finite. -/
def coalesceDelay (coalesceMs : Option ℤ) : ℕ := (coalesceMs.map Int.toNat).getD defaultCoalesceMs

/-! ### Batches -/

/-- The `finally` of a batch. -/
def finishBatch (state : WakeState) (delay : ℕ) : WakeState :=
  let state := { state with running := false }
  if state.pendingWakes.entries ≠ [] || state.scheduled then schedule state delay .normal
  else state

section Finish

variable (state : WakeState) (delay : ℕ)

/-- The end of a batch changes `running` and the timer alone. -/
theorem finishBatch_eq : finishBatch state delay =
    { state with running := false, timer := (finishBatch state delay).timer } := by
  unfold finishBatch
  dsimp only
  split
  · rw [schedule_eq]
  · rfl

@[simp] theorem finishBatch_handler : (finishBatch state delay).handler = state.handler := by
  rw [finishBatch_eq]

@[simp] theorem finishBatch_handlerGeneration :
    (finishBatch state delay).handlerGeneration = state.handlerGeneration := by
  rw [finishBatch_eq]

@[simp] theorem finishBatch_pendingWakes :
    (finishBatch state delay).pendingWakes = state.pendingWakes := by
  rw [finishBatch_eq]

@[simp] theorem finishBatch_running : (finishBatch state delay).running = false := by
  rw [finishBatch_eq]

@[simp] theorem finishBatch_batches : (finishBatch state delay).batches = state.batches := by
  rw [finishBatch_eq]

end Finish

/-- The loop over the wakes of a batch, up to the next handler call. -/
def continueBatch (state : WakeState) (generation delay : ℕ) (pendingBatch : List PendingWake) :
    List PendingWake → WakeState
  | [] => finishBatch state delay
  | current :: rest =>
    { state with
      batches := state.batches ++ [⟨generation, delay, pendingBatch, current, rest⟩]
      history := state.history ++ [.called generation current.target current.reason state.now] }

/-- The callback of the timer. -/
def fireTimer (state : WakeState) (timer : WakeTimer) : WakeState :=
  let state := { state with timer := none, scheduled := false }
  match state.handler with
  | none => state
  | some _ =>
    if state.running then schedule { state with scheduled := true } timer.delay timer.kind
    else
      let pendingBatch := state.pendingWakes.values
      let state := { state with pendingWakes := ∅, running := true }
      continueBatch state state.handlerGeneration timer.delay pendingBatch pendingBatch

/-- How a handler call ends. -/
inductive CallResult
  | ran
  | skipped (reason : String)
  | failed (reason : String)
  | thrown
  deriving DecidableEq

/-- A skip because of requests in flight, or a thrown error. -/
def CallResult.refuses (result : CallResult) : Bool :=
  result = .skipped "requests-in-flight" || result = .thrown

/-- What a batch does with the end of its call. -/
def settleCall (state : WakeState) (batch : WakeBatch) (result : CallResult) : WakeState :=
  let refused := { state with history := state.history ++ [.refused batch.current.target state.now] }
  match result with
  | .thrown =>
    finishBatch (schedule (batch.pendingBatch.foldl queueAgain refused) defaultRetryMs .retry)
      batch.delay
  | .skipped reason =>
    if reason = "requests-in-flight" then
      continueBatch (schedule (queueAgain refused batch.current) defaultRetryMs .retry)
        batch.generation batch.delay batch.pendingBatch batch.rest
    else continueBatch state batch.generation batch.delay batch.pendingBatch batch.rest
  | .ran | .failed _ =>
    continueBatch state batch.generation batch.delay batch.pendingBatch batch.rest

/-! ### Handlers -/

def setHeartbeatWakeHandler (state : WakeState) (next : Option ℕ) : WakeState :=
  let state := { state with handlerGeneration := state.handlerGeneration + 1, handler := next }
  match next with
  | none => state
  | some _ =>
    let state := { state with
      timer := none, running := false, scheduled := false
      history := state.history ++ [.registered] }
    if state.pendingWakes.entries ≠ [] then schedule state defaultCoalesceMs .normal else state

/-- The disposer of a registration. -/
def disposeHandler (state : WakeState) (generation : ℕ) (next : Option ℕ) : WakeState :=
  if state.handlerGeneration ≠ generation then state
  else if state.handler ≠ next then state
  else { state with handlerGeneration := state.handlerGeneration + 1, handler := none }

def requestHeartbeatNow (state : WakeState) (reason : Option String) (coalesceMs : Option ℤ)
    (target : WakeTarget) : WakeState :=
  schedule (queuePendingWakeReason state reason target) (coalesceDelay coalesceMs) .normal

/-! ### Steps -/

inductive WakeEvent
  /-- Time passes. -/
  | idle
  | request (reason : Option String) (coalesceMs : Option ℤ) (target : WakeTarget)
  | fire
  /-- The call of one of the batches ends. -/
  | settle (index : ℕ) (result : CallResult)
  | register (next : Option ℕ)
  | dispose (generation : ℕ) (next : Option ℕ)
  deriving DecidableEq

/-- What happens, once the clock reads the time it happens at. -/
def happen (state : WakeState) : WakeEvent → Option WakeState
  | .idle => some state
  | .request reason coalesceMs target => some (requestHeartbeatNow state reason coalesceMs target)
  | .fire => state.timer.bind fun timer =>
      if timer.firesAt ≤ state.now then some (fireTimer state timer) else none
  | .settle index result => state.batches[index]?.map fun batch =>
      settleCall { state with batches := state.batches.eraseIdx index } batch result
  | .register next => some (setHeartbeatWakeHandler state next)
  | .dispose generation next => some (disposeHandler state generation next)

/-- An event at a time that is not before the clock. -/
def step (state : WakeState) (event : ℕ × WakeEvent) : Option WakeState :=
  if state.now ≤ event.1 then happen { state with now := event.1 } event.2 else none

end OpenClaw.Heartbeat
