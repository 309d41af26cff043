/-
This file is the part of the ACP agent that answers prompts: the prompts that are pending, the
requests it waits for on their behalf, and the grace timer that covers them while the gateway is
away.

Each await ends a step. What has been started and not finished is kept in lists, from which any
may go on next, and what a request answers is chosen by the step. The texts and tool calls of a
run, the session snapshots and the log are left out. Beside the source stand the prompts, and what
every step does to a prompt or to an active run, with the run that the step is about.
-/

import OpenClaw.Base.OrderedMap
import OpenClaw.Base.Steps
import OpenClaw.Shared.Text

namespace OpenClaw.Acp

open Text

/-! ### Prompts -/

/-- Each disconnect makes one, with a generation of its own that tells it from all others. -/
structure DisconnectContext where
  generation : ℕ
  reason : String
  deriving DecidableEq

structure PendingPrompt where
  sessionId : String
  sessionKey : String
  /-- The run of the prompt. -/
  idempotencyKey : String
  sendAccepted : Bool := false
  disconnectContext : Option DisconnectContext := none
  deriving DecidableEq

/-- Whether a disconnect is the one that a prompt is pending since. -/
def PendingPrompt.since (pending : PendingPrompt) (context : DisconnectContext) : Bool :=
  pending.disconnectContext.map DisconnectContext.generation = some context.generation

/-- A session; it has an abort controller while it has an active run. -/
structure AcpSession where
  sessionKey : String
  activeRunId : Option String := none
  deriving DecidableEq

inductive StopReason
  | endTurn | maxTokens | cancelled
  deriving DecidableEq

/-- How the promise of a prompt is settled. -/
inductive PromptOutcome
  | resolved (stopReason : StopReason)
  | rejected (error : String)
  deriving DecidableEq

/-- What a step about one run does to a run: it settles its prompt, takes it from the pending
ones, or clears it as the active run of its session. -/
inductive EffectKind
  | settles (outcome : PromptOutcome)
  | unregisters
  | clears
  deriving DecidableEq

structure Effect where
  cause : String
  kind : EffectKind
  run : String
  deriving DecidableEq

/-! ### What is under way -/

/-- A `cancel` whose `chat.abort` has not returned, with the run of the prompt it found pending. -/
structure CancelCall where
  sessionId : String
  scopedRunId : String
  pending : Option String
  deriving DecidableEq

/-- A final chat event whose message is being forwarded, with the run of the prompt it found. -/
structure FinalEvent where
  cause : String
  sessionId : String
  pending : String
  stopReason : StopReason
  deriving DecidableEq

/-- A prompt that `finishPrompt` resolves once the session snapshot is sent. -/
structure FinishingPrompt where
  cause : String
  run : String
  stopReason : StopReason
  deriving DecidableEq

/-- Where a reconciliation stands: it waits for `agent.wait`, or has been told of one prompt
whether the timer must be kept for it. -/
inductive ReconcilePhase
  | waiting (sessionId runId : String) (context : DisconnectContext)
  | returned (shouldKeepPending : Bool)
  deriving DecidableEq

/-- A run of `reconcilePendingPrompts`, with the prompts it has still to look at. -/
structure Reconciliation where
  observedDisconnectGeneration : ℕ
  deadlineExpired : Bool
  remaining : List (String × String)
  keepDisconnectTimer : Bool
  phase : ReconcilePhase
  deriving DecidableEq

structure AcpState where
  sessions : OrderedMap String AcpSession
  pendingPrompts : OrderedMap String PendingPrompt := ∅
  disconnectGeneration : ℕ := 0
  activeDisconnectContext : Option DisconnectContext := none
  /-- The generation that the grace timer was armed for. -/
  disconnectTimer : Option ℕ := none
  /-- Sessions and runs whose `chat.send` has not been answered. -/
  sends : List (String × String) := []
  cancels : List CancelCall := []
  finals : List FinalEvent := []
  finishing : List FinishingPrompt := []
  reconciliations : List Reconciliation := []
  /-- The prompts there were, by session and run. -/
  prompts : List (String × String) := []
  effects : List Effect := []
  deriving DecidableEq

namespace AcpState

/-- The sessions there are, none of them with an active run. -/
def initial (sessionKeys : OrderedMap String String) : AcpState where
  sessions := sessionKeys.mapValues fun _ sessionKey => { sessionKey }

variable (state : AcpState)

/-- `getPendingPrompt`. -/
def getPendingPrompt (sessionId runId : String) : Option PendingPrompt :=
  (state.pendingPrompts.get sessionId).filter fun pending => pending.idempotencyKey = runId

/-- `findPendingBySessionKey`. -/
def findPendingBySessionKey (sessionKey : String) (runId : Option String) :
    Option PendingPrompt :=
  state.pendingPrompts.values.find? fun pending =>
    pending.sessionKey = sessionKey &&
      (nonEmpty runId).all fun runId => pending.idempotencyKey = runId

def activeRunId (sessionId : String) : Option String :=
  (state.sessions.get sessionId).bind AcpSession.activeRunId

/-! ### Effects -/

/-- Settles the promise of a run. -/
def settle (cause run : String) (outcome : PromptOutcome) : AcpState :=
  { state with effects := state.effects ++ [⟨cause, .settles outcome, run⟩] }

/-- `this.pendingPrompts.delete(sessionId)`, whoever is pending there. -/
def unregister (cause sessionId : String) : AcpState :=
  { state with
    pendingPrompts := state.pendingPrompts.delete sessionId
    effects := state.effects ++ ((state.pendingPrompts.get sessionId).map fun pending =>
      ⟨cause, .unregisters, pending.idempotencyKey⟩).toList }

/-- `clearActiveRun`, and what `cancelActiveRun` does to the session. -/
def clearActiveRun (cause sessionId : String) : AcpState :=
  match state.sessions.get sessionId with
  | none => state
  | some session => { state with
      sessions := state.sessions.set sessionId { session with activeRunId := none }
      effects := state.effects ++
        (session.activeRunId.map fun run => ⟨cause, .clears, run⟩).toList }

def clearDisconnectTimer : AcpState := { state with disconnectTimer := none }

/-- The timer is cleared with the last pending prompt. -/
def clearTimerIfIdle : AcpState :=
  if state.pendingPrompts.entries = [] then state.clearDisconnectTimer else state

def armDisconnectTimer (context : DisconnectContext) : AcpState :=
  { state with disconnectTimer := some context.generation }

/-- `finishPrompt`, to its first await. -/
def finishPrompt (cause sessionId run : String) (stopReason : StopReason) : AcpState :=
  let state := ((state.unregister cause sessionId).clearActiveRun cause sessionId).clearTimerIfIdle
  { state with finishing := state.finishing ++ [⟨cause, run, stopReason⟩] }

/-- `rejectPendingPrompt`. -/
def rejectPendingPrompt (cause : String) (pending : PendingPrompt) (error : String) : AcpState :=
  match state.getPendingPrompt pending.sessionId pending.idempotencyKey with
  | none => state
  | some _ =>
    (((state.unregister cause pending.sessionId).clearActiveRun cause
      pending.sessionId).clearTimerIfIdle).settle cause pending.idempotencyKey (.rejected error)

/-! ### Prompts and their requests -/

/-- A prompt is registered as pending, and its message is sent. -/
def registerPrompt (sessionId runId : String) (session : AcpSession) : AcpState :=
  { state with
    sessions := state.sessions.set sessionId { session with activeRunId := some runId }
    pendingPrompts := state.pendingPrompts.set sessionId {
      sessionId, sessionKey := session.sessionKey, idempotencyKey := runId
      disconnectContext := state.activeDisconnectContext }
    sends := state.sends ++ [(sessionId, runId)]
    prompts := state.prompts ++ [(sessionId, runId)] }

/-- A prompt that comes while the gateway is away arms the timer if it is not armed. -/
def armIfAway : AcpState :=
  match state.activeDisconnectContext with
  | some context =>
    if state.disconnectTimer.isNone then state.armDisconnectTimer context else state
  | none => state

/-- `prompt`, to the promise it returns; a prompt that is not `valid` throws after it has
superseded the active run. -/
def prompt (sessionId runId : String) (valid : Bool) : AcpState :=
  match state.sessions.get sessionId with
  | none => state
  | some session =>
    if valid then (state.registerPrompt sessionId runId session).armIfAway
    else { state with
      sessions := state.sessions.set sessionId { session with activeRunId := none } }

/-- The send of a prompt is accepted, at the first attempt or without its provenance. -/
def sendAccepted (sessionId runId : String) : AcpState :=
  match state.getPendingPrompt sessionId runId with
  | none => state
  | some pending => { state with
      pendingPrompts := state.pendingPrompts.set sessionId { pending with sendAccepted := true } }

/-- A refused send of a run whose prompt stays pending, since only the gateway has closed. -/
def waitsForGateway (sessionId runId : String) (gatewayClosed : Bool) : Bool :=
  gatewayClosed && (state.getPendingPrompt sessionId runId).isSome

/-- The send of a prompt is refused. -/
def sendRefused (sessionId runId error : String) (gatewayClosed : Bool) : AcpState :=
  if state.waitsForGateway sessionId runId gatewayClosed then state
  else (((state.unregister runId sessionId).clearActiveRun runId sessionId).clearTimerIfIdle).settle
    runId runId (.rejected error)

/-- `cancel`, to its request. -/
def cancel (sessionId : String) : AcpState :=
  let pending := (state.pendingPrompts.get sessionId).map PendingPrompt.idempotencyKey
  match (state.activeRunId sessionId).or pending with
  | none => state
  | some scopedRunId =>
    let state := state.clearActiveRun scopedRunId sessionId
    { state with cancels := state.cancels ++ [⟨sessionId, scopedRunId, pending⟩] }

/-- What `cancel` does once `chat.abort` has returned. -/
def cancelReturned (call : CancelCall) : AcpState :=
  match call.pending with
  | none => state
  | some run => ((state.unregister call.scopedRunId call.sessionId).clearTimerIfIdle).settle
      call.scopedRunId run (.resolved .cancelled)

/-! ### Chat events -/

/-- `handleChatEvent`, to its first await. -/
def handleChatEvent (sessionKey chatState : String) (runId : Option String) (hasMessage : Bool)
    (rawStopReason : Option String) : AcpState :=
  if sessionKey = "" ∨ chatState = "" then state
  else match state.findPendingBySessionKey sessionKey runId with
    | none => state
    | some pending =>
      let cause := (nonEmpty runId).getD pending.idempotencyKey
      let stopReason := if rawStopReason = some "max_tokens" then .maxTokens else .endTurn
      if chatState = "final" then
        if hasMessage then { state with
          finals := state.finals ++
            [⟨cause, pending.sessionId, pending.idempotencyKey, stopReason⟩] }
        else state.finishPrompt cause pending.sessionId pending.idempotencyKey stopReason
      else if chatState = "aborted" then
        state.finishPrompt cause pending.sessionId pending.idempotencyKey .cancelled
      else if chatState = "error" then
        state.finishPrompt cause pending.sessionId pending.idempotencyKey .endTurn
      else state

/-- A final event goes on once its message has been forwarded. -/
def finalForwarded (event : FinalEvent) : AcpState :=
  state.finishPrompt event.cause event.sessionId event.pending event.stopReason

/-! ### Disconnects -/

def handleGatewayDisconnect (reason : String) : AcpState :=
  let context : DisconnectContext := ⟨state.disconnectGeneration + 1, reason⟩
  let next := { state with
    disconnectGeneration := context.generation
    activeDisconnectContext := some context
    pendingPrompts := state.pendingPrompts.mapValues fun _ pending =>
      { pending with disconnectContext := some context } }
  if state.pendingPrompts.entries = [] then next else next.armDisconnectTimer context

/-- A prompt that a reconciliation has still to ask about: it is pending, since that disconnect. -/
def isDue (generation : ℕ) (entry : String × String) : Bool :=
  (state.getPendingPrompt entry.1 entry.2).any fun pending =>
    pending.disconnectContext.map DisconnectContext.generation = some generation

/-- The context of the pending prompt of a session. -/
def contextOf (sessionId : String) : Option DisconnectContext :=
  (state.pendingPrompts.get sessionId).bind PendingPrompt.disconnectContext

/-- The loop of `reconcilePendingPrompts`, to its next await or to its end. -/
def reconcileNext (observedDisconnectGeneration : ℕ) (deadlineExpired : Bool)
    (remaining : List (String × String)) (keepDisconnectTimer : Bool) : AcpState :=
  match remaining.dropWhile fun entry => !state.isDue observedDisconnectGeneration entry with
  | (sessionId, runId) :: rest =>
    match state.contextOf sessionId with
    | some context => { state with
        reconciliations := state.reconciliations ++ [{
          observedDisconnectGeneration, deadlineExpired, remaining := rest, keepDisconnectTimer
          phase := .waiting sessionId runId context }] }
    | none => state
  | [] =>
    if !keepDisconnectTimer && state.disconnectGeneration = observedDisconnectGeneration then
      state.clearDisconnectTimer
    else state

/-- `reconcilePendingPrompts`, to its first await. -/
def reconcilePendingPrompts (observedDisconnectGeneration : ℕ) (deadlineExpired : Bool) :
    AcpState :=
  if state.pendingPrompts.entries = [] then
    if state.disconnectGeneration = observedDisconnectGeneration then state.clearDisconnectTimer
    else state
  else state.reconcileNext observedDisconnectGeneration deadlineExpired
    (state.pendingPrompts.entries.map fun entry => (entry.1, entry.2.idempotencyKey)) false

def handleGatewayReconnect : AcpState :=
  match state.activeDisconnectContext with
  | none => state
  | some context =>
    { state with activeDisconnectContext := none }.reconcilePendingPrompts context.generation false

/-- The grace timer fires. -/
def disconnectTimerFires (generation : ℕ) : AcpState :=
  state.clearDisconnectTimer.reconcilePendingPrompts generation true

/-! ### Answers of `agent.wait` -/

inductive WaitAnswer
  | ok | error | other
  /-- The request has failed. -/
  | failed
  deriving DecidableEq

def shouldRejectPendingAtDisconnectDeadline (pending : PendingPrompt)
    (context : DisconnectContext) : Bool :=
  pending.since context &&
    (!pending.sendAccepted || state.activeDisconnectContext.map DisconnectContext.generation =
      some context.generation)

/-- `clearPendingDisconnectState`. -/
def clearPendingDisconnectState (pending : PendingPrompt) (context : DisconnectContext) :
    AcpState :=
  if pending.since context then { state with
    pendingPrompts := state.pendingPrompts.set pending.sessionId
      { pending with disconnectContext := none } }
  else state

/-- The deadline of a prompt that is pending and has no answer. -/
def meetDeadline (pending : PendingPrompt) (context : DisconnectContext) : AcpState :=
  if state.shouldRejectPendingAtDisconnectDeadline pending context then
    state.rejectPendingPrompt pending.idempotencyKey pending
      ("Gateway disconnected: " ++ context.reason)
  else state.clearPendingDisconnectState pending context

/-- `reconcilePendingPrompt` after its request: what it does, and whether the timer must be kept.
A prompt that is pending no more is not touched, whatever the answer. -/
def reconcilePendingPrompt (sessionId runId : String) (context : DisconnectContext)
    (deadlineExpired : Bool) (answer : WaitAnswer) : AcpState × Bool :=
  match state.getPendingPrompt sessionId runId with
  | none => (state, answer = .failed && !deadlineExpired)
  | some pending =>
    match answer with
    | .ok | .error => (state.finishPrompt runId sessionId runId .endTurn, false)
    | .other | .failed =>
      if deadlineExpired then (state.meetDeadline pending context, false) else (state, true)

/-- A reconciliation that waits is told of a prompt. -/
def waitAnswered (reconciliation : Reconciliation) (answer : WaitAnswer) : Option AcpState :=
  match reconciliation.phase with
  | .returned _ => none
  | .waiting sessionId runId context =>
    let (next, shouldKeepPending) := state.reconcilePendingPrompt sessionId runId context
      reconciliation.deadlineExpired answer
    some { next with reconciliations := next.reconciliations ++
      [{ reconciliation with phase := .returned shouldKeepPending }] }

/-- A reconciliation that has been told of a prompt goes on to its next one. -/
def reconcileContinues (reconciliation : Reconciliation) : Option AcpState :=
  match reconciliation.phase with
  | .waiting _ _ _ => none
  | .returned shouldKeepPending =>
    some (state.reconcileNext reconciliation.observedDisconnectGeneration
      reconciliation.deadlineExpired reconciliation.remaining
      (reconciliation.keepDisconnectTimer || shouldKeepPending))

end AcpState

/-! ### Runs -/

inductive AcpEvent
  | prompt (sessionId runId : String) (valid : Bool)
  | sendAccepted (sessionId runId : String)
  | sendRefused (sessionId runId error : String) (gatewayClosed : Bool)
  | cancel (sessionId : String)
  | cancelReturned (call : CancelCall)
  | chatEvent (sessionKey chatState : String) (runId : Option String) (hasMessage : Bool)
      (rawStopReason : Option String)
  | finalForwarded (event : FinalEvent)
  /-- The message of a final event could not be forwarded. -/
  | finalFailed (event : FinalEvent)
  /-- The session snapshot of a prompt that is being finished has been sent, or could not be. -/
  | finished (prompt : FinishingPrompt)
  | disconnect (reason : String)
  | reconnect
  | timerFires
  | waitAnswered (reconciliation : Reconciliation) (answer : AcpState.WaitAnswer)
  | reconcileContinues (reconciliation : Reconciliation)

/-- Steps of the agent. What goes on must be under way, and is so no more. -/
def AcpState.step (state : AcpState) : AcpEvent → Option AcpState
  | .prompt sessionId runId valid => some (state.prompt sessionId runId valid)
  | .sendAccepted sessionId runId =>
    if (sessionId, runId) ∈ state.sends then
      some ({ state with sends := state.sends.erase (sessionId, runId) }.sendAccepted
        sessionId runId)
    else none
  | .sendRefused sessionId runId error gatewayClosed =>
    if (sessionId, runId) ∈ state.sends then
      some ({ state with sends := state.sends.erase (sessionId, runId) }.sendRefused
        sessionId runId error gatewayClosed)
    else none
  | .cancel sessionId => some (state.cancel sessionId)
  | .cancelReturned call =>
    if call ∈ state.cancels then
      some ({ state with cancels := state.cancels.erase call }.cancelReturned call)
    else none
  | .chatEvent sessionKey chatState runId hasMessage rawStopReason =>
    some (state.handleChatEvent sessionKey chatState runId hasMessage rawStopReason)
  | .finalForwarded event =>
    if event ∈ state.finals then
      some ({ state with finals := state.finals.erase event }.finalForwarded event)
    else none
  | .finalFailed event =>
    if event ∈ state.finals then some { state with finals := state.finals.erase event } else none
  | .finished prompt =>
    if prompt ∈ state.finishing then
      some ({ state with finishing := state.finishing.erase prompt }.settle prompt.cause
        prompt.run (.resolved prompt.stopReason))
    else none
  | .disconnect reason => some (state.handleGatewayDisconnect reason)
  | .reconnect => some state.handleGatewayReconnect
  | .timerFires => state.disconnectTimer.map state.disconnectTimerFires
  | .waitAnswered reconciliation answer =>
    if reconciliation ∈ state.reconciliations then
      { state with reconciliations := state.reconciliations.erase reconciliation }.waitAnswered
        reconciliation answer
    else none
  | .reconcileContinues reconciliation =>
    if reconciliation ∈ state.reconciliations then
      { state with
        reconciliations := state.reconciliations.erase reconciliation }.reconcileContinues
          reconciliation
    else none

end OpenClaw.Acp
