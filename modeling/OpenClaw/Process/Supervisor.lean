/-
This file is the process supervisor: the registry of run records, the active runs, and for each
run the variables of the spawn that started it.

A spawn is two steps, for it waits for its adapter in between. The adapter is outside: it is
created or not, delivers output, and its wait ends or fails; each of these is a step, and so is a
timer that fires. When a timer fires is left open. The variables of a spawn are kept after it has
returned, because its handle and its timers still use them; with them stands what is not in the
code but told by the steps: what the adapter delivered, what forced the exit, and whether the
adapter was told to kill.
-/

import OpenClaw.Base.OrderedMap
import OpenClaw.Base.Steps
import OpenClaw.Shared.Text

namespace OpenClaw.Supervisor

open Text

/-! ### Records -/

inductive RunState
  | starting | running | exiting | exited
  deriving DecidableEq

inductive TerminationReason
  | manualCancel | overallTimeout | noOutputTimeout | spawnError | signal | exit
  deriving DecidableEq

/-- A `RunRecord`. Exit codes are numbers or null, signals are names. -/
structure RunRecord where
  runId : String
  sessionId : String
  backendId : String
  scopeKey : Option String
  pid : Option ℕ := none
  startedAtMs : ℤ
  lastOutputAtMs : ℤ
  createdAtMs : ℤ
  updatedAtMs : ℤ
  state : RunState
  terminationReason : Option TerminationReason := none
  exitCode : Option (Option ℤ) := none
  exitSignal : Option (Option String) := none
  deriving DecidableEq

/-! ### The registry -/

abbrev RunRegistry := OrderedMap String RunRecord

def defaultMaxExitedRecords : ℕ := 2000

/-- `pruneExitedRecords`: the oldest exited records go. -/
def pruneExitedRecords (records : RunRegistry) : RunRegistry :=
  let exited := records.entries.filter fun entry => entry.2.state = .exited
  (exited.take (exited.length - defaultMaxExitedRecords)).foldl
    (fun records entry => records.delete entry.1) records

/-- `updateState`, with what its patch sets. -/
def updateState (records : RunRegistry) (runId : String) (state : RunState) (now : ℤ)
    (patch : RunRecord → RunRecord) : RunRegistry :=
  match records.get runId with
  | none => records
  | some current => records.set runId { patch current with
      state, updatedAtMs := now, lastOutputAtMs := current.lastOutputAtMs }

/-- The patch of a termination reason. -/
def withReason (reason : TerminationReason) (record : RunRecord) : RunRecord :=
  { record with terminationReason := some reason }

/-- `touchOutput` of the registry. -/
def touchRecord (records : RunRegistry) (runId : String) (now : ℤ) : RunRegistry :=
  match records.get runId with
  | none => records
  | some current => records.set runId { current with lastOutputAtMs := now, updatedAtMs := now }

def finalize (records : RunRegistry) (runId : String) (now : ℤ) (reason : TerminationReason)
    (exitCode : Option ℤ) (exitSignal : Option String) : RunRegistry :=
  match records.get runId with
  | none => records
  | some current => pruneExitedRecords (records.set runId { current with
      state := .exited
      terminationReason := some (current.terminationReason.getD reason)
      exitCode := some (current.exitCode.getD exitCode)
      exitSignal := some (current.exitSignal.getD exitSignal)
      updatedAtMs := now })

/-! ### Runs -/

structure SpawnInput where
  runId : Option String
  sessionId : String
  backendId : String
  scopeKey : Option String
  replaceExistingScope : Bool
  /-- The timeouts, missing where they are not finite. -/
  timeoutMs : Option ℤ
  noOutputTimeoutMs : Option ℤ
  captureOutput : Bool
  deriving DecidableEq

/-- Whether `clampTimeout` leaves a timeout. -/
def hasTimeout (value : Option ℤ) : Bool := value.any (0 < ·)

structure RunExit where
  reason : TerminationReason
  exitCode : Option ℤ
  exitSignal : Option String
  durationMs : ℤ
  stdout : String
  stderr : String
  timedOut : Bool
  noOutputTimedOut : Bool
  deriving DecidableEq

inductive OutputStream
  | stdout | stderr
  deriving DecidableEq

/-- Where a spawn stands: its adapter is awaited, is there, or could not be created. -/
inductive SpawnPhase
  | creating | created | failed
  deriving DecidableEq

/-- The variables of a spawn. -/
structure Run where
  input : SpawnInput
  scopeKey : Option String
  startedAtMs : ℤ
  phase : SpawnPhase := .creating
  forcedReason : Option TerminationReason := none
  settled : Bool := false
  stdout : String := ""
  stderr : String := ""
  timeoutTimer : Bool := false
  noOutputTimer : Bool := false
  /-- What `wait` reports. -/
  exit : Option RunExit := none
  /-- How many runs were spawned before. -/
  order : ℕ
  /-- What the adapter delivered before the exit, in order. -/
  delivered : List (OutputStream × String) := []
  /-- What forced the exit, in order. -/
  causes : List TerminationReason := []
  /-- The adapter was told to kill. -/
  killed : Bool := false
  deriving DecidableEq

/-- The run has returned from spawn and not exited. -/
def Run.isLive (run : Run) : Bool := run.phase = .created && !run.settled

/-- The run has exited, or was never there. -/
def Run.isOver (run : Run) : Bool := run.phase = .failed || run.settled

/-- The supervisor. The active runs are kept with their scopes. -/
structure SupervisorState where
  registry : RunRegistry
  active : OrderedMap String (Option String)
  runs : OrderedMap String Run
  deriving DecidableEq

def SupervisorState.initial : SupervisorState := ⟨∅, ∅, ∅⟩

/-! ### Cancelling -/

/-- The variables of a run after `requestCancel`: the first reason stays, and an adapter that is
there and has not ended is told to kill. -/
def Run.cancelled (run : Run) (reason : TerminationReason) : Run :=
  { run with
    forcedReason := some (run.forcedReason.getD reason)
    causes := if run.isLive then run.causes ++ [reason] else run.causes
    killed := run.killed || run.isLive }

/-- `requestCancel`, with `setForcedReason` and `cancelAdapter`. -/
def requestCancel (state : SupervisorState) (runId : String) (run : Run)
    (reason : TerminationReason) (now : ℤ) : SupervisorState :=
  { state with
    registry := if run.forcedReason = none then
        updateState state.registry runId .exiting now (withReason reason)
      else state.registry
    runs := state.runs.set runId (run.cancelled reason) }

def cancel (state : SupervisorState) (runId : String) (reason : TerminationReason) (now : ℤ) :
    SupervisorState :=
  match state.active.get runId, state.runs.get runId with
  | some _, some run =>
    requestCancel { state with
      registry := updateState state.registry runId .exiting now (withReason reason) }
      runId run reason now
  | _, _ => state

def cancelScope (state : SupervisorState) (scopeKey : String) (reason : TerminationReason)
    (now : ℤ) : SupervisorState :=
  if trim scopeKey = "" then state
  else (state.active.entries.filter fun entry => entry.2 = some scopeKey).foldl
    (fun state entry => cancel state entry.1 reason now) state

/-! ### Spawning -/

/-- The id of a run, or a fresh one. -/
def SpawnInput.id (input : SpawnInput) (randomUUID : String) : String :=
  (normalizeOptionalString input.runId).getD randomUUID

/-- `spawn`, until it awaits its adapter. -/
def spawn (state : SupervisorState) (input : SpawnInput) (randomUUID : String) (now : ℤ) :
    SupervisorState :=
  let runId := input.id randomUUID
  let scopeKey := normalizeOptionalString input.scopeKey
  let state := match input.replaceExistingScope, scopeKey with
    | true, some scope => cancelScope state scope .manualCancel now
    | _, _ => state
  { state with
    registry := state.registry.set runId {
      runId, sessionId := input.sessionId, backendId := input.backendId, scopeKey
      state := .starting, startedAtMs := now, lastOutputAtMs := now, createdAtMs := now
      updatedAtMs := now }
    runs := state.runs.set runId {
      input, scopeKey, startedAtMs := now, order := state.runs.entries.length } }

/-- The rest of `spawn` with its adapter. -/
def adapterCreated (state : SupervisorState) (runId : String) (run : Run) (pid : Option ℕ)
    (now : ℤ) : SupervisorState where
  registry := updateState state.registry runId .running now fun record => { record with pid }
  active := state.active.set runId run.scopeKey
  runs := state.runs.set runId { run with
    phase := .created
    timeoutTimer := hasTimeout run.input.timeoutMs
    noOutputTimer := hasTimeout run.input.noOutputTimeoutMs }

/-- The rest of `spawn` without one. -/
def adapterFailed (state : SupervisorState) (runId : String) (run : Run) (now : ℤ) :
    SupervisorState :=
  { state with
    registry := finalize state.registry runId now .spawnError none none
    runs := state.runs.set runId { run with phase := .failed } }

/-! ### Output and exit -/

/-- The listeners of the adapter, with `touchOutput`. -/
def output (state : SupervisorState) (runId : String) (run : Run) (stream : OutputStream)
    (chunk : String) (now : ℤ) : SupervisorState :=
  { state with
    registry := touchRecord state.registry runId now
    runs := state.runs.set runId { run with
      stdout := if run.input.captureOutput && stream = .stdout then run.stdout ++ chunk
        else run.stdout
      stderr := if run.input.captureOutput && stream = .stderr then run.stderr ++ chunk
        else run.stderr
      noOutputTimer := run.noOutputTimer || hasTimeout run.input.noOutputTimeoutMs && !run.settled
      delivered := if run.settled then run.delivered else run.delivered ++ [(stream, chunk)] } }

def isTimeoutReason (reason : TerminationReason) : Bool :=
  reason = .overallTimeout || reason = .noOutputTimeout

/-- The exit that `wait` reports. -/
def Run.exitOf (run : Run) (exitCode : Option ℤ) (exitSignal : Option String) (now : ℤ) : RunExit :=
  let reason := run.forcedReason.getD (if exitSignal.isSome then .signal else .exit)
  { reason, exitCode, exitSignal
    durationMs := now - run.startedAtMs
    stdout := run.stdout
    stderr := run.stderr
    timedOut := isTimeoutReason (run.forcedReason.getD reason)
    noOutputTimedOut := run.forcedReason = some .noOutputTimeout }

/-- The adapter's wait ends. -/
def waitEnds (state : SupervisorState) (runId : String) (run : Run) (exitCode : Option ℤ)
    (exitSignal : Option String) (now : ℤ) : SupervisorState :=
  let exit := run.exitOf exitCode exitSignal now
  { registry := finalize state.registry runId now exit.reason exit.exitCode exit.exitSignal
    active := state.active.delete runId
    runs := state.runs.set runId { run with
      settled := true, timeoutTimer := false, noOutputTimer := false, exit := some exit } }

/-- The adapter's wait fails, and so does that of the run. -/
def waitFails (state : SupervisorState) (runId : String) (run : Run) (now : ℤ) :
    SupervisorState where
  registry := finalize state.registry runId now .spawnError none none
  active := state.active.delete runId
  runs := state.runs.set runId { run with
    settled := true, timeoutTimer := false, noOutputTimer := false }

/-! ### Steps -/

inductive SupervisorEvent
  | spawn (input : SpawnInput) (randomUUID : String)
  | created (runId : String) (pid : Option ℕ)
  | failed (runId : String)
  | output (runId : String) (stream : OutputStream) (chunk : String)
  | ended (runId : String) (exitCode : Option ℤ) (exitSignal : Option String)
  | waitFailed (runId : String)
  | timeoutFires (runId : String)
  | noOutputFires (runId : String)
  | cancel (runId : String) (reason : TerminationReason)
  | cancelScope (scopeKey : String) (reason : TerminationReason)
  /-- The handle of a run is cancelled. -/
  | cancelRun (runId : String) (reason : TerminationReason)
  deriving DecidableEq

/-- What happens to a run that meets a condition. -/
def onRun (state : SupervisorState) (runId : String) (ready : Run → Bool)
    (change : Run → SupervisorState) : Option SupervisorState :=
  (state.runs.get runId).bind fun run => if ready run then some (change run) else none

/-- A step at a time. Run ids are distinct, and a handle is there once the spawn has returned. -/
def step (state : SupervisorState) (event : ℤ × SupervisorEvent) : Option SupervisorState :=
  let now := event.1
  match event.2 with
  | .spawn input randomUUID =>
    if state.runs.has (input.id randomUUID) then none else some (spawn state input randomUUID now)
  | .created runId pid =>
    onRun state runId (·.phase = .creating) fun run => adapterCreated state runId run pid now
  | .failed runId =>
    onRun state runId (·.phase = .creating) fun run => adapterFailed state runId run now
  | .output runId stream chunk =>
    onRun state runId (·.phase = .created) fun run => output state runId run stream chunk now
  | .ended runId exitCode exitSignal =>
    onRun state runId Run.isLive fun run => waitEnds state runId run exitCode exitSignal now
  | .waitFailed runId => onRun state runId Run.isLive fun run => waitFails state runId run now
  | .timeoutFires runId => onRun state runId Run.timeoutTimer fun run =>
      requestCancel state runId { run with timeoutTimer := false } .overallTimeout now
  | .noOutputFires runId => onRun state runId Run.noOutputTimer fun run =>
      requestCancel state runId { run with noOutputTimer := false } .noOutputTimeout now
  | .cancel runId reason => some (cancel state runId reason now)
  | .cancelScope scopeKey reason => some (cancelScope state scopeKey reason now)
  | .cancelRun runId reason => onRun state runId (·.phase = .created) fun run =>
      requestCancel state runId run reason now

end OpenClaw.Supervisor
