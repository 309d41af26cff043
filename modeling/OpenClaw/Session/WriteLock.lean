/-
This file is the write lock of one session file: `agents/session-write-lock.ts`, cut at
its file operations.

The lock is a file next to the session. Whoever creates it exclusively holds the lock,
and each process keeps an entry for the lock it holds, so that it can be acquired again
in the same process. A call that finds the file reads it, judges whether it is stale,
and removes it by its path.

Between two file operations anything may happen: a step of a call is one file operation
or one stretch of code without an await. Files get a serial number as they are created,
which tells one file at the path from the next; a call remembers the serial of the file
whose payload it has read. The code has neither: it only has the path. Writing goes
through the handle, so it reaches the file that was created and not the one at the path.
-/

import OpenClaw.Base.Steps

namespace OpenClaw.Session

/-! ### Files, processes and calls -/

/-- `LockFilePayload`, with `createdAt` as the time it parses to. -/
structure LockFilePayload where
  pid : Option Nat := none
  createdAt : Option Nat := none
  starttime : Option Nat := none
  deriving DecidableEq, Repr

/-- The file at the lock path. Its payload is absent while it is not the text of an object. -/
structure LockFile where
  serial : Nat
  openedAt : Nat
  payload : Option LockFilePayload
  mtimeMs : Nat
  deriving DecidableEq, Repr

/-- `HeldLock`, the entry of a process for the lock. -/
structure HeldLock where
  serial : Nat
  count : Nat
  acquiredAt : Nat
  maxHoldMs : Nat
  deriving DecidableEq, Repr

/-- A process, with its start time where the platform tells it and its entry in `HELD_LOCKS`. -/
structure Process where
  pid : Nat
  startTime : Option Nat
  alive : Bool := true
  held : Option HeldLock := none
  deriving DecidableEq, Repr

/-- Where a call of `acquireSessionWriteLock`, and then of its `release`, is. -/
inductive Phase
  | opening
  | writing (serial openedAt : Nat)
  | registering (serial : Nat)
  | aborting (serial : Nat)
  | reading
  | judging (seen : Option Nat) (payload : Option LockFilePayload)
  | statting (seen : Option Nat) (nowMs : Nat)
  | removing (seen : Option Nat)
  | sleeping
  | holding (serial : Nat)
  | releasing (serial : Nat)
  | released (serial : Nat)
  | failed
  deriving DecidableEq, Repr

structure Call where
  process : Nat
  staleMs : Nat
  maxHoldMs : Nat
  phase : Phase
  deriving DecidableEq, Repr

structure LockWorld where
  now : Nat
  file : Option LockFile
  nextSerial : Nat
  processes : List Process
  calls : List Call := []
  deriving DecidableEq, Repr

namespace LockWorld

variable (world : LockWorld)

def isAlive (process : Nat) : Bool := (world.processes[process]?).any (·.alive)

def isPidAlive (pid : Nat) : Bool := world.processes.any fun process =>
  process.alive && process.pid = pid

/-- `getProcessStartTime`. -/
def getProcessStartTime (pid : Nat) : Option Nat :=
  (world.processes.find? fun process => process.alive && process.pid = pid).bind (·.startTime)

def setPhase (index : Nat) (call : Call) (phase : Phase) : LockWorld :=
  { world with calls := world.calls.set index { call with phase } }

def setHeld (index : Nat) (process : Process) (held : Option HeldLock) : LockWorld :=
  { world with processes := world.processes.set index { process with held } }

end LockWorld

/-! ### Judging a lock file -/

inductive StaleReason
  | missingPid
  | deadPid
  | recycledPid
  | invalidCreatedAt
  | tooOld
  | orphanSelfPid
  deriving DecidableEq, Repr

/-- The `staleReasons` of `inspectLockPayload`. -/
def inspectLockPayload (world : LockWorld) (payload : Option LockFilePayload)
    (staleMs nowMs : Nat) : List StaleReason :=
  let pid := (payload.bind (·.pid)).filter (0 < ·)
  let storedStarttime := payload.bind (·.starttime)
  let pidReasons := match pid with
    | none => [StaleReason.missingPid]
    | some pid =>
      if !world.isPidAlive pid then [.deadPid]
      else match storedStarttime, world.getProcessStartTime pid with
        | some stored, some current => if current ≠ stored then [.recycledPid] else []
        | _, _ => []
  let ageReasons := match payload.bind (·.createdAt) with
    | none => [StaleReason.invalidCreatedAt]
    | some createdAt => if staleMs < nowMs - createdAt then [.tooOld] else []
  pidReasons ++ ageReasons

/-- A lock file of the own process without an entry for it. -/
def shouldTreatAsOrphanSelfLock (process : Process) (payload : Option LockFilePayload) : Bool :=
  (payload.bind (·.pid)) = some process.pid && (payload.bind (·.starttime)).isNone &&
    process.held.isNone

def lockInspectionNeedsMtimeStaleFallback (staleReasons : List StaleReason) : Bool :=
  !staleReasons.isEmpty && staleReasons.all fun reason =>
    reason = .missingPid || reason = .invalidCreatedAt

/-- The reasons to reclaim a lock file that is in the way. -/
def reclaimReasons (world : LockWorld) (process : Process) (payload : Option LockFilePayload)
    (staleMs nowMs : Nat) : List StaleReason :=
  let inspected := inspectLockPayload world payload staleMs nowMs
  if shouldTreatAsOrphanSelfLock process payload then inspected ++ [.orphanSelfPid] else inspected

/-! ### Steps -/

inductive LockAction
  | acquire (process staleMs maxHoldMs : Nat) (allowReentrant : Bool)
  | openFile (call : Nat)
  | writePayload (call createdAt : Nat)
  | writeFails (call : Nat)
  | register (call : Nat)
  | abort (call : Nat)
  | readFile (call : Nat) (fails : Bool)
  | judge (call : Nat)
  | stat (call : Nat) (fails : Bool)
  | remove (call : Nat)
  | retry (call : Nat)
  | giveUp (call : Nat)
  | release (call : Nat)
  | removeReleased (call : Nat)
  | watchdog (process : Nat)
  | crash (process : Nat)
  | advance (elapsedMs : Nat)
  deriving DecidableEq, Repr

namespace LockWorld

variable (world : LockWorld)

/-- A call up to its first await at the lock file: it joins the lock its process holds, or goes
for the file. -/
def acquire (index staleMs maxHoldMs : Nat) (allowReentrant : Bool) (process : Process) :
    LockWorld :=
  match if allowReentrant then process.held else none with
  | some held =>
    { world.setHeld index process (some { held with count := held.count + 1 }) with
      calls := world.calls ++ [⟨index, staleMs, maxHoldMs, .holding held.serial⟩] }
  | none => { world with calls := world.calls ++ [⟨index, staleMs, maxHoldMs, .opening⟩] }

/-- `fs.open(lockPath, "wx")`. -/
def openFile (index : Nat) (call : Call) : LockWorld :=
  match world.file with
  | none =>
    { world.setPhase index call (.writing world.nextSerial world.now) with
      file := some ⟨world.nextSerial, world.now, none, world.now⟩
      nextSerial := world.nextSerial + 1 }
  | some _ => world.setPhase index call .reading

/-- `handle.writeFile`, which reaches the file that was created wherever it is by now. -/
def writePayload (index : Nat) (call : Call) (process : Process) (serial createdAt : Nat) :
    LockWorld :=
  { world.setPhase index call (.registering serial) with
    file := world.file.map fun file =>
      if file.serial = serial then
        { file with
          payload := some ⟨some process.pid, some createdAt, process.startTime⟩
          mtimeMs := world.now }
      else file }

/-- `HELD_LOCKS.set` and the return of the call. -/
def register (index : Nat) (call : Call) (process : Process) (serial : Nat) : LockWorld :=
  (world.setHeld call.process process (some ⟨serial, 1, world.now, call.maxHoldMs⟩)).setPhase index
    call (.holding serial)

/-- `fs.rm(lockPath)`. -/
def removeFile : LockWorld := { world with file := none }

/-- `readLockPayload`. -/
def readFile (index : Nat) (call : Call) (fails : Bool) : LockWorld :=
  world.setPhase index call (.judging (world.file.map (·.serial))
    (if fails then none else world.file.bind (·.payload)))

/-- From the payload to the removal, the stat of the file, or another round. -/
def judge (index : Nat) (call : Call) (process : Process) (seen : Option Nat)
    (payload : Option LockFilePayload) : LockWorld :=
  let reasons := reclaimReasons world process payload call.staleMs world.now
  world.setPhase index call
    (if reasons.isEmpty then .sleeping
    else if lockInspectionNeedsMtimeStaleFallback reasons then .statting seen world.now
    else .removing seen)

/-- `fs.stat(lockPath)` in `shouldReclaimContendedLockFile`. -/
def stat (index : Nat) (call : Call) (fails : Bool) (seen : Option Nat) (nowMs : Nat) : LockWorld :=
  world.setPhase index call
    (if fails then .removing seen
    else match world.file with
      | none => .sleeping
      | some file => if call.staleMs < nowMs - file.mtimeMs then .removing seen else .sleeping)

/-- `releaseHeldLock`, up to the removal of the file. -/
def release (index : Nat) (call : Call) (process : Process) (serial : Nat) : LockWorld :=
  match process.held.filter (·.serial = serial) with
  | none => world.setPhase index call (.released serial)
  | some held =>
    if 0 < held.count - 1 then
      (world.setHeld call.process process (some { held with count := held.count - 1 })).setPhase
        index call (.released serial)
    else (world.setHeld call.process process none).setPhase index call (.releasing serial)

/-- The forced release of the watchdog, up to the removal of the file. -/
def watchdog (index : Nat) (process : Process) (held : HeldLock) : LockWorld :=
  { world.setHeld index process none with
    calls := world.calls ++ [⟨index, 0, 0, .releasing held.serial⟩] }

/-- A step of a call that is in one of its phases, in a process that is alive. -/
def callStep (index : Nat) (call : Call) (process : Process) : LockAction → Option LockWorld
  | .openFile _ => if call.phase = .opening then some (world.openFile index call) else none
  | .writePayload _ createdAt => match call.phase with
    | .writing serial openedAt =>
      if openedAt ≤ createdAt ∧ createdAt ≤ world.now then
        some (world.writePayload index call process serial createdAt)
      else none
    | _ => none
  | .writeFails _ => match call.phase with
    | .writing serial _ => some (world.setPhase index call (.aborting serial))
    | _ => none
  | .register _ => match call.phase with
    | .registering serial => some (world.register index call process serial)
    | _ => none
  | .abort _ => match call.phase with
    | .aborting _ => some (world.removeFile.setPhase index call .failed)
    | _ => none
  | .readFile _ fails =>
    if call.phase = .reading then some (world.readFile index call fails) else none
  | .judge _ => match call.phase with
    | .judging seen payload => some (world.judge index call process seen payload)
    | _ => none
  | .stat _ fails => match call.phase with
    | .statting seen nowMs => some (world.stat index call fails seen nowMs)
    | _ => none
  | .remove _ => match call.phase with
    | .removing _ => some (world.removeFile.setPhase index call .opening)
    | _ => none
  | .retry _ => if call.phase = .sleeping then some (world.setPhase index call .opening) else none
  | .giveUp _ => if call.phase = .opening then some (world.setPhase index call .failed) else none
  | .release _ => match call.phase with
    | .holding serial | .released serial => some (world.release index call process serial)
    | _ => none
  | .removeReleased _ => match call.phase with
    | .releasing serial => some (world.removeFile.setPhase index call (.released serial))
    | _ => none
  | _ => none

/-- The call an action belongs to. -/
def callOf : LockAction → Option Nat
  | .openFile call | .writePayload call _ | .writeFails call | .register call | .abort call
  | .readFile call _ | .judge call | .stat call _ | .remove call | .retry call | .giveUp call
  | .release call | .removeReleased call => some call
  | .acquire .. | .watchdog _ | .crash _ | .advance _ => none

/-- One step of any process. -/
def step (world : LockWorld) (action : LockAction) : Option LockWorld :=
  match action with
  | .acquire index staleMs maxHoldMs allowReentrant =>
    ((world.processes[index]?).filter (·.alive)).map
      (world.acquire index staleMs maxHoldMs allowReentrant)
  | .watchdog index =>
    ((world.processes[index]?).filter (·.alive)).bind fun process =>
      (process.held.filter fun held => held.acquiredAt + held.maxHoldMs < world.now).map
        (world.watchdog index process)
  | .crash index => (world.processes[index]?).map fun process =>
    { world with processes := world.processes.set index { process with alive := false } }
  | .advance elapsedMs => some { world with now := world.now + elapsedMs }
  | _ =>
    (callOf action).bind fun index =>
      (world.calls[index]?).bind fun call =>
        ((world.processes[call.process]?).filter (·.alive)).bind fun process =>
          world.callStep index call process action

end LockWorld

end OpenClaw.Session
