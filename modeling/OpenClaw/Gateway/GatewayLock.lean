/-
This file is the lock that keeps a second gateway from starting on the same configuration, cut at
its file operations, its liveness checks and its probes of the port.

A gateway that creates the lock file holds the lock. One that finds the file reads it, judges its
owner, and removes the file by its path. Files have a serial number and note who has created them,
which the code does not know. Processes live and die at any time, and what a check finds out about
a process that is not alive is left open.
-/

import OpenClaw.Base.Steps

namespace OpenClaw.Gateway

/-! ### Lock files and processes -/

/-- `LockPayload`, with `createdAt` as the time it parses to. -/
structure LockPayload where
  pid : ℤ
  createdAt : Option ℤ := none
  startTime : Option ℤ := none
  deriving DecidableEq

/-- The file at the lock path. It has no payload while it is half-written. -/
structure GatewayLockFile where
  serial : ℕ
  creator : ℕ
  payload : Option LockPayload := none
  mtimeMs : ℤ
  deriving DecidableEq

inductive LockOwnerStatus
  | alive | dead | unknown
  deriving DecidableEq

/-- Where a process is in `acquireGatewayLock`, or in the release of the lock. -/
inductive LockPhase
  | idle
  | opening
  | writing (serial : ℕ)
  | holding (serial : ℕ)
  | releasing (serial : ℕ)
  | reading
  | probing (seen : Option ℕ) (payload : LockPayload)
  | checking (seen : Option ℕ) (payload : LockPayload)
  | aging (seen : Option ℕ) (payload : Option LockPayload)
  | statting (seen : Option ℕ)
  | removing (seen : Option ℕ)
  | sleeping
  | failed
  deriving DecidableEq

inductive ProcessLife
  | unborn | live | dead
  deriving DecidableEq

structure GatewayProcess where
  pid : ℤ
  /-- Where `/proc` tells it. -/
  startTime : Option ℤ := none
  life : ProcessLife := .unborn
  phase : LockPhase := .idle
  startedAt : ℤ := 0
  deriving DecidableEq

structure GatewayLockOptions where
  timeoutMs : ℤ := 5000
  staleMs : ℤ := 30000
  linux : Bool
  port : Option ℕ := none
  deriving DecidableEq

/-- The lock path of one configuration, and the processes by number. -/
structure GatewayWorld where
  now : ℤ
  file : Option GatewayLockFile := none
  nextSerial : ℕ := 0
  processes : ℕ → GatewayProcess

def GatewayWorld.isLive (world : GatewayWorld) (process : ℕ) : Bool :=
  (world.processes process).life = .live

/-- What can be found out about the process of a pid. -/
structure OwnerEvidence where
  pidAlive : Bool
  /-- `readLinuxStartTime`. -/
  startTime : Option ℤ := none
  /-- Whether the command line is that of a gateway, where it can be read. -/
  gatewayArgv : Option Bool := none
  deriving DecidableEq

/-- `resolveGatewayOwnerStatus`, behind the probe of the port. -/
def resolveGatewayOwnerStatus (linux : Bool) (payload : LockPayload) (evidence : OwnerEvidence) :
    LockOwnerStatus :=
  if !evidence.pidAlive then .dead
  else match if linux then payload.startTime else none with
    | some payloadStartTime =>
      match evidence.startTime with
      | none => .unknown
      | some currentStartTime => if currentStartTime = payloadStartTime then .alive else .dead
    | none =>
      match evidence.gatewayArgv with
      | none => if linux then .unknown else .alive
      | some isGateway => if isGateway then .alive else .dead

/-! ### Steps -/

inductive GatewayLockEvent
  | startUp (process : ℕ)
  | die (process : ℕ)
  | acquire (process : ℕ)
  | openFile (process : ℕ)
  | openFails (process : ℕ)
  | giveUp (process : ℕ)
  | writePayload (process : ℕ)
  | writeFails (process : ℕ)
  | readFile (process : ℕ) (fails : Bool)
  | probePort (process : ℕ) (portFree : Bool)
  | checkOwner (process : ℕ) (evidence : OwnerEvidence)
  | age (process : ℕ)
  | stat (process : ℕ) (fails : Bool)
  | remove (process : ℕ)
  | retry (process : ℕ)
  | release (process : ℕ)
  | removeReleased (process : ℕ)
  | advance (elapsedMs : ℕ)
  deriving DecidableEq

/-- Who takes a step. -/
def GatewayLockEvent.actor : GatewayLockEvent → Option ℕ
  | .startUp process | .die process | .acquire process | .openFile process | .openFails process
  | .giveUp process | .writePayload process | .writeFails process | .readFile process _
  | .probePort process _ | .checkOwner process _ | .age process | .stat process _
  | .remove process | .retry process | .release process | .removeReleased process => some process
  | .advance _ => none

namespace GatewayWorld

variable (options : GatewayLockOptions) (world : GatewayWorld)

def setProcess (process : ℕ) (changed : GatewayProcess) : GatewayWorld :=
  { world with processes := Function.update world.processes process changed }

/-- A process goes on to another phase. -/
def goOn (process : ℕ) (phase : LockPhase) : GatewayWorld :=
  world.setProcess process { world.processes process with phase }

/-- `fs.open(lockPath, "wx")`. -/
def openFile (process : ℕ) : GatewayWorld :=
  match world.file with
  | none =>
    { world.goOn process (.writing world.nextSerial) with
      file := some { serial := world.nextSerial, creator := process, mtimeMs := world.now }
      nextSerial := world.nextSerial + 1 }
  | some _ => world.goOn process .reading

def payloadOf (process : GatewayProcess) : LockPayload where
  pid := process.pid
  createdAt := some world.now
  startTime := if options.linux then process.startTime else none

/-- `handle.writeFile`, which reaches the file that was created wherever it is by now. -/
def writePayload (process serial : ℕ) : GatewayWorld :=
  { world.goOn process (.holding serial) with
    file := world.file.map fun file =>
      if file.serial = serial then
        { file with
          payload := some (world.payloadOf options (world.processes process))
          mtimeMs := world.now }
      else file }

/-- `fs.rm(lockPath)`, whatever file is there. -/
def removeFile : GatewayWorld := { world with file := none }

/-- `readLockPayload`, and where its owner is judged first. -/
def readFile (process : ℕ) (fails : Bool) : GatewayWorld :=
  let seen := world.file.map GatewayLockFile.serial
  world.goOn process <|
    match if fails then none else world.file.bind GatewayLockFile.payload with
    | none => .aging seen none
    | some payload =>
      if payload.pid = 0 then .aging seen (some payload)
      else if options.port.isSome then .probing seen payload
      else .checking seen payload

/-- What follows from the status of an owner. -/
def judged (process : ℕ) (seen : Option ℕ) (payload : LockPayload) : LockOwnerStatus → GatewayWorld
  | .dead => world.goOn process (.removing seen)
  | .alive => world.goOn process .sleeping
  | .unknown => world.goOn process (.aging seen (some payload))

/-- A lock that nothing is known about is stale when it was created long ago. -/
def isOld (payload : Option LockPayload) : Bool :=
  (payload.bind LockPayload.createdAt).any fun createdAt => options.staleMs < world.now - createdAt

/-- `fs.stat(lockPath)`. -/
def stat (process : ℕ) (fails : Bool) (seen : Option ℕ) : GatewayWorld :=
  world.goOn process <|
    if !fails && world.file.any fun file => options.staleMs < world.now - file.mtimeMs then
      .removing seen
    else .sleeping

/-- The step of a process that is alive. -/
def processStep (process : ℕ) : GatewayLockEvent → Option GatewayWorld
  | .die _ => some (world.setProcess process { world.processes process with life := .dead })
  | .acquire _ =>
    match (world.processes process).phase with
    | .idle | .failed => some (world.setProcess process
        { world.processes process with phase := .opening, startedAt := world.now })
    | _ => none
  | .openFile _ =>
    match (world.processes process).phase with
    | .opening =>
      if world.now - (world.processes process).startedAt < options.timeoutMs then
        some (world.openFile process)
      else none
    | _ => none
  | .openFails _ =>
    match (world.processes process).phase with
    | .opening => some (world.goOn process .failed)
    | _ => none
  | .giveUp _ =>
    match (world.processes process).phase with
    | .opening =>
      if options.timeoutMs ≤ world.now - (world.processes process).startedAt then
        some (world.goOn process .failed)
      else none
    | _ => none
  | .writePayload _ =>
    match (world.processes process).phase with
    | .writing serial => some (world.writePayload options process serial)
    | _ => none
  | .writeFails _ =>
    match (world.processes process).phase with
    | .writing _ => some (world.goOn process .failed)
    | _ => none
  | .readFile _ fails =>
    match (world.processes process).phase with
    | .reading => some (world.readFile options process fails)
    | _ => none
  | .probePort _ portFree =>
    match (world.processes process).phase with
    | .probing seen payload => some (if portFree then world.judged process seen payload .dead
        else world.goOn process (.checking seen payload))
    | _ => none
  | .checkOwner _ evidence =>
    match (world.processes process).phase with
    | .checking seen payload => some (world.judged process seen payload
        (resolveGatewayOwnerStatus options.linux payload evidence))
    | _ => none
  | .age _ =>
    match (world.processes process).phase with
    | .aging seen payload => some (world.goOn process
        (if world.isOld options payload then .removing seen else .statting seen))
    | _ => none
  | .stat _ fails =>
    match (world.processes process).phase with
    | .statting seen => some (world.stat options process fails seen)
    | _ => none
  | .remove _ =>
    match (world.processes process).phase with
    | .removing _ => some (world.removeFile.goOn process .opening)
    | _ => none
  | .retry _ =>
    match (world.processes process).phase with
    | .sleeping => some (world.goOn process .opening)
    | _ => none
  | .release _ =>
    match (world.processes process).phase with
    | .holding serial => some (world.goOn process (.releasing serial))
    | _ => none
  | .removeReleased _ =>
    match (world.processes process).phase with
    | .releasing _ => some (world.removeFile.goOn process .idle)
    | _ => none
  | _ => none

end GatewayWorld

/-- One step: time passes, a process comes up, or one that is alive goes on. -/
def gatewayLockStep (options : ℕ → GatewayLockOptions) (world : GatewayWorld)
    (event : GatewayLockEvent) : Option GatewayWorld :=
  match event with
  | .advance elapsedMs => some { world with now := world.now + elapsedMs }
  | .startUp process =>
    match (world.processes process).life with
    | .unborn => some (world.setProcess process
        { world.processes process with life := .live, phase := .idle })
    | _ => none
  | event => event.actor.bind fun process =>
    if world.isLive process then world.processStep (options process) process event else none

end OpenClaw.Gateway
