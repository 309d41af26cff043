/-
This file says which lock files are reclaimed, and assembles what holds of the lock of a gateway.

A process which comes upon the file of a dead one goes by its own steps from what it finds out to
holding the lock, as long as it is in time. What it finds out need not be that the owner is dead:
where nothing is known, the lock has to be old.
-/

import OpenClaw.Gateway.LockOwners

namespace OpenClaw.Gateway

open Machine

/-! ### Lock files that are left behind -/

/-- The lock file has been left by a process that is dead, and a live one that is about to open it
has time. -/
structure Faces (options : ℕ → GatewayLockOptions) (world : GatewayWorld) (process : ℕ)
    (file : GatewayLockFile) : Prop where
  isFile : world.file = some file
  left : world.isLive file.creator = false
  isLive : world.isLive process = true
  inTime : world.now - (world.processes process).startedAt < (options process).timeoutMs

/-- What a process finds out makes the owner of a lock file a dead one, or it makes it nobody
that anything is known about and the file has not been written for long. -/
def LooksLeft (options : GatewayLockOptions) (world : GatewayWorld) (file : GatewayLockFile)
    (portFree : Bool) (evidence : OwnerEvidence) : Prop :=
  (∃ payload, file.payload = some payload ∧ payload.pid ≠ 0 ∧
    (options.port.isSome = true ∧ portFree = true ∨
      resolveGatewayOwnerStatus options.linux payload evidence = .dead ∨
      resolveGatewayOwnerStatus options.linux payload evidence = .unknown ∧
        options.staleMs < world.now - file.mtimeMs)) ∨
  (∀ payload, file.payload = some payload → payload.pid = 0) ∧
    options.staleMs < world.now - file.mtimeMs

section Reclaims

variable {options : ℕ → GatewayLockOptions} {world : GatewayWorld} {process : ℕ}
  {file : GatewayLockFile}
variable {evidence : OwnerEvidence} {payload : LockPayload}

/-- What a process finds out comes to the lock, by steps of its own. -/
def Reclaims (options : ℕ → GatewayLockOptions) (process : ℕ) (world : GatewayWorld) : Prop :=
  ∃ events final, (∀ event ∈ events, event.actor = some process) ∧
    Steps (gatewayLockStep options) (Admitted options) world events final ∧ final.Holds process

theorem taken_of_processStep (isLive : world.isLive process = true) {event : GatewayLockEvent}
    {next : GatewayWorld} (acts : event.actor = some process)
    (comesUp : ∀ other, event ≠ .startUp other)
    (taken : world.processStep (options process) process event = some next) :
    gatewayLockStep options world event = some next := by
  unfold gatewayLockStep
  split
  · nomatch acts
  next other => exact absurd rfl (comesUp other)
  · rw [acts, Option.bind_some, if_pos isLive]
    exact taken

/-- One more step of the process. -/
theorem Reclaims.step (event : GatewayLockEvent) {next : GatewayWorld}
    (isLive : world.isLive process = true) (acts : event.actor = some process)
    (comesUp : ∀ other, event ≠ .startUp other) (admitted : Admitted options world event)
    (taken : world.processStep (options process) process event = some next)
    (rest : Reclaims options process next) : Reclaims options process world := by
  obtain ⟨events, final, actors, run, holds⟩ := rest
  refine ⟨event :: events, final, ?_, ?_, holds⟩
  · rintro action (- | ⟨-, member⟩)
    · exact acts
    · exact actors action member
  · exact .cons admitted (taken_of_processStep isLive acts comesUp taken) run

theorem Faces.goOn (faces : Faces options world process file) (phase : LockPhase) :
    Faces options (world.goOn process phase) process file := by
  have same : SameProcess (world.processes process) { world.processes process with phase } :=
    ⟨rfl, rfl, rfl⟩
  refine ⟨faces.isFile, (isLive_setProcess same _).trans faces.left,
    (isLive_setProcess same _).trans faces.isLive, ?_⟩
  change world.now - ((world.setProcess process _).processes process).startedAt < _
  rw [processes_setProcess, if_pos rfl]
  exact faces.inTime

@[simp] theorem phase_goOn (world : GatewayWorld) (process : ℕ) (phase : LockPhase) :
    ((world.goOn process phase).processes process).phase = phase := by
  change ((world.setProcess process _).processes process).phase = phase
  rw [processes_setProcess, if_pos rfl]

theorem fits_goOn (fits : world.Fits payload evidence) (process : ℕ) (phase : LockPhase) :
    (world.goOn process phase).Fits payload evidence := by
  intro other isLive isPid
  have same : SameProcess (world.processes process) { world.processes process with phase } :=
    ⟨rfl, rfl, rfl⟩
  have isLive : world.isLive other = true := (isLive_setProcess same other).symm.trans isLive
  change ((world.setProcess process _).processes other).pid = payload.pid at isPid
  change _ ∧ (_ ∨ _ = ((world.setProcess process _).processes other).startTime)
  rw [processes_setProcess] at isPid ⊢
  split at isPid
  next isOther =>
    rw [if_pos isOther]
    exact fits process (isOther ▸ isLive) isPid
  next isOther =>
    rw [if_neg isOther]
    exact fits other isLive isPid

/-- Care forbids nothing where the lock file is that of a dead process. -/
theorem Faces.seesNone (faces : Faces options world process file) :
    world.seesLive process = false := by
  unfold GatewayWorld.seesLive
  rw [faces.isFile, Option.any_some, faces.left, Bool.and_false]

/-! ### The way to the lock -/

/-- The file that has been created is written. -/
theorem reclaims_of_writing (isLive : world.isLive process = true) {serial : ℕ}
    (writes : (world.processes process).phase = .writing serial) :
    Reclaims options process world := by
  have same : SameProcess (world.processes process)
      { world.processes process with phase := .holding serial } := ⟨rfl, rfl, rfl⟩
  refine Reclaims.step (.writePayload process) isLive rfl nofun ⟨trivial, rfl⟩
    (by unfold GatewayWorld.processStep; dsimp only; rw [writes]) ?_
  exact ⟨[], _, nofun, .nil _, (isLive_setProcess same process).trans isLive, serial,
    phase_goOn world process (.holding serial)⟩

/-- The file is created where there is none. -/
theorem reclaims_of_opening (noFile : world.file = none) (isLive : world.isLive process = true)
    (isOpening : (world.processes process).phase = .opening)
    (inTime : world.now - (world.processes process).startedAt < (options process).timeoutMs) :
    Reclaims options process world := by
  have same : SameProcess (world.processes process)
      { world.processes process with phase := .writing world.nextSerial } := ⟨rfl, rfl, rfl⟩
  refine Reclaims.step (.openFile process) isLive rfl nofun ⟨trivial, rfl⟩
    (by unfold GatewayWorld.processStep; dsimp only; rw [isOpening]; exact if_pos inTime) ?_
  unfold GatewayWorld.openFile
  rw [noFile]
  exact reclaims_of_writing ((isLive_setProcess same process).trans isLive)
    (phase_goOn world process (.writing world.nextSerial))

/-- The file is removed, created again and written. -/
theorem Faces.reclaims_of_removing (faces : Faces options world process file)
    (removes : (world.processes process).phase = .removing (some file.serial)) :
    Reclaims options process world := by
  have same : SameProcess (world.removeFile.processes process)
      { world.processes process with phase := .opening } := ⟨rfl, rfl, rfl⟩
  refine Reclaims.step (.remove process) faces.isLive rfl nofun ⟨trivial, ?_⟩
    (by unfold GatewayWorld.processStep; dsimp only; rw [removes]) ?_
  · unfold careful
    dsimp only
    rw [faces.isFile, removes]
    exact decide_eq_true rfl
  · refine reclaims_of_opening rfl ((isLive_setProcess same process).trans faces.isLive)
      (phase_goOn world.removeFile process .opening) ?_
    change world.now - ((world.removeFile.setProcess process _).processes process).startedAt < _
    rw [processes_setProcess, if_pos rfl]
    exact faces.inTime

/-- A file that has not been written for long is removed, when nothing is known about its owner. -/
theorem Faces.reclaims_of_aging (faces : Faces options world process file)
    {payload : Option LockPayload}
    (ages : (world.processes process).phase = .aging (some file.serial) payload)
    (isOld : (options process).staleMs < world.now - file.mtimeMs) :
    Reclaims options process world := by
  have cares : careful options world (.age process) = true := by
    unfold careful
    dsimp only
    rw [ages]
    dsimp only
    rw [faces.seesNone, Bool.not_false, Bool.or_true]
  refine Reclaims.step (.age process) faces.isLive rfl nofun ⟨trivial, cares⟩
    (by unfold GatewayWorld.processStep; dsimp only; rw [ages]) ?_
  split
  · exact (faces.goOn _).reclaims_of_removing (phase_goOn _ _ _)
  · have faces := faces.goOn (.statting (some file.serial))
    refine Reclaims.step (.stat process false) faces.isLive rfl nofun ⟨trivial, ?_⟩
      (by unfold GatewayWorld.processStep; dsimp only; rw [phase_goOn]) ?_
    · unfold careful
      dsimp only
      rw [faces.seesNone, Bool.not_false, Bool.or_true]
    · unfold GatewayWorld.stat
      rw [faces.isFile, Option.any_some, if_pos (by exact decide_eq_true isOld)]
      exact (faces.goOn _).reclaims_of_removing (phase_goOn _ _ _)

/-- The owner is judged by what is found out about it. -/
theorem Faces.reclaims_of_checking (faces : Faces options world process file)
    (checks : (world.processes process).phase = .checking (some file.serial) payload)
    (fits : world.Fits payload evidence)
    (looksLeft : resolveGatewayOwnerStatus (options process).linux payload evidence = .dead ∨
      resolveGatewayOwnerStatus (options process).linux payload evidence = .unknown ∧
        (options process).staleMs < world.now - file.mtimeMs) :
    Reclaims options process world := by
  have truthful : Truthful world (.checkOwner process evidence) := by
    intro seen payload' checks'
    injection checks.symm.trans checks' with _ isPayload
    exact isPayload ▸ fits
  have cares : careful options world (.checkOwner process evidence) = true := by
    unfold careful
    dsimp only
    rw [faces.seesNone, Bool.not_false, Bool.or_true]
  refine Reclaims.step (.checkOwner process evidence) faces.isLive rfl nofun ⟨truthful, cares⟩
    (by unfold GatewayWorld.processStep; dsimp only; rw [checks]) ?_
  unfold GatewayWorld.judged
  rcases looksLeft with dead | ⟨unknown, isOld⟩
  · rw [dead]
    exact (faces.goOn _).reclaims_of_removing (phase_goOn _ _ _)
  · rw [unknown]
    exact (faces.goOn _).reclaims_of_aging (phase_goOn _ _ _) isOld

/-- The lock file of a dead process is reclaimed by one that takes it for that. -/
theorem Faces.reclaims (faces : Faces options world process file)
    (isOpening : (world.processes process).phase = .opening) {portFree : Bool}
    (fits : ∀ payload, file.payload = some payload → world.Fits payload evidence)
    (looksLeft : LooksLeft (options process) world file portFree evidence) :
    Reclaims options process world := by
  refine Reclaims.step (.openFile process) faces.isLive rfl nofun ⟨trivial, rfl⟩
    (by unfold GatewayWorld.processStep; dsimp only; rw [isOpening]; exact if_pos faces.inTime) ?_
  unfold GatewayWorld.openFile
  rw [faces.isFile]
  dsimp only
  have faces := faces.goOn .reading
  refine Reclaims.step (.readFile process false) faces.isLive rfl nofun ⟨trivial, rfl⟩
    (by unfold GatewayWorld.processStep; dsimp only; rw [phase_goOn]) ?_
  unfold GatewayWorld.readFile
  dsimp only
  rw [faces.isFile, if_neg Bool.false_ne_true, Option.bind_some, Option.map_some]
  rcases looksLeft with ⟨payload, isPayload, pidKnown, findings⟩ | ⟨noOwner, isOld⟩
  · have fits := fits_goOn (fits payload isPayload) process .reading
    rw [isPayload]
    dsimp only
    rw [if_neg pidKnown]
    cases hasPort : (options process).port.isSome with
    | false =>
      rw [if_neg Bool.false_ne_true]
      refine (faces.goOn _).reclaims_of_checking (phase_goOn _ _ _) (fits_goOn fits _ _) ?_
      refine findings.resolve_left ?_
      rintro ⟨isPort, -⟩
      exact absurd (hasPort.symm.trans isPort) nofun
    | true =>
      rw [if_pos rfl]
      have probes := faces.goOn (.probing (some file.serial) payload)
      refine Reclaims.step (.probePort process portFree) probes.isLive rfl nofun ⟨trivial, ?_⟩
        (by unfold GatewayWorld.processStep; dsimp only; rw [phase_goOn]) ?_
      · unfold careful
        dsimp only
        rw [probes.seesNone, Bool.not_false, Bool.or_true]
      · split
        · exact (probes.goOn _).reclaims_of_removing (phase_goOn _ _ _)
        next isFree =>
          refine (probes.goOn _).reclaims_of_checking (phase_goOn _ _ _)
            (fits_goOn (fits_goOn fits _ _) _ _) ?_
          exact findings.resolve_left fun free => isFree free.2
  · split
    · exact (faces.goOn _).reclaims_of_aging (phase_goOn _ _ _) isOld
    next payload isPayload =>
      rw [if_pos (noOwner payload isPayload)]
      exact (faces.goOn _).reclaims_of_aging (phase_goOn _ _ _) isOld

/-- A process whose pid nobody has is dead to everyone. -/
theorem looksLeft_of_gone {own : GatewayLockOptions}
    (isPayload : file.payload = some payload) (pidKnown : payload.pid ≠ 0) (portFree : Bool)
    (gone : evidence.pidAlive = false) :
    LooksLeft own world file portFree evidence := by
  refine .inl ⟨payload, isPayload, pidKnown, .inr (.inl ?_)⟩
  unfold resolveGatewayOwnerStatus
  rw [gone, Bool.not_false, if_pos rfl]

end Reclaims

/-! ### The lock of a gateway -/

/-- In a run in which nothing is found out about an owner that is alive that the code takes for a
sign of death, and in which the file that is removed is the one that was judged, at most one
process holds the lock at any time, and no step removes the file of another process that is alive.
A file that a dead process has left is reclaimed by one that takes it for that. -/
theorem gateway_lock_is_exclusive (options : ℕ → GatewayLockOptions) {start final : GatewayWorld}
    {events : List GatewayLockEvent} (isStart : LockStart options start)
    (run : Steps (gatewayLockStep options) (Admitted options) start events final) :
    AtMostOneHolder final ∧
      (∀ event next, Admitted options final event →
        gatewayLockStep options final event = some next → KeepsOthersLock final event next) ∧
      ∀ process file portFree evidence, Faces options final process file →
        (final.processes process).phase = .opening →
        (∀ payload, file.payload = some payload → final.Fits payload evidence) →
        LooksLeft (options process) final file portFree evidence →
          Reclaims options process final := by
  have guarded : LockGuarded options final :=
    run.invariant (fun _ _ _ guarded admitted taken => guarded.step admitted taken) isStart.guarded
  exact ⟨guarded.exclusive, fun event next admitted taken => guarded.keeps admitted taken,
    fun process file portFree evidence faces isOpening fits looksLeft =>
      faces.reclaims isOpening fits looksLeft⟩

/-! ### A gateway that has gone, and one that is not listening yet -/

def portOptions : ℕ → GatewayLockOptions := fun _ => { linux := true, port := some 18789 }

def gatewayProcesses (first : ProcessLife) : ℕ → GatewayProcess
  | 0 => { pid := 100, startTime := some 7, life := first }
  | _ => { pid := 200, startTime := some 9, life := .live }

def leftFile : GatewayLockFile where
  serial := 0
  creator := 0
  payload := some { pid := 100, createdAt := some 1000, startTime := some 7 }
  mtimeMs := 1000

def leftWorld : GatewayWorld where
  now := 5000
  file := some leftFile
  nextSerial := 1
  processes := gatewayProcesses .dead

theorem leftWorld_start : LockStart portOptions leftWorld where
  fresh file isFile := Option.some.inj isFile ▸ Nat.zero_lt_one
  born file isFile := Option.some.inj isFile ▸ nofun
  holder
    | 0 => .inl rfl
    | _ + 1 => .inl rfl
  written file payload isFile isLive _ := by
    obtain rfl := Option.some.inj isFile
    nomatch isLive

/-- The lock of a gateway that has gone is reclaimed by the next one. -/
theorem left_lock_is_reclaimed :
    ∃ final, Steps (gatewayLockStep portOptions) (Admitted portOptions) leftWorld [.acquire 1]
      final ∧ AtMostOneHolder final ∧ Reclaims portOptions 1 final := by
  have run : Steps (gatewayLockStep portOptions) (Admitted portOptions) leftWorld [.acquire 1]
      (leftWorld.setProcess 1
        { leftWorld.processes 1 with phase := .opening, startedAt := 5000 }) :=
    .single ⟨trivial, rfl⟩ rfl
  refine ⟨_, run, ?_⟩
  obtain ⟨exclusive, -, reclaims⟩ := gateway_lock_is_exclusive portOptions leftWorld_start run
  refine ⟨exclusive, reclaims 1 leftFile false { pidAlive := false } ⟨rfl, rfl, rfl, by decide⟩
    rfl ?_ (looksLeft_of_gone rfl (by decide) false rfl)⟩
  rintro payload isPayload (- | other) isLive isPid
  · nomatch isLive
  · obtain rfl := Option.some.inj isPayload
    rw [processes_setProcess] at isPid
    split at isPid <;> exact absurd isPid (show (200 : ℤ) ≠ 100 by decide)

def freshWorld : GatewayWorld where
  now := 5000
  processes := gatewayProcesses .live

theorem freshWorld_start : LockStart portOptions freshWorld where
  fresh := nofun
  born := nofun
  holder
    | 0 => .inl rfl
    | _ + 1 => .inl rfl
  written := nofun

/-- The second gateway probes the port of the first before that listens on it. -/
def startingRun : List GatewayLockEvent :=
  [.acquire 0, .openFile 0, .writePayload 0, .acquire 1, .openFile 1, .readFile 1 false,
    .probePort 1 true, .remove 1, .openFile 1, .writePayload 1]

theorem starting_gateway_loses_its_lock :
    LockStart portOptions freshWorld ∧
      ∃ final, Steps (gatewayLockStep portOptions) Truthful freshWorld startingRun final ∧
        ¬ AtMostOneHolder final := by
  have evaluates : (execute (gatewayLockStep portOptions) freshWorld startingRun).map
      (fun world => ((world.isLive 0, (world.processes 0).phase),
        (world.isLive 1, (world.processes 1).phase))) =
        some ((true, .holding 0), (true, .holding 1)) := by
    decide +kernel
  obtain ⟨final, executes, isFinal⟩ := Option.map_eq_some_iff.1 evaluates
  obtain ⟨⟨live, holds⟩, otherLive, otherHolds⟩ :
      (final.isLive 0 = true ∧ (final.processes 0).phase = .holding 0) ∧
        final.isLive 1 = true ∧ (final.processes 1).phase = .holding 1 := by
    simpa only [Prod.mk.injEq] using isFinal
  refine ⟨freshWorld_start, final, (steps_of_execute executes).promote ?_, fun exclusive => ?_⟩
  · intro event member world
    fin_cases member <;> trivial
  · exact absurd (exclusive 0 1 ⟨live, 0, holds⟩ ⟨otherLive, 1, otherHolds⟩) (by decide)

end OpenClaw.Gateway
