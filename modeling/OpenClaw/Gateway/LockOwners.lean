/-
This file says when only one gateway holds the lock of a configuration.

Whoever has created the file at the lock path owns it until it removes it, and the file of a
process that is alive stays as long as nothing is found out about this process that the code takes
for a sign of death, and a file is removed only where it is the one that was judged. By design a
port without a listener is such a sign, and so are a command line that is no gateway's and a lock
that nothing is known about for some time. That the file is still the one that was judged is not
checked anywhere.
-/

import OpenClaw.Gateway.GatewayLock

namespace OpenClaw.Gateway

open Machine

/-! ### The property -/

/-- The file that a process has created and not removed. -/
def LockPhase.owned : LockPhase → Option ℕ
  | .writing serial | .holding serial | .releasing serial => some serial
  | _ => none

/-- The file whose owner a process is judging. -/
def LockPhase.seen : LockPhase → Option ℕ
  | .probing seen _ | .checking seen _ | .aging seen _ | .statting seen | .removing seen => seen
  | _ => none

/-- A process has acquired the lock and has not begun to release it. -/
def GatewayWorld.Holds (world : GatewayWorld) (process : ℕ) : Prop :=
  world.isLive process = true ∧ ∃ serial, (world.processes process).phase = .holding serial

def AtMostOneHolder (world : GatewayWorld) : Prop :=
  ∀ first second, world.Holds first → world.Holds second → first = second

/-- A step removes no lock file that another process has created that is alive. -/
def KeepsOthersLock (world : GatewayWorld) (event : GatewayLockEvent) (next : GatewayWorld) :
    Prop :=
  ∀ file, world.file = some file → next.file = none → world.isLive file.creator = true →
    event.actor = some file.creator

/-! ### The condition -/

/-- Whether evidence is what can be found out about the processes that are alive. -/
def GatewayWorld.Fits (world : GatewayWorld) (payload : LockPayload) (evidence : OwnerEvidence) :
    Prop :=
  ∀ process, world.isLive process = true → (world.processes process).pid = payload.pid →
    evidence.pidAlive = true ∧
      (evidence.startTime = none ∨ evidence.startTime = (world.processes process).startTime)

/-- What is found out about an owner is what can be. -/
def Truthful (world : GatewayWorld) : GatewayLockEvent → Prop
  | .checkOwner process evidence => ∀ seen payload,
      (world.processes process).phase = .checking seen payload → world.Fits payload evidence
  | _ => True

/-- The file that a process has read is at the lock path, and its creator is alive. -/
def GatewayWorld.seesLive (world : GatewayWorld) (process : ℕ) : Bool :=
  world.file.any fun file => (world.processes process).phase.seen = some file.serial &&
    world.isLive file.creator

/-- The port of an owner that is alive is not free, its command line is a gateway's, and its lock
is not one that nothing is known about for long; and what is removed is the file that was read. -/
def careful (options : ℕ → GatewayLockOptions) (world : GatewayWorld) : GatewayLockEvent → Bool
  | .probePort process portFree => !portFree || !world.seesLive process
  | .checkOwner process evidence =>
    evidence.gatewayArgv ≠ some false || !world.seesLive process
  | .age process =>
    match (world.processes process).phase with
    | .aging _ payload => !world.isOld (options process) payload || !world.seesLive process
    | _ => true
  | .stat process fails =>
    fails || !(world.file.any fun file => (options process).staleMs < world.now - file.mtimeMs) ||
      !world.seesLive process
  | .remove process => world.file.all fun file =>
      (world.processes process).phase.seen = some file.serial
  | _ => true

/-- The steps of an amended run. -/
def Admitted (options : ℕ → GatewayLockOptions) (world : GatewayWorld)
    (event : GatewayLockEvent) : Prop :=
  Truthful world event ∧ careful options world event = true

/-! ### The invariant -/

/-- The payload that a process writes. -/
def LockPayload.IsOf (options : ℕ → GatewayLockOptions) (world : GatewayWorld) (process : ℕ)
    (payload : LockPayload) : Prop :=
  payload.pid = (world.processes process).pid ∧
    payload.startTime = if (options process).linux then (world.processes process).startTime
      else none

/-- What holds in every state of an amended run. -/
structure LockGuarded (options : ℕ → GatewayLockOptions) (world : GatewayWorld) : Prop where
  fresh : ∀ file, world.file = some file → file.serial < world.nextSerial
  born : ∀ file, world.file = some file → (world.processes file.creator).life ≠ .unborn
  owned : ∀ process serial, world.isLive process = true →
    (world.processes process).phase.owned = some serial →
      ∃ file, world.file = some file ∧ file.serial = serial ∧ file.creator = process ∧
        ((world.processes process).phase = .writing serial → file.payload = none)
  written : ∀ file payload, world.file = some file → world.isLive file.creator = true →
    file.payload = some payload → payload.IsOf options world file.creator
  past : ∀ process serial, (world.processes process).phase.seen = some serial →
    serial < world.nextSerial
  read : ∀ process seen payload, ((world.processes process).phase = .probing seen payload ∨
    (world.processes process).phase = .checking seen payload) →
      ∀ file, world.file = some file → seen = some file.serial → file.payload = some payload
  condemned : ∀ process seen, (world.processes process).phase = .removing seen →
    ∀ file, world.file = some file → seen = some file.serial → world.isLive file.creator = false

/-- A start with the lock file absent, half-written or left over in any shape, or that of a
process which is alive and holds the lock. No other process is on its way. -/
structure LockStart (options : ℕ → GatewayLockOptions) (world : GatewayWorld) : Prop where
  fresh : ∀ file, world.file = some file → file.serial < world.nextSerial
  born : ∀ file, world.file = some file → (world.processes file.creator).life ≠ .unborn
  holder : ∀ process, (world.processes process).phase = .idle ∨
    ∃ file payload, world.file = some file ∧ file.creator = process ∧
      (world.processes process).phase = .holding file.serial ∧ file.payload = some payload
  written : ∀ file payload, world.file = some file → world.isLive file.creator = true →
    file.payload = some payload → payload.IsOf options world file.creator

section Invariant

variable {options : ℕ → GatewayLockOptions} {world : GatewayWorld} {process : ℕ}
variable {payload : LockPayload} {file : GatewayLockFile}

theorem LockStart.guarded (isStart : LockStart options world) : LockGuarded options world where
  fresh := isStart.fresh
  born := isStart.born
  owned process serial _ owned := by
    rcases isStart.holder process with idle | ⟨file, payload, isFile, isCreator, holds, -⟩
    · rw [idle] at owned
      nomatch owned
    · rw [holds] at owned ⊢
      obtain rfl := Option.some.inj owned
      exact ⟨file, isFile, rfl, isCreator, nofun⟩
  written := isStart.written
  past process serial seen := by
    rcases isStart.holder process with idle | ⟨file, payload, -, -, holds, -⟩
    · rw [idle] at seen
      nomatch seen
    · rw [holds] at seen
      nomatch seen
  read process seen payload judges := by
    rcases isStart.holder process with idle | ⟨file, payload, -, -, holds, -⟩
    · rw [idle] at judges
      rcases judges with judges | judges <;> nomatch judges
    · rw [holds] at judges
      rcases judges with judges | judges <;> nomatch judges
  condemned process seen removes := by
    rcases isStart.holder process with idle | ⟨file, payload, -, -, holds, -⟩
    · rw [idle] at removes
      nomatch removes
    · rw [holds] at removes
      nomatch removes

/-- Of the processes that are alive at most one owns a file. -/
theorem LockGuarded.exclusive (guarded : LockGuarded options world) : AtMostOneHolder world := by
  rintro first second ⟨firstLive, serial, firstHolds⟩ ⟨secondLive, other, secondHolds⟩
  obtain ⟨file, isFile, -, isFirst, -⟩ := guarded.owned first serial firstLive
    (by rw [firstHolds]; rfl)
  obtain ⟨same, isSame, -, isSecond, -⟩ := guarded.owned second other secondLive
    (by rw [secondHolds]; rfl)
  obtain rfl := Option.some.inj (isFile.symm.trans isSame)
  exact isFirst.symm.trans isSecond

/-! ### What a step changes -/

@[simp] theorem processes_setProcess (world : GatewayWorld) (process : ℕ)
    (changed : GatewayProcess) (other : ℕ) :
    (world.setProcess process changed).processes other =
      if other = process then changed else world.processes other :=
  Function.update_apply _ _ _ _

/-- A process that changes, but neither lives nor dies. -/
structure SameProcess (former changed : GatewayProcess) : Prop where
  pid : changed.pid = former.pid
  startTime : changed.startTime = former.startTime
  life : changed.life = former.life

theorem isLive_setProcess {changed : GatewayProcess}
    (same : SameProcess (world.processes process) changed) (other : ℕ) :
    (world.setProcess process changed).isLive other = world.isLive other := by
  unfold GatewayWorld.isLive
  rw [processes_setProcess]
  split
  next isOther => rw [same.life, isOther]
  next => rfl

theorem isOf_setProcess {changed : GatewayProcess}
    (same : SameProcess (world.processes process) changed) {other : ℕ}
    (isOf : payload.IsOf options world other) :
    payload.IsOf options (world.setProcess process changed) other := by
  unfold LockPayload.IsOf at isOf ⊢
  rw [processes_setProcess]
  split
  next isOther =>
    rw [same.pid, same.startTime]
    exact isOther ▸ isOf
  next => exact isOf

/-- A process goes on, and what it comes to own, to have read or to remove is in order. -/
theorem LockGuarded.change (guarded : LockGuarded options world) {process : ℕ}
    {changed : GatewayProcess} (same : SameProcess (world.processes process) changed)
    (owned : ∀ serial, changed.phase.owned = some serial →
      (world.processes process).phase.owned = some serial ∧ changed.phase ≠ .writing serial)
    (past : ∀ serial, changed.phase.seen = some serial → serial < world.nextSerial)
    (read : ∀ seen payload, (changed.phase = .probing seen payload ∨
      changed.phase = .checking seen payload) → ∀ file, world.file = some file →
        seen = some file.serial → file.payload = some payload)
    (condemned : ∀ seen, changed.phase = .removing seen → ∀ file, world.file = some file →
      seen = some file.serial → world.isLive file.creator = false) :
    LockGuarded options (world.setProcess process changed) where
  fresh := guarded.fresh
  born file isFile := by
    rw [processes_setProcess]
    split
    next isCreator => exact same.life ▸ isCreator ▸ guarded.born file isFile
    next => exact guarded.born file isFile
  owned other serial isLive owns := by
    rw [isLive_setProcess same] at isLive
    rw [processes_setProcess] at owns ⊢
    split at owns
    next isOther =>
      rw [if_pos isOther]
      obtain ⟨owned, notWriting⟩ := owned serial owns
      obtain ⟨file, isFile, isSerial, isCreator, -⟩ := guarded.owned other serial isLive
        (isOther ▸ owned)
      exact ⟨file, isFile, isSerial, isCreator, fun writes => absurd writes notWriting⟩
    next isOther =>
      rw [if_neg isOther]
      exact guarded.owned other serial isLive owns
  written file payload isFile isLive isPayload := by
    rw [isLive_setProcess same] at isLive
    exact isOf_setProcess same (guarded.written file payload isFile isLive isPayload)
  past other serial := by
    rw [processes_setProcess]
    split
    · exact past serial
    · exact guarded.past other serial
  read other seen payload := by
    rw [processes_setProcess]
    split
    · exact read seen payload
    · exact guarded.read other seen payload
  condemned other seen := by
    rw [processes_setProcess]
    split
    next =>
      intro removes file isFile isSeen
      rw [isLive_setProcess same]
      exact condemned seen removes file isFile isSeen
    next =>
      intro removes file isFile isSeen
      rw [isLive_setProcess same]
      exact guarded.condemned other seen removes file isFile isSeen

/-- A process goes on to a phase in which it owns nothing and judges no file. -/
theorem LockGuarded.goOn (guarded : LockGuarded options world) (process : ℕ) {phase : LockPhase}
    (notOwned : phase.owned = none) (notSeen : phase.seen = none)
    (notRemoving : ∀ seen, phase ≠ .removing seen)
    (notJudging : ∀ seen payload, phase ≠ .probing seen payload ∧ phase ≠ .checking seen payload) :
    LockGuarded options (world.goOn process phase) :=
  guarded.change ⟨rfl, rfl, rfl⟩ (fun _ owns => absurd (notOwned.symm.trans owns) nofun)
    (fun _ sees => absurd (notSeen.symm.trans sees) nofun)
    (fun seen payload judges => judges.elim (absurd · (notJudging seen payload).1)
      (absurd · (notJudging seen payload).2))
    (fun seen removes => absurd removes (notRemoving seen))

/-- The file is created by a process that finds none. -/
theorem LockGuarded.create (guarded : LockGuarded options world)
    (isLive : world.isLive process = true) (noFile : world.file = none) :
    LockGuarded options (world.openFile process) := by
  have same : SameProcess (world.processes process)
      { world.processes process with phase := .writing world.nextSerial } := ⟨rfl, rfl, rfl⟩
  have nobody : ∀ other serial, world.isLive other = true →
      (world.processes other).phase.owned ≠ some serial := by
    intro other serial otherLive owns
    obtain ⟨file, isFile, -⟩ := guarded.owned other serial otherLive owns
    exact absurd (noFile.symm.trans isFile) nofun
  have newer : ∀ other, (world.processes other).phase.seen ≠ some world.nextSerial :=
    fun other sees => lt_irrefl _ (guarded.past other _ sees)
  unfold GatewayWorld.openFile
  rw [noFile]
  exact {
    fresh := fun file isFile => Option.some.inj isFile ▸ Nat.lt_succ_self _
    born := by
      rintro file isFile unborn
      obtain rfl := Option.some.inj isFile
      change ((world.setProcess process _).processes process).life = _ at unborn
      rw [processes_setProcess, if_pos rfl] at unborn
      unfold GatewayWorld.isLive at isLive
      rw [show (world.processes process).life = .unborn from unborn] at isLive
      nomatch isLive
    owned := by
      intro other serial otherLive owns
      change (world.setProcess process _).isLive other = true at otherLive
      rw [isLive_setProcess same] at otherLive
      change ((world.setProcess process _).processes other).phase.owned = some serial at owns
      rw [processes_setProcess] at owns
      split at owns
      next isOther =>
        obtain rfl := Option.some.inj owns
        exact ⟨_, rfl, rfl, isOther.symm, fun _ => rfl⟩
      next => exact absurd owns (nobody other serial otherLive)
    written := fun file payload isFile _ isPayload => by
      obtain rfl := Option.some.inj isFile
      nomatch isPayload
    past := by
      intro other serial sees
      change ((world.setProcess process _).processes other).phase.seen = some serial at sees
      rw [processes_setProcess] at sees
      split at sees
      · nomatch sees
      · exact (guarded.past other serial sees).trans (Nat.lt_succ_self _)
    read := by
      intro other seen payload judges file isFile isSeen
      obtain rfl := Option.some.inj isFile
      change ((world.setProcess process _).processes other).phase = _ ∨
        ((world.setProcess process _).processes other).phase = _ at judges
      rw [processes_setProcess] at judges
      split at judges
      · rcases judges with judges | judges <;> nomatch judges
      · refine absurd (Eq.trans ?_ isSeen) (newer other)
        rcases judges with judges | judges <;> rw [judges] <;> rfl
    condemned := by
      intro other seen removes file isFile isSeen
      obtain rfl := Option.some.inj isFile
      change ((world.setProcess process _).processes other).phase = _ at removes
      rw [processes_setProcess] at removes
      split at removes
      · nomatch removes
      · refine absurd (Eq.trans ?_ isSeen) (newer other)
        rw [removes]
        rfl }

/-- The file is removed where it is nobody else's that is alive. -/
theorem LockGuarded.remove (guarded : LockGuarded options world)
    (own : ∀ file, world.file = some file → world.isLive file.creator = true →
      file.creator = process)
    {phase : LockPhase} (notOwned : phase.owned = none) (notSeen : phase.seen = none) :
    LockGuarded options (world.removeFile.goOn process phase) where
  fresh := nofun
  born := nofun
  owned other serial otherLive owns := by
    have same : SameProcess (world.removeFile.processes process)
        { world.processes process with phase } := ⟨rfl, rfl, rfl⟩
    have otherLive : world.isLive other = true :=
      (isLive_setProcess same other).symm.trans otherLive
    change ((world.removeFile.setProcess process _).processes other).phase.owned = _ at owns
    rw [processes_setProcess] at owns
    split at owns
    · exact absurd (notOwned.symm.trans owns) nofun
    next isOther =>
      obtain ⟨file, isFile, -, rfl, -⟩ := guarded.owned other serial otherLive owns
      exact absurd (own file isFile otherLive) isOther
  written := nofun
  past other serial sees := by
    change ((world.removeFile.setProcess process _).processes other).phase.seen = _ at sees
    rw [processes_setProcess] at sees
    split at sees
    · exact absurd (notSeen.symm.trans sees) nofun
    · exact guarded.past other serial sees
  read := nofun
  condemned := nofun

/-- The file is written by a process that has created it. Nobody has read a payload yet. -/
theorem LockGuarded.write (guarded : LockGuarded options world) {process serial : ℕ}
    (isLive : world.isLive process = true)
    (writes : (world.processes process).phase = .writing serial) :
    LockGuarded options (world.writePayload (options process) process serial) := by
  have same : SameProcess (world.processes process)
      { world.processes process with phase := .holding serial } := ⟨rfl, rfl, rfl⟩
  obtain ⟨file, isFile, isSerial, isCreator, unwritten⟩ := guarded.owned process serial isLive
    (by rw [writes]; rfl)
  have noPayload : file.payload = none := unwritten writes
  have isChanged : (world.writePayload (options process) process serial).file = some
      { file with
        payload := some (world.payloadOf (options process) (world.processes process))
        mtimeMs := world.now } := by
    unfold GatewayWorld.writePayload
    dsimp only
    rw [isFile, Option.map_some, if_pos isSerial]
  exact {
    fresh := fun changed isFile' => by
      obtain rfl := Option.some.inj (isChanged.symm.trans isFile')
      exact guarded.fresh file isFile
    born := fun changed isFile' => by
      obtain rfl := Option.some.inj (isChanged.symm.trans isFile')
      change ((world.setProcess process _).processes file.creator).life ≠ _
      rw [processes_setProcess, if_pos isCreator]
      exact isCreator ▸ guarded.born file isFile
    owned := by
      intro other otherSerial otherLive owns
      have otherLive : world.isLive other = true :=
        (isLive_setProcess same other).symm.trans otherLive
      change ((world.setProcess process _).processes other).phase.owned = some otherSerial at owns
      change ∃ changed, _ ∧ _ ∧ _ ∧
        (((world.setProcess process _).processes other).phase = _ → _)
      rw [processes_setProcess] at owns ⊢
      split at owns
      next isOther =>
        obtain rfl := Option.some.inj owns
        rw [if_pos isOther]
        exact ⟨_, isChanged, isSerial, isCreator.trans isOther.symm, nofun⟩
      next isOther =>
        obtain ⟨file', isFile', -, isOther', -⟩ := guarded.owned other otherSerial otherLive owns
        obtain rfl := Option.some.inj (isFile.symm.trans isFile')
        exact absurd (isOther'.symm.trans isCreator) isOther
    written := by
      intro changed payload isFile' _ isPayload
      obtain rfl := Option.some.inj (isChanged.symm.trans isFile')
      obtain rfl := Option.some.inj isPayload
      have isOf : (world.payloadOf (options process) (world.processes process)).IsOf options world
          file.creator := isCreator ▸ ⟨rfl, rfl⟩
      exact isOf_setProcess same isOf
    past := by
      intro other otherSerial sees
      change ((world.setProcess process _).processes other).phase.seen = some otherSerial at sees
      rw [processes_setProcess] at sees
      split at sees
      · nomatch sees
      · exact guarded.past other otherSerial sees
    read := by
      intro other seen payload judges changed isFile' isSeen
      obtain rfl := Option.some.inj (isChanged.symm.trans isFile')
      change ((world.setProcess process _).processes other).phase = _ ∨
        ((world.setProcess process _).processes other).phase = _ at judges
      rw [processes_setProcess] at judges
      split at judges
      · rcases judges with judges | judges <;> nomatch judges
      · have isRead := guarded.read other seen payload judges file isFile isSeen
        exact absurd (noPayload.symm.trans isRead) nofun
    condemned := by
      intro other seen removes changed isFile' isSeen
      obtain rfl := Option.some.inj (isChanged.symm.trans isFile')
      change ((world.setProcess process _).processes other).phase = _ at removes
      rw [processes_setProcess] at removes
      split at removes
      · nomatch removes
      · exact (isLive_setProcess same _).trans
          (guarded.condemned other seen removes file isFile isSeen) }

/-- A process dies. -/
theorem LockGuarded.die (guarded : LockGuarded options world) (process : ℕ) :
    LockGuarded options
      (world.setProcess process { world.processes process with life := .dead }) := by
  have survives : ∀ {other}, (world.setProcess process
      { world.processes process with life := .dead }).isLive other = true →
        other ≠ process ∧ world.isLive other = true := by
    intro other otherLive
    unfold GatewayWorld.isLive at otherLive ⊢
    rw [processes_setProcess] at otherLive
    split at otherLive
    · nomatch of_decide_eq_true otherLive
    next isOther => exact ⟨isOther, otherLive⟩
  have samePhase : ∀ other, ((world.setProcess process
      { world.processes process with life := .dead }).processes other).phase =
        (world.processes other).phase := by
    intro other
    rw [processes_setProcess]
    split
    next isOther => rw [isOther]
    next => rfl
  exact {
    fresh := guarded.fresh
    born := fun file isFile => by
      rw [processes_setProcess]
      split
      · nofun
      · exact guarded.born file isFile
    owned := fun other serial otherLive owns => by
      rw [samePhase] at owns ⊢
      exact guarded.owned other serial (survives otherLive).2 owns
    written := by
      intro file payload isFile isLive isPayload
      obtain ⟨isOther, isLive⟩ := survives isLive
      have isOf := guarded.written file payload isFile isLive isPayload
      unfold LockPayload.IsOf at isOf ⊢
      rwa [processes_setProcess, if_neg isOther]
    past := fun other serial sees => guarded.past other serial (samePhase other ▸ sees)
    read := fun other seen payload judges =>
      guarded.read other seen payload (samePhase other ▸ judges)
    condemned := by
      intro other seen removes file isFile isSeen
      have notLive := guarded.condemned other seen (samePhase other ▸ removes) file isFile isSeen
      refine Bool.eq_false_iff.2 fun isLive => ?_
      exact absurd ((survives isLive).2.symm.trans notLive) nofun }

/-- A process comes up. It is not the creator of the file. -/
theorem LockGuarded.startUp (guarded : LockGuarded options world)
    (unborn : (world.processes process).life = .unborn) :
    LockGuarded options (world.setProcess process
      { world.processes process with life := .live, phase := .idle }) := by
  have notCreator : ∀ file, world.file = some file → file.creator ≠ process :=
    fun file isFile isCreator => guarded.born file isFile (isCreator ▸ unborn)
  have sameLife : ∀ {other}, other ≠ process → (world.setProcess process
      { world.processes process with life := .live, phase := .idle }).isLive other =
        world.isLive other := by
    intro other isOther
    unfold GatewayWorld.isLive
    rw [processes_setProcess, if_neg isOther]
  exact {
    fresh := guarded.fresh
    born := fun file isFile => by
      rw [processes_setProcess, if_neg (notCreator file isFile)]
      exact guarded.born file isFile
    owned := by
      intro other serial otherLive owns
      rw [processes_setProcess] at owns ⊢
      split at owns
      · nomatch owns
      next isOther =>
        rw [if_neg isOther]
        exact guarded.owned other serial (sameLife isOther ▸ otherLive) owns
    written := by
      intro file payload isFile isLive isPayload
      have isOther := notCreator file isFile
      have isOf := guarded.written file payload isFile (sameLife isOther ▸ isLive) isPayload
      unfold LockPayload.IsOf at isOf ⊢
      rwa [processes_setProcess, if_neg isOther]
    past := by
      intro other serial sees
      rw [processes_setProcess] at sees
      split at sees
      · nomatch sees
      · exact guarded.past other serial sees
    read := by
      intro other seen payload judges
      rw [processes_setProcess] at judges
      split at judges
      · rcases judges with judges | judges <;> nomatch judges
      · exact guarded.read other seen payload judges
    condemned := by
      intro other seen removes file isFile isSeen
      rw [sameLife (notCreator file isFile)]
      rw [processes_setProcess] at removes
      split at removes
      · nomatch removes
      · exact guarded.condemned other seen removes file isFile isSeen }

/-! ### Judging an owner -/

theorem not_live_of_seesLive (seesNone : world.seesLive process = false)
    (isFile : world.file = some file)
    (isSeen : (world.processes process).phase.seen = some file.serial) :
    world.isLive file.creator = false := by
  unfold GatewayWorld.seesLive at seesNone
  rw [isFile, Option.any_some, isSeen, decide_eq_true rfl, Bool.true_and] at seesNone
  exact seesNone

/-- A process goes on to judge the file that it has read, or leaves off. It comes to remove the
file only where its creator is not alive. -/
theorem LockGuarded.judge (guarded : LockGuarded options world) {phase : LockPhase}
    (notOwned : phase.owned = none)
    (sees : phase.seen = none ∨ phase.seen = (world.processes process).phase.seen)
    (judges : ∀ seen payload, phase = .probing seen payload ∨ phase = .checking seen payload →
      (world.processes process).phase = .probing seen payload)
    (condemns : ∀ seen, phase = .removing seen → world.seesLive process = false) :
    LockGuarded options (world.goOn process phase) := by
  refine guarded.change ⟨rfl, rfl, rfl⟩ (fun _ owns => absurd (notOwned.symm.trans owns) nofun)
    ?_ ?_ ?_
  · intro serial isSeen
    rcases sees with none | same
    · exact absurd (none.symm.trans isSeen) nofun
    · exact guarded.past process serial (same.symm.trans isSeen)
  · intro seen payload judging file isFile isSeen
    exact guarded.read process seen payload (.inl (judges seen payload judging)) file isFile isSeen
  · intro seen removes file isFile isSeen
    refine not_live_of_seesLive (condemns seen removes) isFile ?_
    change phase = .removing seen at removes
    rw [removes] at sees
    rcases sees with none | same
    · exact absurd (isSeen.symm.trans none) nofun
    · exact same.symm.trans isSeen

theorem LockGuarded.readFile (guarded : LockGuarded options world) (process : ℕ) (fails : Bool) :
    LockGuarded options (world.readFile (options process) process fails) := by
  have past : ∀ serial, world.file.map GatewayLockFile.serial = some serial →
      serial < world.nextSerial := by
    intro serial isSerial
    obtain ⟨file, isFile, rfl⟩ := Option.map_eq_some_iff.1 isSerial
    exact guarded.fresh file isFile
  unfold GatewayWorld.readFile
  dsimp only
  split
  · exact guarded.change ⟨rfl, rfl, rfl⟩ nofun past
      (fun _ _ judging => judging.elim nofun nofun) nofun
  next payload isRead =>
    have isPayload : ∀ file, world.file = some file → file.payload = some payload := by
      intro file isFile
      split at isRead
      · nomatch isRead
      · rwa [isFile] at isRead
    split
    · exact guarded.change ⟨rfl, rfl, rfl⟩ nofun past
        (fun _ _ judging => judging.elim nofun nofun) nofun
    · split
      · refine guarded.change ⟨rfl, rfl, rfl⟩ nofun past ?_ nofun
        intro seen payload' judging file isFile _
        rcases judging with judging | judging
        · injection judging with _ isSame
          exact isSame ▸ isPayload file isFile
        · nomatch judging
      · refine guarded.change ⟨rfl, rfl, rfl⟩ nofun past ?_ nofun
        intro seen payload' judging file isFile _
        rcases judging with judging | judging
        · nomatch judging
        · injection judging with _ isSame
          exact isSame ▸ isPayload file isFile

/-- Evidence about an owner that is alive does not make it dead, its command line apart. -/
theorem not_dead_of_fits {process creator : ℕ} {evidence : OwnerEvidence}
    (isLive : world.isLive creator = true) (isOf : payload.IsOf options world creator)
    (fits : world.Fits payload evidence) (isGateway : evidence.gatewayArgv ≠ some false) :
    resolveGatewayOwnerStatus (options process).linux payload evidence ≠ .dead := by
  obtain ⟨pidAlive, isStart⟩ := fits creator isLive isOf.1.symm
  unfold resolveGatewayOwnerStatus
  rw [pidAlive]
  simp only [Bool.not_true, Bool.false_eq_true, if_false]
  split
  next payloadStart isPayloadStart =>
    have recorded : (world.processes creator).startTime = some payloadStart := by
      have isSome : payload.startTime = some payloadStart := by
        split at isPayloadStart
        · exact isPayloadStart
        · nomatch isPayloadStart
      rw [isOf.2] at isSome
      split at isSome
      · exact isSome
      · nomatch isSome
    rcases isStart with none | same
    · rw [none]
      nofun
    · rw [same, recorded]
      dsimp only
      rw [if_pos rfl]
      nofun
  · split
    · split <;> nofun
    next gateway isArgv =>
      cases gateway with
      | true => nofun
      | false => exact absurd isArgv isGateway

/-- What a process finds out with care leads it to remove no file of one that is alive. -/
theorem LockGuarded.judged (guarded : LockGuarded options world) {seen : Option ℕ}
    (isSeen : (world.processes process).phase.seen = seen) {status : LockOwnerStatus}
    (condemns : status = .dead → world.seesLive process = false) :
    LockGuarded options (world.judged process seen payload status) := by
  unfold GatewayWorld.judged
  cases status with
  | dead =>
    exact guarded.judge rfl (.inr isSeen.symm) (fun _ _ judging => judging.elim nofun nofun)
      fun _ _ => condemns rfl
  | alive =>
    exact guarded.judge rfl (.inl rfl) (fun _ _ judging => judging.elim nofun nofun) nofun
  | unknown =>
    exact guarded.judge rfl (.inr isSeen.symm) (fun _ _ judging => judging.elim nofun nofun) nofun

/-- The evidence about the owner of the file that a process has read. -/
theorem LockGuarded.not_dead (guarded : LockGuarded options world)
    {seen : Option ℕ} {evidence : OwnerEvidence}
    (checks : (world.processes process).phase = .checking seen payload)
    (fits : world.Fits payload evidence)
    (isCareful : careful options world (.checkOwner process evidence) = true)
    (dead : resolveGatewayOwnerStatus (options process).linux payload evidence = .dead) :
    world.seesLive process = false := by
  refine Bool.eq_false_iff.2 fun seesLive => ?_
  have isGateway : evidence.gatewayArgv ≠ some false := by
    unfold careful at isCareful
    dsimp only at isCareful
    rw [seesLive, Bool.not_true, Bool.or_false] at isCareful
    exact of_decide_eq_true isCareful
  unfold GatewayWorld.seesLive at seesLive
  obtain ⟨file, isFile, sees⟩ := (Option.any_eq_true _ _).1 seesLive
  rw [checks, Bool.and_eq_true, decide_eq_true_iff] at sees
  have isPayload := guarded.read process seen payload (.inr checks) file isFile sees.1
  have isOf := guarded.written file payload isFile sees.2 isPayload
  exact not_dead_of_fits sees.2 isOf fits isGateway dead

/-! ### One step -/

/-- The step of a process is one of a process that is alive. -/
theorem processStep_of_taken {event : GatewayLockEvent} {next : GatewayWorld}
    (taken : gatewayLockStep options world event = some next)
    (acts : event.actor = some process) (comesUp : ∀ other, event ≠ .startUp other) :
    world.isLive process = true ∧
      world.processStep (options process) process event = some next := by
  unfold gatewayLockStep at taken
  split at taken
  · nomatch acts
  next other => exact absurd rfl (comesUp other)
  · rw [acts, Option.bind_some] at taken
    split at taken
    next isLive => exact ⟨isLive, taken⟩
    · nomatch taken

/-- What is removed on purpose is a file whose creator is not alive. -/
theorem LockGuarded.not_live_of_removing (guarded : LockGuarded options world)
    {seen : Option ℕ} (removes : (world.processes process).phase = .removing seen)
    (isCareful : careful options world (.remove process) = true)
    (isFile : world.file = some file) : world.isLive file.creator = false := by
  unfold careful at isCareful
  dsimp only at isCareful
  rw [isFile, removes] at isCareful
  exact guarded.condemned process seen removes file isFile (of_decide_eq_true isCareful)

/-- What is removed by the release of a lock is the file that was created for it. -/
theorem LockGuarded.creator_of_releasing (guarded : LockGuarded options world) {process serial : ℕ}
    (isLive : world.isLive process = true)
    (releases : (world.processes process).phase = .releasing serial)
    (isFile : world.file = some file) : file.creator = process := by
  obtain ⟨own, isOwn, -, isCreator, -⟩ := guarded.owned process serial isLive
    (by rw [releases]; rfl)
  obtain rfl := Option.some.inj (isFile.symm.trans isOwn)
  exact isCreator

theorem seesLive_of_careful {suspicious : Bool}
    (isCareful : (!suspicious || !world.seesLive process) = true) (suspects : suspicious = true) :
    world.seesLive process = false := by
  rwa [suspects, Bool.not_true, Bool.false_or, Bool.not_eq_true'] at isCareful

/-- Every step of an amended run keeps the invariant. -/
theorem LockGuarded.step (guarded : LockGuarded options world) {event : GatewayLockEvent}
    {next : GatewayWorld} (admitted : Admitted options world event)
    (taken : gatewayLockStep options world event = some next) : LockGuarded options next := by
  obtain ⟨truthful, isCareful⟩ := admitted
  cases event with
  | advance elapsedMs =>
    obtain rfl := Option.some.inj taken
    exact ⟨guarded.fresh, guarded.born, guarded.owned, guarded.written, guarded.past, guarded.read,
      guarded.condemned⟩
  | startUp process =>
    unfold gatewayLockStep at taken
    dsimp only at taken
    split at taken
    next unborn =>
      obtain rfl := Option.some.inj taken
      exact guarded.startUp unborn
    · nomatch taken
  | die process =>
    obtain ⟨-, taken⟩ := processStep_of_taken taken rfl nofun
    obtain rfl := Option.some.inj taken
    exact guarded.die process
  | acquire process =>
    obtain ⟨-, taken⟩ := processStep_of_taken taken rfl nofun
    have changed : LockGuarded options (world.setProcess process
        { world.processes process with phase := .opening, startedAt := world.now }) :=
      guarded.change ⟨rfl, rfl, rfl⟩ nofun nofun (fun _ _ judging => judging.elim nofun nofun) nofun
    unfold GatewayWorld.processStep at taken
    dsimp only at taken
    split at taken
    · exact Option.some.inj taken ▸ changed
    · exact Option.some.inj taken ▸ changed
    · nomatch taken
  | openFile process =>
    obtain ⟨isLive, taken⟩ := processStep_of_taken taken rfl nofun
    unfold GatewayWorld.processStep at taken
    dsimp only at taken
    split at taken
    · split at taken
      · obtain rfl := Option.some.inj taken
        cases isFile : world.file with
        | none => exact guarded.create isLive isFile
        | some file =>
          unfold GatewayWorld.openFile
          rw [isFile]
          exact guarded.goOn process rfl rfl nofun fun _ _ => ⟨nofun, nofun⟩
      · nomatch taken
    · nomatch taken
  | openFails process =>
    obtain ⟨-, taken⟩ := processStep_of_taken taken rfl nofun
    unfold GatewayWorld.processStep at taken
    dsimp only at taken
    split at taken
    · exact Option.some.inj taken ▸ guarded.goOn process rfl rfl nofun fun _ _ => ⟨nofun, nofun⟩
    · nomatch taken
  | giveUp process =>
    obtain ⟨-, taken⟩ := processStep_of_taken taken rfl nofun
    unfold GatewayWorld.processStep at taken
    dsimp only at taken
    split at taken
    · split at taken
      · exact Option.some.inj taken ▸ guarded.goOn process rfl rfl nofun fun _ _ => ⟨nofun, nofun⟩
      · nomatch taken
    · nomatch taken
  | writePayload process =>
    obtain ⟨isLive, taken⟩ := processStep_of_taken taken rfl nofun
    unfold GatewayWorld.processStep at taken
    dsimp only at taken
    split at taken
    next serial writes => exact Option.some.inj taken ▸ guarded.write isLive writes
    · nomatch taken
  | writeFails process =>
    obtain ⟨-, taken⟩ := processStep_of_taken taken rfl nofun
    unfold GatewayWorld.processStep at taken
    dsimp only at taken
    split at taken
    · exact Option.some.inj taken ▸ guarded.goOn process rfl rfl nofun fun _ _ => ⟨nofun, nofun⟩
    · nomatch taken
  | readFile process fails =>
    obtain ⟨-, taken⟩ := processStep_of_taken taken rfl nofun
    unfold GatewayWorld.processStep at taken
    dsimp only at taken
    split at taken
    · exact Option.some.inj taken ▸ guarded.readFile process fails
    · nomatch taken
  | probePort process portFree =>
    obtain ⟨-, taken⟩ := processStep_of_taken taken rfl nofun
    unfold GatewayWorld.processStep at taken
    dsimp only at taken
    split at taken
    next seen payload probes =>
      obtain rfl := Option.some.inj taken
      split
      next isFree =>
        exact guarded.judged (by rw [probes]; rfl) fun _ => seesLive_of_careful isCareful isFree
      next =>
        refine guarded.judge rfl (.inr (by rw [probes]; rfl)) (fun _ _ judging => ?_) nofun
        rcases judging with judging | judging
        · nomatch judging
        · injection judging with sameSeen samePayload
          rw [probes, sameSeen, samePayload]
    · nomatch taken
  | checkOwner process evidence =>
    obtain ⟨-, taken⟩ := processStep_of_taken taken rfl nofun
    unfold GatewayWorld.processStep at taken
    dsimp only at taken
    split at taken
    next seen payload checks =>
      obtain rfl := Option.some.inj taken
      exact guarded.judged (by rw [checks]; rfl)
        (guarded.not_dead checks (truthful seen payload checks) isCareful)
    · nomatch taken
  | age process =>
    obtain ⟨-, taken⟩ := processStep_of_taken taken rfl nofun
    unfold GatewayWorld.processStep at taken
    dsimp only at taken
    split at taken
    next seen payload ages =>
      obtain rfl := Option.some.inj taken
      unfold careful at isCareful
      dsimp only at isCareful
      rw [ages] at isCareful
      split
      next isOld =>
        exact guarded.judge rfl (.inr (by rw [ages]; rfl))
          (fun _ _ judging => judging.elim nofun nofun)
          fun _ _ => seesLive_of_careful isCareful isOld
      next =>
        exact guarded.judge rfl (.inr (by rw [ages]; rfl))
          (fun _ _ judging => judging.elim nofun nofun) nofun
    · nomatch taken
  | stat process fails =>
    obtain ⟨-, taken⟩ := processStep_of_taken taken rfl nofun
    unfold GatewayWorld.processStep at taken
    dsimp only at taken
    split at taken
    next seen stats =>
      obtain rfl := Option.some.inj taken
      unfold careful at isCareful
      dsimp only at isCareful
      unfold GatewayWorld.stat
      split
      next isOld =>
        refine guarded.judge rfl (.inr (by rw [stats]; rfl))
          (fun _ _ judging => judging.elim nofun nofun) fun _ _ => ?_
        rw [Bool.and_eq_true, Bool.not_eq_true'] at isOld
        rw [isOld.1, Bool.false_or] at isCareful
        exact seesLive_of_careful isCareful isOld.2
      next =>
        exact guarded.judge rfl (.inl rfl) (fun _ _ judging => judging.elim nofun nofun) nofun
    · nomatch taken
  | remove process =>
    obtain ⟨-, taken⟩ := processStep_of_taken taken rfl nofun
    unfold GatewayWorld.processStep at taken
    dsimp only at taken
    split at taken
    next seen removes =>
      refine Option.some.inj taken ▸ guarded.remove (fun file isFile isLive => ?_) rfl rfl
      exact absurd (isLive.symm.trans (guarded.not_live_of_removing removes isCareful isFile)) nofun
    · nomatch taken
  | retry process =>
    obtain ⟨-, taken⟩ := processStep_of_taken taken rfl nofun
    unfold GatewayWorld.processStep at taken
    dsimp only at taken
    split at taken
    · exact Option.some.inj taken ▸ guarded.goOn process rfl rfl nofun fun _ _ => ⟨nofun, nofun⟩
    · nomatch taken
  | release process =>
    obtain ⟨-, taken⟩ := processStep_of_taken taken rfl nofun
    unfold GatewayWorld.processStep at taken
    dsimp only at taken
    split at taken
    next serial holds =>
      refine Option.some.inj taken ▸ guarded.change ⟨rfl, rfl, rfl⟩ ?_ nofun
        (fun _ _ judging => judging.elim nofun nofun) nofun
      intro owned owns
      exact ⟨by rw [holds]; exact owns, nofun⟩
    · nomatch taken
  | removeReleased process =>
    obtain ⟨isLive, taken⟩ := processStep_of_taken taken rfl nofun
    unfold GatewayWorld.processStep at taken
    dsimp only at taken
    split at taken
    next serial releases =>
      exact Option.some.inj taken ▸ guarded.remove
        (fun file isFile _ => guarded.creator_of_releasing isLive releases isFile) rfl rfl
    · nomatch taken

end Invariant

/-! ### The removal of lock files -/

section Removal

variable {options : ℕ → GatewayLockOptions} {world : GatewayWorld} {event : GatewayLockEvent}
variable {next : GatewayWorld}

/-- The steps of a process that remove no file. -/
theorem file_of_processStep {own : GatewayLockOptions} {process : ℕ}
    (taken : world.processStep own process event = some next)
    (notRemove : ∀ other, event ≠ .remove other ∧ event ≠ .removeReleased other)
    (hasFile : world.file.isSome = true) : next.file.isSome = true := by
  unfold GatewayWorld.processStep at taken
  split at taken
  · exact Option.some.inj taken ▸ hasFile
  · split at taken
    · exact Option.some.inj taken ▸ hasFile
    · exact Option.some.inj taken ▸ hasFile
    · nomatch taken
  · split at taken
    · split at taken
      · obtain rfl := Option.some.inj taken
        unfold GatewayWorld.openFile
        split
        · rfl
        · exact hasFile
      · nomatch taken
    · nomatch taken
  · split at taken
    · exact Option.some.inj taken ▸ hasFile
    · nomatch taken
  · split at taken
    · split at taken
      · exact Option.some.inj taken ▸ hasFile
      · nomatch taken
    · nomatch taken
  · split at taken
    · refine Option.some.inj taken ▸ ?_
      unfold GatewayWorld.writePayload
      rw [Option.isSome_map]
      exact hasFile
    · nomatch taken
  · split at taken
    · exact Option.some.inj taken ▸ hasFile
    · nomatch taken
  · split at taken
    · exact Option.some.inj taken ▸ hasFile
    · nomatch taken
  · split at taken
    · obtain rfl := Option.some.inj taken
      split <;> exact hasFile
    · nomatch taken
  · split at taken
    · obtain rfl := Option.some.inj taken
      unfold GatewayWorld.judged
      split <;> exact hasFile
    · nomatch taken
  · split at taken
    · exact Option.some.inj taken ▸ hasFile
    · nomatch taken
  · split at taken
    · exact Option.some.inj taken ▸ hasFile
    · nomatch taken
  next other => exact absurd rfl (notRemove other).1
  · split at taken
    · exact Option.some.inj taken ▸ hasFile
    · nomatch taken
  · split at taken
    · exact Option.some.inj taken ▸ hasFile
    · nomatch taken
  next other => exact absurd rfl (notRemove other).2
  · nomatch taken

/-- The file that is gone after a step has been removed. -/
theorem removed_of_gone
    (taken : gatewayLockStep options world event = some next) {file : GatewayLockFile}
    (isFile : world.file = some file) (gone : next.file = none) :
    ∃ process, event = .remove process ∨ event = .removeReleased process := by
  by_contra others
  have notRemove : ∀ other, event ≠ .remove other ∧ event ≠ .removeReleased other :=
    fun other => not_or.1 fun removes => others ⟨other, removes⟩
  have hasFile : world.file.isSome = true := by rw [isFile]; rfl
  have keeps : next.file.isSome = true := by
    cases isActor : event.actor with
    | none =>
      cases event with
      | advance elapsedMs =>
        obtain rfl := Option.some.inj taken
        exact hasFile
      | _ => nomatch isActor
    | some process =>
      by_cases comesUp : ∃ other, event = .startUp other
      · obtain ⟨other, rfl⟩ := comesUp
        unfold gatewayLockStep at taken
        dsimp only at taken
        split at taken
        · exact Option.some.inj taken ▸ hasFile
        · nomatch taken
      · obtain ⟨-, taken⟩ := processStep_of_taken taken isActor
          fun other starts => comesUp ⟨other, starts⟩
        exact file_of_processStep taken notRemove hasFile
  rw [gone] at keeps
  nomatch keeps

/-- No step of an amended run removes the lock of another process that is alive. -/
theorem LockGuarded.keeps (guarded : LockGuarded options world)
    (admitted : Admitted options world event)
    (taken : gatewayLockStep options world event = some next) :
    KeepsOthersLock world event next := by
  intro file isFile gone isLive
  obtain ⟨process, rfl | rfl⟩ := removed_of_gone taken isFile gone
  · obtain ⟨-, taken⟩ := processStep_of_taken taken rfl nofun
    unfold GatewayWorld.processStep at taken
    dsimp only at taken
    split at taken
    next seen removes =>
      have notLive := guarded.not_live_of_removing removes admitted.2 isFile
      exact absurd (isLive.symm.trans notLive) nofun
    · nomatch taken
  · obtain ⟨isProcess, taken⟩ := processStep_of_taken taken rfl nofun
    unfold GatewayWorld.processStep at taken
    dsimp only at taken
    split at taken
    next serial releases =>
      exact congrArg some (guarded.creator_of_releasing isProcess releases isFile).symm
    · nomatch taken

end Removal

end OpenClaw.Gateway
