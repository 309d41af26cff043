/-
This file says when the write lock of a session excludes.

The file at the lock path belongs to an acquisition from the moment it is created until
its owner removes it, and at any time there is at most one such acquisition: a call on
its way to the lock or back from it, or a process whose calls hold the lock together.
That is the tenure of the lock. A step of the owner moves the tenure on, and no other
step touches it as long as a reclaim removes the file it has judged and nothing of a
running acquisition is judged stale.

The code does not ensure either. The file is removed by its path, whatever has come
there since it was read; an own lock file without a start time counts as orphaned while
another call of the process is creating or releasing it.
-/

import OpenClaw.Session.WriteLock

namespace OpenClaw.Session

open Machine LockWorld

/-! ### The property -/

/-- The file a call has created, or holds with others of its process, and has not removed yet. -/
def Phase.owned : Phase → Option Nat
  | .writing serial _ | .registering serial | .aborting serial | .holding serial
  | .releasing serial => some serial
  | _ => none

/-- A call has returned from acquiring the lock and has not released it, in a process that is
alive. -/
def LockWorld.Holds (world : LockWorld) (index process : Nat) : Prop :=
  ∃ call serial, world.calls[index]? = some call ∧ call.process = process ∧
    world.isAlive process = true ∧ call.phase = .holding serial

/-- An acquisition in progress owns a file. -/
def LockWorld.busy (world : LockWorld) (serial : Nat) : Bool :=
  world.calls.any fun call => call.phase.owned = some serial && world.isAlive call.process

/-! ### The condition -/

/-- No live holder keeps the lock longer than its `maxHoldMs` and `staleMs`. -/
def LockWorld.withinLimits (world : LockWorld) : Bool :=
  world.calls.all fun call => match call.phase with
    | .holding serial => (world.processes[call.process]?).all fun process =>
        !process.alive || process.held.all fun held =>
          held.serial ≠ serial || world.now ≤ held.acquiredAt + held.maxHoldMs &&
            world.now ≤ held.acquiredAt + call.staleMs
    | _ => true

/-- A call of the process is between opening and registering the lock file, or between giving the
entry back and removing the file. -/
def LockWorld.inTransit (world : LockWorld) (process : Nat) : Bool :=
  world.calls.any fun call => call.process = process && call.phase.owned.isSome

/-- The condition on a step of a call. An own lock file counts as orphaned only when no call of the
process is in transit; a running acquisition is not older than the contender's `staleMs`, and the
stat of its file does not fail; what is removed is the file that was read; a lock is released
once. -/
def LockWorld.carefulCall (world : LockWorld) (call : Call) (process : Process) :
    LockAction → Bool
  | .judge _ => match call.phase with
    | .judging _ payload =>
      (!shouldTreatAsOrphanSelfLock process payload || !world.inTransit call.process) &&
        world.file.all fun file =>
          !world.busy file.serial || world.now ≤ file.openedAt + call.staleMs
    | _ => true
  | .stat _ fails => match call.phase with
    | .statting _ nowMs => world.file.all fun file =>
        !world.busy file.serial || !fails && nowMs ≤ file.openedAt + call.staleMs
    | _ => true
  | .remove _ => match call.phase with
    | .removing seen => world.file.all fun file => seen = some file.serial
    | _ => true
  | .release _ => match call.phase with
    | .holding _ => true
    | _ => false
  | _ => true

/-- The condition on a step. -/
def LockWorld.careful (world : LockWorld) (action : LockAction) : Bool :=
  world.withinLimits && (callOf action).all fun index => (world.calls[index]?).all fun call =>
    (world.processes[call.process]?).all fun process => world.carefulCall call process action

/-- A session whose lock file is absent or left over in any shape, and processes that have not
acquired its lock. -/
structure LockStart (world : LockWorld) : Prop where
  calls : world.calls = []
  released : ∀ process ∈ world.processes, process.held = none
  positive : ∀ process ∈ world.processes, 0 < process.pid
  pids : ∀ (left right : Nat) (first second : Process), world.processes[left]? = some first →
    world.processes[right]? = some second → first.alive = true → second.alive = true →
    first.pid = second.pid → left = right
  fresh : ∀ file, world.file = some file → file.serial < world.nextSerial

/-! ### Tenure -/

/-- Who has the lock. -/
inductive Tenure
  | vacant
  | single (index serial : Nat)
  | held (process : Nat) (lock : HeldLock)

/-- The file is the one an acquisition of the process has created. -/
structure Own (file : LockFile) (serial : Nat) (process : Process) : Prop where
  serial : file.serial = serial
  mtime : file.openedAt ≤ file.mtimeMs
  payload : file.payload = none ∨ ∃ createdAt, file.openedAt ≤ createdAt ∧
    file.payload = some ⟨some process.pid, some createdAt, process.startTime⟩

/-- What is the case under a tenure. -/
def Tenure.Fits (world : LockWorld) : Tenure → Prop
  | .vacant =>
    (∀ (index : Nat) (call : Call), world.calls[index]? = some call →
      world.isAlive call.process = true → call.phase.owned = none) ∧
    ∀ (index : Nat) (process : Process), world.processes[index]? = some process →
      process.alive = true → process.held = none
  | .single owner serial =>
    (∃ call process file, world.calls[owner]? = some call ∧
      world.processes[call.process]? = some process ∧ process.alive = true ∧
      call.phase.owned = some serial ∧ (∀ other, call.phase ≠ .holding other) ∧
      (∀ openedAt, call.phase = .writing serial openedAt →
        openedAt = file.openedAt ∧ file.payload = none) ∧
      world.file = some file ∧ Own file serial process) ∧
    (∀ (index : Nat) (call : Call), index ≠ owner → world.calls[index]? = some call →
      world.isAlive call.process = true → call.phase.owned = none) ∧
    ∀ (index : Nat) (process : Process), world.processes[index]? = some process →
      process.alive = true → process.held = none
  | .held owner lock =>
    (∃ process file, world.processes[owner]? = some process ∧ process.alive = true ∧
      process.held = some lock ∧ world.file = some file ∧ Own file lock.serial process) ∧
    (∀ (index : Nat) (call : Call), world.calls[index]? = some call →
      world.isAlive call.process = true → ∀ serial, call.phase.owned = some serial →
      call.process = owner ∧ call.phase = .holding lock.serial) ∧
    (∀ (index : Nat) (process : Process), index ≠ owner →
      world.processes[index]? = some process → process.alive = true → process.held = none) ∧
    lock.count = (world.calls.countP fun call =>
      call.process = owner && call.phase = .holding lock.serial) ∧ 0 < lock.count

/-- The file a call has read. -/
def Phase.seen : Phase → Option Nat
  | .judging seen _ | .statting seen _ | .removing seen => seen
  | _ => none

/-- What a call knows of the file it has read: an earlier file is gone for good, the payload is the
file's or was not there yet, and no running acquisition is up for removal. -/
structure Reads (world : LockWorld) (phase : Phase) : Prop where
  past : ∀ serial, phase.seen = some serial → serial < world.nextSerial
  read : ∀ seen payload file, phase = .judging seen payload → world.file = some file →
    seen = some file.serial → payload = none ∨ payload = file.payload
  condemned : ∀ seen file, phase = .removing seen → world.file = some file →
    seen = some file.serial → world.busy file.serial = false

/-- What holds in every state of a run that meets the condition. -/
structure Guarded (world : LockWorld) : Prop where
  positive : ∀ (index : Nat) (process : Process), world.processes[index]? = some process →
    0 < process.pid
  pids : ∀ (left right : Nat) (first second : Process), world.processes[left]? = some first →
    world.processes[right]? = some second → first.alive = true → second.alive = true →
    first.pid = second.pid → left = right
  fresh : ∀ file, world.file = some file → file.serial < world.nextSerial
  reads : ∀ (index : Nat) (call : Call), world.calls[index]? = some call → Reads world call.phase
  tenure : ∃ tenure : Tenure, tenure.Fits world

theorem LockStart.guarded {world : LockWorld} (isStart : LockStart world) : Guarded world where
  positive _ process listed := isStart.positive process (List.mem_of_getElem? listed)
  pids := isStart.pids
  fresh := isStart.fresh
  reads index call listed := by
    rw [isStart.calls] at listed
    exact absurd listed (by simp)
  tenure := by
    refine ⟨.vacant, ?_, ?_⟩
    · intro index call listed
      rw [isStart.calls] at listed
      exact absurd listed (by simp)
    · intro index process listed _
      exact isStart.released process (List.mem_of_getElem? listed)

/-! ### Looking things up -/

section Lookup

variable {world : LockWorld}

theorem busy_iff (world : LockWorld) (serial : Nat) : world.busy serial = true ↔
    ∃ (index : Nat) (call : Call), world.calls[index]? = some call ∧
      call.phase.owned = some serial ∧ world.isAlive call.process = true := by
  simp only [busy, List.any_eq_true, Bool.and_eq_true, decide_eq_true_eq, List.mem_iff_getElem?]
  constructor
  · rintro ⟨call, ⟨index, listed⟩, owned, alive⟩
    exact ⟨index, call, listed, owned, alive⟩
  · rintro ⟨index, call, listed, owned, alive⟩
    exact ⟨call, ⟨index, listed⟩, owned, alive⟩

theorem isAlive_of_lookup {index : Nat} {process : Process}
    (listed : world.processes[index]? = some process) (alive : process.alive = true) :
    world.isAlive index = true := by
  rw [isAlive, listed]
  exact alive

theorem lookup_of_isAlive {index : Nat} (alive : world.isAlive index = true) :
    ∃ process, world.processes[index]? = some process ∧ process.alive = true := by
  rw [isAlive, Option.any_eq_true] at alive
  exact alive

/-- The calls after one of them has moved. -/
theorem calls_setPhase {index : Nat} {call : Call} (stored : world.calls[index]? = some call)
    (phase : Phase) (other : Nat) (found : Call) :
    (world.setPhase index call phase).calls[other]? = some found ↔
      other = index ∧ found = { call with phase } ∨
        other ≠ index ∧ world.calls[other]? = some found := by
  have bound : index < world.calls.length := (List.getElem?_eq_some_iff.1 stored).1
  show (world.calls.set index { call with phase })[other]? = some found ↔ _
  by_cases here : other = index
  · subst here
    rw [List.getElem?_set_self bound, Option.some.injEq]
    simp [eq_comm]
  · rw [List.getElem?_set_ne (Ne.symm here)]
    simp [here]

/-- The calls after one more has been made. -/
theorem calls_append (world : LockWorld) (new : Call) (other : Nat) (found : Call) :
    (world.calls ++ [new])[other]? = some found ↔
      world.calls[other]? = some found ∨ other = world.calls.length ∧ found = new := by
  rw [List.getElem?_append]
  split
  next inside =>
    have notEnd : other ≠ world.calls.length := inside.ne
    simp [notEnd]
  next outside =>
    have absent : world.calls[other]? = none := List.getElem?_eq_none (not_lt.1 outside)
    rw [absent, List.getElem?_singleton]
    have order := not_lt.1 outside
    split
    next isEnd =>
      have isLast : other = world.calls.length := by omega
      simp [isLast, eq_comm]
    next notEnd =>
      have notLast : other ≠ world.calls.length := by omega
      simp [notLast]

/-- The processes after one of them has changed. -/
theorem processes_set {index : Nat} {process : Process}
    (stored : world.processes[index]? = some process) (new : Process) (other : Nat)
    (found : Process) :
    (world.processes.set index new)[other]? = some found ↔
      other = index ∧ found = new ∨ other ≠ index ∧ world.processes[other]? = some found := by
  have bound : index < world.processes.length := (List.getElem?_eq_some_iff.1 stored).1
  by_cases here : other = index
  · subst here
    rw [List.getElem?_set_self bound, Option.some.injEq]
    simp [eq_comm]
  · rw [List.getElem?_set_ne (Ne.symm here)]
    simp [here]

end Lookup

/-! ### The owner -/

section Owner

variable {world : LockWorld} {tenure : Tenure}

/-- The owner of a file is alive, and the file at the path is the one it created. -/
theorem Tenure.Fits.of_busy (fits : tenure.Fits world) {serial : Nat}
    (busy : world.busy serial = true) :
    ∃ index process file, world.processes[index]? = some process ∧ process.alive = true ∧
      world.file = some file ∧ Own file serial process ∧
      (process.held = none → world.inTransit index = true) := by
  obtain ⟨index, call, listed, owned, alive⟩ := (busy_iff world serial).1 busy
  cases tenure with
  | vacant => exact absurd ((fits.1 index call listed alive).symm.trans owned) nofun
  | single owner own =>
    obtain ⟨⟨ownCall, process, file, ownListed, processListed, processAlive, ownOwned, -, -,
      hasFile, isOwn⟩, others, -⟩ := fits
    by_cases isOwner : index = owner
    · subst isOwner
      obtain rfl := Option.some.inj (ownListed.symm.trans listed)
      obtain rfl := Option.some.inj (ownOwned.symm.trans owned)
      refine ⟨_, process, file, processListed, processAlive, hasFile, isOwn, fun _ => ?_⟩
      exact List.any_eq_true.2 ⟨ownCall, List.mem_of_getElem? listed, by simp [owned]⟩
    · exact absurd ((others index call isOwner listed alive).symm.trans owned) nofun
  | held owner lock =>
    obtain ⟨⟨process, file, processListed, processAlive, hasEntry, hasFile, isOwn⟩, holders, -, -⟩ :=
      fits
    obtain ⟨-, phase_eq⟩ := holders index call listed alive serial owned
    rw [phase_eq] at owned
    obtain rfl := Option.some.inj owned
    exact ⟨owner, process, file, processListed, processAlive, hasFile, isOwn,
      fun noEntry => absurd (noEntry.symm.trans hasEntry) nofun⟩

/-- Where nobody owns the file at the path, the lock is vacant. -/
theorem Tenure.Fits.vacant_of_not_busy (fits : tenure.Fits world)
    (unowned : ∀ file, world.file = some file → world.busy file.serial = false) :
    tenure = .vacant := by
  cases tenure with
  | vacant => rfl
  | single owner serial =>
    obtain ⟨⟨call, process, file, listed, processListed, processAlive, owned, -, -, hasFile, isOwn⟩,
      -, -⟩ := fits
    refine absurd ((busy_iff world file.serial).2 ⟨owner, call, listed, ?_,
      isAlive_of_lookup processListed processAlive⟩) (Bool.eq_false_iff.1 (unowned file hasFile))
    rw [owned, isOwn.serial]
  | held owner lock =>
    obtain ⟨⟨process, file, processListed, processAlive, -, hasFile, isOwn⟩, -, -, count_eq,
      counted⟩ := fits
    rw [count_eq, List.countP_pos_iff] at counted
    obtain ⟨call, member, holds⟩ := counted
    obtain ⟨index, listed⟩ := List.mem_iff_getElem?.1 member
    rw [Bool.and_eq_true, decide_eq_true_eq, decide_eq_true_eq] at holds
    refine absurd ((busy_iff world file.serial).2 ⟨index, call, listed, ?_, ?_⟩)
      (Bool.eq_false_iff.1 (unowned file hasFile))
    · rw [holds.2, isOwn.serial]
      rfl
    · rw [holds.1]
      exact isAlive_of_lookup processListed processAlive

/-- At most one process holds the lock. -/
theorem Tenure.Fits.exclusive (fits : tenure.Fits world) {first second left right : Nat}
    (firstHolds : world.Holds first left) (secondHolds : world.Holds second right) :
    left = right := by
  obtain ⟨call, serial, listed, process_eq, alive, phase_eq⟩ := firstHolds
  obtain ⟨other, otherSerial, otherListed, otherProcess_eq, otherAlive, otherPhase_eq⟩ := secondHolds
  have owned : call.phase.owned = some serial := by rw [phase_eq]; rfl
  have otherOwned : other.phase.owned = some otherSerial := by rw [otherPhase_eq]; rfl
  rw [← process_eq] at alive ⊢
  rw [← otherProcess_eq] at otherAlive ⊢
  cases tenure with
  | vacant => exact absurd ((fits.1 first call listed alive).symm.trans owned) nofun
  | single owner own =>
    obtain ⟨⟨ownCall, process, file, ownListed, -, -, -, notHolding, -⟩, others, -⟩ := fits
    by_cases isOwner : first = owner
    · subst isOwner
      obtain rfl := Option.some.inj (ownListed.symm.trans listed)
      exact absurd phase_eq (notHolding serial)
    · exact absurd ((others first call isOwner listed alive).symm.trans owned) nofun
  | held owner lock =>
    obtain ⟨-, holders, -⟩ := fits
    exact (holders first call listed alive serial owned).1.trans
      (holders second other otherListed otherAlive otherSerial otherOwned).1.symm

end Owner

/-! ### Steps away from the lock -/

section Frames

variable {world next : LockWorld} {index : Nat} {call : Call} {process : Process} {phase : Phase}

theorem isAlive_setPhase (world : LockWorld) (index : Nat) (call : Call) (phase : Phase)
    (process : Nat) : (world.setPhase index call phase).isAlive process = world.isAlive process :=
  rfl

/-- A call that does not own a file before or after moving is not seen by the tenure. -/
theorem Tenure.Fits.setPhase {tenure : Tenure} (fits : tenure.Fits world)
    (stored : world.calls[index]? = some call) (owned : call.phase.owned = none)
    (newOwned : phase.owned = none) : tenure.Fits (world.setPhase index call phase) := by
  have moved := calls_setPhase stored phase
  cases tenure with
  | vacant =>
    refine ⟨fun other found listed alive => ?_, fits.2⟩
    rcases (moved other found).1 listed with ⟨rfl, rfl⟩ | ⟨-, listed⟩
    · exact newOwned
    · exact fits.1 other found listed alive
  | single owner serial =>
    obtain ⟨⟨ownCall, ownProcess, file, ownListed, rest⟩, others, entries⟩ := fits
    have apart : owner ≠ index := by
      rintro rfl
      obtain rfl := Option.some.inj (ownListed.symm.trans stored)
      exact absurd (owned.symm.trans rest.2.2.1) nofun
    refine ⟨⟨ownCall, ownProcess, file, (moved owner ownCall).2 (.inr ⟨apart, ownListed⟩), rest⟩, ?_,
      entries⟩
    intro other found elsewhere listed alive
    rcases (moved other found).1 listed with ⟨rfl, rfl⟩ | ⟨-, listed⟩
    · exact newOwned
    · exact others other found elsewhere listed alive
  | held owner lock =>
    obtain ⟨entry, holders, entries, count_eq, counted⟩ := fits
    refine ⟨entry, ?_, entries, ?_, counted⟩
    · intro other found listed alive serial foundOwned
      rcases (moved other found).1 listed with ⟨rfl, rfl⟩ | ⟨-, listed⟩
      · exact absurd (newOwned.symm.trans foundOwned) nofun
      · exact holders other found listed alive serial foundOwned
    · have bound : index < world.calls.length := (List.getElem?_eq_some_iff.1 stored).1
      have call_eq : world.calls[index] = call := (List.getElem?_eq_some_iff.1 stored).2
      have notHolding : ∀ old : Phase, old.owned = none → old ≠ .holding lock.serial := by
        rintro old none rfl
        exact absurd none nofun
      show lock.count = (world.calls.set index { call with phase }).countP _
      rw [List.countP_set bound, call_eq, count_eq]
      simp [notHolding _ owned, notHolding _ newOwned]

/-- A call that owns no file is not seen by the tenure when it is made. -/
theorem Tenure.Fits.append {tenure : Tenure} (fits : tenure.Fits world) {new : Call}
    (newOwned : new.phase.owned = none) :
    tenure.Fits { world with calls := world.calls ++ [new] } := by
  have made := calls_append world new
  cases tenure with
  | vacant =>
    refine ⟨fun other found listed alive => ?_, fits.2⟩
    rcases (made other found).1 listed with listed | ⟨-, rfl⟩
    · exact fits.1 other found listed alive
    · exact newOwned
  | single owner serial =>
    obtain ⟨⟨ownCall, ownProcess, file, ownListed, rest⟩, others, entries⟩ := fits
    refine ⟨⟨ownCall, ownProcess, file, (made owner ownCall).2 (.inl ownListed), rest⟩, ?_, entries⟩
    intro other found elsewhere listed alive
    rcases (made other found).1 listed with listed | ⟨-, rfl⟩
    · exact others other found elsewhere listed alive
    · exact newOwned
  | held owner lock =>
    obtain ⟨entry, holders, entries, count_eq, counted⟩ := fits
    refine ⟨entry, ?_, entries, ?_, counted⟩
    · intro other found listed alive serial foundOwned
      rcases (made other found).1 listed with listed | ⟨-, rfl⟩
      · exact holders other found listed alive serial foundOwned
      · exact absurd (newOwned.symm.trans foundOwned) nofun
    · have notHolding : new.phase ≠ .holding lock.serial := by
        intro holds
        rw [holds] at newOwned
        exact absurd newOwned nofun
      rw [List.countP_append, count_eq]
      simp [notHolding]

theorem Reads.of_unseen (world : LockWorld) (unseen : phase.seen = none) :
    Reads world phase where
  past serial seen := absurd (unseen.symm.trans seen) nofun
  read seen payload file phase_eq _ seen_eq := by
    rw [phase_eq] at unseen
    exact absurd (seen_eq.symm.trans unseen) nofun
  condemned seen file phase_eq _ seen_eq := by
    rw [phase_eq] at unseen
    exact absurd (seen_eq.symm.trans unseen) nofun

/-- What a step does to the file and its owners, as far as readers of the file are concerned. -/
structure Evolves (world next : LockWorld) : Prop where
  serials : world.nextSerial ≤ next.nextSerial
  files : ∀ file, next.file = some file → file.serial = world.nextSerial ∨
    ∃ old, world.file = some old ∧ old.serial = file.serial ∧
      (old.payload = none ∨ old.payload = file.payload)
  owners : ∀ serial, serial < world.nextSerial → next.busy serial = true →
    world.busy serial = true

theorem Reads.evolve (reads : Reads world phase) (evolves : Evolves world next) :
    Reads next phase where
  past serial seen := (reads.past serial seen).trans_le evolves.serials
  read seen payload file phase_eq hasFile seen_eq := by
    have past : file.serial < world.nextSerial :=
      reads.past file.serial (by rw [phase_eq]; exact seen_eq)
    rcases evolves.files file hasFile with new | ⟨old, hadFile, serial_eq, payload_eq⟩
    · exact absurd new past.ne
    · rcases reads.read seen payload old phase_eq hadFile (serial_eq ▸ seen_eq) with none | same
      · exact .inl none
      · rcases payload_eq with wasEmpty | kept
        · exact .inl (same.trans wasEmpty)
        · exact .inr (same.trans kept)
  condemned seen file phase_eq hasFile seen_eq := by
    have past : file.serial < world.nextSerial :=
      reads.past file.serial (by rw [phase_eq]; exact seen_eq)
    rcases evolves.files file hasFile with new | ⟨old, hadFile, serial_eq, -⟩
    · exact absurd new past.ne
    · have unowned := reads.condemned seen old phase_eq hadFile (serial_eq ▸ seen_eq)
      rw [serial_eq] at unowned
      by_contra owned
      rw [Bool.not_eq_false] at owned
      exact Bool.false_ne_true (unowned.symm.trans (evolves.owners file.serial past owned))

/-- The file and its owners are as before. -/
theorem Evolves.of_frame (serials : next.nextSerial = world.nextSerial)
    (file_eq : next.file = world.file)
    (owners : ∀ serial, next.busy serial = true → world.busy serial = true) :
    Evolves world next where
  serials := serials.ge
  files file hasFile := .inr ⟨file, file_eq ▸ hasFile, rfl, .inr rfl⟩
  owners serial _ := owners serial

/-- The call that moves owns nothing it did not own before. -/
theorem busy_setPhase (stored : world.calls[index]? = some call)
    (kept : ∀ serial, phase.owned = some serial → call.phase.owned = some serial) {serial : Nat}
    (busy : (world.setPhase index call phase).busy serial = true) : world.busy serial = true := by
  obtain ⟨other, found, listed, owned, alive⟩ := (busy_iff _ _).1 busy
  rcases (calls_setPhase stored phase other found).1 listed with ⟨rfl, rfl⟩ | ⟨-, listed⟩
  · exact (busy_iff _ _).2 ⟨other, call, stored, kept serial owned, alive⟩
  · exact (busy_iff _ _).2 ⟨other, found, listed, owned, alive⟩

/-- A step of one call away from the lock. -/
theorem Guarded.setPhase (guarded : Guarded world) (stored : world.calls[index]? = some call)
    (owned : call.phase.owned = none) (newOwned : phase.owned = none)
    (reads : Reads world phase) : Guarded (world.setPhase index call phase) := by
  obtain ⟨tenure, fits⟩ := guarded.tenure
  have evolves : Evolves world (world.setPhase index call phase) :=
    .of_frame rfl rfl fun serial => busy_setPhase stored
      fun serial isOwned => absurd (newOwned.symm.trans isOwned) nofun
  refine ⟨guarded.positive, guarded.pids, guarded.fresh, ?_, tenure,
    fits.setPhase stored owned newOwned⟩
  intro other found listed
  rcases (calls_setPhase stored phase other found).1 listed with ⟨-, rfl⟩ | ⟨-, listed⟩
  · exact reads.evolve evolves
  · exact (guarded.reads other found listed).evolve evolves

end Frames

/-! ### Steps of the owner -/

section OwnerSteps

variable {world : LockWorld} {index : Nat} {call : Call} {process : Process} {tenure : Tenure}
variable {serial : Nat}

/-- A call on its way to the lock or back from it has the tenure to itself. -/
theorem Tenure.Fits.eq_single (fits : tenure.Fits world)
    (stored : world.calls[index]? = some call) (alive : world.isAlive call.process = true)
    (owned : call.phase.owned = some serial)
    (notHolding : ∀ other, call.phase ≠ .holding other) : tenure = .single index serial := by
  cases tenure with
  | vacant => exact absurd ((fits.1 index call stored alive).symm.trans owned) nofun
  | single owner own =>
    obtain ⟨⟨ownCall, -, -, ownListed, -, -, ownOwned, -⟩, others, -⟩ := fits
    by_cases isOwner : index = owner
    · subst isOwner
      obtain rfl := Option.some.inj (ownListed.symm.trans stored)
      obtain rfl := Option.some.inj (ownOwned.symm.trans owned)
      rfl
    · exact absurd ((others index call isOwner stored alive).symm.trans owned) nofun
  | held owner lock =>
    obtain ⟨-, holders, -⟩ := fits
    exact absurd (holders index call stored alive serial owned).2 (notHolding _)

/-- A process with an entry for the lock has the tenure. -/
theorem Tenure.Fits.eq_held (fits : tenure.Fits world)
    (listed : world.processes[index]? = some process) (alive : process.alive = true)
    {lock : HeldLock} (entry : process.held = some lock) : tenure = .held index lock := by
  cases tenure with
  | vacant => exact absurd ((fits.2 index process listed alive).symm.trans entry) nofun
  | single owner own => exact absurd ((fits.2.2 index process listed alive).symm.trans entry) nofun
  | held owner own =>
    obtain ⟨⟨ownProcess, -, ownListed, -, ownEntry, -⟩, -, entries, -⟩ := fits
    by_cases isOwner : index = owner
    · subst isOwner
      obtain rfl := Option.some.inj (ownListed.symm.trans listed)
      obtain rfl := Option.some.inj (ownEntry.symm.trans entry)
      rfl
    · exact absurd ((entries index process isOwner listed alive).symm.trans entry) nofun

/-- A holding call shares in the tenure of its process. -/
theorem Tenure.Fits.eq_held_of_holding (fits : tenure.Fits world)
    (stored : world.calls[index]? = some call)
    (listed : world.processes[call.process]? = some process) (alive : process.alive = true)
    (holding : call.phase = .holding serial) :
    ∃ lock, tenure = .held call.process lock ∧ lock.serial = serial ∧
      process.held = some lock := by
  have owned : call.phase.owned = some serial := by rw [holding]; rfl
  have lives := isAlive_of_lookup listed alive
  cases tenure with
  | vacant => exact absurd ((fits.1 index call stored lives).symm.trans owned) nofun
  | single owner own =>
    obtain ⟨⟨ownCall, -, -, ownListed, -, -, -, notHolding, -⟩, others, -⟩ := fits
    by_cases isOwner : index = owner
    · subst isOwner
      obtain rfl := Option.some.inj (ownListed.symm.trans stored)
      exact absurd holding (notHolding serial)
    · exact absurd ((others index call isOwner stored lives).symm.trans owned) nofun
  | held owner lock =>
    obtain ⟨⟨ownProcess, file, ownListed, -, ownEntry, -⟩, holders, -⟩ := fits
    obtain ⟨owner_eq, phase_eq⟩ := holders index call stored lives serial owned
    subst owner_eq
    obtain rfl := Option.some.inj (ownListed.symm.trans listed)
    obtain rfl := Phase.holding.inj (phase_eq.symm.trans holding)
    exact ⟨lock, rfl, rfl, ownEntry⟩

/-- The exclusive creation of the lock file. -/
theorem Guarded.openFile (guarded : Guarded world) (stored : world.calls[index]? = some call)
    (listed : world.processes[call.process]? = some process) (alive : process.alive = true)
    (opening : call.phase = .opening) : Guarded (world.openFile index call) := by
  have owned : call.phase.owned = none := by rw [opening]; rfl
  unfold LockWorld.openFile
  cases hasFile : world.file with
  | some file => exact guarded.setPhase stored owned rfl (.of_unseen _ rfl)
  | none =>
    obtain ⟨tenure, fits⟩ := guarded.tenure
    obtain rfl := fits.vacant_of_not_busy fun file present =>
      absurd (hasFile.symm.trans present) nofun
    have moved := calls_setPhase stored (.writing world.nextSerial world.now)
    have evolves : Evolves world
        { world.setPhase index call (.writing world.nextSerial world.now) with
          file := some ⟨world.nextSerial, world.now, none, world.now⟩
          nextSerial := world.nextSerial + 1 } := by
      refine ⟨Nat.le_succ _, ?_, ?_⟩
      · intro file present
        exact .inl (Option.some.inj present ▸ rfl)
      · intro serial past busy
        obtain ⟨other, found, foundListed, foundOwned, foundAlive⟩ := (busy_iff _ _).1 busy
        rcases (moved other found).1 foundListed with ⟨-, rfl⟩ | ⟨-, foundListed⟩
        · exact absurd (Option.some.inj foundOwned) past.ne'
        · exact (busy_iff _ _).2 ⟨other, found, foundListed, foundOwned, foundAlive⟩
    refine ⟨guarded.positive, guarded.pids, ?_, ?_, .single index world.nextSerial, ?_, ?_, fits.2⟩
    · intro file present
      exact Option.some.inj present ▸ Nat.lt_succ_self _
    · intro other found foundListed
      rcases (moved other found).1 foundListed with ⟨-, rfl⟩ | ⟨-, foundListed⟩
      · exact .of_unseen _ rfl
      · exact (guarded.reads other found foundListed).evolve evolves
    · refine ⟨_, process, _, (moved index _).2 (.inl ⟨rfl, rfl⟩), listed, alive, rfl, nofun, ?_, rfl,
        ⟨rfl, le_refl _, .inl rfl⟩⟩
      intro openedAt phase_eq
      exact ⟨(Phase.writing.inj phase_eq).2.symm, rfl⟩
    · intro other found elsewhere foundListed foundAlive
      rcases (moved other found).1 foundListed with ⟨here, -⟩ | ⟨-, foundListed⟩
      · exact absurd here elsewhere
      · exact fits.1 other found foundListed foundAlive

/-- The owner moves and keeps the file, which may get its payload. -/
theorem Guarded.ownerMoves (guarded : Guarded world) (stored : world.calls[index]? = some call)
    (listed : world.processes[call.process]? = some process) (alive : process.alive = true)
    (owned : call.phase.owned = some serial)
    (notHolding : ∀ other, call.phase ≠ .holding other) {phase : Phase}
    (newOwned : phase.owned = some serial) (unseen : phase.seen = none)
    (newNotHolding : ∀ other, phase ≠ .holding other)
    (newNotWriting : ∀ other openedAt, phase ≠ .writing other openedAt)
    (change : LockFile → LockFile)
    (changed : ∀ file, world.file = some file → Own file serial process →
      (∀ openedAt, call.phase = .writing serial openedAt →
        openedAt = file.openedAt ∧ file.payload = none) →
      Own (change file) serial process ∧
        (file.payload = none ∨ file.payload = (change file).payload)) :
    Guarded { world.setPhase index call phase with file := world.file.map change } := by
  obtain ⟨tenure, fits⟩ := guarded.tenure
  obtain rfl := fits.eq_single stored (isAlive_of_lookup listed alive) owned notHolding
  obtain ⟨⟨ownCall, ownProcess, file, ownListed, processListed, -, -, -, writing, hasFile, isOwn⟩,
    others, entries⟩ := fits
  obtain rfl := Option.some.inj (ownListed.symm.trans stored)
  obtain rfl := Option.some.inj (processListed.symm.trans listed)
  obtain ⟨newOwn, payloads⟩ := changed file hasFile isOwn writing
  have moved := calls_setPhase stored phase
  have newFile : world.file.map change = some (change file) := by rw [hasFile, Option.map_some]
  have evolves : Evolves world
      { world.setPhase index ownCall phase with file := world.file.map change } := by
    refine ⟨le_refl _, ?_, ?_⟩
    · intro found present
      obtain rfl := Option.some.inj (newFile.symm.trans present)
      exact .inr ⟨file, hasFile, isOwn.serial.trans newOwn.serial.symm, payloads⟩
    · intro other _ busy
      exact busy_setPhase stored (fun serial' isOwned => by
        obtain rfl := Option.some.inj (newOwned.symm.trans isOwned)
        exact owned) busy
  refine ⟨guarded.positive, guarded.pids, ?_, ?_, .single index serial, ?_, ?_, entries⟩
  · intro found present
    obtain rfl := Option.some.inj (newFile.symm.trans present)
    rw [newOwn.serial, ← isOwn.serial]
    exact guarded.fresh file hasFile
  · intro other found foundListed
    rcases (moved other found).1 foundListed with ⟨-, rfl⟩ | ⟨-, foundListed⟩
    · exact .of_unseen _ unseen
    · exact (guarded.reads other found foundListed).evolve evolves
  · exact ⟨_, ownProcess, change file, (moved index _).2 (.inl ⟨rfl, rfl⟩), listed, alive, newOwned,
      newNotHolding, fun openedAt phase_eq => absurd phase_eq (newNotWriting _ _), newFile, newOwn⟩
  · intro other found elsewhere foundListed foundAlive
    rcases (moved other found).1 foundListed with ⟨here, -⟩ | ⟨-, foundListed⟩
    · exact absurd here elsewhere
    · exact others other found elsewhere foundListed foundAlive

/-- A process that changes its entry for the lock and nothing else. -/
theorem isAlive_setHeld (listed : world.processes[index]? = some process)
    (held : Option HeldLock) (other : Nat) :
    (world.setHeld index process held).isAlive other = world.isAlive other := by
  show ((world.processes.set index { process with held })[other]?).any _ = _
  have bound : index < world.processes.length := (List.getElem?_eq_some_iff.1 listed).1
  by_cases here : other = index
  · subst here
    rw [List.getElem?_set_self bound, isAlive, listed]
    rfl
  · rw [List.getElem?_set_ne (Ne.symm here)]
    rfl

theorem Guarded.processes_setHeld (guarded : Guarded world)
    (listed : world.processes[index]? = some process) (held : Option HeldLock) :
    (∀ (other : Nat) (found : Process),
      (world.setHeld index process held).processes[other]? = some found → 0 < found.pid) ∧
    ∀ (left right : Nat) (first second : Process),
      (world.setHeld index process held).processes[left]? = some first →
      (world.setHeld index process held).processes[right]? = some second → first.alive = true →
      second.alive = true → first.pid = second.pid → left = right := by
  have like : ∀ (other : Nat) (found : Process),
      (world.setHeld index process held).processes[other]? = some found →
      ∃ old, world.processes[other]? = some old ∧ old.pid = found.pid ∧ old.alive = found.alive := by
    intro other found foundListed
    rcases (processes_set listed _ other found).1 foundListed with ⟨rfl, rfl⟩ | ⟨-, foundListed⟩
    · exact ⟨process, listed, rfl, rfl⟩
    · exact ⟨found, foundListed, rfl, rfl⟩
  constructor
  · intro other found foundListed
    obtain ⟨old, oldListed, pid_eq, -⟩ := like other found foundListed
    exact pid_eq ▸ guarded.positive other old oldListed
  · intro left right first second firstListed secondListed firstAlive secondAlive same
    obtain ⟨oldFirst, oldFirstListed, firstPid, firstLives⟩ := like left first firstListed
    obtain ⟨oldSecond, oldSecondListed, secondPid, secondLives⟩ := like right second secondListed
    exact guarded.pids left right oldFirst oldSecond oldFirstListed oldSecondListed
      (firstLives.trans firstAlive) (secondLives.trans secondAlive)
      (firstPid.trans (same.trans secondPid.symm))

/-- The lock is registered, and the tenure passes from the call to its process. -/
theorem Guarded.register (guarded : Guarded world) (stored : world.calls[index]? = some call)
    (listed : world.processes[call.process]? = some process) (alive : process.alive = true)
    (registering : call.phase = .registering serial) :
    Guarded (world.register index call process serial) := by
  obtain ⟨tenure, fits⟩ := guarded.tenure
  have owned : call.phase.owned = some serial := by rw [registering]; rfl
  have lives := isAlive_of_lookup listed alive
  obtain rfl := fits.eq_single stored lives owned
    (fun other phase_eq => absurd (registering.symm.trans phase_eq) nofun)
  obtain ⟨⟨ownCall, ownProcess, file, ownListed, processListed, -, -, -, -, hasFile, isOwn⟩,
    others, entries⟩ := fits
  obtain rfl := Option.some.inj (ownListed.symm.trans stored)
  obtain rfl := Option.some.inj (processListed.symm.trans listed)
  have moved := calls_setPhase stored (.holding serial)
  have set := processes_set listed
    { ownProcess with held := some ⟨serial, 1, world.now, ownCall.maxHoldMs⟩ }
  obtain ⟨positive, pids⟩ := guarded.processes_setHeld listed
    (some ⟨serial, 1, world.now, ownCall.maxHoldMs⟩)
  have evolves : Evolves world (world.register index ownCall ownProcess serial) := by
    refine .of_frame rfl rfl fun other busy => ?_
    obtain ⟨position, found, foundListed, foundOwned, foundAlive⟩ := (busy_iff _ _).1 busy
    rw [show (world.register index ownCall ownProcess serial).isAlive found.process =
      world.isAlive found.process from isAlive_setHeld listed _ _] at foundAlive
    rcases (moved position found).1 foundListed with ⟨-, rfl⟩ | ⟨-, foundListed⟩
    · exact (busy_iff _ _).2 ⟨index, ownCall, stored, owned.trans foundOwned, lives⟩
    · exact (busy_iff _ _).2 ⟨position, found, foundListed, foundOwned, foundAlive⟩
  refine ⟨positive, pids, guarded.fresh, ?_,
    .held ownCall.process ⟨serial, 1, world.now, ownCall.maxHoldMs⟩, ?_, ?_, ?_, ?_, Nat.one_pos⟩
  · intro other found foundListed
    rcases (moved other found).1 foundListed with ⟨-, rfl⟩ | ⟨-, foundListed⟩
    · exact .of_unseen _ rfl
    · exact (guarded.reads other found foundListed).evolve evolves
  · exact ⟨_, file, (set _ _).2 (.inl ⟨rfl, rfl⟩), alive, rfl, hasFile, isOwn.serial, isOwn.mtime,
      isOwn.payload⟩
  · intro other found foundListed foundAlive foundSerial foundOwned
    rw [show (world.register index ownCall ownProcess serial).isAlive found.process =
      world.isAlive found.process from isAlive_setHeld listed _ _] at foundAlive
    rcases (moved other found).1 foundListed with ⟨rfl, rfl⟩ | ⟨elsewhere, foundListed⟩
    · exact ⟨rfl, rfl⟩
    · exact absurd ((others other found elsewhere foundListed foundAlive).symm.trans foundOwned) nofun
  · intro other found elsewhere foundListed foundAlive
    rcases (set other found).1 foundListed with ⟨here, -⟩ | ⟨-, foundListed⟩
    · exact absurd here elsewhere
    · exact entries other found foundListed foundAlive
  · have bound : index < world.calls.length := (List.getElem?_eq_some_iff.1 stored).1
    have call_eq : world.calls[index] = ownCall := (List.getElem?_eq_some_iff.1 stored).2
    have noneBefore : (world.calls.countP fun other =>
        other.process = ownCall.process && other.phase = .holding serial) = 0 := by
      rw [List.countP_eq_zero]
      intro other member holds
      rw [Bool.and_eq_true, decide_eq_true_eq, decide_eq_true_eq] at holds
      obtain ⟨position, foundListed⟩ := List.mem_iff_getElem?.1 member
      by_cases here : position = index
      · subst here
        obtain rfl := Option.some.inj (foundListed.symm.trans stored)
        exact absurd (registering.symm.trans holds.2) nofun
      · have unowned := others position other here foundListed (holds.1 ▸ lives)
        rw [holds.2] at unowned
        exact absurd unowned nofun
    show 1 = (world.calls.set index { ownCall with phase := .holding serial }).countP _
    rw [List.countP_set bound, call_eq, noneBefore]
    simp [registering]

/-- The file goes when nobody else owns it, and the lock is vacant. -/
theorem Guarded.removed (guarded : Guarded world) (stored : world.calls[index]? = some call)
    {phase : Phase} (newOwned : phase.owned = none) (unseen : phase.seen = none)
    (vacated : ∃ tenure : Tenure, tenure.Fits world ∧
      (tenure = .vacant ∨ ∃ serial, tenure = .single index serial)) :
    Guarded (world.removeFile.setPhase index call phase) := by
  obtain ⟨tenure, fits, vacated⟩ := vacated
  have moved := calls_setPhase stored phase
  have owners : ∀ (other : Nat) (found : Call), other ≠ index → world.calls[other]? = some found →
      world.isAlive found.process = true → found.phase.owned = none := by
    rcases vacated with rfl | ⟨serial, rfl⟩
    · intro other found _ foundListed foundAlive
      exact fits.1 other found foundListed foundAlive
    · exact fits.2.1
  have entries : ∀ (other : Nat) (found : Process), world.processes[other]? = some found →
      found.alive = true → found.held = none := by
    rcases vacated with rfl | ⟨serial, rfl⟩
    · exact fits.2
    · exact fits.2.2
  have unowned : ∀ (other : Nat) (found : Call),
      (world.removeFile.setPhase index call phase).calls[other]? = some found →
      world.isAlive found.process = true → found.phase.owned = none := by
    intro other found foundListed foundAlive
    rcases (moved other found).1 foundListed with ⟨-, rfl⟩ | ⟨elsewhere, foundListed⟩
    · exact newOwned
    · exact owners other found elsewhere foundListed foundAlive
  have evolves : Evolves world (world.removeFile.setPhase index call phase) := by
    refine ⟨le_refl _, fun file present => absurd present nofun, fun serial _ busy => ?_⟩
    obtain ⟨other, found, foundListed, foundOwned, foundAlive⟩ := (busy_iff _ _).1 busy
    exact absurd ((unowned other found foundListed foundAlive).symm.trans foundOwned) nofun
  refine ⟨guarded.positive, guarded.pids, fun file present => absurd present nofun, ?_, .vacant,
    unowned, entries⟩
  intro other found foundListed
  rcases (moved other found).1 foundListed with ⟨-, rfl⟩ | ⟨-, foundListed⟩
  · exact .of_unseen _ unseen
  · exact (guarded.reads other found foundListed).evolve evolves

/-- One holder of a process gives the lock back; the last one keeps the file until it is removed. -/
theorem Guarded.release (guarded : Guarded world) (stored : world.calls[index]? = some call)
    (listed : world.processes[call.process]? = some process) (alive : process.alive = true)
    (holding : call.phase = .holding serial) :
    Guarded (world.release index call process serial) := by
  obtain ⟨tenure, fits⟩ := guarded.tenure
  have lives := isAlive_of_lookup listed alive
  have owned : call.phase.owned = some serial := by rw [holding]; rfl
  obtain ⟨lock, rfl, rfl, entry⟩ := fits.eq_held_of_holding stored listed alive holding
  obtain ⟨⟨ownProcess, file, ownListed, -, -, hasFile, isOwn⟩, holders, entries, count_eq, counted⟩ :=
    fits
  obtain rfl := Option.some.inj (ownListed.symm.trans listed)
  have bound : index < world.calls.length := (List.getElem?_eq_some_iff.1 stored).1
  have call_eq : world.calls[index] = call := (List.getElem?_eq_some_iff.1 stored).2
  have countAfter : ∀ phase : Phase, (∀ other, phase ≠ .holding other) →
      ((world.calls.set index { call with phase }).countP fun other =>
        other.process = call.process && other.phase = .holding lock.serial) = lock.count - 1 := by
    intro phase notHolding
    rw [List.countP_set bound, call_eq, count_eq]
    simp [holding, notHolding]
  have busyBefore : ∀ (phase : Phase) (held : Option HeldLock) (other : Nat),
      (∀ serial, phase.owned = some serial → serial = lock.serial) →
      ((world.setHeld call.process ownProcess held).setPhase index call phase).busy other = true →
      world.busy other = true := by
    intro phase held other kept busy
    obtain ⟨position, found, foundListed, foundOwned, foundAlive⟩ := (busy_iff _ _).1 busy
    rw [isAlive_setPhase, isAlive_setHeld listed] at foundAlive
    rcases (calls_setPhase stored phase position found).1 foundListed with ⟨-, rfl⟩ | ⟨-, foundListed⟩
    · obtain rfl := kept other foundOwned
      exact (busy_iff _ _).2 ⟨index, call, stored, owned, lives⟩
    · exact (busy_iff _ _).2 ⟨position, found, foundListed, foundOwned, foundAlive⟩
  have given : ∀ (phase : Phase) (held : Option HeldLock), phase.seen = none →
      (∀ serial, phase.owned = some serial → serial = lock.serial) →
      (∃ tenure : Tenure, tenure.Fits
        ((world.setHeld call.process ownProcess held).setPhase index call phase)) →
      Guarded ((world.setHeld call.process ownProcess held).setPhase index call phase) := by
    intro phase held unseen kept tenure
    obtain ⟨positive, pids⟩ := guarded.processes_setHeld listed held
    have evolves : Evolves world
        ((world.setHeld call.process ownProcess held).setPhase index call phase) :=
      .of_frame rfl rfl fun other => busyBefore phase held other kept
    refine ⟨positive, pids, guarded.fresh, ?_, tenure⟩
    intro other found foundListed
    rcases (calls_setPhase stored phase other found).1 foundListed with ⟨-, rfl⟩ | ⟨-, foundListed⟩
    · exact .of_unseen _ unseen
    · exact (guarded.reads other found foundListed).evolve evolves
  unfold LockWorld.release
  rw [entry, show Option.filter (fun held : HeldLock => held.serial = lock.serial) (some lock) =
    some lock by simp]
  dsimp only
  split
  next remain =>
    refine given _ _ rfl (fun serial released => absurd released nofun)
      ⟨.held call.process { lock with count := lock.count - 1 }, ?_, ?_, ?_,
        (countAfter (.released lock.serial) nofun).symm, remain⟩
    · exact ⟨_, file, (processes_set listed _ _ _).2 (.inl ⟨rfl, rfl⟩), alive, rfl, hasFile,
        isOwn.serial, isOwn.mtime, isOwn.payload⟩
    · intro other found foundListed foundAlive foundSerial foundOwned
      rw [isAlive_setPhase, isAlive_setHeld listed] at foundAlive
      rcases (calls_setPhase stored _ other found).1 foundListed with ⟨rfl, rfl⟩ | ⟨-, foundListed⟩
      · exact absurd foundOwned nofun
      · exact holders other found foundListed foundAlive foundSerial foundOwned
    · intro other found elsewhere foundListed foundAlive
      rcases (processes_set listed _ other found).1 foundListed with ⟨here, -⟩ | ⟨-, foundListed⟩
      · exact absurd here elsewhere
      · exact entries other found elsewhere foundListed foundAlive
  next last =>
    have noneLeft := countAfter (.releasing lock.serial) nofun
    rw [show lock.count - 1 = 0 by omega, List.countP_eq_zero] at noneLeft
    refine given _ _ rfl (fun serial releasing => (Option.some.inj releasing).symm)
      ⟨.single index lock.serial, ?_, ?_, ?_⟩
    · exact ⟨_, { ownProcess with held := none }, file,
        (calls_setPhase stored _ _ _).2 (.inl ⟨rfl, rfl⟩),
        (processes_set listed _ _ _).2 (.inl ⟨rfl, rfl⟩), alive, rfl, nofun, nofun, hasFile,
        isOwn.serial, isOwn.mtime, isOwn.payload⟩
    · intro other found elsewhere foundListed foundAlive
      rw [isAlive_setPhase, isAlive_setHeld listed] at foundAlive
      rcases (calls_setPhase stored _ other found).1 foundListed with ⟨here, -⟩ | ⟨-, oldListed⟩
      · exact absurd here elsewhere
      · by_contra owns
        obtain ⟨foundSerial, foundOwned⟩ := Option.ne_none_iff_exists'.1 owns
        obtain ⟨process_eq, phase_eq⟩ :=
          holders other found oldListed foundAlive foundSerial foundOwned
        exact noneLeft found (List.mem_of_getElem? foundListed) (by simp [process_eq, phase_eq])
    · intro other found foundListed foundAlive
      rcases (processes_set listed _ other found).1 foundListed with ⟨-, rfl⟩ | ⟨elsewhere, foundListed⟩
      · rfl
      · exact entries other found elsewhere foundListed foundAlive

/-- A call is made: it joins the lock of its process, or goes for the file. -/
theorem Guarded.acquire (guarded : Guarded world) (listed : world.processes[index]? = some process)
    (alive : process.alive = true) (staleMs maxHoldMs : Nat) (allowReentrant : Bool) :
    Guarded (world.acquire index staleMs maxHoldMs allowReentrant process) := by
  obtain ⟨tenure, fits⟩ := guarded.tenure
  unfold LockWorld.acquire
  split
  next lock joins =>
    have entry : process.held = some lock := by
      split at joins
      · exact joins
      · exact absurd joins nofun
    obtain rfl := fits.eq_held listed alive entry
    obtain ⟨⟨ownProcess, file, ownListed, -, -, hasFile, isOwn⟩, holders, entries, count_eq,
      counted⟩ := fits
    obtain rfl := Option.some.inj (ownListed.symm.trans listed)
    have made := calls_append world ⟨index, staleMs, maxHoldMs, .holding lock.serial⟩
    have set := processes_set listed
      { ownProcess with held := some { lock with count := lock.count + 1 } }
    have ownerBusy : world.busy lock.serial = true := by
      rw [count_eq, List.countP_pos_iff] at counted
      obtain ⟨holder, member, holds⟩ := counted
      rw [Bool.and_eq_true, decide_eq_true_eq, decide_eq_true_eq] at holds
      obtain ⟨position, holderListed⟩ := List.mem_iff_getElem?.1 member
      refine (busy_iff _ _).2 ⟨position, holder, holderListed, by rw [holds.2]; rfl, ?_⟩
      rw [holds.1]
      exact isAlive_of_lookup listed alive
    obtain ⟨positive, pids⟩ := guarded.processes_setHeld listed
      (some { lock with count := lock.count + 1 })
    have evolves : Evolves world
        { world.setHeld index ownProcess (some { lock with count := lock.count + 1 }) with
          calls := world.calls ++ [⟨index, staleMs, maxHoldMs, .holding lock.serial⟩] } := by
      refine .of_frame rfl rfl fun other busy => ?_
      obtain ⟨position, found, foundListed, foundOwned, foundAlive⟩ := (busy_iff _ _).1 busy
      rcases (made position found).1 foundListed with foundListed | ⟨-, rfl⟩
      · refine (busy_iff _ _).2 ⟨position, found, foundListed, foundOwned, ?_⟩
        exact (isAlive_setHeld listed _ found.process).symm.trans foundAlive
      · exact Option.some.inj foundOwned ▸ ownerBusy
    refine ⟨positive, pids, guarded.fresh, ?_,
      .held index { lock with count := lock.count + 1 }, ?_, ?_, ?_, ?_, Nat.succ_pos _⟩
    · intro other found foundListed
      rcases (made other found).1 foundListed with foundListed | ⟨-, rfl⟩
      · exact (guarded.reads other found foundListed).evolve evolves
      · exact .of_unseen _ rfl
    · exact ⟨_, file, (set _ _).2 (.inl ⟨rfl, rfl⟩), alive, rfl, hasFile, isOwn.serial, isOwn.mtime,
        isOwn.payload⟩
    · intro other found foundListed foundAlive foundSerial foundOwned
      rcases (made other found).1 foundListed with foundListed | ⟨-, rfl⟩
      · exact holders other found foundListed
          ((isAlive_setHeld listed _ found.process).symm.trans foundAlive) foundSerial foundOwned
      · exact ⟨rfl, rfl⟩
    · intro other found elsewhere foundListed foundAlive
      rcases (set other found).1 foundListed with ⟨here, -⟩ | ⟨-, foundListed⟩
      · exact absurd here elsewhere
      · exact entries other found elsewhere foundListed foundAlive
    · show lock.count + 1 = _
      rw [List.countP_append, ← count_eq]
      simp
  next =>
    have made := calls_append world ⟨index, staleMs, maxHoldMs, .opening⟩
    refine ⟨guarded.positive, guarded.pids, guarded.fresh, ?_, tenure, fits.append rfl⟩
    have evolves : Evolves world
        { world with calls := world.calls ++ [⟨index, staleMs, maxHoldMs, .opening⟩] } := by
      refine .of_frame rfl rfl fun other busy => ?_
      obtain ⟨position, found, foundListed, foundOwned, foundAlive⟩ := (busy_iff _ _).1 busy
      rcases (made position found).1 foundListed with foundListed | ⟨-, rfl⟩
      · exact (busy_iff _ _).2 ⟨position, found, foundListed, foundOwned, foundAlive⟩
      · exact absurd foundOwned nofun
    intro other found foundListed
    rcases (made other found).1 foundListed with foundListed | ⟨-, rfl⟩
    · exact (guarded.reads other found foundListed).evolve evolves
    · exact .of_unseen _ rfl

end OwnerSteps

/-! ### Steps of the environment -/

section Environment

variable {world : LockWorld} {index : Nat} {process : Process}

theorem isAlive_crash (listed : world.processes[index]? = some process) {other : Nat}
    (alive : ({ world with
      processes := world.processes.set index { process with alive := false } } :
        LockWorld).isAlive other = true) : other ≠ index ∧ world.isAlive other = true := by
  obtain ⟨found, foundListed, foundAlive⟩ := lookup_of_isAlive alive
  rcases (processes_set listed _ other found).1 foundListed with ⟨-, rfl⟩ | ⟨elsewhere, foundListed⟩
  · exact absurd foundAlive nofun
  · exact ⟨elsewhere, isAlive_of_lookup foundListed foundAlive⟩

/-- A process dies, and with it the tenure of its calls. -/
theorem Tenure.Fits.crash {tenure : Tenure} (fits : tenure.Fits world)
    (listed : world.processes[index]? = some process) :
    ∃ tenure : Tenure, tenure.Fits
      { world with processes := world.processes.set index { process with alive := false } } := by
  have set := processes_set listed { process with alive := false }
  cases tenure with
  | vacant =>
    refine ⟨.vacant, fun other found foundListed foundAlive => ?_, fun other found foundListed
      foundAlive => ?_⟩
    · exact fits.1 other found foundListed (isAlive_crash listed foundAlive).2
    · rcases (set other found).1 foundListed with ⟨-, rfl⟩ | ⟨-, foundListed⟩
      · exact absurd foundAlive nofun
      · exact fits.2 other found foundListed foundAlive
  | single owner serial =>
    obtain ⟨⟨call, ownProcess, file, ownListed, processListed, ownAlive, rest⟩, others, entries⟩ :=
      fits
    have entriesAfter : ∀ (other : Nat) (found : Process),
        (world.processes.set index { process with alive := false })[other]? = some found →
        found.alive = true → found.held = none := by
      intro other found foundListed foundAlive
      rcases (set other found).1 foundListed with ⟨-, rfl⟩ | ⟨-, foundListed⟩
      · exact absurd foundAlive nofun
      · exact entries other found foundListed foundAlive
    by_cases own : call.process = index
    · refine ⟨.vacant, fun other found foundListed foundAlive => ?_, entriesAfter⟩
      obtain ⟨elsewhere, wasAlive⟩ := isAlive_crash listed foundAlive
      refine others other found ?_ foundListed wasAlive
      rintro rfl
      obtain rfl := Option.some.inj (ownListed.symm.trans foundListed)
      exact elsewhere own
    · refine ⟨.single owner serial, ?_, ?_, entriesAfter⟩
      · exact ⟨call, ownProcess, file, ownListed, (set _ _).2 (.inr ⟨own, processListed⟩), ownAlive,
          rest⟩
      · intro other found elsewhere foundListed foundAlive
        exact others other found elsewhere foundListed (isAlive_crash listed foundAlive).2
  | held owner lock =>
    obtain ⟨⟨ownProcess, file, ownListed, ownAlive, rest⟩, holders, entries, counts⟩ := fits
    by_cases own : owner = index
    · subst own
      refine ⟨.vacant, fun other found foundListed foundAlive => ?_, fun other found foundListed
        foundAlive => ?_⟩
      · obtain ⟨elsewhere, wasAlive⟩ := isAlive_crash listed foundAlive
        by_contra owns
        obtain ⟨foundSerial, foundOwned⟩ := Option.ne_none_iff_exists'.1 owns
        exact elsewhere (holders other found foundListed wasAlive foundSerial foundOwned).1
      · rcases (set other found).1 foundListed with ⟨-, rfl⟩ | ⟨elsewhere, foundListed⟩
        · exact absurd foundAlive nofun
        · exact entries other found elsewhere foundListed foundAlive
    · refine ⟨.held owner lock, ?_, ?_, ?_, counts⟩
      · exact ⟨ownProcess, file, (set _ _).2 (.inr ⟨own, ownListed⟩), ownAlive, rest⟩
      · intro other found foundListed foundAlive
        exact holders other found foundListed (isAlive_crash listed foundAlive).2
      · intro other found elsewhere foundListed foundAlive
        rcases (set other found).1 foundListed with ⟨-, rfl⟩ | ⟨-, foundListed⟩
        · exact absurd foundAlive nofun
        · exact entries other found elsewhere foundListed foundAlive

theorem Guarded.crash (guarded : Guarded world)
    (listed : world.processes[index]? = some process) :
    Guarded { world with processes := world.processes.set index { process with alive := false } } := by
  have set := processes_set listed { process with alive := false }
  have evolves : Evolves world
      { world with processes := world.processes.set index { process with alive := false } } := by
    refine .of_frame rfl rfl fun other busy => ?_
    obtain ⟨position, found, foundListed, foundOwned, foundAlive⟩ := (busy_iff _ _).1 busy
    exact (busy_iff _ _).2 ⟨position, found, foundListed, foundOwned,
      (isAlive_crash listed foundAlive).2⟩
  obtain ⟨tenure, fits⟩ := guarded.tenure
  refine ⟨?_, ?_, guarded.fresh, ?_, fits.crash listed⟩
  · intro other found foundListed
    rcases (set other found).1 foundListed with ⟨-, rfl⟩ | ⟨-, foundListed⟩
    · exact guarded.positive index process listed
    · exact guarded.positive other found foundListed
  · intro left right first second firstListed secondListed firstAlive secondAlive same
    rcases (set left first).1 firstListed with ⟨-, rfl⟩ | ⟨-, firstListed⟩
    · exact absurd firstAlive nofun
    rcases (set right second).1 secondListed with ⟨-, rfl⟩ | ⟨-, secondListed⟩
    · exact absurd secondAlive nofun
    exact guarded.pids left right first second firstListed secondListed firstAlive secondAlive same
  · intro other found foundListed
    exact (guarded.reads other found foundListed).evolve evolves

/-- The watchdog has nothing to do while holders stay within their limits. -/
theorem Guarded.no_watchdog (guarded : Guarded world) (limits : world.withinLimits = true)
    (listed : world.processes[index]? = some process) (alive : process.alive = true)
    {lock : HeldLock} (entry : process.held = some lock) :
    ¬lock.acquiredAt + lock.maxHoldMs < world.now := by
  obtain ⟨tenure, fits⟩ := guarded.tenure
  obtain rfl := fits.eq_held listed alive entry
  obtain ⟨-, -, -, count_eq, counted⟩ := fits
  rw [count_eq, List.countP_pos_iff] at counted
  obtain ⟨holder, member, holds⟩ := counted
  rw [Bool.and_eq_true, decide_eq_true_eq, decide_eq_true_eq] at holds
  have within := List.all_eq_true.1 limits holder member
  rw [holds.2, holds.1, listed] at within
  simp only [Option.all_some, alive, entry, ne_eq, not_true_eq_false, decide_false, Bool.not_true,
    Bool.false_or, Bool.and_eq_true, decide_eq_true_eq] at within
  exact not_lt.2 within.1

end Environment

/-! ### Judging under the condition -/

section Judging

variable {world : LockWorld} {index : Nat} {call : Call} {process : Process}

/-- The payload of a running acquisition that is not too old gives no reason to reclaim it. -/
theorem Guarded.inspect_own (guarded : Guarded world) {owner : Nat} {ownProcess : Process}
    (listed : world.processes[owner]? = some ownProcess) (alive : ownProcess.alive = true)
    {createdAt staleMs : Nat} (young : world.now ≤ createdAt + staleMs) :
    inspectLockPayload world
      (some ⟨some ownProcess.pid, some createdAt, ownProcess.startTime⟩) staleMs world.now = [] := by
  have member : ownProcess ∈ world.processes := List.mem_of_getElem? listed
  have pidAlive : world.isPidAlive ownProcess.pid = true :=
    List.any_eq_true.2 ⟨ownProcess, member, by simp [alive]⟩
  have startTime : world.getProcessStartTime ownProcess.pid = ownProcess.startTime := by
    rw [getProcessStartTime]
    cases found : world.processes.find? fun other => other.alive && other.pid = ownProcess.pid with
    | none =>
      have notFound := List.find?_eq_none.1 found ownProcess member
      simp [alive] at notFound
    | some other =>
      have isOther := List.find?_some found
      rw [Bool.and_eq_true, decide_eq_true_eq] at isOther
      obtain ⟨position, otherListed⟩ := List.mem_iff_getElem?.1 (List.mem_of_find?_eq_some found)
      obtain rfl := guarded.pids position owner other ownProcess otherListed listed isOther.1 alive
        isOther.2
      obtain rfl := Option.some.inj (otherListed.symm.trans listed)
      rfl
  have pid : Option.filter (fun pid => decide (0 < pid)) (some ownProcess.pid) =
      some ownProcess.pid := by simp [guarded.positive owner ownProcess listed]
  have notOld : ¬staleMs < world.now - createdAt := by omega
  unfold inspectLockPayload
  dsimp only [Option.bind_some]
  rw [pid]
  dsimp only
  rw [pidAlive, startTime, if_neg notOld]
  cases ownProcess.startTime <;> simp

/-- An unreadable payload is not enough to reclaim a file. -/
theorem reclaimReasons_none (world : LockWorld) (process : Process) (staleMs nowMs : Nat) :
    lockInspectionNeedsMtimeStaleFallback (reclaimReasons world process none staleMs nowMs) =
      true := rfl

/-- What a call judges to be stale belongs to no running acquisition. -/
theorem Guarded.judge (guarded : Guarded world) (stored : world.calls[index]? = some call)
    (listed : world.processes[call.process]? = some process) (alive : process.alive = true)
    {seen : Option Nat} {payload : Option LockFilePayload}
    (judging : call.phase = .judging seen payload)
    (calm : shouldTreatAsOrphanSelfLock process payload = true →
      world.inTransit call.process = false)
    (young : ∀ file, world.file = some file → world.busy file.serial = true →
      world.now ≤ file.openedAt + call.staleMs) :
    Guarded (world.judge index call process seen payload) := by
  obtain ⟨tenure, fits⟩ := guarded.tenure
  have owned : call.phase.owned = none := by rw [judging]; rfl
  have known := guarded.reads index call stored
  unfold LockWorld.judge
  refine guarded.setPhase stored owned ?_ ⟨?_, ?_, ?_⟩
  · split_ifs <;> rfl
  · intro serial seen_eq
    refine known.past serial ?_
    rw [judging]
    split_ifs at seen_eq
    · exact absurd seen_eq nofun
    · exact seen_eq
    · exact seen_eq
  · intro other otherPayload file phase_eq
    split_ifs at phase_eq
  · intro other file phase_eq hasFile seen_eq
    by_contra notFree
    rw [Bool.not_eq_false] at notFree
    have isSeen : seen = some file.serial := by
      split_ifs at phase_eq
      rw [← seen_eq]
      exact Phase.removing.inj phase_eq
    obtain ⟨owner, ownProcess, ownFile, ownListed, ownAlive, hasOwn, isOwn, transit⟩ :=
      fits.of_busy notFree
    obtain rfl := Option.some.inj (hasOwn.symm.trans hasFile)
    have old := young ownFile hasFile notFree
    have emptyPayload : payload ≠ none := by
      rintro rfl
      rw [reclaimReasons_none, if_pos rfl] at phase_eq
      split_ifs at phase_eq
    have samePayload := (known.read seen payload ownFile judging hasFile isSeen).resolve_left
      emptyPayload
    obtain ⟨createdAt, order, payload_eq⟩ :=
      isOwn.payload.resolve_left fun absent => emptyPayload (samePayload.trans absent)
    rw [payload_eq] at samePayload
    subst samePayload
    have inspected := guarded.inspect_own ownListed ownAlive
      (show world.now ≤ createdAt + call.staleMs by omega)
    have notOrphan : shouldTreatAsOrphanSelfLock process
        (some ⟨some ownProcess.pid, some createdAt, ownProcess.startTime⟩) = false := by
      by_contra orphan
      rw [Bool.not_eq_false] at orphan
      have calmly := calm orphan
      simp only [shouldTreatAsOrphanSelfLock, Option.bind_some, Bool.and_eq_true,
        decide_eq_true_eq, Option.some.injEq, Option.isNone_iff_eq_none] at orphan
      obtain ⟨⟨samePid, -⟩, noEntry⟩ := orphan
      have sameIndex := guarded.pids owner call.process ownProcess process ownListed listed ownAlive
        alive samePid
      subst sameIndex
      obtain rfl := Option.some.inj (ownListed.symm.trans listed)
      exact Bool.false_ne_true (calmly.symm.trans (transit noEntry))
    have reasons : reclaimReasons world process
        (some ⟨some ownProcess.pid, some createdAt, ownProcess.startTime⟩) call.staleMs world.now =
        [] := by
      rw [reclaimReasons, notOrphan]
      exact inspected
    rw [reasons] at phase_eq
    exact absurd phase_eq nofun

/-- The age of a file is that of the acquisition that owns it. -/
theorem Guarded.stat (guarded : Guarded world) (stored : world.calls[index]? = some call)
    {seen : Option Nat} {nowMs : Nat} (statting : call.phase = .statting seen nowMs) (fails : Bool)
    (young : ∀ file, world.file = some file → world.busy file.serial = true →
      fails = false ∧ nowMs ≤ file.openedAt + call.staleMs) :
    Guarded (world.stat index call fails seen nowMs) := by
  obtain ⟨tenure, fits⟩ := guarded.tenure
  have owned : call.phase.owned = none := by rw [statting]; rfl
  have known := guarded.reads index call stored
  have past : ∀ serial, seen = some serial → serial < world.nextSerial := fun serial seen_eq =>
    known.past serial (by rw [statting]; exact seen_eq)
  unfold LockWorld.stat
  cases hasFile : world.file with
  | none =>
    refine guarded.setPhase stored owned ?_ ⟨?_, ?_, ?_⟩
    · cases fails <;> rfl
    · intro serial seen_eq
      cases fails with
      | false => exact absurd seen_eq nofun
      | true => exact past serial seen_eq
    · intro _ _ _ _ present
      exact absurd (hasFile.symm.trans present) nofun
    · intro _ _ _ present
      exact absurd (hasFile.symm.trans present) nofun
  | some file =>
    refine guarded.setPhase stored owned ?_ ⟨?_, ?_, ?_⟩
    · dsimp only
      split_ifs <;> rfl
    · intro serial seen_eq
      dsimp only at seen_eq
      split_ifs at seen_eq
      · exact past serial seen_eq
      · exact past serial seen_eq
      · exact absurd seen_eq nofun
    · intro _ _ _ phase_eq
      dsimp only at phase_eq
      split_ifs at phase_eq
    · intro other found phase_eq present seen_eq
      obtain rfl := Option.some.inj (hasFile.symm.trans present)
      by_contra notFree
      rw [Bool.not_eq_false] at notFree
      obtain ⟨owner, ownProcess, ownFile, -, -, hasOwn, isOwn, -⟩ := fits.of_busy notFree
      obtain rfl := Option.some.inj (hasOwn.symm.trans hasFile)
      obtain ⟨succeeds, limit⟩ := young ownFile hasFile notFree
      have order := isOwn.mtime
      have fresh : ¬call.staleMs < nowMs - ownFile.mtimeMs := by omega
      rw [succeeds] at phase_eq
      dsimp only at phase_eq
      rw [if_neg Bool.false_ne_true, if_neg fresh] at phase_eq
      exact absurd phase_eq nofun

end Judging

/-! ### Runs -/

section Runs

variable {world next : LockWorld} {index : Nat} {call : Call} {process : Process}
  {action : LockAction}

/-- A step of a call is a step of a phase in a process that is alive. -/
theorem step_call (isCall : callOf action = some index)
    (taken : world.step action = some next) :
    ∃ call process, world.calls[index]? = some call ∧
      world.processes[call.process]? = some process ∧ process.alive = true ∧
      world.callStep index call process action = some next := by
  have steps : world.step action = (callOf action).bind fun index =>
      (world.calls[index]?).bind fun call =>
        ((world.processes[call.process]?).filter (·.alive)).bind fun process =>
          world.callStep index call process action := by
    cases action <;> first | rfl | exact absurd isCall nofun
  rw [steps, isCall, Option.bind_some, Option.bind_eq_some_iff] at taken
  obtain ⟨call, stored, taken⟩ := taken
  obtain ⟨process, listed, taken⟩ := Option.bind_eq_some_iff.1 taken
  obtain ⟨listed, alive⟩ := Option.filter_eq_some_iff.1 listed
  exact ⟨call, process, stored, listed, alive, taken⟩

theorem careful_call (careful : world.careful action = true) (isCall : callOf action = some index)
    (stored : world.calls[index]? = some call)
    (listed : world.processes[call.process]? = some process) :
    world.carefulCall call process action = true := by
  have meets := (Bool.and_eq_true _ _ ▸ careful : _ ∧ _).2
  rw [isCall, Option.all_some, stored, Option.all_some, listed, Option.all_some] at meets
  exact meets

theorem Guarded.callStep (guarded : Guarded world) (stored : world.calls[index]? = some call)
    (listed : world.processes[call.process]? = some process) (alive : process.alive = true)
    (careful : world.carefulCall call process action = true)
    (taken : world.callStep index call process action = some next) : Guarded next := by
  obtain ⟨tenure, fits⟩ := guarded.tenure
  have lives := isAlive_of_lookup listed alive
  cases action with
  | openFile other =>
    obtain ⟨opening, taken⟩ := Option.ite_none_right_eq_some.1 taken
    exact Option.some.inj taken ▸ guarded.openFile stored listed alive opening
  | writePayload other createdAt =>
    dsimp only [LockWorld.callStep] at taken
    split at taken
    next serial openedAt writing =>
      obtain ⟨⟨opened, written⟩, taken⟩ := Option.ite_none_right_eq_some.1 taken
      obtain rfl := Option.some.inj taken
      refine guarded.ownerMoves stored listed alive (show call.phase.owned = some serial by
        rw [writing]; rfl) (by rw [writing]; nofun) (show (Phase.registering serial).owned =
        some serial from rfl) rfl nofun nofun _ fun file hasFile isOwn wrote => ?_
      obtain ⟨rfl, wasEmpty⟩ := wrote openedAt writing
      rw [if_pos isOwn.serial]
      exact ⟨⟨isOwn.serial, opened.trans written, .inr ⟨createdAt, opened, rfl⟩⟩, .inl wasEmpty⟩
    next => exact absurd taken nofun
  | writeFails other =>
    dsimp only [LockWorld.callStep] at taken
    split at taken
    next serial openedAt writing =>
      obtain rfl := Option.some.inj taken
      have moved := guarded.ownerMoves stored listed alive (show call.phase.owned = some serial by
        rw [writing]; rfl) (by rw [writing]; nofun) (show (Phase.aborting serial).owned = some serial
        from rfl) rfl nofun nofun id fun file _ isOwn _ => ⟨isOwn, .inr rfl⟩
      rw [Option.map_id] at moved
      exact moved
    next => exact absurd taken nofun
  | register other =>
    dsimp only [LockWorld.callStep] at taken
    split at taken
    next serial registering =>
      exact Option.some.inj taken ▸ guarded.register stored listed alive registering
    next => exact absurd taken nofun
  | abort other =>
    dsimp only [LockWorld.callStep] at taken
    split at taken
    next serial aborting =>
      have owned : call.phase.owned = some serial := by rw [aborting]; rfl
      obtain rfl := fits.eq_single stored lives owned (by rw [aborting]; nofun)
      exact Option.some.inj taken ▸ guarded.removed stored rfl rfl ⟨_, fits, .inr ⟨serial, rfl⟩⟩
    next => exact absurd taken nofun
  | readFile other fails =>
    obtain ⟨reading, taken⟩ := Option.ite_none_right_eq_some.1 taken
    obtain rfl := Option.some.inj taken
    refine guarded.setPhase stored (by rw [reading]; rfl) rfl ⟨?_, ?_, nofun⟩
    · intro serial seen
      obtain ⟨file, hasFile, rfl⟩ := Option.map_eq_some_iff.1 seen
      exact guarded.fresh file hasFile
    · intro seen payload file phase_eq hasFile _
      have payload_eq := (Phase.judging.inj phase_eq).2
      rw [show world.file = some file from hasFile] at payload_eq
      cases fails with
      | true => exact .inl payload_eq.symm
      | false => exact .inr payload_eq.symm
  | judge other =>
    dsimp only [LockWorld.callStep] at taken
    dsimp only [LockWorld.carefulCall] at careful
    split at taken
    next seen payload judging =>
      rw [judging] at careful
      dsimp only at careful
      rw [Bool.and_eq_true, Bool.or_eq_true] at careful
      refine Option.some.inj taken ▸ guarded.judge stored listed alive judging ?_ ?_
      · intro orphan
        rcases careful.1 with notOrphan | calm
        · rw [orphan] at notOrphan
          exact absurd notOrphan nofun
        · simpa using calm
      · intro file hasFile busy
        have young := careful.2
        rw [hasFile, Option.all_some, busy] at young
        simpa using young
    next => exact absurd taken nofun
  | stat other fails =>
    dsimp only [LockWorld.callStep] at taken
    dsimp only [LockWorld.carefulCall] at careful
    split at taken
    next seen nowMs statting =>
      rw [statting] at careful
      dsimp only at careful
      refine Option.some.inj taken ▸ guarded.stat stored statting fails ?_
      intro file hasFile busy
      rw [hasFile, Option.all_some, busy] at careful
      simpa using careful
    next => exact absurd taken nofun
  | remove other =>
    dsimp only [LockWorld.callStep] at taken
    dsimp only [LockWorld.carefulCall] at careful
    split at taken
    next seen removing =>
      rw [removing] at careful
      dsimp only at careful
      have unowned : ∀ file, world.file = some file → world.busy file.serial = false := by
        intro file hasFile
        rw [hasFile, Option.all_some, decide_eq_true_eq] at careful
        exact (guarded.reads index call stored).condemned seen file removing hasFile careful
      exact Option.some.inj taken ▸ guarded.removed stored rfl rfl
        ⟨_, fits, .inl (fits.vacant_of_not_busy unowned)⟩
    next => exact absurd taken nofun
  | retry other =>
    obtain ⟨sleeping, taken⟩ := Option.ite_none_right_eq_some.1 taken
    exact Option.some.inj taken ▸
      guarded.setPhase stored (by rw [sleeping]; rfl) rfl (.of_unseen _ rfl)
  | giveUp other =>
    obtain ⟨opening, taken⟩ := Option.ite_none_right_eq_some.1 taken
    exact Option.some.inj taken ▸
      guarded.setPhase stored (by rw [opening]; rfl) rfl (.of_unseen _ rfl)
  | release other =>
    dsimp only [LockWorld.callStep] at taken
    dsimp only [LockWorld.carefulCall] at careful
    split at taken
    next serial holding =>
      exact Option.some.inj taken ▸ guarded.release stored listed alive holding
    next serial released =>
      rw [released] at careful
      exact absurd careful nofun
    next => exact absurd taken nofun
  | removeReleased other =>
    dsimp only [LockWorld.callStep] at taken
    split at taken
    next serial releasing =>
      have owned : call.phase.owned = some serial := by rw [releasing]; rfl
      obtain rfl := fits.eq_single stored lives owned (by rw [releasing]; nofun)
      exact Option.some.inj taken ▸ guarded.removed stored rfl rfl ⟨_, fits, .inr ⟨serial, rfl⟩⟩
    next => exact absurd taken nofun
  | acquire | watchdog | crash | advance => exact absurd taken nofun

theorem Guarded.step (guarded : Guarded world) (careful : world.careful action = true)
    (taken : world.step action = some next) : Guarded next := by
  have limits : world.withinLimits = true := (Bool.and_eq_true _ _ ▸ careful : _ ∧ _).1
  cases call_eq : callOf action with
  | some index =>
    obtain ⟨call, process, stored, listed, alive, taken⟩ := step_call call_eq taken
    exact guarded.callStep stored listed alive (careful_call careful call_eq stored listed) taken
  | none =>
    cases action with
    | acquire index staleMs maxHoldMs allowReentrant =>
      obtain ⟨process, listed, rfl⟩ := Option.map_eq_some_iff.1 taken
      obtain ⟨listed, alive⟩ := Option.filter_eq_some_iff.1 listed
      exact guarded.acquire listed alive staleMs maxHoldMs allowReentrant
    | watchdog index =>
      obtain ⟨process, listed, taken⟩ := Option.bind_eq_some_iff.1 taken
      obtain ⟨listed, alive⟩ := Option.filter_eq_some_iff.1 listed
      obtain ⟨lock, entry, -⟩ := Option.map_eq_some_iff.1 taken
      obtain ⟨entry, overdue⟩ := Option.filter_eq_some_iff.1 entry
      exact absurd (of_decide_eq_true overdue) (guarded.no_watchdog limits listed alive entry)
    | crash index =>
      obtain ⟨process, listed, rfl⟩ := Option.map_eq_some_iff.1 taken
      exact guarded.crash listed
    | advance elapsedMs =>
      obtain rfl := Option.some.inj taken
      have evolves : Evolves world { world with now := world.now + elapsedMs } :=
        .of_frame rfl rfl fun _ busy => busy
      exact ⟨guarded.positive, guarded.pids, guarded.fresh,
        fun index call listed => (guarded.reads index call listed).evolve evolves, guarded.tenure⟩
    | openFile | writePayload | writeFails | register | abort | readFile | judge | stat | remove
      | retry | giveUp | release | removeReleased => exact absurd call_eq nofun

/-- The file goes in three steps only. -/
theorem callStep_removes {file : LockFile} (hasFile : world.file = some file)
    (taken : world.callStep index call process action = some next) (gone : next.file = none) :
    call.phase.owned ≠ none ∧ (∀ other, call.phase ≠ .holding other) ∨
      ∃ other seen, action = .remove other ∧ call.phase = .removing seen := by
  have stays : ∀ phase, (world.setPhase index call phase).file ≠ none := fun _ absent =>
    absurd (hasFile.symm.trans absent) nofun
  cases action with
  | openFile other =>
    obtain ⟨-, taken⟩ := Option.ite_none_right_eq_some.1 taken
    obtain rfl := Option.some.inj taken
    rw [LockWorld.openFile, hasFile] at gone
    exact absurd gone (stays _)
  | writePayload other createdAt =>
    dsimp only [LockWorld.callStep] at taken
    split at taken
    next serial openedAt writing =>
      rw [writing]
      exact .inl ⟨nofun, nofun⟩
    next => exact absurd taken nofun
  | writeFails other =>
    dsimp only [LockWorld.callStep] at taken
    split at taken
    next serial openedAt writing =>
      rw [writing]
      exact .inl ⟨nofun, nofun⟩
    next => exact absurd taken nofun
  | register other =>
    dsimp only [LockWorld.callStep] at taken
    split at taken
    next serial registering =>
      rw [registering]
      exact .inl ⟨nofun, nofun⟩
    next => exact absurd taken nofun
  | abort other =>
    dsimp only [LockWorld.callStep] at taken
    split at taken
    next serial aborting =>
      rw [aborting]
      exact .inl ⟨nofun, nofun⟩
    next => exact absurd taken nofun
  | readFile other fails =>
    obtain ⟨-, taken⟩ := Option.ite_none_right_eq_some.1 taken
    obtain rfl := Option.some.inj taken
    exact absurd gone (stays _)
  | judge other =>
    dsimp only [LockWorld.callStep] at taken
    split at taken
    next seen payload judging =>
      obtain rfl := Option.some.inj taken
      exact absurd gone (stays _)
    next => exact absurd taken nofun
  | stat other fails =>
    dsimp only [LockWorld.callStep] at taken
    split at taken
    next seen nowMs statting =>
      obtain rfl := Option.some.inj taken
      exact absurd gone (stays _)
    next => exact absurd taken nofun
  | remove other =>
    dsimp only [LockWorld.callStep] at taken
    split at taken
    next seen removing => exact .inr ⟨other, seen, rfl, removing⟩
    next => exact absurd taken nofun
  | retry other =>
    obtain ⟨-, taken⟩ := Option.ite_none_right_eq_some.1 taken
    obtain rfl := Option.some.inj taken
    exact absurd gone (stays _)
  | giveUp other =>
    obtain ⟨-, taken⟩ := Option.ite_none_right_eq_some.1 taken
    obtain rfl := Option.some.inj taken
    exact absurd gone (stays _)
  | release other =>
    have kept : ∀ serial, (world.release index call process serial).file = world.file := by
      intro serial
      unfold LockWorld.release
      split
      · rfl
      · split_ifs <;> rfl
    have removes : ∃ serial, world.release index call process serial = next := by
      dsimp only [LockWorld.callStep] at taken
      split at taken
      next serial holding => exact ⟨serial, Option.some.inj taken⟩
      next serial released => exact ⟨serial, Option.some.inj taken⟩
      next => exact absurd taken nofun
    obtain ⟨serial, rfl⟩ := removes
    exact absurd (hasFile.symm.trans ((kept serial).symm.trans gone)) nofun
  | removeReleased other =>
    dsimp only [LockWorld.callStep] at taken
    split at taken
    next serial releasing =>
      rw [releasing]
      exact .inl ⟨nofun, nofun⟩
    next => exact absurd taken nofun
  | acquire | watchdog | crash | advance => exact absurd taken nofun

/-- What a step removes is the file of the call's own acquisition, or nobody's. -/
theorem Guarded.removes (guarded : Guarded world) (careful : world.careful action = true)
    (taken : world.step action = some next) {file : LockFile} (hasFile : world.file = some file)
    (gone : next.file = none) :
    (∃ index call, callOf action = some index ∧ world.calls[index]? = some call ∧
      call.phase.owned = some file.serial) ∨ world.busy file.serial = false := by
  obtain ⟨tenure, fits⟩ := guarded.tenure
  cases call_eq : callOf action with
  | some index =>
    obtain ⟨call, process, stored, listed, alive, taken⟩ := step_call call_eq taken
    have meets := careful_call careful call_eq stored listed
    rcases callStep_removes hasFile taken gone with ⟨owns, notHolding⟩ | ⟨other, seen, rfl, removing⟩
    · obtain ⟨serial, owned⟩ := Option.ne_none_iff_exists'.1 owns
      obtain rfl := fits.eq_single stored (isAlive_of_lookup listed alive) owned notHolding
      obtain ⟨⟨-, ownProcess, ownFile, -, -, -, -, -, -, hasOwn, isOwn⟩, -⟩ := fits
      obtain rfl := Option.some.inj (hasOwn.symm.trans hasFile)
      exact .inl ⟨index, call, rfl, stored, owned.trans (congrArg some isOwn.serial.symm)⟩
    · dsimp only [LockWorld.carefulCall] at meets
      rw [removing] at meets
      dsimp only at meets
      rw [hasFile, Option.all_some, decide_eq_true_eq] at meets
      exact .inr ((guarded.reads index call stored).condemned seen file removing hasFile meets)
  | none =>
    have kept : next.file = world.file := by
      cases action with
      | acquire index staleMs maxHoldMs allowReentrant =>
        obtain ⟨process, -, rfl⟩ := Option.map_eq_some_iff.1 taken
        unfold LockWorld.acquire
        split <;> rfl
      | watchdog index =>
        obtain ⟨process, -, taken⟩ := Option.bind_eq_some_iff.1 taken
        obtain ⟨lock, -, rfl⟩ := Option.map_eq_some_iff.1 taken
        rfl
      | crash index =>
        obtain ⟨process, -, rfl⟩ := Option.map_eq_some_iff.1 taken
        rfl
      | advance elapsedMs =>
        obtain rfl := Option.some.inj taken
        rfl
      | openFile | writePayload | writeFails | register | abort | readFile | judge | stat | remove
        | retry | giveUp | release | removeReleased => exact absurd call_eq nofun
    exact absurd (hasFile.symm.trans (kept.symm.trans gone)) nofun

end Runs

/-- Two live processes and the lock file of a third one that died. -/
def leftOver : LockWorld where
  now := 1000
  file := some ⟨0, 500, some ⟨some 7, some 500, some 3⟩, 500⟩
  nextSerial := 1
  processes := [⟨11, some 5, true, none⟩, ⟨12, some 6, true, none⟩]

theorem leftOver_start : LockStart leftOver where
  calls := rfl
  released := by decide
  positive := by decide
  pids left right first second firstListed secondListed firstAlive secondAlive same := by
    have bound : ∀ (index : Nat) (process : Process), leftOver.processes[index]? = some process →
        index = 0 ∧ process.pid = 11 ∨ index = 1 ∧ process.pid = 12 := by
      intro index process listed
      match index, listed with
      | 0, listed => exact .inl ⟨rfl, Option.some.inj listed ▸ rfl⟩
      | 1, listed => exact .inr ⟨rfl, Option.some.inj listed ▸ rfl⟩
    have firstIs := bound left first firstListed
    have secondIs := bound right second secondListed
    omega
  fresh file hasFile := by
    obtain rfl := Option.some.inj hasFile
    decide

/-- The first contender reclaims the lock and holds it. -/
def reclaimAndHold : List LockAction :=
  [.acquire 0 60000 300000 true, .openFile 0, .readFile 0 false, .judge 0, .remove 0, .openFile 0,
    .writePayload 0 1000, .register 0]

/-- Both contenders read the stale file before either removes it. The second one then removes the
lock of the first, and both processes hold. -/
def removeByPath : List LockAction :=
  [.acquire 0 60000 300000 true, .openFile 0, .readFile 0 false, .judge 0,
    .acquire 1 60000 300000 true, .openFile 1, .readFile 1 false, .judge 1,
    .remove 0, .openFile 0, .writePayload 0 1000, .register 0,
    .remove 1, .openFile 1, .writePayload 1 1000, .register 1]

end OpenClaw.Session
