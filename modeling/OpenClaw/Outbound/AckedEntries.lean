/-
This file says when an acknowledged entry of the delivery queue stays gone.

Any number of queue operations run over one directory, each making its next file
call whenever it likes, and a process may die at any point with all it was doing.
An entry is acknowledged once `ackDelivery` has renamed it. What can bring it back
is an operation that read the entry before and has still to write its own copy:
`failDelivery`, or a load that migrates. `acked_entries_stay_gone` shows that
nothing else can.
-/

import OpenClaw.Base.Steps
import OpenClaw.Outbound.QueueFiles

namespace OpenClaw.Outbound

/-! ### Operations over one directory -/

/-- An operation under way, with the process it runs in. -/
structure Running where
  pid : Nat
  operation : FileOperation
  deriving DecidableEq, Repr

/-- The directory, the operations under way, and the books no code reads: the entries that have
been acknowledged and the ids that have been drawn. -/
structure QueueState where
  disk : Disk
  running : List Running := []
  acked : List String := []
  usedIds : List String := []

/-- A queue directory as a process may find it: no entry has both a `.json` file and a marker. -/
structure QueueDirectory where
  disk : Disk
  intact : ∀ id, disk.get (.delivered id) ≠ none → disk.get (.pending id) = none

/-- The id a path is about. -/
def QueuePath.id : QueuePath → String
  | .pending id | .temporary id _ | .delivered id | .failed id => id

def QueueState.start (directory : QueueDirectory) : QueueState where
  disk := directory.disk
  acked := deliveredIds directory.disk
  usedIds := directory.disk.keys.map QueuePath.id

inductive QueueAction
  | enqueueDelivery (pid : Nat) (id : String) (now : Int) (params : QueuedDeliveryPayload)
  | ackDelivery (pid : Nat) (id : String)
  | failDelivery (pid : Nat) (id error : String)
  | loadPendingDelivery (pid : Nat) (id : String)
  | loadPendingDeliveries (pid : Nat)
  | moveToFailed (pid : Nat) (id : String)
  | deferRemainingEntriesForBudget (pid : Nat) (ids : List String)
  | advance (index : Nat) (now : Int) (fails : Bool)
  | crash (pid : Nat)
  deriving DecidableEq, Repr

/-- Starts operations. -/
def QueueState.begin (state : QueueState) (pid : Nat) (operations : List FileOperation) :
    QueueState :=
  { state with running := state.running ++ operations.map fun operation => ⟨pid, operation⟩ }

/-- The running operations after one of them has made a call. -/
def Progress.replace (running : List Running) (index pid : Nat) : Progress → List Running
  | .continues operation => running.set index ⟨pid, operation⟩
  | .returned _ => running.eraseIdx index

/-- One of the running operations makes its next file call. -/
def QueueState.advance (state : QueueState) (index : Nat) (process : Running) (now : Int)
    (fails : Bool) :
    QueueState :=
  let outcome := process.operation.step process.pid now fails state.disk
  { state with
    disk := outcome.1
    running := outcome.2.replace state.running index process.pid
    acked := state.acked ++ (process.operation.acknowledges fails state.disk).toList }

def queueStep (state : QueueState) : QueueAction → Option QueueState
  | .enqueueDelivery pid id now params =>
    if id ∈ state.usedIds then none
    else some { state.begin pid [.write id (newEntry id now params) .enqueue] with
      usedIds := id :: state.usedIds }
  | .ackDelivery pid id => some (state.begin pid [.ackRename id])
  | .failDelivery pid id error => some (state.begin pid [.failRead id error])
  | .loadPendingDelivery pid id => some (state.begin pid [.loadStat id])
  | .loadPendingDeliveries pid => some (state.begin pid [.readdir])
  | .moveToFailed pid id => some (state.begin pid [.moveRename id])
  | .deferRemainingEntriesForBudget pid ids =>
    some (state.begin pid (ids.map fun id => .failRead id "recovery time budget exceeded"))
  | .advance index now fails =>
    (state.running[index]?).map fun process => state.advance index process now fails
  | .crash pid => some { state with running := state.running.filter fun process =>
      process.pid ≠ pid }

/-! ### Acknowledged entries -/

/-- An entry that `ackDelivery` has renamed, or whose marker is still there. -/
def QueueState.Acknowledged (state : QueueState) (id : String) : Prop :=
  id ∈ state.acked ∨ state.disk.get (.delivered id) ≠ none

/-- No acknowledged entry is pending: a crash now would not replay it. -/
def AckedStayGone (state : QueueState) : Prop :=
  ∀ id, state.Acknowledged id → state.disk.get (.pending id) = none

/-- Whether some operation has still to write a copy of an entry back. -/
def QueueState.writesBack (state : QueueState) (id : String) : Bool :=
  state.running.any fun process => process.operation.writesBack process.pid state.disk id

/-- An acknowledgement renames an entry only when no other operation that has read it has still to
write it back. -/
def undisturbed (state : QueueState) : QueueAction → Bool
  | .advance index _ fails =>
    match state.running[index]? with
    | none => true
    | some process =>
      (process.operation.acknowledges fails state.disk).all fun id => !state.writesBack id
  | _ => true

/-- The invariant of undisturbed runs. -/
structure QueueInvariant (state : QueueState) : Prop where
  gone : ∀ id ∈ state.acked, state.disk.get (.pending id) = none
  marked : ∀ id, state.disk.get (.delivered id) ≠ none → id ∈ state.acked
  settled : ∀ id ∈ state.acked, state.writesBack id = false
  drawn : ∀ id, id ∈ state.acked ∨ state.disk.get (.pending id) ≠ none ∨
    state.writesBack id = true →
    id ∈ state.usedIds

variable {state : QueueState} {id : String} {next : QueueState}

theorem writesBack_of_mem {process : Running} (member : process ∈ state.running)
    (back : process.operation.writesBack process.pid state.disk id = true) :
    state.writesBack id = true := List.any_eq_true.2 ⟨process, member, back⟩

/-- Another operation comes to have a copy to write back only through one that has. -/
theorem FileEffect.writesBack_other {pid : Nat} {fails : Bool} {disk next : Disk}
    {operation : FileOperation} (effect : FileEffect pid fails disk operation next)
    {other : Running}
    (back : other.operation.writesBack other.pid next id = true) :
    other.operation.writesBack other.pid disk id = true ∨
      operation.writesBack pid disk id = true := by
  cases named : other.operation with
  | rename target entry cause =>
    simp only [named, FileOperation.writesBack, Bool.and_eq_true, decide_eq_true_iff,
      has_eq_true_iff] at back ⊢
    exact (effect.temporary back.2).imp_left fun present => ⟨back.1, present⟩
  | _ =>
    rw [named] at back
    exact Or.inl back

/-- One of the running operations has made a call: the others run on, it goes on itself, and
operations that have nothing to write back may have started. -/
structure Called (state next : QueueState) (process : Running) (now : Int) (fails : Bool) :
  Prop where
  own : process ∈ state.running
  disk : next.disk = (process.operation.step process.pid now fails state.disk).1
  acked : ∀ id, id ∈ next.acked ↔
    id ∈ state.acked ∨ process.operation.acknowledges fails state.disk = some id
  running : ∀ other ∈ next.running, other ∈ state.running ∨
    (process.operation.step process.pid now fails state.disk).2 = .continues other.operation ∧
      other.pid = process.pid ∨
    ∀ disk id, other.operation.writesBack other.pid disk id = false
  usedIds : ∀ id ∈ state.usedIds, id ∈ next.usedIds

section Called

variable {process : Running} {now : Int} {fails : Bool}

/-- After a call a copy is to be written back by the operation that made it, or was before. -/
theorem Called.writesBack (called : Called state next process now fails)
    (back : next.writesBack id = true) :
    (process.operation.step process.pid now fails state.disk).2.writesBack process.pid
        (process.operation.step process.pid now fails state.disk).1 id = true ∨
      state.writesBack id = true := by
  obtain ⟨other, member, back⟩ := List.any_eq_true.1 back
  rw [called.disk] at back
  rcases called.running other member with inRunning | ⟨continues, same⟩ | reading
  · exact Or.inr ((FileEffect.writesBack_other (FileOperation.step_effect _ _ _ _ _) back).elim
      (writesBack_of_mem inRunning) (writesBack_of_mem called.own))
  · rw [same] at back
    exact Or.inl (continues ▸ back)
  · exact absurd back (by simp [reading])

/-- The invariant after a call. -/
theorem QueueInvariant.call (invariant : QueueInvariant state)
    (called : Called state next process now fails)
    (calm : ∀ id, process.operation.acknowledges fails state.disk = some id →
      state.writesBack id = false) : QueueInvariant next := by
  have effect := FileOperation.step_effect process.pid now fails state.disk process.operation
  have acknowledged : ∀ id, process.operation.acknowledges fails state.disk = some id →
      ∃ file, process.operation.step process.pid now fails state.disk =
        (moveFile state.disk (.pending id) (.delivered id) file, .continues (.ackUnlink id)) :=
    fun id acks => FileOperation.step_of_acknowledges acks
  refine ⟨fun id acked => ?_, fun id present => ?_, fun id acked => ?_, fun id known => ?_⟩
  · rw [called.disk]
    rcases (called.acked id).1 acked with acked | acks
    · by_contra present
      rcases effect.pending present with old | back
      · exact old (invariant.gone id acked)
      · exact Bool.false_ne_true
          ((invariant.settled id acked).symm.trans (writesBack_of_mem called.own back))
    · obtain ⟨file, taken⟩ := acknowledged id acks
      simp [taken, get_moveFile]
  · rw [called.disk] at present
    exact (called.acked id).2 ((effect.delivered present).imp_left (invariant.marked id))
  · by_contra back
    rw [Bool.not_eq_false] at back
    have notBack : state.writesBack id = false :=
      ((called.acked id).1 acked).elim (invariant.settled id) (calm id)
    have fresh := (called.writesBack back).resolve_right (by simp [notBack])
    rcases (called.acked id).1 acked with acked | acks
    · rcases FileOperation.writesBack_step fresh with present | back
      · exact present (invariant.gone id acked)
      · exact Bool.false_ne_true (notBack.symm.trans (writesBack_of_mem called.own back))
    · obtain ⟨file, taken⟩ := acknowledged id acks
      rw [taken] at fresh
      cases fresh
  · refine called.usedIds id (invariant.drawn id ?_)
    rcases known with acked | present | back
    · exact ((called.acked id).1 acked).imp_right fun acks =>
        Or.inl (acknowledges_eq_some_iff.1 acks).2.2
    · rw [called.disk] at present
      exact Or.inr ((effect.pending present).imp_right (writesBack_of_mem called.own))
    · rcases called.writesBack back with fresh | back
      · exact Or.inr ((FileOperation.writesBack_step fresh).imp_right
          (writesBack_of_mem called.own))
      · exact Or.inr (Or.inr back)

end Called

theorem called_advance {index : Nat} {process : Running}
    (stored : state.running[index]? = some process) (now : Int) (fails : Bool) :
    Called state (state.advance index process now fails) process now fails := by
  refine ⟨List.mem_of_getElem? stored, rfl, fun id => by simp [QueueState.advance],
    fun other member => ?_,
    fun id used => used⟩
  simp only [QueueState.advance] at member
  cases outcome : (process.operation.step process.pid now fails state.disk).2 with
  | returned result =>
    rw [outcome] at member
    exact Or.inl (List.mem_of_mem_eraseIdx member)
  | continues operation =>
    rw [outcome] at member
    rcases List.mem_or_eq_of_mem_set member with inRunning | rfl
    · exact Or.inl inRunning
    · exact Or.inr (Or.inl ⟨rfl, rfl⟩)

/-- The files are the same; what is to be written back was so before, or has a fresh id. -/
theorem QueueInvariant.started (invariant : QueueInvariant state)
    (disk : next.disk = state.disk) (acked : ∀ id, id ∈ next.acked ↔ id ∈ state.acked)
    (usedIds : ∀ id ∈ state.usedIds, id ∈ next.usedIds)
    (back : ∀ id, next.writesBack id = true →
      state.writesBack id = true ∨ id ∉ state.usedIds ∧ id ∈ next.usedIds) :
    QueueInvariant next := by
  refine ⟨fun id member => ?_, fun id present => ?_, fun id member => ?_, fun id known => ?_⟩
  · rw [disk]
    exact invariant.gone id ((acked id).1 member)
  · rw [disk] at present
    exact (acked id).2 (invariant.marked id present)
  · rw [acked] at member
    refine Bool.eq_false_iff.2 fun written => ?_
    rcases back id written with old | ⟨fresh, -⟩
    · exact Bool.false_ne_true ((invariant.settled id member).symm.trans old)
    · exact fresh (invariant.drawn id (Or.inl member))
  · rw [acked, disk] at known
    rcases known with member | present | written
    · exact usedIds id (invariant.drawn id (Or.inl member))
    · exact usedIds id (invariant.drawn id (Or.inr (Or.inl present)))
    · rcases back id written with old | ⟨-, drawn⟩
      · exact usedIds id (invariant.drawn id (Or.inr (Or.inr old)))
      · exact drawn

theorem writesBack_begin (state : QueueState) (pid : Nat) (operations : List FileOperation)
    (id : String) :
    (state.begin pid operations).writesBack id =
      (state.writesBack id || operations.any fun operation =>
        operation.writesBack pid state.disk id) := by
  simp [QueueState.begin, QueueState.writesBack, Function.comp_def]

/-- Starting operations that have nothing to write back. -/
theorem QueueInvariant.begin (invariant : QueueInvariant state) (pid : Nat)
    {operations : List FileOperation}
    (reading : ∀ operation ∈ operations, ∀ id, operation.writesBack pid state.disk id = false) :
    QueueInvariant (state.begin pid operations) := by
  refine invariant.started rfl (fun _ => Iff.rfl) (fun _ used => used) fun id back => Or.inl ?_
  rw [writesBack_begin, Bool.or_eq_true, List.any_eq_true] at back
  refine back.resolve_right ?_
  rintro ⟨operation, member, back⟩
  exact absurd back (by simp [reading operation member id])

/-- Every admitted action keeps the invariant. -/
theorem QueueInvariant.step {action : QueueAction}
    (invariant : QueueInvariant state) (calm : undisturbed state action = true)
    (taken : queueStep state action = some next) : QueueInvariant next := by
  cases action with
  | enqueueDelivery pid id now params =>
    simp only [queueStep, Option.ite_none_left_eq_some, Option.some.injEq] at taken
    obtain ⟨fresh, rfl⟩ := taken
    refine invariant.started rfl (fun _ => Iff.rfl) (fun _ used => List.mem_cons_of_mem _ used)
      fun other back => ?_
    replace back := (writesBack_begin state pid _ other).symm.trans back
    simp only [List.any_cons, List.any_nil, Bool.or_false, Bool.or_eq_true,
      FileOperation.writesBack,
      decide_eq_true_iff] at back
    rcases back with old | rfl
    · exact Or.inl old
    · exact Or.inr ⟨fresh, List.mem_cons_self⟩
  | ackDelivery pid id =>
    cases taken
    exact invariant.begin pid (by simp [FileOperation.writesBack])
  | failDelivery pid id error =>
    cases taken
    exact invariant.begin pid (by simp [FileOperation.writesBack])
  | loadPendingDelivery pid id =>
    cases taken
    exact invariant.begin pid (by simp [FileOperation.writesBack])
  | loadPendingDeliveries pid =>
    cases taken
    exact invariant.begin pid (by simp [FileOperation.writesBack])
  | moveToFailed pid id =>
    cases taken
    exact invariant.begin pid (by simp [FileOperation.writesBack])
  | deferRemainingEntriesForBudget pid ids =>
    cases taken
    exact invariant.begin pid (by simp [FileOperation.writesBack])
  | advance index now fails =>
    obtain ⟨process, stored, rfl⟩ := Option.map_eq_some_iff.1 taken
    refine invariant.call (called_advance stored now fails) fun id acks => ?_
    simpa [undisturbed, stored, acks] using calm
  | crash pid =>
    cases taken
    refine invariant.started rfl (fun _ => Iff.rfl) (fun _ used => used) fun id back => Or.inl ?_
    obtain ⟨process, member, back⟩ := List.any_eq_true.1 back
    exact writesBack_of_mem (List.mem_of_mem_filter member) back

theorem mem_keys_iff_ne_none {disk : Disk} {path : QueuePath} :
    path ∈ disk.keys ↔ disk.get path ≠ none := by
  rw [OrderedMap.mem_keys_iff, Option.ne_none_iff_exists']

theorem mem_deliveredIds {disk : Disk} :
    id ∈ deliveredIds disk ↔ disk.get (.delivered id) ≠ none := by
  rw [← mem_keys_iff_ne_none, deliveredIds, List.mem_filterMap]
  constructor
  · rintro ⟨path, member, named⟩
    cases path <;> simp at named
    exact named ▸ member
  · exact fun member => ⟨_, member, rfl⟩

theorem QueueInvariant.start (directory : QueueDirectory) : QueueInvariant (.start directory) := by
  refine ⟨fun id acked => directory.intact id (mem_deliveredIds.1 acked), fun id =>
    mem_deliveredIds.2,
    fun id _ => rfl, fun id known => ?_⟩
  rcases known with acked | present | back
  · exact List.mem_map.2 ⟨_, mem_keys_iff_ne_none.2 (mem_deliveredIds.1 acked), rfl⟩
  · exact List.mem_map.2 ⟨_, mem_keys_iff_ne_none.2 present, rfl⟩
  · cases back

/-- In every run whose acknowledgements are undisturbed, no acknowledged entry is pending. -/
theorem acked_entries_stay_gone (directory : QueueDirectory) (actions : List QueueAction)
    (final : QueueState)
    (run : Machine.Steps queueStep (fun state action => undisturbed state action = true)
      (.start directory) actions final) : AckedStayGone final := by
  have invariant : QueueInvariant final :=
    run.invariant (fun _ _ _ held calm taken => held.step calm taken) (.start directory)
  exact fun id acknowledged =>
    invariant.gone id (acknowledged.elim (fun acked => acked) (invariant.marked id))

section Examples

def emptyDirectory : QueueDirectory := ⟨∅, by simp⟩

private def greeting : QueuedDeliveryPayload :=
  { channel := "telegram", to' := "42", payloads := [{ text := "hello" }] }

private def enqueueGreeting : List QueueAction :=
  [.enqueueDelivery 1 "m1" 100 greeting, .advance 0 100 false, .advance 0 100 false]

/-- An entry that is enqueued, acknowledged and unlinked. -/
theorem acked_entries_stay_gone_after_delivery :
    ∃ final, Machine.Steps queueStep (fun state action => undisturbed state action = true)
        (.start emptyDirectory) (enqueueGreeting ++ [.ackDelivery 1 "m1", .advance 0 300 false,
          .advance 0 300 false]) final ∧ final.acked = ["m1"] ∧ AckedStayGone final := by
  have evaluated : (Machine.executeUnder queueStep undisturbed (.start emptyDirectory)
      (enqueueGreeting ++ [.ackDelivery 1 "m1", .advance 0 300 false, .advance 0 300 false])).map
        QueueState.acked = some ["m1"] := by decide +kernel
  obtain ⟨final, ran, acked⟩ := Option.map_eq_some_iff.1 evaluated
  have run := Machine.steps_of_executeUnder ran
  exact ⟨final, run, acked, acked_entries_stay_gone emptyDirectory _ final run⟩

/-- The recovery budget runs out and `failDelivery` reads the entry, which its sender acknowledges
before the copy is written. -/
private def overtakenAck : List QueueAction :=
  enqueueGreeting ++
    [.deferRemainingEntriesForBudget 1 ["m1"], .advance 0 200 false, .ackDelivery 1 "m1",
      .advance 1 300 false, .advance 0 300 false, .advance 0 300 false]

theorem overtaken_ack_is_undone : ¬ ∀ (directory : QueueDirectory) (final : QueueState),
    Machine.Reachable queueStep (.start directory) final → AckedStayGone final := by
  intro claimed
  have evaluated : (Machine.execute queueStep (.start emptyDirectory) overtakenAck).map
    (fun final =>
      (final.acked, (final.disk.get (.pending "m1")).isSome)) = some (["m1"], true) :=
        by decide +kernel
  obtain ⟨final, ran, shown⟩ := Option.map_eq_some_iff.1 evaluated
  obtain ⟨acked, pending⟩ := Prod.mk.inj shown
  have gone := claimed emptyDirectory final (Machine.reachable_of_execute ran) "m1"
    (Or.inl (by simp [acked]))
  simp [gone] at pending

end Examples

end OpenClaw.Outbound
