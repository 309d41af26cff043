/-
This file says when the paths that send queue entries never send one twice.

Recovery paths of one process keep apart by their claims, and a path that reads an
entry after claiming it sees whether it is still there. Neither helps against a
live send, which claims nothing and whose entry looks like one a crash has left
behind, nor against another process. `sends_are_exclusive` shows that these two
ways of reading an entry that is being sent, and an acknowledgement that is undone,
are all that can go wrong.
-/

import OpenClaw.Base.Holders
import OpenClaw.Outbound.AckedEntries
import OpenClaw.Outbound.QueueRecovery

namespace OpenClaw.Outbound

open Holders

/-! ### The property -/

/-- The entry whose sends are running. -/
def Party.sending : Party → Option String
  | .live _ id .sending => some id
  | .recovery _ (.replaying _ entry _) => some entry.id
  | _ => none

/-- No two sends of an entry are in progress at the same time. -/
def NoConcurrentSends (state : RecoveryState) : Prop := Exclusive Party.sending state.parties

/-- No send of an entry starts after its acknowledgement. -/
def NeverResent (events : List QueueEvent) : Prop :=
  events.Pairwise fun earlier later => ∀ id, earlier = .acknowledged id → later ≠ .started id

/-! ### The condition -/

/-- Whether a `loadPendingDelivery` has read the entry and goes on with it. -/
def Progress.hasRead : Progress → Bool
  | .continues (.loadStat _) | .continues (.loadRead _) => false
  | .continues _ => true
  | .returned (.loaded (some _)) => true
  | .returned _ => false

/-- The entry a party has in its hands: a live send from the start, a recovery path once it has
read the entry it claimed. -/
def Party.holding : Party → Option String
  | .live _ id _ => some id
  | .recovery _ (.reading id _ _ progress) => if progress.hasRead then some id else none
  | .recovery _ (.replaying id _ _) | .recovery _ (.closing id _ _ _ _) => some id
  | _ => none

/-- Whether a party has an entry in its hands that a recovery path of a process cannot know of. -/
def Party.disturbs (pid : Nat) (id : String) : Party → Bool
  | .live _ other _ => other = id
  | .recovery call stage => call.pid ≠ pid && (Party.recovery call stage).holding = some id
  | .finished => false

/-- The storage operations under way. -/
def RecoveryState.queue (state : RecoveryState) : QueueState where
  disk := state.disk
  running := state.parties.flatMap fun party => party.operations.map fun operation =>
    ⟨party.pid, operation⟩
  acked := state.events.filterMap fun event => match event with
    | .acknowledged id => some id
    | .started _ => none
  usedIds := state.usedIds

/-- An operation acknowledges an entry only when nothing has still to write it back. -/
def RecoveryState.acksCalmly (state : RecoveryState) (operation : FileOperation) (fails : Bool) :
    Bool :=
  (operation.acknowledges fails state.disk).all fun id => !state.queue.writesBack id

/-- A recovery path reads an entry it has claimed only when no live send and no other process has
it in its hands. -/
def RecoveryState.readsAlone (state : RecoveryState) : Party → Bool
  | .recovery call (.reading _ _ _ (.continues (.loadRead id))) =>
    state.parties.all fun other => !other.disturbs call.pid id
  | _ => true

/-- The condition on a step. -/
def orderly (state : RecoveryState) : RecoveryAction → Bool
  | .call index _ fails => (state.parties[index]?).all fun party =>
      state.readsAlone party &&
        (party.progress.bind Progress.operation).all fun operation =>
          state.acksCalmly operation fails
  | .callDeferred index position _ fails => (state.parties[index]?).all fun party =>
      (party.operations[position]?).all fun operation => state.acksCalmly operation fails
  | _ => true

/-! ### Keyed files -/

/-- Every file of an entry carries the id of the entry in its name. -/
def KeyedDisk (disk : Disk) : Prop :=
  ∀ path entry, disk.get path = some (.entry entry) → entry.id = path.id

def FileOperation.Keyed : FileOperation → Prop
  | .write id entry _ | .rename id entry _ => entry.id = id
  | _ => True

/-- The operations of a `loadPendingDelivery`. -/
inductive LoadsEntry (id : String) : FileOperation → Prop
  | stat : LoadsEntry id (.loadStat id)
  | read : LoadsEntry id (.loadRead id)
  | write (entry : QueuedDelivery) (keyed : entry.id = id) : LoadsEntry id (.write id entry .load)
  | rename (entry : QueuedDelivery) (keyed : entry.id = id) : LoadsEntry id (.rename id entry .load)

theorem migratedEntry_id {entry migrated : QueuedDelivery}
    (migrates : migratedEntry entry = some migrated) :
    migrated.id = entry.id := by
  unfold migratedEntry at migrates
  split at migrates
  · cases migrates
  · split at migrates
    · cases migrates
      rfl
    · cases migrates

theorem KeyedDisk.move {disk : Disk} (keyed : KeyedDisk disk) {source target : QueuePath}
    {file : QueueFile} (stored : disk.get source = some file) (same : source.id = target.id) :
    KeyedDisk (moveFile disk source target file) := by
  intro path entry found
  rw [get_moveFile] at found
  split at found
  · rename_i atTarget
    rw [atTarget, ← same]
    exact keyed source entry (stored.trans found)
  · split at found
    · cases found
    · exact keyed path entry found

variable {operation : FileOperation}

theorem KeyedDisk.step {pid : Nat} {fails : Bool} {disk next : Disk}
    (keyed : KeyedDisk disk) (own : operation.Keyed)
    (effect : FileEffect pid fails disk operation next) : KeyedDisk next := by
  cases effect with
  | nothing => exact keyed
  | unlinked marker =>
    intro path entry found
    rw [OrderedMap.get_delete] at found
    split at found
    · cases found
    · exact keyed path entry found
  | acked id file works stored => exact keyed.move stored rfl
  | failed id file stored => exact keyed.move stored rfl
  | wrote id written cause =>
    intro path entry found
    rw [OrderedMap.get_set] at found
    split at found
    · rename_i atPath
      cases found
      rw [atPath]
      exact own
    · exact keyed path entry found
  | restored id written cause file stored => exact keyed.move stored rfl

/-- The entry an operation is about to acknowledge. -/
def FileOperation.acks : FileOperation → Option String
  | .ackRename id => some id
  | _ => none

/-- What an operation may go on with: keyed entries, and no acknowledgement. -/
def Progress.Keyed : Progress → Prop
  | .continues operation => operation.Keyed ∧ operation.acks = none
  | .returned _ => True

theorem keyed_scanFiles (files : List String) (entries : List QueuedDelivery) :
    (scanFiles files entries).Keyed := by
  cases files with
  | nil => trivial
  | cons file rest => exact ⟨trivial, rfl⟩

theorem keyed_scanMarkers (markers files : List String) : (scanMarkers markers files).Keyed := by
  cases markers with
  | nil => exact keyed_scanFiles files []
  | cons marker rest => exact ⟨trivial, rfl⟩

theorem keyed_finish (cause : WriteCause) (id : String) (entry : QueuedDelivery) :
    (cause.finish id entry).Keyed := by
  cases cause with
  | scan files entries => exact keyed_scanFiles _ _
  | _ => trivial

theorem keyed_abandon (cause : WriteCause) (error : FileError) : (cause.abandon error).Keyed := by
  cases cause with
  | scan files entries => exact keyed_scanFiles _ _
  | _ => trivial

variable {id : String} {party : Party}

theorem keyed_loadEntry {entry : QueuedDelivery} (keyed : entry.id = id)
    (cause : WriteCause) : (loadEntry id entry cause).Keyed := by
  unfold loadEntry
  split
  · rename_i migrated migrates
    exact ⟨(migratedEntry_id migrates).trans keyed, rfl⟩
  · exact keyed_finish _ _ _

/-- An operation goes on with keyed entries, and never with an acknowledgement. -/
theorem keyed_progress {disk : Disk} (keyed : KeyedDisk disk)
    (own : operation.Keyed) (pid : Nat) (now : Int) (fails : Bool) :
    (operation.step pid now fails disk).2.Keyed := by
  cases operation with
  | ackRename id =>
    simp only [FileOperation.step]
    split
    · trivial
    · split <;> exact ⟨trivial, rfl⟩
  | failRead id error =>
    simp only [FileOperation.step]
    split
    · trivial
    · split
      · rename_i entry stored
        exact ⟨keyed (.pending id) entry stored, rfl⟩
      · trivial
      · trivial
  | write id entry cause =>
    simp only [FileOperation.step]
    split
    · exact keyed_abandon _ _
    · exact ⟨own, rfl⟩
  | rename id entry cause =>
    simp only [FileOperation.step]
    split
    · exact keyed_abandon _ _
    · split
      · exact keyed_finish _ _ _
      · exact keyed_abandon _ _
  | loadRead id =>
    simp only [FileOperation.step]
    split
    · trivial
    · split
      · rename_i entry stored
        exact keyed_loadEntry (keyed (.pending id) entry stored) _
      · trivial
      · trivial
  | scanRead id files entries =>
    simp only [FileOperation.step]
    split
    · exact keyed_scanFiles _ _
    · split
      · rename_i entry stored
        exact keyed_loadEntry (keyed (.pending id) entry stored) _
      · exact keyed_scanFiles _ _
  | scanStat id files entries =>
    simp only [FileOperation.step]
    split
    · exact ⟨trivial, rfl⟩
    · exact keyed_scanFiles _ _
  | readdir =>
    simp only [FileOperation.step]
    split
    · trivial
    · exact keyed_scanMarkers _ _
  | scanUnlink marker markers files => exact keyed_scanMarkers _ _
  | loadStat id =>
    simp only [FileOperation.step]
    split
    · trivial
    · split
      · exact ⟨trivial, rfl⟩
      · trivial
  | moveRename id =>
    simp only [FileOperation.step]
    split
    · trivial
    · split <;> trivial
  | ackUnlink id => trivial

/-- How far a `loadPendingDelivery` may be. -/
def Progress.Loads (id : String) : Progress → Prop
  | .continues operation => LoadsEntry id operation
  | .returned (.loaded (some entry)) => entry.id = id
  | .returned _ => True

theorem loads_loadEntry {entry : QueuedDelivery} (keyed : entry.id = id) :
    (loadEntry id entry .load).Loads id := by
  unfold loadEntry
  split
  · rename_i migrated migrates
    exact .write migrated ((migratedEntry_id migrates).trans keyed)
  · exact keyed

/-- A `loadPendingDelivery` stays one, and reads the entry only when that is pending. -/
theorem loads_step {disk : Disk} (keyed : KeyedDisk disk)
    (loads : LoadsEntry id operation) (pid : Nat) (now : Int) (fails : Bool) :
    (operation.step pid now fails disk).2.Loads id ∧
      ((operation.step pid now fails disk).2.hasRead = true →
        (Progress.continues operation).hasRead = true ∨
        operation = .loadRead id ∧ disk.get (.pending id) ≠ none) := by
  cases loads with
  | stat =>
    simp only [FileOperation.step]
    split
    · exact ⟨trivial, fun read => by cases read⟩
    · split
      · exact ⟨.read, fun read => by cases read⟩
      · exact ⟨trivial, fun read => by cases read⟩
  | read =>
    simp only [FileOperation.step]
    split
    · exact ⟨trivial, fun read => by cases read⟩
    · split
      · rename_i entry stored
        exact ⟨loads_loadEntry (keyed (.pending id) entry stored), fun _ =>
          Or.inr ⟨trivial, by simp [stored]⟩⟩
      · exact ⟨trivial, fun read => by cases read⟩
      · exact ⟨trivial, fun read => by cases read⟩
  | write entry named =>
    refine ⟨?_, fun _ => Or.inl rfl⟩
    simp only [FileOperation.step]
    split
    · trivial
    · exact .rename entry named
  | rename entry named =>
    refine ⟨?_, fun _ => Or.inl rfl⟩
    simp only [FileOperation.step]
    split
    · trivial
    · split
      · exact named
      · trivial

/-! ### The invariant -/

/-- The claim a party has in `entriesInProgress` of its process. -/
def Party.claim : Party → Option (Nat × String)
  | .recovery call (.reading id _ _ _) | .recovery call (.replaying id _ _)
  | .recovery call (.closing id _ _ _ _) => some (call.pid, id)
  | _ => none

/-- A party works on the entry it has claimed. -/
def Party.Shaped : Party → Prop
  | .recovery _ (.reading id _ _ progress) => progress.Loads id
  | .recovery _ (.replaying id entry _) | .recovery _ (.closing id entry _ _ _) => entry.id = id
  | _ => True

/-- The entry whose sends a party may start. -/
def Party.starting : Party → Option String
  | .live _ id (.enqueuing _) => some id
  | .recovery _ (.reading id _ _ progress) => if progress.hasRead then some id else none
  | _ => none

/-- The entry whose sends a party has ended. -/
def Party.settling : Party → Option String
  | .live _ id (.settling _) | .recovery _ (.closing id _ _ _ _) => some id
  | _ => none

/-- The operations are keyed, and a party acknowledges only the entry it has settled. -/
def Party.MayRun (party : Party) (operation : FileOperation) : Prop :=
  operation.Keyed ∧ ∀ id, operation.acks = some id → party.settling = some id

structure SendsInvariant (state : RecoveryState) : Prop where
  files : QueueInvariant state.queue
  keyed : KeyedDisk state.disk
  operations : ∀ party ∈ state.parties, ∀ operation ∈ party.operations, party.MayRun operation
  shaped : ∀ party ∈ state.parties, party.Shaped
  claimed : ∀ party ∈ state.parties, ∀ claim, party.claim = some claim →
    claim ∈ state.entriesInProgress
  claims : Exclusive Party.claim state.parties
  holding : Exclusive Party.holding state.parties
  drawn : ∀ party ∈ state.parties, ∀ id, party.holding = some id → id ∈ state.usedIds
  unacked : ∀ party ∈ state.parties, ∀ id, party.starting = some id →
    .acknowledged id ∉ state.events
  unresent : NeverResent state.events

theorem starting_holding (starts : party.starting = some id) :
    party.holding = some id := by
  unfold Party.starting at starts
  split at starts
  · exact starts
  · exact starts
  · cases starts

theorem settling_holding (settles : party.settling = some id) :
    party.holding = some id := by
  unfold Party.settling at settles
  split at settles
  · exact settles
  · exact settles
  · cases settles

theorem sending_holding (shaped : party.Shaped)
    (sends : party.sending = some id) : party.holding = some id := by
  unfold Party.sending at sends
  split at sends
  · exact sends
  · have named : _ = _ := shaped
    rw [named] at sends
    exact sends
  · cases sends

/-- What a party holds of an entry it has claimed is what it has claimed. -/
theorem claim_of_holding {call : RecoveryCall} {stage : RecoveryStage}
    (holds : (Party.recovery call stage).holding = some id) :
    (Party.recovery call stage).claim = some (call.pid, id) := by
  cases stage with
  | reading other bypassBackoff rest operation =>
    simp only [Party.holding, Option.ite_none_right_eq_some, Option.some.injEq] at holds
    rw [Party.claim, holds.2]
  | replaying other entry rest =>
    obtain rfl := Option.some.inj holds
    rfl
  | closing other entry cause rest operation =>
    obtain rfl := Option.some.inj holds
    rfl
  | _ => cases holds

theorem claim_pid {claim : Nat × String} (claims : party.claim = some claim) :
    claim.1 = party.pid := by
  unfold Party.claim at claims
  split at claims
  · exact (Option.some.inj claims) ▸ rfl
  · exact (Option.some.inj claims) ▸ rfl
  · exact (Option.some.inj claims) ▸ rfl
  · cases claims

/-- One party has moved: what it has claimed and holds beyond what it had is its alone. -/
structure Move (state next : RecoveryState) (index : Nat) (old new : Party) : Prop where
  stored : state.parties[index]? = some old
  parties : next.parties = state.parties.set index new
  usedIds : next.usedIds = state.usedIds
  shaped : new.Shaped
  operations : ∀ operation ∈ new.operations, new.MayRun operation
  claim : ∀ claim, new.claim = some claim →
    (old.claim = some claim ∨ claim ∉ state.entriesInProgress) ∧ claim ∈ next.entriesInProgress
  kept : ∀ claim ∈ state.entriesInProgress, old.claim ≠ some claim → claim ∈ next.entriesInProgress
  holding : ∀ id, new.holding = some id → old.holding = some id ∨ id ∈ state.usedIds ∧
    ∀ position other, position ≠ index → state.parties[position]? = some other →
      other.holding ≠ some id
  starting : ∀ id, new.starting = some id → old.settling = none ∧ .acknowledged id ∉ state.events

/-- The entries acknowledged by a move are among those the party has settled. -/
def AcksOwn (state next : RecoveryState) (old : Party) : Prop :=
  ∀ id, QueueEvent.acknowledged id ∈ next.events →
    QueueEvent.acknowledged id ∈ state.events ∨ old.settling = some id

theorem SendsInvariant.move {state next : RecoveryState} {index : Nat} {old new : Party}
    (invariant : SendsInvariant state) (move : Move state next index old new)
    (files : QueueInvariant next.queue) (keyed : KeyedDisk next.disk)
    (acked : AcksOwn state next old)
    (unresent : NeverResent next.events) : SendsInvariant next := by
  have own := List.mem_of_getElem? move.stored
  have everyone : ∀ {Property : Party → Prop}, (∀ party ∈ state.parties, Property party) →
      Property new → ∀ party ∈ next.parties, Property party := fun others this party member => by
    rw [move.parties] at member
    exact (List.mem_or_eq_of_mem_set member).elim (others party) fun same => same ▸ this
  have listed : ∀ party ∈ next.parties, party = new ∨
      ∃ position, position ≠ index ∧ state.parties[position]? = some party := by
    intro party member
    rw [move.parties] at member
    obtain ⟨position, listed⟩ := List.getElem?_of_mem member
    by_cases here : index = position
    · subst here
      rw [List.getElem?_set_self (List.getElem?_eq_some_iff.1 move.stored).1, Option.some.injEq]
        at listed
      exact Or.inl listed.symm
    · rw [List.getElem?_set_ne here] at listed
      exact Or.inr ⟨position, Ne.symm here, listed⟩
  refine ⟨files, keyed, everyone invariant.operations move.operations,
    everyone invariant.shaped move.shaped, fun party member claim claims => ?_, ?_, ?_,
    fun party member id holds => ?_, fun party member id starts inEvents => ?_, unresent⟩
  · rcases listed party member with rfl | ⟨position, elsewhere, listed⟩
    · exact (move.claim claim claims).2
    · refine move.kept claim (invariant.claimed party (List.mem_of_getElem? listed) claim claims) ?_
      exact fun oldClaims =>
        elsewhere (invariant.claims _ _ _ _ _ listed move.stored claims oldClaims)
  · rw [move.parties]
    refine invariant.claims.set move.stored fun claim claims => ?_
    refine (move.claim claim claims).1.imp_right
      fun fresh position other elsewhere listed otherClaims => ?_
    exact fresh (invariant.claimed other (List.mem_of_getElem? listed) claim otherClaims)
  · rw [move.parties]
    exact invariant.holding.set move.stored fun id holds =>
      (move.holding id holds).imp_right And.right
  · rw [move.usedIds]
    rcases listed party member with rfl | ⟨position, elsewhere, listed⟩
    · exact (move.holding id holds).elim (invariant.drawn old own id) And.left
    · exact invariant.drawn party (List.mem_of_getElem? listed) id holds
  · rcases listed party member with rfl | ⟨position, elsewhere, listed⟩
    · obtain ⟨unsettled, unacked⟩ := move.starting id starts
      rcases acked id inEvents with before | settles
      · exact unacked before
      · rw [unsettled] at settles
        cases settles
    · rcases acked id inEvents with before | settles
      · exact invariant.unacked party (List.mem_of_getElem? listed) id starts before
      · exact elsewhere (invariant.holding _ _ _ _ _ listed move.stored (starting_holding starts)
          (settling_holding settles))

/-! ### The files -/

theorem mem_running {state : RecoveryState} {process : Running} : process ∈ state.queue.running ↔
    ∃ party ∈ state.parties, process.operation ∈ party.operations ∧ process.pid = party.pid := by
  simp only [RecoveryState.queue, List.mem_flatMap, List.mem_map]
  constructor
  · rintro ⟨party, member, operation, runs, rfl⟩
    exact ⟨party, member, runs, rfl⟩
  · rintro ⟨party, member, runs, same⟩
    exact ⟨party, member, process.operation, runs, by rw [← same]⟩

theorem mem_acked {state : RecoveryState} :
    id ∈ state.queue.acked ↔ QueueEvent.acknowledged id ∈ state.events := by
  simp only [RecoveryState.queue, List.mem_filterMap]
  constructor
  · rintro ⟨event, member, named⟩
    cases event with
    | started other => cases named
    | acknowledged other =>
      obtain rfl := Option.some.inj named
      exact member
  · exact fun member => ⟨_, member, rfl⟩

/-- An operation that never writes anything back. -/
def Reads (operation : FileOperation) : Prop :=
  ∀ pid disk id, operation.writesBack pid disk id = false

section Files

variable {state next : RecoveryState} {index : Nat} {old new : Party}

theorem mem_running_set (parties : next.parties = state.parties.set index new) {process : Running}
    (runs : process ∈ next.queue.running) : process ∈ state.queue.running ∨
      process.operation ∈ new.operations ∧ process.pid = new.pid := by
  obtain ⟨party, member, runs, same⟩ := mem_running.1 runs
  rw [parties] at member
  rcases List.mem_or_eq_of_mem_set member with member | rfl
  · exact Or.inl (mem_running.2 ⟨party, member, runs, same⟩)
  · exact Or.inr ⟨runs, same⟩

/-- The files after a move that makes no call. -/
theorem SendsInvariant.files_moved (invariant : SendsInvariant state)
    (disk : next.disk = state.disk)
    (events : ∀ id, QueueEvent.acknowledged id ∈ next.events ↔
    QueueEvent.acknowledged id ∈ state.events)
    (usedIds : next.usedIds = state.usedIds) (parties : next.parties = state.parties.set index new)
    (reads : ∀ operation ∈ new.operations, Reads operation) : QueueInvariant next.queue := by
  refine invariant.files.started disk (fun id => ?_) (fun id used => ?_) fun id back => Or.inl ?_
  · rw [mem_acked, mem_acked, events]
  · show id ∈ next.usedIds
    rw [usedIds]
    exact used
  · obtain ⟨process, member, back⟩ := List.any_eq_true.1 back
    rcases mem_running_set parties member with member | ⟨member, -⟩
    · have before : process.operation.writesBack process.pid next.disk id = true := back
      rw [disk] at before
      exact writesBack_of_mem member before
    · exact absurd back (by simp [reads _ member _ _ _])

/-- The files after a move that makes one call. -/
theorem called_of_move {operation : FileOperation} {now : Int} {fails : Bool}
    (move : Move state next index old new) (runs : operation ∈ old.operations)
    (disk : next.disk = (operation.step old.pid now fails state.disk).1)
    (events : ∀ id, QueueEvent.acknowledged id ∈ next.events ↔
      QueueEvent.acknowledged id ∈ state.events ∨ operation.acknowledges fails state.disk = some id)
    (operations : ∀ other ∈ new.operations, new.pid = old.pid ∧ (other ∈ old.operations ∨
      (operation.step old.pid now fails state.disk).2 = .continues other) ∨ Reads other) :
    Called state.queue next.queue ⟨old.pid, operation⟩ now fails := by
  have own := List.mem_of_getElem? move.stored
  refine ⟨mem_running.2 ⟨old, own, runs, rfl⟩, disk, fun id => ?_, fun process member => ?_,
    fun id used => ?_⟩
  · rw [mem_acked, mem_acked, events]
    rfl
  · rcases mem_running_set move.parties member with member | ⟨member, pid⟩
    · exact Or.inl member
    · rcases operations _ member with ⟨same, stays | continues⟩ | reads
      · exact Or.inl (mem_running.2 ⟨old, own, stays, pid.trans same⟩)
      · exact Or.inr (Or.inl ⟨continues, pid.trans same⟩)
      · exact Or.inr (Or.inr fun disk id => reads _ disk id)
  · show id ∈ next.usedIds
    rw [move.usedIds]
    exact used

end Files

/-! ### The log -/

/-- An acknowledgement can be logged at any time. -/
theorem NeverResent.acknowledge {events : List QueueEvent} (unresent : NeverResent events)
    (acked : Option String) : NeverResent (events ++ acked.toList.map .acknowledged) := by
  cases acked with
  | none => simpa using unresent
  | some id =>
    refine List.pairwise_append.2 ⟨unresent, List.pairwise_singleton _ _, ?_⟩
    intro earlier _ later member other _
    obtain rfl : later = .acknowledged id := by simpa using member
    simp

/-- A start can be logged when the entry has not been acknowledged. -/
theorem NeverResent.start {events : List QueueEvent} (unresent : NeverResent events)
    (fresh : QueueEvent.acknowledged id ∉ events) : NeverResent (events ++ [.started id]) := by
  refine List.pairwise_append.2 ⟨unresent, List.pairwise_singleton _ _, ?_⟩
  intro earlier member later isStart other same
  obtain rfl := List.mem_singleton.1 isStart
  rintro started
  obtain rfl := QueueEvent.started.inj started
  exact fresh (same ▸ member)

/-! ### Moves -/

/-- The parties and their books are the same: only files and the log may differ. -/
structure SameParties (state called : RecoveryState) : Prop where
  parties : called.parties = state.parties
  entriesInProgress : called.entriesInProgress = state.entriesInProgress
  usedIds : called.usedIds = state.usedIds

/-- A party that has only just read an entry may hold it when nobody else does. -/
def MayHold (state : RecoveryState) (index : Nat) (old : Party) (id : String) : Prop :=
  old.holding = some id ∨ id ∈ state.usedIds ∧ ∀ position other, position ≠ index →
    state.parties[position]? = some other → other.holding ≠ some id

section Moves

variable {state called : RecoveryState} {index : Nat} {old new : Party} {call : RecoveryCall}
    {id : String}

theorem SendsInvariant.put (invariant : SendsInvariant state) (same : SameParties state called)
    (stored : state.parties[index]? = some old) (shaped : new.Shaped)
    (operations : ∀ operation ∈ new.operations, new.MayRun operation)
    (claim : ∀ claim, new.claim = some claim → old.claim = some claim)
    (holding : ∀ id, new.holding = some id → MayHold state index old id)
    (starting : ∀ id, new.starting = some id → old.settling = none ∧
    .acknowledged id ∉ state.events) :
    Move state (called.put index new) index old new := by
  have own := List.mem_of_getElem? stored
  refine ⟨stored, ?_, same.usedIds, shaped, operations, fun value claims =>
    ⟨Or.inl (claim value claims), ?_⟩,
    fun value member _ => ?_, holding, starting⟩
  · rw [RecoveryState.put, same.parties]
  · rw [RecoveryState.put, same.entriesInProgress]
    exact invariant.claimed old own value (claim value claims)
  · rw [RecoveryState.put, same.entriesInProgress]
    exact member

theorem Move.startSend (move : Move state (called.put index new) index old new) (started : String) :
    Move state (called.startSend index started new) index old new :=
  ⟨move.stored, move.parties, move.usedIds, move.shaped, move.operations, move.claim, move.kept,
    move.holding, move.starting⟩

theorem move_leaveEntry (same : SameParties state called)
    (stored : state.parties[index]? = some old)
    (claims : old.claim = some (call.pid, id)) (rest : List (QueuedDelivery × Bool)) :
    Move state (called.leaveEntry index call id rest) index old
      (.recovery call (.walking rest)) := by
  refine ⟨stored, ?_, same.usedIds, trivial, List.forall_mem_nil _, nofun,
    fun claim member other => ?_, nofun, nofun⟩
  · rw [RecoveryState.leaveEntry, RecoveryState.release, RecoveryState.put, same.parties]
  · rw [RecoveryState.leaveEntry, RecoveryState.release, RecoveryState.put, same.entriesInProgress]
    refine List.mem_filter.2 ⟨member, decide_eq_true ?_⟩
    rintro rfl
    exact other claims

theorem move_endRecovery (same : SameParties state called)
    (stored : state.parties[index]? = some old) :
    Move state (called.endRecovery index call) index old .finished := by
  refine ⟨stored, ?_, same.usedIds, trivial, List.forall_mem_nil _, nofun, fun claim member _ =>
    ?_, nofun, nofun⟩
  · rw [RecoveryState.endRecovery, RecoveryState.put, same.parties]
  · rw [RecoveryState.endRecovery, RecoveryState.put, same.entriesInProgress]
    exact member

theorem move_endRecovery_release (same : SameParties state called)
    (stored : state.parties[index]? = some old) (claims : old.claim = some (call.pid, id)) :
    Move state ((called.endRecovery index call).release call.pid id) index old .finished := by
  have ended : Move state (called.endRecovery index call) index old .finished :=
    move_endRecovery same stored
  refine ⟨stored, ended.parties, ended.usedIds, trivial, List.forall_mem_nil _, nofun,
    fun claim member other => ?_,
    nofun, nofun⟩
  refine List.mem_filter.2 ⟨ended.kept claim member other, decide_eq_true ?_⟩
  rintro rfl
  exact other claims

/-- A party moves without a call: it starts only operations that read, and starts the sends only of
an entry it may. -/
structure SilentMove (state next : RecoveryState) (index : Nat) (old new : Party) : Prop where
  move : Move state next index old new
  reads : ∀ operation ∈ new.operations, Reads operation
  disk : next.disk = state.disk
  events : next.events = state.events ∨
    ∃ id, old.starting = some id ∧ next.events = state.events ++ [.started id]

theorem SendsInvariant.silent (invariant : SendsInvariant state) {next : RecoveryState}
    (silent : SilentMove state next index old new) : SendsInvariant next := by
  have acked : ∀ id, QueueEvent.acknowledged id ∈ next.events ↔
    QueueEvent.acknowledged id ∈ state.events := by
    intro id
    rcases silent.events with events | ⟨started, -, events⟩
    · rw [events]
    · simp [events]
  have files := invariant.files_moved silent.disk acked silent.move.usedIds silent.move.parties
    silent.reads
  refine invariant.move silent.move files (silent.disk ▸ invariant.keyed)
    (fun id => Or.inl ∘ (acked id).1) ?_
  rcases silent.events with events | ⟨started, starts, events⟩
  · rw [events]
    exact invariant.unresent
  · rw [events]
    exact invariant.unresent.start
      (invariant.unacked old (List.mem_of_getElem? silent.move.stored) started starts)

end Moves

/-! ### Going on after an operation -/

theorem reads_failureOperation (id error : String) : Reads (failureOperation id error) := by
  unfold failureOperation
  split <;> exact fun _ _ _ => rfl

theorem mayRun_failureOperation (party : Party) (id error : String) :
    party.MayRun (failureOperation id error) := by
  unfold failureOperation
  split <;> exact ⟨trivial, nofun⟩

section Resume

variable {state : RecoveryState} {index : Nat} {now : Int} {errorText : String}
variable {call : RecoveryCall}

theorem sameParties_self (state : RecoveryState) : SameParties state state := ⟨rfl, rfl, rfl⟩

theorem silent_finished (invariant : SendsInvariant state)
    (stored : state.parties[index]? = some party) :
    SilentMove state (state.put index .finished) index party .finished :=
  ⟨invariant.put (sameParties_self state) stored trivial (List.forall_mem_nil _) nofun nofun nofun,
    List.forall_mem_nil _, rfl, Or.inl rfl⟩

theorem silent_walking (invariant : SendsInvariant state)
    (stored : state.parties[index]? = some party) (call : RecoveryCall)
    (rest : List (QueuedDelivery × Bool)) :
    SilentMove state (state.put index (.recovery call (.walking rest))) index party
      (.recovery call (.walking rest)) :=
  ⟨invariant.put (sameParties_self state) stored trivial (List.forall_mem_nil _) nofun nofun nofun,
    List.forall_mem_nil _, rfl, Or.inl rfl⟩

theorem silent_leaveEntry {id : String}
    (stored : state.parties[index]? = some party) (claims : party.claim = some (call.pid, id))
    (rest : List (QueuedDelivery × Bool)) :
    SilentMove state (state.leaveEntry index call id rest) index party
      (.recovery call (.walking rest)) :=
  ⟨move_leaveEntry (sameParties_self state) stored claims rest, List.forall_mem_nil _, rfl,
    Or.inl rfl⟩

theorem silent_endRecovery (stored : state.parties[index]? = some party) :
    SilentMove state (state.endRecovery index call) index party .finished :=
  ⟨move_endRecovery (sameParties_self state) stored, List.forall_mem_nil _, rfl, Or.inl rfl⟩

theorem silent_endRecovery_release {id : String}
    (stored : state.parties[index]? = some party) (claims : party.claim = some (call.pid, id)) :
    SilentMove state ((state.endRecovery index call).release call.pid id) index party .finished :=
  ⟨move_endRecovery_release (sameParties_self state) stored claims, List.forall_mem_nil _, rfl,
    Or.inl rfl⟩

/-- A recovery path closes an entry it holds. -/
theorem SendsInvariant.silent_closing (invariant : SendsInvariant state)
    {id : String} {entry : QueuedDelivery} (stored : state.parties[index]? = some party)
    (keyed : entry.id = id) (claims : party.claim = some (call.pid, id))
    (holds : party.holding = some id)
    (cause : ClosingCause) (rest : List (QueuedDelivery × Bool)) {operation : FileOperation}
    (runs : (Party.recovery call (.closing id entry cause rest (.continues operation))).MayRun
    operation)
    (reads : Reads operation) :
    SilentMove state (state.put index
      (.recovery call (.closing id entry cause rest (.continues operation))))
      index party (.recovery call (.closing id entry cause rest (.continues operation))) := by
  refine ⟨invariant.put (sameParties_self state) stored keyed (fun other member => ?_)
    (fun _ same => claims.trans same) (fun _ same => Or.inl (holds.trans same)) nofun,
    fun other member => ?_, rfl, Or.inl rfl⟩
  · exact List.mem_singleton.1 member ▸ runs
  · exact List.mem_singleton.1 member ▸ reads

/-- A recovery path that has read the entry it claimed. -/
theorem SendsInvariant.silent_handleEntry (invariant : SendsInvariant state)
    {id : String} {bypassBackoff : Bool} {rest : List (QueuedDelivery × Bool)}
    {entry : QueuedDelivery}
    {progress : Progress} (hasRead : progress.hasRead = true) (keyed : entry.id = id)
    (stored : state.parties[index]? =
    some (.recovery call (.reading id bypassBackoff rest progress))) :
    ∃ new, SilentMove state (state.handleEntry index call id bypassBackoff rest entry now) index
      (.recovery call (.reading id bypassBackoff rest progress)) new := by
  have holds : (Party.recovery call (.reading id bypassBackoff rest progress)).holding = some id :=
    if_pos hasRead
  have starts : (Party.recovery call (.reading id bypassBackoff rest progress)).starting =
    some entry.id :=
    (if_pos hasRead).trans (congrArg some keyed.symm)
  unfold RecoveryState.handleEntry
  split
  · exact ⟨_, invariant.silent_closing stored keyed rfl holds .exceeded rest ⟨trivial, nofun⟩
      fun _ _ _ => rfl⟩
  · split
    · exact ⟨_, silent_leaveEntry stored rfl rest⟩
    · have moves : Move state (state.put index (.recovery call (.replaying id entry rest))) index
          (.recovery call (.reading id bypassBackoff rest progress))
            (.recovery call (.replaying id entry rest)) :=
        invariant.put (sameParties_self state) stored keyed (List.forall_mem_nil _)
          (fun _ claims => claims)
          (fun _ same => Or.inl (holds.trans same)) nofun
      exact ⟨_, moves.startSend entry.id, List.forall_mem_nil _, rfl,
        Or.inr ⟨entry.id, starts, rfl⟩⟩

/-- A party goes on after its storage operation. -/
theorem SendsInvariant.resumed (invariant : SendsInvariant state) {result : FileResult}
    (stored : state.parties[index]? = some party)
    (returned : party.progress.bind Progress.result = some result) :
    SendsInvariant (state.resume index now errorText result party) := by
  suffices silent : ∃ new, SilentMove state (state.resume index now errorText result party) index
    party new by
    obtain ⟨new, silent⟩ := silent
    exact invariant.silent silent
  cases party with
  | finished => cases returned
  | live pid id stage =>
    cases stage with
    | sending => cases returned
    | settling progress => exact ⟨_, silent_finished invariant stored⟩
    | enqueuing progress =>
      cases result with
      | enqueued other =>
        have moves : Move state (state.put index (.live pid id .sending)) index
            (.live pid id (.enqueuing progress)) (.live pid id .sending) :=
          invariant.put (sameParties_self state) stored trivial (List.forall_mem_nil _) nofun
            (fun _ holds => Or.inl holds) nofun
        exact ⟨_, moves.startSend id, List.forall_mem_nil _, rfl, Or.inr ⟨id, rfl, rfl⟩⟩
      | _ => exact ⟨_, silent_finished invariant stored⟩
  | recovery call stage =>
    cases stage with
    | walking rest => cases returned
    | replaying id entry rest => cases returned
    | deferring operations => cases returned
    | loading progress =>
      cases result with
      | loadedAll entries =>
        simp only [RecoveryState.resume, RecoveryState.resumeRecovery]
        split
        · exact ⟨_, silent_endRecovery stored⟩
        · exact ⟨_, silent_walking invariant stored _ _⟩
      | _ => exact ⟨_, silent_endRecovery stored⟩
    | reading id bypassBackoff rest progress =>
      cases progress with
      | continues operation => cases returned
      | returned value =>
        obtain rfl : value = result := Option.some.inj returned
        cases value with
        | loaded entry =>
          cases entry with
          | none => exact ⟨_, silent_leaveEntry stored rfl rest⟩
          | some entry =>
            exact invariant.silent_handleEntry
              rfl (invariant.shaped _ (List.mem_of_getElem? stored)) stored
        | _ => exact ⟨_, silent_endRecovery_release stored rfl⟩
    | closing id entry cause rest progress =>
      have keyed : entry.id = id := invariant.shaped _ (List.mem_of_getElem? stored)
      simp only [RecoveryState.resume, RecoveryState.resumeRecovery]
      split
      · exact ⟨_, invariant.silent_closing stored keyed rfl rfl .failed rest
          (mayRun_failureOperation _ _ _) (reads_failureOperation _ _)⟩
      · split
        · exact ⟨_, silent_endRecovery_release stored rfl⟩
        · exact ⟨_, silent_leaveEntry stored rfl rest⟩
      · exact ⟨_, silent_leaveEntry stored rfl rest⟩

end Resume

/-! ### Calls -/

section Calls

variable {state : RecoveryState} {index : Nat} {now : Int}
    {fails : Bool}

/-- A recovery path that reads a pending entry alone may hold it: its own process keeps others away
by the claim. -/
theorem mayHold_of_readsAlone (invariant : SendsInvariant state) {call : RecoveryCall} {id : String}
    {bypassBackoff : Bool} {rest : List (QueuedDelivery × Bool)}
    (stored : state.parties[index]? =
      some (.recovery call (.reading id bypassBackoff rest (.continues (.loadRead id)))))
    (alone : state.readsAlone (.recovery call
      (.reading id bypassBackoff rest (.continues (.loadRead id)))) = true)
    (pending : state.disk.get (.pending id) ≠ none) :
    MayHold state index (.recovery call
      (.reading id bypassBackoff rest (.continues (.loadRead id)))) id := by
  refine Or.inr ⟨invariant.files.drawn id (Or.inr (Or.inl pending)), ?_⟩
  intro position other elsewhere listed holds
  have calm : other.disturbs call.pid id = false := by
    simpa using List.all_eq_true.1 alone other (List.mem_of_getElem? listed)
  cases other with
  | live pid held stage =>
    obtain rfl := Option.some.inj holds
    simp [Party.disturbs] at calm
  | recovery otherCall stage =>
    simp only [Party.disturbs, holds, decide_true, Bool.and_true, decide_eq_false_iff_not, not_not]
      at calm
    have claims := claim_of_holding holds
    rw [calm] at claims
    exact elsewhere (invariant.claims _ _ _ _ _ listed stored claims rfl)
  | finished => cases holds

theorem goOn_claim (progress : Progress) (party : Party) :
    (party.goOn progress).claim = party.claim := by
  unfold Party.goOn
  split <;> rfl

theorem goOn_pid (progress : Progress) (party : Party) : (party.goOn progress).pid = party.pid := by
  unfold Party.goOn
  split <;> rfl

theorem operations_of_progress {progress : Progress} (runs : party.progress = some progress) :
    party.operations = progress.operation.toList := by
  cases party with
  | live pid id stage => cases stage <;> cases runs <;> rfl
  | recovery call stage => cases stage <;> cases runs <;> rfl
  | finished => cases runs

theorem goOn_progress {before : Progress} (runs : party.progress = some before)
    (progress : Progress) : (party.goOn progress).progress = some progress := by
  cases party with
  | live pid id stage => cases stage <;> cases runs <;> rfl
  | recovery call stage => cases stage <;> cases runs <;> rfl
  | finished => cases runs

/-- The awaited operation of a party makes a call. -/
theorem move_goOn (invariant : SendsInvariant state) (stored : state.parties[index]? = some party)
    (runs : party.progress = some (.continues operation))
    (alone : state.readsAlone party = true) :
    Move state ((state.call party.pid operation now fails).put index
        (party.goOn (operation.step party.pid now fails state.disk).2)) index party
      (party.goOn (operation.step party.pid now fails state.disk).2) := by
  have own := List.mem_of_getElem? stored
  have shaped := invariant.shaped party own
  have listed : operation ∈ party.operations :=
    operations_of_progress runs ▸ List.mem_singleton_self operation
  have progress := keyed_progress invariant.keyed
    (invariant.operations party own operation listed).1
    party.pid now fails
  refine invariant.put ⟨rfl, rfl, rfl⟩ stored ?_ (fun other member => ?_)
    (fun claim claims => (goOn_claim _ party).symm.trans claims) (fun id holds => ?_)
    fun id starts => ?_
  · cases party with
    | finished => trivial
    | live pid id stage => cases stage <;> trivial
    | recovery call stage =>
      cases stage with
      | reading id bypassBackoff rest reads =>
        obtain rfl := Option.some.inj runs
        exact (loads_step invariant.keyed shaped call.pid now fails).1
      | closing id entry cause rest closes => exact shaped
      | replaying id entry rest => exact shaped
      | _ => trivial
  · rw [operations_of_progress (goOn_progress runs _)] at member
    cases outcome : (operation.step party.pid now fails state.disk).2 with
    | returned result =>
      rw [outcome] at member
      cases member
    | continues next =>
      rw [outcome] at member progress
      obtain rfl := List.mem_singleton.1 member
      exact ⟨progress.1, fun id acks => by simp [progress.2] at acks⟩
  · cases party with
    | finished => cases runs
    | live pid other stage => cases stage <;> exact Or.inl holds
    | recovery call stage =>
      cases stage with
      | reading other bypassBackoff rest reads =>
        obtain rfl := Option.some.inj runs
        simp only [Party.goOn, Party.holding, Option.ite_none_right_eq_some, Option.some.injEq]
          at holds
        obtain ⟨hasRead, rfl⟩ := holds
        rcases (loads_step invariant.keyed shaped call.pid now fails).2
          hasRead with before | ⟨rfl, pending⟩
        · exact Or.inl (if_pos before)
        · exact mayHold_of_readsAlone invariant stored alone pending
      | _ => exact Or.inl holds
  · cases party with
    | finished => cases runs
    | live pid other stage =>
      cases stage with
      | enqueuing enqueues => exact ⟨rfl, invariant.unacked _ own id starts⟩
      | _ => cases starts
    | recovery call stage =>
      cases stage with
      | reading other bypassBackoff rest reads =>
        obtain rfl := Option.some.inj runs
        simp only [Party.goOn, Party.starting, Option.ite_none_right_eq_some, Option.some.injEq]
          at starts
        obtain ⟨hasRead, rfl⟩ := starts
        rcases (loads_step invariant.keyed shaped call.pid now fails).2
          hasRead with before | ⟨rfl, pending⟩
        · exact ⟨rfl, invariant.unacked _ own other (if_pos before)⟩
        · exact ⟨rfl, fun acked => pending (invariant.files.gone other (mem_acked.2 acked))⟩
      | _ => cases starts

theorem mem_events_call (state : RecoveryState) (operation : FileOperation) (pid : Nat) (now : Int)
    (fails : Bool) (id : String) :
    QueueEvent.acknowledged id ∈ (state.call pid operation now fails).events ↔
      QueueEvent.acknowledged id ∈ state.events ∨
        operation.acknowledges fails state.disk = some id := by
  simp [RecoveryState.call]

theorem calm_of_acksCalmly (calm : state.acksCalmly operation fails = true) (id : String)
    (acks : operation.acknowledges fails state.disk = some id) :
    state.queue.writesBack id = false := by
  simpa [RecoveryState.acksCalmly, acks] using calm

/-- A move that makes one call. -/
theorem SendsInvariant.called (invariant : SendsInvariant state) {next : RecoveryState}
    {old new : Party}
    (move : Move state next index old new) (runs : operation ∈ old.operations)
    (calm : state.acksCalmly operation fails = true)
    (disk : next.disk = (state.call old.pid operation now fails).disk)
    (events : next.events = (state.call old.pid operation now fails).events)
    (operations : ∀ other ∈ new.operations, new.pid = old.pid ∧ (other ∈ old.operations ∨
      (operation.step old.pid now fails state.disk).2 = .continues other)) :
        SendsInvariant next := by
  have mayRun := invariant.operations old (List.mem_of_getElem? move.stored) operation runs
  have logged : ∀ id, QueueEvent.acknowledged id ∈ next.events ↔
      QueueEvent.acknowledged id ∈ state.events ∨
        operation.acknowledges fails state.disk = some id := by
    intro id
    rw [events, mem_events_call]
  refine invariant.move move (invariant.files.call
    (called_of_move move runs disk logged fun other member => Or.inl (operations other member))
    (calm_of_acksCalmly calm)) ?_ (fun id member => ?_) ?_
  · rw [disk]
    exact invariant.keyed.step mayRun.1 (FileOperation.step_effect ..)
  · refine ((logged id).1 member).imp_right fun acks => mayRun.2 id ?_
    rw [(acknowledges_eq_some_iff.1 acks).1]
    rfl
  · rw [events]
    exact invariant.unresent.acknowledge _

theorem SendsInvariant.goneOn (invariant : SendsInvariant state)
    (stored : state.parties[index]? = some party)
    (runs : party.progress = some (.continues operation))
    (alone : state.readsAlone party = true) (calm : state.acksCalmly operation fails = true) :
    SendsInvariant ((state.call party.pid operation now fails).put index
      (party.goOn (operation.step party.pid now fails state.disk).2)) := by
  have listed : operation ∈ party.operations :=
    operations_of_progress runs ▸ List.mem_singleton_self operation
  refine invariant.called (move_goOn invariant stored runs alone) listed calm
    rfl rfl fun other member => ?_
  refine ⟨goOn_pid _ party, Or.inr ?_⟩
  rw [operations_of_progress (goOn_progress runs _)] at member
  cases outcome : (operation.step party.pid now fails state.disk).2 with
  | returned result =>
    rw [outcome] at member
    cases member
  | continues next =>
    rw [outcome] at member
    rw [List.mem_singleton.1 member]

/-- One of the operations of a deferral makes a call. -/
theorem SendsInvariant.calledDeferred (invariant : SendsInvariant state) {call : RecoveryCall}
    {operations : List FileOperation} {position : Nat}
    (stored : state.parties[index]? = some (.recovery call (.deferring operations)))
    (runs : operations[position]? = some operation) (calm : state.acksCalmly operation fails = true)
    {next : RecoveryState}
    (taken : (if (operation.step call.pid now fails state.disk).2.replaceDeferred operations
    position = []
      then (state.call call.pid operation now fails).endRecovery index call
      else (state.call call.pid operation now fails).put index (.recovery call (.deferring
        ((operation.step call.pid now fails state.disk).2.replaceDeferred operations position)))) =
          next) :
    SendsInvariant next := by
  have own := List.mem_of_getElem? stored
  have listed : operation ∈ (Party.recovery call (.deferring operations)).operations :=
    List.mem_of_getElem? runs
  have progress := keyed_progress invariant.keyed (invariant.operations _ own operation listed).1
    call.pid now fails
  have same : SameParties state (state.call call.pid operation now fails) := ⟨rfl, rfl, rfl⟩
  obtain ⟨rest, rest_eq⟩ : ∃ rest, rest =
    (operation.step call.pid now fails state.disk).2.replaceDeferred operations position := ⟨_, rfl⟩
  have left : ∀ other ∈ rest,
      other ∈ operations ∨ (operation.step call.pid now fails state.disk).2 = .continues other := by
    intro other member
    rw [rest_eq] at member
    cases outcome : (operation.step call.pid now fails state.disk).2 with
    | continues goes =>
      rw [outcome] at member
      exact (List.mem_or_eq_of_mem_set member).imp_right fun (new : other = goes) => by rw [new]
    | returned result =>
      rw [outcome] at member
      exact Or.inl (List.mem_of_mem_eraseIdx member)
  rw [← rest_eq] at taken
  split at taken
  · subst taken
    exact invariant.called (move_endRecovery same stored) listed calm
      rfl rfl (List.forall_mem_nil _)
  · subst taken
    have move : Move state ((state.call call.pid operation now fails).put index
        (.recovery call (.deferring rest))) index (.recovery call (.deferring operations))
        (.recovery call (.deferring rest)) := by
      refine invariant.put same stored trivial (fun other member => ?_) nofun nofun nofun
      rcases left other member with stays | continues
      · exact invariant.operations _ own other stays
      · rw [continues] at progress
        exact ⟨progress.1, fun id acks => by simp [progress.2] at acks⟩
    exact invariant.called move listed calm rfl rfl fun other member => ⟨rfl, left other member⟩

end Calls

/-! ### Steps without a call -/

section Silent

variable {state : RecoveryState} {index : Nat} {call : RecoveryCall}

theorem SendsInvariant.settled (invariant : SendsInvariant state) {pid : Nat} {id : String}
    (stored : state.parties[index]? = some (.live pid id .sending)) (outcome : SendOutcome) :
    SendsInvariant (state.put index
      (.live pid id (.settling (.continues (outcome.settle id))))) := by
  refine invariant.silent
    ⟨invariant.put (sameParties_self state) stored trivial (fun operation member => ?_)
    nofun (fun _ holds => Or.inl holds) nofun, fun operation member => ?_, rfl, Or.inl rfl⟩
  · obtain rfl := List.mem_singleton.1 member
    cases outcome <;> refine ⟨trivial, fun other acks => ?_⟩ <;> cases acks <;> rfl
  · obtain rfl := List.mem_singleton.1 member
    cases outcome <;> exact fun _ _ _ => rfl

theorem SendsInvariant.replayed (invariant : SendsInvariant state) {id : String}
    {entry : QueuedDelivery}
    {rest : List (QueuedDelivery × Bool)}
    (stored : state.parties[index]? = some (.recovery call (.replaying id entry rest)))
    (error : Option String) :
    SendsInvariant (state.put index (.recovery call (match error with
      | none => .closing id entry .sent rest (.continues (.ackRename entry.id))
      | some error => .closing id entry .failed rest
          (.continues (failureOperation entry.id error))))) := by
  have named : entry.id = id := invariant.shaped _ (List.mem_of_getElem? stored)
  cases error with
  | none =>
    exact invariant.silent (invariant.silent_closing stored named rfl rfl .sent rest
      ⟨trivial, fun other acks => (congrArg some named).symm.trans acks⟩ fun _ _ _ => rfl)
  | some error =>
    exact invariant.silent (invariant.silent_closing stored named rfl rfl .failed rest
      (mayRun_failureOperation _ _ _) (reads_failureOperation _ _))

/-- The loop of a recovery path goes on. -/
theorem SendsInvariant.nextEntry (invariant : SendsInvariant state)
    {entries : List (QueuedDelivery × Bool)}
    (stored : state.parties[index]? = some (.recovery call (.walking entries))) (now : Int) :
    SendsInvariant (state.nextEntry index call now entries) := by
  cases entries with
  | nil => exact invariant.silent (silent_endRecovery stored)
  | cons item rest =>
    obtain ⟨entry, bypassBackoff⟩ := item
    simp only [RecoveryState.nextEntry]
    split
    · refine invariant.silent ⟨invariant.put (sameParties_self state) stored trivial
        (fun operation member => ?_) nofun nofun nofun, fun operation member => ?_, rfl, Or.inl rfl⟩
      · obtain ⟨item, -, rfl⟩ := List.mem_map.1 member
        exact ⟨trivial, nofun⟩
      · obtain ⟨item, -, rfl⟩ := List.mem_map.1 member
        exact fun _ _ _ => rfl
    · split
      · exact invariant.silent (silent_walking invariant stored call rest)
      · rename_i fresh
        have move : Move state
            { state.put index (.recovery call
                (.reading entry.id bypassBackoff rest (.continues (.loadStat entry.id)))) with
              entriesInProgress := (call.pid, entry.id) :: state.entriesInProgress } index
            (.recovery call (.walking ((entry, bypassBackoff) :: rest)))
            (.recovery call (.reading entry.id bypassBackoff rest
              (.continues (.loadStat entry.id)))) := by
          refine ⟨stored, rfl, rfl, LoadsEntry.stat, fun operation member => ?_,
            fun claim claims => ?_, fun _ member _ => List.mem_cons_of_mem _ member, nofun, nofun⟩
          · obtain rfl := List.mem_singleton.1 member
            exact ⟨trivial, nofun⟩
          · obtain rfl := Option.some.inj claims
            exact ⟨Or.inr fresh, List.mem_cons_self⟩
        refine invariant.silent ⟨move, fun operation member => ?_, rfl, Or.inl rfl⟩
        obtain rfl := List.mem_singleton.1 member
        exact fun _ _ _ => rfl

/-- A party joins. What it holds is a fresh id. -/
theorem SendsInvariant.join (invariant : SendsInvariant state) {next : RecoveryState} {new : Party}
    (parties : next.parties = state.parties ++ [new]) (disk : next.disk = state.disk)
    (events : next.events = state.events)
    (claimed : next.entriesInProgress = state.entriesInProgress)
    (usedIds : ∀ id ∈ state.usedIds, id ∈ next.usedIds) (shaped : new.Shaped)
    (operations : ∀ operation ∈ new.operations, new.MayRun operation)
    (unclaiming : new.claim = none)
    (fresh : ∀ id, new.holding = some id → id ∉ state.usedIds ∧ id ∈ next.usedIds)
    (back : ∀ operation ∈ new.operations, ∀ id, operation.writesBack new.pid state.disk id = true →
      id ∉ state.usedIds ∧ id ∈ next.usedIds) : SendsInvariant next := by
  have everyone : ∀ {Property : Party → Prop}, (∀ party ∈ state.parties, Property party) →
      Property new → ∀ party ∈ next.parties, Property party := fun others this party member => by
    rw [parties, List.mem_append, List.mem_singleton] at member
    exact member.elim (others party) fun same => same ▸ this
  refine ⟨?_, ?_, everyone invariant.operations operations, everyone invariant.shaped shaped, ?_,
    ?_, ?_,
    ?_, ?_, ?_⟩
  · refine invariant.files.started disk (fun id => by rw [mem_acked, mem_acked, events]) usedIds
      fun id written => ?_
    obtain ⟨process, member, written⟩ := List.any_eq_true.1 written
    obtain ⟨party, member, runs, pid⟩ := mem_running.1 member
    replace written : process.operation.writesBack process.pid next.disk id = true := written
    rw [disk] at written
    rw [parties, List.mem_append, List.mem_singleton] at member
    rcases member with member | rfl
    · exact Or.inl (writesBack_of_mem (mem_running.2 ⟨party, member, runs, pid⟩) written)
    · exact Or.inr (back _ runs id (pid ▸ written))
  · rw [disk]
    exact invariant.keyed
  · rw [claimed]
    exact everyone invariant.claimed fun claim claims => by simp [unclaiming] at claims
  · rw [parties]
    exact invariant.claims.append fun claim claims => by simp [unclaiming] at claims
  · rw [parties]
    refine invariant.holding.append fun id holds party member held => ?_
    exact (fresh id holds).1 (invariant.drawn party member id held)
  · exact everyone (fun party member id holds => usedIds id (invariant.drawn party member id holds))
      fun id holds => (fresh id holds).2
  · rw [events]
    refine everyone invariant.unacked fun id starts acked => ?_
    exact (fresh id (starting_holding starts)).1
      (invariant.files.drawn id (Or.inl (mem_acked.2 acked)))
  · rw [events]
    exact invariant.unresent

/-- A process dies with all it was doing. -/
theorem SendsInvariant.crash (invariant : SendsInvariant state) (pid : Nat) :
    SendsInvariant { state with
      parties := state.parties.map fun party => if party.pid = pid then .finished else party
      entriesInProgress := state.entriesInProgress.filter fun claim => claim.1 ≠ pid
      drainInProgress := state.drainInProgress.filter fun drain => drain.1 ≠ pid } := by
  have survives : ∀ {Property : Party → Prop}, Property .finished →
      (∀ party ∈ state.parties, Property party) →
      ∀ party ∈ state.parties.map fun party => if party.pid = pid then .finished else party,
        Property party := fun finished others party member => by
    obtain ⟨former, listed, rfl⟩ := List.mem_map.1 member
    split
    · exact finished
    · exact others former listed
  refine ⟨?_, invariant.keyed, survives (List.forall_mem_nil _) invariant.operations,
    survives trivial invariant.shaped, fun party member claim claims => ?_,
    invariant.claims.map fun party claim claims => ?_,
    invariant.holding.map fun party id holds => ?_,
    survives nofun invariant.drawn, survives nofun invariant.unacked, invariant.unresent⟩
  · refine invariant.files.started rfl (fun _ => Iff.rfl) (fun _ used => used) fun id back =>
      Or.inl ?_
    obtain ⟨process, member, back⟩ := List.any_eq_true.1 back
    obtain ⟨party, member, runs, same⟩ := mem_running.1 member
    obtain ⟨former, listed, rfl⟩ := List.mem_map.1 member
    split at runs
    · cases runs
    · rename_i alive
      rw [if_neg alive] at same
      exact writesBack_of_mem (mem_running.2 ⟨former, listed, runs, same⟩) back
  · obtain ⟨former, listed, rfl⟩ := List.mem_map.1 member
    split at claims
    · cases claims
    · rename_i alive
      refine List.mem_filter.2 ⟨invariant.claimed former listed claim claims, decide_eq_true ?_⟩
      rwa [claim_pid claims]
  · split at claims
    · cases claims
    · exact claims
  · split at holds
    · cases holds
    · exact holds

end Silent

/-! ### Runs -/

/-- Every admitted action keeps the invariant. -/
theorem SendsInvariant.step {state next : RecoveryState} {action : RecoveryAction}
    (invariant : SendsInvariant state) (calm : orderly state action = true)
    (taken : recoveryStep state action = some next) : SendsInvariant next := by
  cases action with
  | deliverOutboundPayloads pid id now params =>
    simp only [recoveryStep, Option.ite_none_left_eq_some, Option.some.injEq] at taken
    obtain ⟨fresh, rfl⟩ := taken
    refine invariant.join rfl rfl rfl rfl (fun _ used => List.mem_cons_of_mem _ used) trivial
      (fun operation member => ?_) rfl (fun other holds => ?_) fun operation member other back => ?_
    · obtain rfl := List.mem_singleton.1 member
      exact ⟨rfl, fun other acks => by cases acks⟩
    · obtain rfl := Option.some.inj holds
      exact ⟨fresh, List.mem_cons_self⟩
    · obtain rfl := List.mem_singleton.1 member
      obtain rfl : id = other := by simpa [FileOperation.writesBack] using back
      exact ⟨fresh, List.mem_cons_self⟩
  | recoverPendingDeliveries pid maxRecoveryMs =>
    cases taken
    refine invariant.join rfl rfl rfl rfl (fun _ used => used) trivial (fun operation member => ?_)
      rfl (fun other holds => by cases holds)
      fun operation member other back => ?_
    · obtain rfl := List.mem_singleton.1 member
      exact ⟨trivial, fun other acks => by cases acks⟩
    · obtain rfl := List.mem_singleton.1 member
      cases back
  | drainPendingDeliveries pid drainKey select =>
    simp only [recoveryStep] at taken
    split at taken
    · cases taken
      exact invariant
    · cases taken
      refine invariant.join rfl rfl rfl rfl (fun _ used => used) trivial
        (fun operation member => ?_) rfl (fun other holds => by cases holds)
        fun operation member other back => ?_
      · obtain rfl := List.mem_singleton.1 member
        exact ⟨trivial, fun other acks => by cases acks⟩
      · obtain rfl := List.mem_singleton.1 member
        cases back
  | call index now fails =>
    simp only [recoveryStep] at taken
    split at taken
    · cases taken
    · rename_i party stored
      obtain ⟨operation, runs, rfl⟩ := Option.map_eq_some_iff.1 taken
      obtain ⟨progress, awaits, runs⟩ := Option.bind_eq_some_iff.1 runs
      cases progress with
      | returned result => cases runs
      | continues next =>
        obtain rfl : next = operation := Option.some.inj runs
        simp only [orderly, stored, awaits, Option.bind_some, Progress.operation, Option.all_some,
          Bool.and_eq_true] at calm
        exact invariant.goneOn stored awaits calm.1 calm.2
  | resume index now errorText =>
    simp only [recoveryStep] at taken
    split at taken
    · cases taken
    · rename_i party stored
      obtain ⟨result, returned, rfl⟩ := Option.map_eq_some_iff.1 taken
      exact invariant.resumed stored returned
  | callDeferred index position now fails =>
    simp only [recoveryStep] at taken
    split at taken
    · rename_i call operations stored
      obtain ⟨operation, runs, taken⟩ := Option.map_eq_some_iff.1 taken
      have quiet : state.acksCalmly operation fails = true := by
        simpa [orderly, stored, Party.operations, runs] using calm
      exact invariant.calledDeferred stored runs quiet taken
    · cases taken
  | settle index outcome =>
    simp only [recoveryStep] at taken
    split at taken
    · rename_i pid id stored
      cases taken
      exact invariant.settled stored outcome
    · cases taken
  | replayed index error =>
    simp only [recoveryStep] at taken
    split at taken
    · rename_i call id entry rest stored
      cases taken
      exact invariant.replayed stored error
    · cases taken
  | nextEntry index now =>
    simp only [recoveryStep] at taken
    split at taken
    · rename_i call rest stored
      cases taken
      exact invariant.nextEntry stored now
    · cases taken
  | crash pid =>
    cases taken
    exact invariant.crash pid

/-- A queue directory whose files are named after their entries. -/
structure KeyedDirectory extends QueueDirectory where
  keyed : KeyedDisk disk

def RecoveryState.start (directory : KeyedDirectory) : RecoveryState where
  disk := directory.disk
  usedIds := directory.disk.keys.map QueuePath.id
  events := (deliveredIds directory.disk).map .acknowledged

theorem SendsInvariant.start (directory : KeyedDirectory) : SendsInvariant (.start directory) := by
  have log : ∀ event ∈ (RecoveryState.start directory).events, ∃ id, event = .acknowledged id := by
    intro event member
    obtain ⟨id, -, rfl⟩ := List.mem_map.1 member
    exact ⟨id, rfl⟩
  have nobody : ∀ {Property : Party → Prop}, ∀ party ∈ (RecoveryState.start directory).parties,
      Property party := fun _ member => by cases member
  refine ⟨?_, directory.keyed, nobody, nobody, nobody, exclusive_nil, exclusive_nil, nobody,
    nobody, ?_⟩
  · refine (QueueInvariant.start directory.toQueueDirectory).started rfl (fun id => ?_)
      (fun _ used => used) fun _ back => by cases back
    rw [mem_acked]
    simp [RecoveryState.start, QueueState.start]
  · refine List.pairwise_of_forall_mem_list fun earlier _ later member id _ => ?_
    obtain ⟨other, rfl⟩ := log later member
    simp

/-- In every run in which a recovery path reads the entries it has claimed alone and in which
acknowledgements are undisturbed, no entry is sent twice. -/
theorem sends_are_exclusive (directory : KeyedDirectory) (actions : List RecoveryAction)
    (final : RecoveryState)
    (run : Machine.Steps recoveryStep (fun state action => orderly state action = true)
      (.start directory) actions final) : NoConcurrentSends final ∧ NeverResent final.events := by
  have invariant : SendsInvariant final :=
    run.invariant (fun _ _ _ held calm taken => held.step calm taken) (.start directory)
  refine ⟨fun first second left right id atFirst atSecond sendsLeft sendsRight => ?_,
    invariant.unresent⟩
  have held : ∀ {position : Nat} {party : Party}, final.parties[position]? = some party →
      party.sending = some id →
      party.holding = some id := fun listed =>
    sending_holding (invariant.shaped _ (List.mem_of_getElem? listed))
  exact invariant.holding first second left right id atFirst atSecond (held atFirst sendsLeft)
    (held atSecond sendsRight)

section Examples

private def noEntries : KeyedDirectory where
  disk := ∅
  intact := emptyDirectory.intact
  keyed := fun path entry found => by simp at found

private def salute : QueuedDeliveryPayload :=
  { channel := "telegram", to' := "42", payloads := [{ text := "hello" }] }

private def enqueueSalute : List RecoveryAction :=
  [.deliverOutboundPayloads 1 "m1" 100 salute, .call 0 100 false, .call 0 100 false,
    .resume 0 100 ""]

private def replaySalute : List RecoveryAction :=
  [.recoverPendingDeliveries 1 60000, .call 1 200 false, .call 1 200 false, .call 1 200 false,
    .resume 1 200 "", .nextEntry 1 200, .call 1 200 false, .call 1 200 false, .resume 1 200 ""]

/-- A live send whose process dies, and the recovery that sends the entry again. -/
theorem sends_are_exclusive_after_crash :
    ∃ actions final, Machine.Steps recoveryStep (fun state action => orderly state action = true)
        (.start noEntries) actions final ∧
          final.events = [.started "m1", .started "m1", .acknowledged "m1"] ∧
      NoConcurrentSends final ∧ NeverResent final.events := by
  obtain ⟨actions, actions_eq⟩ : ∃ actions, actions =
    enqueueSalute ++ [.crash 1] ++ replaySalute ++ [.replayed 1 none, .call 1 300 false] := ⟨_, rfl⟩
  have evaluated : (Machine.executeUnder recoveryStep orderly (.start noEntries) actions).map
      RecoveryState.events = some [.started "m1", .started "m1", .acknowledged "m1"] := by
    rw [actions_eq]
    decide +kernel
  obtain ⟨final, ran, events⟩ := Option.map_eq_some_iff.1 evaluated
  have run := Machine.steps_of_executeUnder ran
  exact ⟨actions, final, run, events, sends_are_exclusive noEntries actions final run⟩

/-- Startup recovery replays an entry whose live send is running in the same process. -/
theorem live_send_is_replayed : ¬ ∀ (directory : KeyedDirectory) (final : RecoveryState),
    Machine.Reachable recoveryStep (.start directory) final →
      NoConcurrentSends final ∧ NeverResent final.events := by
  intro claimed
  have evaluated : (Machine.execute recoveryStep (.start noEntries)
      (enqueueSalute ++ replaySalute)).map (fun final => final.parties.map Party.sending) =
        some [some "m1", some "m1"] := by decide +kernel
  obtain ⟨final, ran, sending⟩ := Option.map_eq_some_iff.1 evaluated
  have exclusive := (claimed noEntries final (Machine.reachable_of_execute ran)).1
  have sends : ∀ position, position < 2 → ∃ party, final.parties[position]? = some party ∧
      party.sending = some "m1" := by
    intro position bound
    have listed := congrArg (fun list => list[position]?) sending
    rw [List.getElem?_map] at listed
    refine Option.map_eq_some_iff.1 (listed.trans ?_)
    interval_cases position <;> rfl
  obtain ⟨first, atFirst, firstSends⟩ := sends 0 (by decide)
  obtain ⟨second, atSecond, secondSends⟩ := sends 1 (by decide)
  exact absurd (exclusive _ _ _ _ _ atFirst atSecond firstSends secondSends) (by decide)

end Examples

end OpenClaw.Outbound
