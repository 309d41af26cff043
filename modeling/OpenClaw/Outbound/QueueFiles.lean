/-
This file is `delivery-queue-storage.ts`: the files of the outbound delivery queue
and the operations on them, cut at their file calls.

A `FileOperation` is an operation that stands in front of its next file call, with
the values it has read so far; `step` makes that call. Reading, writing the
temporary file, renaming and unlinking are one call each, so two operations can be
interleaved at every point where the code awaits.

A call can fail beside its `ENOENT`; `fails` says whether it does. `mkdir` and the
second half of `stat` change no file and stand for no step of their own.
-/

import OpenClaw.Base.OrderedMap
import OpenClaw.Shared.Text

namespace OpenClaw.Outbound

/-! ### Entries -/

/-- What is sent to a channel: `ReplyPayload`. `rich` says whether it has interactive blocks or
channel data. -/
structure ReplyPayload where
  text : String := ""
  mediaUrls : List String := []
  rich : Bool := false
  deriving DecidableEq, Repr

/-- `OutboundMirror`. -/
structure OutboundMirror where
  sessionKey : String
  text : Option String := none
  mediaUrls : List String := []
  idempotencyKey : Option String := none
  deriving DecidableEq, Repr

structure QueuedDeliveryPayload where
  channel : String
  to' : String
  payloads : List ReplyPayload
  bestEffort : Bool := false
  mirror : Option OutboundMirror := none
  deriving DecidableEq, Repr

/-- `QueuedDelivery`. A time that is not a finite number is `none`. -/
structure QueuedDelivery extends QueuedDeliveryPayload where
  id : String
  enqueuedAt : Option Int
  retryCount : Nat := 0
  lastAttemptAt : Option Int := none
  lastError : Option String := none
  deriving DecidableEq, Repr

/-- The entry `enqueueDelivery` writes. -/
def newEntry (id : String) (now : Int) (params : QueuedDeliveryPayload) : QueuedDelivery :=
  { params with id := id, enqueuedAt := some now }

/-- Whether a field holds a time: `typeof value === "number" && value > 0`. -/
def isTimestamp (value : Option Int) : Bool := value.any fun time => decide (0 < time)

/-- `normalizeLegacyQueuedDeliveryEntry`: the migrated entry, if it needs a migration. -/
def migratedEntry (entry : QueuedDelivery) : Option QueuedDelivery :=
  if isTimestamp entry.lastAttemptAt || entry.retryCount = 0 then none
  else if isTimestamp entry.enqueuedAt then some { entry with lastAttemptAt := entry.enqueuedAt }
  else none

/-- The entry `failDelivery` writes. -/
def failedEntry (entry : QueuedDelivery) (error : String) (now : Int) : QueuedDelivery :=
  { entry with
    retryCount := entry.retryCount + 1
    lastAttemptAt := some now
    lastError := some error }

/-! ### Files -/

inductive QueuePath
  /-- `{id}.json`. -/
  | pending (id : String)
  /-- `{id}.json.{pid}.tmp`. -/
  | temporary (id : String) (pid : Nat)
  /-- `{id}.delivered`. -/
  | delivered (id : String)
  /-- `failed/{id}.json`. -/
  | failed (id : String)
  deriving DecidableEq, Repr

/-- What a file holds: an entry, or text that is not the JSON of one. -/
inductive QueueFile
  | entry (entry : QueuedDelivery)
  | malformed
  deriving DecidableEq, Repr

abbrev Disk := OrderedMap QueuePath QueueFile

/-- The ids of the `.json` files of the queue directory. -/
def pendingIds (disk : Disk) : List String :=
  disk.keys.filterMap fun path => match path with
    | .pending id => some id
    | _ => none

/-- The ids of the `.delivered` markers. -/
def deliveredIds (disk : Disk) : List String :=
  disk.keys.filterMap fun path => match path with
    | .delivered id => some id
    | _ => none

/-- `fs.promises.rename` of a file that is there. -/
def moveFile (disk : Disk) (source target : QueuePath) (file : QueueFile) : Disk :=
  (disk.delete source).set target file

/-! ### Operations -/

/-- What `writeQueueEntry` is called for: the code that goes on after it. -/
inductive WriteCause
  | enqueue
  | fail
  | load
  | scan (files : List String) (entries : List QueuedDelivery)
  deriving DecidableEq, Repr

inductive FileOperation
  /-- `ackDelivery` in front of phase 1 and of phase 2. -/
  | ackRename (id : String)
  | ackUnlink (id : String)
  /-- `failDelivery` in front of its read. -/
  | failRead (id : String) (error : String)
  /-- `writeQueueEntry` in front of the temporary file and of the rename. -/
  | write (id : String) (entry : QueuedDelivery) (cause : WriteCause)
  | rename (id : String) (entry : QueuedDelivery) (cause : WriteCause)
  /-- `loadPendingDelivery`. -/
  | loadStat (id : String)
  | loadRead (id : String)
  /-- `loadPendingDeliveries`. -/
  | readdir
  | scanUnlink (marker : String) (markers files : List String)
  | scanStat (id : String) (files : List String) (entries : List QueuedDelivery)
  | scanRead (id : String) (files : List String) (entries : List QueuedDelivery)
  /-- `moveToFailed`. -/
  | moveRename (id : String)
  deriving DecidableEq, Repr

inductive FileError
  | enoent
  | other
  deriving DecidableEq, Repr

inductive FileResult
  | done
  | enqueued (id : String)
  | loaded (entry : Option QueuedDelivery)
  | loadedAll (entries : List QueuedDelivery)
  | threw (error : FileError)
  deriving DecidableEq, Repr

/-- An operation after one of its calls. -/
inductive Progress
  | continues (operation : FileOperation)
  | returned (result : FileResult)
  deriving DecidableEq, Repr

/-- The loop of `loadPendingDeliveries` over the files. -/
def scanFiles (files : List String) (entries : List QueuedDelivery) : Progress :=
  match files with
  | [] => .returned (.loadedAll entries)
  | id :: rest => .continues (.scanStat id rest entries)

/-- The loop of `loadPendingDeliveries` over the markers. -/
def scanMarkers (markers files : List String) : Progress :=
  match markers with
  | [] => scanFiles files []
  | marker :: rest => .continues (.scanUnlink marker rest files)

/-- The code after `writeQueueEntry`. -/
def WriteCause.finish (id : String) (entry : QueuedDelivery) : WriteCause → Progress
  | .enqueue => .returned (.enqueued id)
  | .fail => .returned .done
  | .load => .returned (.loaded (some entry))
  | .scan files entries => scanFiles files (entries ++ [entry])

/-- The code after a `writeQueueEntry` that threw: a scan skips the file. -/
def WriteCause.abandon (error : FileError) : WriteCause → Progress
  | .enqueue | .fail => .returned (.threw error)
  | .load => .returned (if error = .enoent then .loaded none else .threw error)
  | .scan files entries => scanFiles files entries

/-- Goes on with an entry that was read: a legacy entry is written back first. -/
def loadEntry (id : String) (entry : QueuedDelivery) (cause : WriteCause) : Progress :=
  match migratedEntry entry with
  | some migrated => .continues (.write id migrated cause)
  | none => cause.finish id entry

/-- The next file call of an operation of process `pid`. -/
def FileOperation.step (pid : Nat) (now : Int) (fails : Bool) (disk : Disk) :
    FileOperation → Disk × Progress
  | .ackRename id =>
    if fails then (disk, .returned (.threw .other))
    else match disk.get (.pending id) with
      | some file => (moveFile disk (.pending id) (.delivered id) file, .continues (.ackUnlink id))
      | none => (disk, .continues (.ackUnlink id))
  | .ackUnlink id => (if fails then disk else disk.delete (.delivered id), .returned .done)
  | .failRead id error =>
    if fails then (disk, .returned (.threw .other))
    else match disk.get (.pending id) with
      | some (.entry entry) => (disk, .continues (.write id (failedEntry entry error now) .fail))
      | some .malformed => (disk, .returned (.threw .other))
      | none => (disk, .returned (.threw .enoent))
  | .write id entry cause =>
    if fails then (disk, cause.abandon .other)
    else (disk.set (.temporary id pid) (.entry entry), .continues (.rename id entry cause))
  | .rename id entry cause =>
    if fails then (disk, cause.abandon .other)
    else match disk.get (.temporary id pid) with
      | some file => (moveFile disk (.temporary id pid) (.pending id) file, cause.finish id entry)
      | none => (disk, cause.abandon .enoent)
  | .loadStat id =>
    if fails then (disk, .returned (.threw .other))
    else if disk.has (.pending id) then (disk, .continues (.loadRead id))
    else (disk, .returned (.loaded none))
  | .loadRead id =>
    if fails then (disk, .returned (.threw .other))
    else match disk.get (.pending id) with
      | some (.entry entry) => (disk, loadEntry id entry .load)
      | some .malformed => (disk, .returned (.threw .other))
      | none => (disk, .returned (.loaded none))
  | .readdir =>
    if fails then (disk, .returned (.threw .other))
    else (disk, scanMarkers (deliveredIds disk) (pendingIds disk))
  | .scanUnlink marker markers files =>
    (if fails then disk else disk.delete (.delivered marker), scanMarkers markers files)
  | .scanStat id files entries =>
    (disk, if !fails && disk.has (.pending id) then .continues (.scanRead id files entries)
      else scanFiles files entries)
  | .scanRead id files entries =>
    if fails then (disk, scanFiles files entries)
    else match disk.get (.pending id) with
      | some (.entry entry) => (disk, loadEntry id entry (.scan files entries))
      | _ => (disk, scanFiles files entries)
  | .moveRename id =>
    if fails then (disk, .returned (.threw .other))
    else match disk.get (.pending id) with
      | some file => (moveFile disk (.pending id) (.failed id) file, .returned .done)
      | none => (disk, .returned (.threw .enoent))

/-! ### What one call changes -/

/-- Whether an operation has still to put a file under the name `{id}.json`. -/
def FileOperation.writesBack (pid : Nat) (disk : Disk) (id : String) : FileOperation → Bool
  | .write other _ _ => other = id
  | .rename other _ _ => other = id && disk.has (.temporary id pid)
  | _ => false

/-- The entry that the next call of an operation renames to its `.delivered` marker. -/
def FileOperation.acknowledges (fails : Bool) (disk : Disk) : FileOperation → Option String
  | .ackRename id => if !fails && disk.has (.pending id) then some id else none
  | _ => none

theorem has_eq_true_iff {disk : Disk} {path : QueuePath} :
    disk.has path = true ↔ disk.get path ≠ none := by
  rw [OrderedMap.has, Option.isSome_iff_ne_none]

theorem get_moveFile (disk : Disk) (source target path : QueuePath) (file : QueueFile) :
    (moveFile disk source target file).get path =
      if path = target then some file else if path = source then none else disk.get path := by
  rw [moveFile, OrderedMap.get_set, OrderedMap.get_delete]

/-- What a call does to the files. -/
inductive FileEffect (pid : Nat) (fails : Bool) (disk : Disk) : FileOperation → Disk → Prop
  | nothing (operation : FileOperation) : FileEffect pid fails disk operation disk
  | unlinked (operation : FileOperation) (marker : String) :
      FileEffect pid fails disk operation (disk.delete (.delivered marker))
  | acked (id : String) (file : QueueFile) (works : fails = false)
      (stored : disk.get (.pending id) = some file) :
      FileEffect pid fails disk (.ackRename id) (moveFile disk (.pending id) (.delivered id) file)
  | failed (id : String) (file : QueueFile) (stored : disk.get (.pending id) = some file) :
      FileEffect pid fails disk (.moveRename id) (moveFile disk (.pending id) (.failed id) file)
  | wrote (id : String) (entry : QueuedDelivery) (cause : WriteCause) :
      FileEffect pid fails disk (.write id entry cause)
        (disk.set (.temporary id pid) (.entry entry))
  | restored (id : String) (entry : QueuedDelivery) (cause : WriteCause) (file : QueueFile)
      (stored : disk.get (.temporary id pid) = some file) :
      FileEffect pid fails disk (.rename id entry cause)
        (moveFile disk (.temporary id pid) (.pending id) file)

theorem FileOperation.step_effect (pid : Nat) (now : Int) (fails : Bool) (disk : Disk)
    (operation : FileOperation) :
    FileEffect pid fails disk operation (operation.step pid now fails disk).1 := by
  cases fails with
  | true => cases operation <;> exact .nothing _
  | false =>
    cases operation with
    | ackRename id =>
      cases stored : disk.get (.pending id) with
      | none => simpa [FileOperation.step, stored] using .nothing _
      | some file => simpa [FileOperation.step, stored] using .acked id file rfl stored
    | ackUnlink id => exact .unlinked _ id
    | scanUnlink marker markers files => exact .unlinked _ marker
    | write id entry cause => exact .wrote id entry cause
    | rename id entry cause =>
      cases stored : disk.get (.temporary id pid) with
      | none => simpa [FileOperation.step, stored] using .nothing _
      | some file => simpa [FileOperation.step, stored] using .restored id entry cause file stored
    | moveRename id =>
      cases stored : disk.get (.pending id) with
      | none => simpa [FileOperation.step, stored] using .nothing _
      | some file => simpa [FileOperation.step, stored] using .failed id file stored
    | failRead id error =>
      have unchanged : ((FileOperation.failRead id error).step pid now false disk).1 = disk := by
        simp only [FileOperation.step, Bool.false_eq_true, if_false]
        split <;> rfl
      exact unchanged.symm ▸ .nothing _
    | loadRead id =>
      have unchanged : ((FileOperation.loadRead id).step pid now false disk).1 = disk := by
        simp only [FileOperation.step, Bool.false_eq_true, if_false]
        split <;> rfl
      exact unchanged.symm ▸ .nothing _
    | loadStat id =>
      have unchanged : ((FileOperation.loadStat id).step pid now false disk).1 = disk := by
        simp only [FileOperation.step, Bool.false_eq_true, if_false]
        split <;> rfl
      exact unchanged.symm ▸ .nothing _
    | scanRead id files entries =>
      have unchanged : ((FileOperation.scanRead id files entries).step pid now false disk).1 =
        disk := by
        simp only [FileOperation.step, Bool.false_eq_true, if_false]
        split <;> rfl
      exact unchanged.symm ▸ .nothing _
    | scanStat id files entries => exact .nothing _
    | readdir => exact .nothing _

section Effects

variable {pid : Nat} {fails : Bool} {disk next : Disk} {operation : FileOperation} {id : String}

/-- A pending file that was not there has been written back. -/
theorem FileEffect.pending (effect : FileEffect pid fails disk operation next)
    (present : next.get (.pending id) ≠ none) :
    disk.get (.pending id) ≠ none ∨ operation.writesBack pid disk id = true := by
  cases effect with
  | nothing => exact Or.inl present
  | unlinked marker => exact Or.inl (by simpa [OrderedMap.get_delete] using present)
  | acked other file works stored =>
    refine Or.inl fun gone => present ?_
    simp [get_moveFile, gone]
  | failed other file stored =>
    refine Or.inl fun gone => present ?_
    simp [get_moveFile, gone]
  | wrote other entry cause => exact Or.inl (by simpa [OrderedMap.get_set] using present)
  | restored other entry cause file stored =>
    by_cases same : other = id
    · subst same
      exact Or.inr (by simp [FileOperation.writesBack, has_eq_true_iff, stored])
    · refine Or.inl fun gone => present ?_
      simp [get_moveFile, gone, Ne.symm same]

/-- A marker that was not there has been made by an acknowledgement. -/
theorem FileEffect.delivered (effect : FileEffect pid fails disk operation next)
    (present : next.get (.delivered id) ≠ none) :
    disk.get (.delivered id) ≠ none ∨ operation.acknowledges fails disk = some id := by
  cases effect with
  | nothing => exact Or.inl present
  | unlinked marker =>
    refine Or.inl fun gone => present ?_
    simp [OrderedMap.get_delete, gone]
  | acked other file works stored =>
    by_cases same : other = id
    · subst same
      exact Or.inr (by simp [FileOperation.acknowledges, has_eq_true_iff, stored, works])
    · refine Or.inl fun gone => present ?_
      simp [get_moveFile, gone, Ne.symm same]
  | failed other file stored => exact Or.inl (by simpa [get_moveFile] using present)
  | wrote other entry cause => exact Or.inl (by simpa [OrderedMap.get_set] using present)
  | restored other entry cause file stored => exact Or.inl (by simpa [get_moveFile] using present)

/-- A temporary file that was not there belongs to a copy that is to be written back. -/
theorem FileEffect.temporary (effect : FileEffect pid fails disk operation next) {owner : Nat}
    (present : next.get (.temporary id owner) ≠ none) :
    disk.get (.temporary id owner) ≠ none ∨ operation.writesBack pid disk id = true := by
  cases effect with
  | nothing => exact Or.inl present
  | unlinked marker => exact Or.inl (by simpa [OrderedMap.get_delete] using present)
  | acked other file works stored => exact Or.inl (by simpa [get_moveFile] using present)
  | failed other file stored => exact Or.inl (by simpa [get_moveFile] using present)
  | wrote other entry cause =>
    by_cases same : other = id
    · exact Or.inr (by simp [FileOperation.writesBack, same])
    · refine Or.inl fun gone => present ?_
      simp [OrderedMap.get_set, gone, Ne.symm same]
  | restored other entry cause file stored =>
    refine Or.inl fun gone => present ?_
    simp [get_moveFile, gone]

end Effects

variable {operation : FileOperation}

theorem acknowledges_eq_some_iff {fails : Bool} {disk : Disk} {id : String} :
    operation.acknowledges fails disk = some id ↔
      operation = .ackRename id ∧ fails = false ∧ disk.get (.pending id) ≠ none := by
  cases operation with
  | ackRename other =>
    simp only [FileOperation.acknowledges, FileOperation.ackRename.injEq, ← has_eq_true_iff]
    grind
  | _ => simp [FileOperation.acknowledges]

/-- An acknowledgement leaves no pending file and goes on to its marker. -/
theorem FileOperation.step_of_acknowledges {pid : Nat} {now : Int} {fails : Bool} {disk : Disk}
    {id : String} (acks : operation.acknowledges fails disk = some id) :
    ∃ file, operation.step pid now fails disk =
      (moveFile disk (.pending id) (.delivered id) file, .continues (.ackUnlink id)) := by
  obtain ⟨rfl, rfl, stored⟩ := acknowledges_eq_some_iff.1 acks
  obtain ⟨file, stored⟩ := Option.ne_none_iff_exists'.1 stored
  exact ⟨file, by simp [FileOperation.step, stored]⟩

section Progress

variable {pid : Nat} {disk : Disk} {id : String}

def Progress.writesBack (pid : Nat) (disk : Disk) (id : String) : Progress → Bool
  | .continues operation => operation.writesBack pid disk id
  | .returned _ => false

@[simp] theorem writesBack_returned (result : FileResult) :
    (Progress.returned result).writesBack pid disk id = false := rfl

@[simp] theorem writesBack_continues (operation : FileOperation) :
    (Progress.continues operation).writesBack pid disk id = operation.writesBack pid disk id := rfl

@[simp] theorem writesBack_scanFiles (files : List String) (entries : List QueuedDelivery) :
    (scanFiles files entries).writesBack pid disk id = false := by
  cases files <;> rfl

@[simp] theorem writesBack_scanMarkers (markers files : List String) :
    (scanMarkers markers files).writesBack pid disk id = false := by
  cases markers with
  | nil => exact writesBack_scanFiles files []
  | cons marker rest => rfl

@[simp] theorem writesBack_finish (cause : WriteCause) (other : String) (entry : QueuedDelivery) :
    (cause.finish other entry).writesBack pid disk id = false := by
  cases cause with
  | scan files entries => exact writesBack_scanFiles _ _
  | _ => rfl

@[simp] theorem writesBack_abandon (cause : WriteCause) (error : FileError) :
    (cause.abandon error).writesBack pid disk id = false := by
  cases cause with
  | scan files entries => exact writesBack_scanFiles _ _
  | _ => rfl

theorem writesBack_loadEntry {other : String} {entry : QueuedDelivery} {cause : WriteCause}
    (back : (loadEntry other entry cause).writesBack pid disk id = true) : other = id := by
  unfold loadEntry at back
  split at back
  · simpa [FileOperation.writesBack] using back
  · simp at back

end Progress

/-- A copy that is to be written back has been read from a pending file. -/
theorem FileOperation.writesBack_step {pid : Nat} {now : Int} {fails : Bool} {disk : Disk}
    {id : String} (back : (operation.step pid now fails disk).2.writesBack pid
      (operation.step pid now fails disk).1 id = true) :
    disk.get (.pending id) ≠ none ∨ operation.writesBack pid disk id = true := by
  cases operation with
  | ackRename other =>
    simp only [FileOperation.step] at back
    split at back
    · simp at back
    · split at back <;> simp [FileOperation.writesBack] at back
  | ackUnlink other => simp [FileOperation.step] at back
  | failRead other error =>
    simp only [FileOperation.step] at back
    split at back
    · simp at back
    · split at back
      · rename_i entry stored
        obtain rfl : other = id := by simpa [FileOperation.writesBack] using back
        exact Or.inl (by simp [stored])
      · simp at back
      · simp at back
  | write other entry cause =>
    simp only [FileOperation.step] at back
    split at back
    · simp at back
    · simp only [writesBack_continues, FileOperation.writesBack, Bool.and_eq_true,
        decide_eq_true_iff] at back
      exact Or.inr (by simp [FileOperation.writesBack, back.1])
  | rename other entry cause =>
    simp only [FileOperation.step] at back
    split at back
    · simp at back
    · split at back <;> simp at back
  | loadStat other =>
    simp only [FileOperation.step] at back
    split at back
    · simp at back
    · split at back <;> simp [FileOperation.writesBack] at back
  | loadRead other =>
    simp only [FileOperation.step] at back
    split at back
    · simp at back
    · split at back
      · rename_i entry stored
        obtain rfl := writesBack_loadEntry back
        exact Or.inl (by simp [stored])
      · simp at back
      · simp at back
  | readdir =>
    simp only [FileOperation.step] at back
    split at back <;> simp at back
  | scanUnlink marker markers files => simp [FileOperation.step] at back
  | scanStat other files entries =>
    simp only [FileOperation.step] at back
    split at back <;> simp [FileOperation.writesBack] at back
  | scanRead other files entries =>
    simp only [FileOperation.step] at back
    split at back
    · simp at back
    · split at back
      · rename_i entry stored
        obtain rfl := writesBack_loadEntry back
        exact Or.inl (by simp [stored])
      · simp at back
  | moveRename other =>
    simp only [FileOperation.step] at back
    split at back
    · simp at back
    · split at back <;> simp at back

end OpenClaw.Outbound
