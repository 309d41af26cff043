/-
This file is the paths that send the entries of the delivery queue: the live send of
`deliver.ts` (enqueue, send, acknowledge or fail) and the two recovery paths of
`delivery-queue-recovery.ts`, startup recovery and the reconnect drains.

Each path is a `Party` that stands at one of its awaits: in front of the next file
call of a storage operation, before it goes on with what that operation returned, or
while the channel sends of an entry are running. Between two awaits it runs without
interruption. Processes share the directory; `entriesInProgress` and
`drainInProgress` belong to one process each.
-/

import OpenClaw.Outbound.QueueFiles

namespace OpenClaw.Outbound

/-! ### Retries -/

/-- `MAX_RETRIES`. -/
def maxRetries : Nat := 5

/-- `BACKOFF_MS`. -/
def backoffMs : List Int := [5000, 25000, 120000, 600000]

def computeBackoffMs (retryCount : Nat) : Int :=
  if retryCount = 0 then 0 else backoffMs.getD (min (retryCount - 1) (backoffMs.length - 1)) 0

def isEntryEligibleForRecoveryRetry (entry : QueuedDelivery) (now : Int) : Bool :=
  let backoff := computeBackoffMs (entry.retryCount + 1)
  if backoff ≤ 0 then true
  else if entry.retryCount = 0 && entry.lastAttemptAt.isNone then true
  else
    let baseAttemptAt :=
      if isTimestamp entry.lastAttemptAt then entry.lastAttemptAt else entry.enqueuedAt
    baseAttemptAt.any fun base => decide (base + backoff ≤ now)

/-- `PERMANENT_ERROR_PATTERNS`, in small letters and cut at `.*`. -/
def permanentErrorPatterns : List (List String) :=
  [["no conversation reference found"], ["chat not found"], ["user not found"],
    ["bot", "not", "member"], ["bot was blocked by the user"], ["forbidden: bot was kicked"],
    ["chat_id is empty"], ["recipient is not a valid"], ["outbound not configured for channel"],
    ["ambiguous ", " recipient"], ["user ", " not in room"]]

/-- What `.` does not match. -/
def isLineTerminator (character : Char) : Bool :=
  character = '\n' || character = '\r' || character = Char.ofNat 0x2028 ||
    character = Char.ofNat 0x2029

/-- The suffixes of a text that `.*` can lead to. -/
def lineTails : List Char → List (List Char)
  | [] => [[]]
  | character :: rest =>
    (character :: rest) :: if isLineTerminator character then [] else lineTails rest

/-- Whether the pieces follow each other, with `.*` in front of each. -/
def matchesOnLine : List (List Char) → List Char → Bool
  | [], _ => true
  | piece :: rest, text => (lineTails text).any fun tail =>
      piece.isPrefixOf tail && matchesOnLine rest (tail.drop piece.length)

/-- Whether a pattern matches somewhere in a text. -/
def matchesPattern (pattern : List String) (text : List Char) : Bool :=
  match pattern with
  | [] => true
  | piece :: rest => text.tails.any fun tail =>
      piece.toList.isPrefixOf tail &&
        matchesOnLine (rest.map String.toList) (tail.drop piece.toList.length)

def isPermanentDeliveryError (error : String) : Bool :=
  permanentErrorPatterns.any fun pattern => matchesPattern pattern (error.toList.map Char.toLower)

/-! ### Parties -/

/-- How the channel sends of a live delivery end. -/
inductive SendOutcome
  | resolved
  | partialFailure
  | aborted
  | rejected (error : String)
  deriving DecidableEq, Repr

/-- The storage call `deliverOutboundPayloads` makes after its sends. -/
def SendOutcome.settle (id : String) : SendOutcome → FileOperation
  | .resolved | .aborted => .ackRename id
  | .partialFailure => .failRead id "partial delivery failure (bestEffort)"
  | .rejected error => .failRead id error

/-- Where a live send stands. -/
inductive LiveStage
  | enqueuing (progress : Progress)
  | sending
  | settling (progress : Progress)
  deriving DecidableEq, Repr

/-- What a recovery path was called with, and the deadline of a startup recovery. `drainKey` is the
key of a drain; `select` is its `selectEntry`, with the `bypassBackoff` of a match. -/
structure RecoveryCall where
  pid : Nat
  drainKey : Option String
  select : QueuedDelivery → Option Bool
  maxRecoveryMs : Int
  deadline : Int := 0

/-- Why a storage operation runs after an entry has been read. -/
inductive ClosingCause
  /-- The entry was sent and is acknowledged. -/
  | sent
  /-- The sends, or the acknowledgement, threw. -/
  | failed
  /-- The entry has used up its retries. -/
  | exceeded
  deriving DecidableEq, Repr

/-- Where a recovery path stands. -/
inductive RecoveryStage
  | loading (progress : Progress)
  | walking (rest : List (QueuedDelivery × Bool))
  | reading (id : String) (bypassBackoff : Bool) (rest : List (QueuedDelivery × Bool))
      (progress : Progress)
  | replaying (id : String) (entry : QueuedDelivery) (rest : List (QueuedDelivery × Bool))
  | closing (id : String) (entry : QueuedDelivery) (cause : ClosingCause)
      (rest : List (QueuedDelivery × Bool)) (progress : Progress)
  | deferring (operations : List FileOperation)
  deriving DecidableEq, Repr

inductive Party
  | live (pid : Nat) (id : String) (stage : LiveStage)
  | recovery (call : RecoveryCall) (stage : RecoveryStage)
  | finished

def Party.pid : Party → Nat
  | .live pid _ _ => pid
  | .recovery call _ => call.pid
  | .finished => 0

def Progress.operation : Progress → Option FileOperation
  | .continues operation => some operation
  | .returned _ => none

def Progress.result : Progress → Option FileResult
  | .continues _ => none
  | .returned result => some result

/-- How far the storage operation is that a party awaits. -/
def Party.progress : Party → Option Progress
  | .live _ _ (.enqueuing progress) | .live _ _ (.settling progress) => some progress
  | .recovery _ (.loading progress) | .recovery _ (.reading _ _ _ progress)
  | .recovery _ (.closing _ _ _ _ progress) => some progress
  | _ => none

/-- All storage operations a party runs. -/
def Party.operations : Party → List FileOperation
  | .recovery _ (.deferring operations) => operations
  | party => (party.progress.bind Progress.operation).toList

/-- A party whose awaited operation has made a call. -/
def Party.goOn (progress : Progress) : Party → Party
  | .live pid id (.enqueuing _) => .live pid id (.enqueuing progress)
  | .live pid id (.settling _) => .live pid id (.settling progress)
  | .recovery call (.loading _) => .recovery call (.loading progress)
  | .recovery call (.reading id bypassBackoff rest _) =>
    .recovery call (.reading id bypassBackoff rest progress)
  | .recovery call (.closing id entry cause rest _) =>
    .recovery call (.closing id entry cause rest progress)
  | party => party

/-! ### The system -/

/-- What the books record: the start of an entry's sends, and its acknowledgement. -/
inductive QueueEvent
  | started (id : String)
  | acknowledged (id : String)
  deriving DecidableEq, Repr

structure RecoveryState where
  disk : Disk
  parties : List Party := []
  /-- `entriesInProgress` of each process. -/
  entriesInProgress : List (Nat × String) := []
  /-- `drainInProgress` of each process. -/
  drainInProgress : List (Nat × String) := []
  usedIds : List String := []
  events : List QueueEvent := []

section Moves

variable (state : RecoveryState) (index : Nat)

def RecoveryState.put (party : Party) : RecoveryState :=
  { state with parties := state.parties.set index party }

/-- `releaseRecoveryEntry`. -/
def RecoveryState.release (pid : Nat) (id : String) : RecoveryState :=
  { state with entriesInProgress := state.entriesInProgress.filter (· ≠ (pid, id)) }

/-- The end of a recovery path: the `finally` of a drain gives its key back. -/
def RecoveryState.endRecovery (call : RecoveryCall) : RecoveryState :=
  { state.put index .finished with
    drainInProgress := state.drainInProgress.filter fun entry =>
      some entry ≠ call.drainKey.map fun key => (call.pid, key) }

/-- The entry is given back and the loop goes on. -/
def RecoveryState.leaveEntry (call : RecoveryCall) (id : String) (rest :
  List (QueuedDelivery × Bool)) :
    RecoveryState :=
  (state.put index (.recovery call (.walking rest))).release call.pid id

/-- The sends of an entry start. -/
def RecoveryState.startSend (id : String) (party : Party) : RecoveryState :=
  { state.put index party with events := state.events ++ [.started id] }

/-- What the loop does with an entry it has read. -/
def RecoveryState.handleEntry (call : RecoveryCall) (id : String) (bypassBackoff : Bool)
    (rest : List (QueuedDelivery × Bool)) (entry : QueuedDelivery) (now : Int) : RecoveryState :=
  if maxRetries ≤ entry.retryCount then
    state.put index (.recovery call
      (.closing id entry .exceeded rest (.continues (.moveRename entry.id))))
  else if !bypassBackoff && !isEntryEligibleForRecoveryRetry entry now then
    state.leaveEntry index call id rest
  else state.startSend index entry.id (.recovery call (.replaying id entry rest))

/-- The storage call `drainQueuedEntry` makes after an error. -/
def failureOperation (id error : String) : FileOperation :=
  if isPermanentDeliveryError error then .moveRename id else .failRead id error

/-- The matching entries of a scan, oldest first. -/
def selectEntries (call : RecoveryCall) (entries : List QueuedDelivery) :
  List (QueuedDelivery × Bool) :=
  (entries.filterMap fun entry => (call.select entry).map fun bypassBackoff =>
    (entry, bypassBackoff)).insertionSort
    fun left right => left.1.enqueuedAt.getD 0 ≤ right.1.enqueuedAt.getD 0

/-- A recovery path goes on with what its storage operation has returned. `errorText` is the text of
an error it threw. -/
def RecoveryState.resumeRecovery (call : RecoveryCall) (now : Int) (errorText : String)
    (result : FileResult) : RecoveryStage → RecoveryState
  | .loading _ =>
    match result with
    | .loadedAll entries =>
      if selectEntries call entries = [] then state.endRecovery index call
      else state.put index (.recovery { call with deadline := now + call.maxRecoveryMs }
        (.walking (selectEntries call entries)))
    | _ => state.endRecovery index call
  | .reading id bypassBackoff rest _ =>
    match result with
    | .loaded (some entry) => state.handleEntry index call id bypassBackoff rest entry now
    | .loaded none => state.leaveEntry index call id rest
    | _ => (state.endRecovery index call).release call.pid id
  | .closing id entry cause rest _ =>
    match cause, result with
    | .sent, .threw _ =>
      state.put index
        (.recovery call (.closing id entry .failed rest
          (.continues (failureOperation entry.id errorText))))
    | .exceeded, .threw .other =>
      if call.drainKey.isSome then (state.endRecovery index call).release call.pid id
      else state.leaveEntry index call id rest
    | _, _ => state.leaveEntry index call id rest
  | .walking _ | .replaying _ _ _ | .deferring _ => state

/-- A party goes on with what its storage operation has returned. A live send that could not be
enqueued goes on without an entry. -/
def RecoveryState.resume (now : Int) (errorText : String) (result : FileResult) :
    Party → RecoveryState
  | .live pid id (.enqueuing _) =>
    match result with
    | .enqueued _ => state.startSend index id (.live pid id .sending)
    | _ => state.put index .finished
  | .live _ _ _ => state.put index .finished
  | .recovery call stage => state.resumeRecovery index call now errorText result stage
  | .finished => state

/-- The next turn of the loop of a recovery path. -/
def RecoveryState.nextEntry (call : RecoveryCall) (now : Int) :
    List (QueuedDelivery × Bool) → RecoveryState
  | [] => state.endRecovery index call
  | (entry, bypassBackoff) :: rest =>
    if call.drainKey.isNone && decide (call.deadline ≤ now) then
      state.put index (.recovery call (.deferring
        (((entry, bypassBackoff) :: rest).map fun item =>
          .failRead item.1.id "recovery time budget exceeded")))
    else if (call.pid, entry.id) ∈ state.entriesInProgress then
      state.put index (.recovery call (.walking rest))
    else
      { state.put index (.recovery call (.reading entry.id bypassBackoff rest
        (.continues (.loadStat entry.id)))) with
        entriesInProgress := (call.pid, entry.id) :: state.entriesInProgress }

end Moves

/-- A storage operation makes its next file call. -/
def RecoveryState.call (state : RecoveryState) (pid : Nat) (operation : FileOperation) (now : Int)
    (fails : Bool) : RecoveryState :=
  { state with
    disk := (operation.step pid now fails state.disk).1
    events := state.events ++ (operation.acknowledges fails state.disk).toList.map .acknowledged }

inductive RecoveryAction
  | deliverOutboundPayloads (pid : Nat) (id : String) (now : Int) (params : QueuedDeliveryPayload)
  | recoverPendingDeliveries (pid : Nat) (maxRecoveryMs : Int)
  | drainPendingDeliveries (pid : Nat) (drainKey : String) (select : QueuedDelivery → Option Bool)
  /-- The awaited storage operation of a party makes its next call. -/
  | call (index : Nat) (now : Int) (fails : Bool)
  /-- A party goes on after its storage operation. -/
  | resume (index : Nat) (now : Int) (errorText : String)
  /-- The same for one of the operations of a deferral. -/
  | callDeferred (index position : Nat) (now : Int) (fails : Bool)
  /-- The sends of a live delivery end. -/
  | settle (index : Nat) (outcome : SendOutcome)
  /-- The sends of a replayed entry end, with the error they threw. -/
  | replayed (index : Nat) (error : Option String)
  | nextEntry (index : Nat) (now : Int)
  | crash (pid : Nat)

/-- The operations of a deferral after one of them has made a call. -/
def Progress.replaceDeferred (operations : List FileOperation) (position : Nat) :
    Progress → List FileOperation
  | .continues operation => operations.set position operation
  | .returned _ => operations.eraseIdx position

def recoveryStep (state : RecoveryState) : RecoveryAction → Option RecoveryState
  | .deliverOutboundPayloads pid id now params =>
    if id ∈ state.usedIds then none
    else some { state with
      parties := state.parties ++
        [.live pid id (.enqueuing (.continues (.write id (newEntry id now params) .enqueue)))]
      usedIds := id :: state.usedIds }
  | .recoverPendingDeliveries pid maxRecoveryMs =>
    some { state with
      parties := state.parties ++ [.recovery
        { pid := pid, drainKey := none, select := fun _ => some false, maxRecoveryMs :=
          maxRecoveryMs }
        (.loading (.continues .readdir))] }
  | .drainPendingDeliveries pid drainKey select =>
    if (pid, drainKey) ∈ state.drainInProgress then some state
    else some { state with
      parties := state.parties ++ [.recovery
        { pid := pid, drainKey := some drainKey, select := select, maxRecoveryMs := 0 }
        (.loading (.continues .readdir))]
      drainInProgress := (pid, drainKey) :: state.drainInProgress }
  | .call index now fails =>
    match state.parties[index]? with
    | none => none
    | some party => (party.progress.bind Progress.operation).map fun operation =>
      (state.call party.pid operation now fails).put index
        (party.goOn (operation.step party.pid now fails state.disk).2)
  | .resume index now errorText =>
    match state.parties[index]? with
    | none => none
    | some party => (party.progress.bind Progress.result).map fun result =>
      state.resume index now errorText result party
  | .callDeferred index position now fails =>
    match state.parties[index]? with
    | some (.recovery call (.deferring operations)) =>
      operations[position]?.map fun operation =>
        let called := state.call call.pid operation now fails
        let rest := (operation.step call.pid now fails state.disk).2.replaceDeferred operations
          position
        if rest = [] then called.endRecovery index call
        else called.put index (.recovery call (.deferring rest))
    | _ => none
  | .settle index outcome =>
    match state.parties[index]? with
    | some (.live pid id .sending) =>
        some (state.put index (.live pid id (.settling (.continues (outcome.settle id)))))
    | _ => none
  | .replayed index error =>
    match state.parties[index]? with
    | some (.recovery call (.replaying id entry rest)) =>
      some (state.put index (.recovery call (match error with
        | none => .closing id entry .sent rest (.continues (.ackRename entry.id))
        | some error => .closing id entry .failed rest
            (.continues (failureOperation entry.id error)))))
    | _ => none
  | .nextEntry index now =>
    match state.parties[index]? with
    | some (.recovery call (.walking rest)) => some (state.nextEntry index call now rest)
    | _ => none
  | .crash pid =>
    some { state with
      parties := state.parties.map fun party => if party.pid = pid then .finished else party
      entriesInProgress := state.entriesInProgress.filter fun claim => claim.1 ≠ pid
      drainInProgress := state.drainInProgress.filter fun drain => drain.1 ≠ pid }

end OpenClaw.Outbound
