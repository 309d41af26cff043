/-
This file is about what a save does to the session store before it writes it.

In the mode `warn` nothing is removed. In the mode `enforce` entries are pruned by age, capped
in number and evicted for the disk budget, the transcripts of removed entries are archived,
and a store file above the rotation size is renamed away. Archiving and sweeping go by paths
that come from the entries, so they too can take the store file.
-/

import OpenClaw.Session.SessionStore

namespace OpenClaw.Session

open Text

variable {Entry Text : Type*} (format : StoreFormat Entry Text)

/-- `ResolvedSessionMaintenanceConfig`. -/
structure MaintenanceConfig where
  enforce : Bool
  pruneAfterMs : Int
  maxEntries : Nat
  rotateBytes : Nat
  maxDiskBytes : Option Nat
  highWaterBytes : Option Nat

/-- A file of the sessions directory. `removable` says that its name is that of an archive, and
`transcript` that it is that of a primary transcript. -/
structure DirectoryFile where
  path : String
  size : Nat
  mtimeMs : Nat
  removable : Bool
  transcript : Bool
  deriving DecidableEq

/-- What a save finds around it: the clock, the sessions directory and the paths of transcripts. -/
structure Surroundings (Entry : Type*) where
  config : MaintenanceConfig
  now : Int
  storePath : String
  /-- How the name of the store file itself reads to the disk budget. -/
  storeRemovable : Bool
  storeTranscript : Bool
  /-- The other files of the sessions directory. -/
  files : List DirectoryFile
  /-- The paths `archiveSessionTranscripts` tries for a session id and a session file. -/
  archiveCandidates : String → Option String → List String
  /-- `resolveSessionTranscriptPathForEntry`. -/
  transcriptPath : Entry → Option String
  cacheEnabled : Bool
  cacheExpired : Bool
  /-- The modification time a file gets that this save writes. -/
  writtenAt : Nat

/-! ### Removing entries -/

/-- The store without the entries, in the order they are removed in. -/
def removeEntries (store : OrderedMap String Entry) (entries : List (String × Entry)) :
    OrderedMap String Entry :=
  entries.foldl (fun store entry => store.delete entry.1) store

/-- The entries `pruneStaleEntries` removes. -/
def staleEntries (store : OrderedMap String Entry) (maxAgeMs now : Int) : List (String × Entry) :=
  store.entries.filter fun entry =>
    (format.updatedAt entry.2).any fun updatedAt => decide (updatedAt < now - maxAgeMs)

/-- The entries `capEntryCount` removes: the ones updated last are kept, those without a time go
first. -/
def cappedEntries (store : OrderedMap String Entry) (maxEntries : Nat) : List (String × Entry) :=
  if store.entries.length ≤ maxEntries then []
  else
    let time : String × Entry → WithBot Int := fun entry => format.updatedAt entry.2
    (store.entries.insertionSort fun first second => time second ≤ time first).drop maxEntries

/-- `rememberRemovedSessionFile`. -/
def rememberRemovedSessionFile (removed : OrderedMap String (Option String)) (entry : Entry) :
    OrderedMap String (Option String) :=
  let sessionId := (format.sessionId entry).getD ""
  if !removed.has sessionId || (nonEmpty (format.sessionFile entry)).isSome
  then removed.set sessionId (format.sessionFile entry) else removed

/-- `archiveRemovedSessionTranscripts`: the paths of the files that may be renamed. -/
def archivedPaths (around : Surroundings Entry) (removed : OrderedMap String (Option String))
    (store : OrderedMap String Entry) : List String :=
  let referenced := store.values.filterMap fun entry => nonEmpty (format.sessionId entry)
  (removed.entries.filter fun entry => entry.1 ∉ referenced).flatMap fun entry =>
    around.archiveCandidates entry.1 entry.2

/-- `rotateSessionFile`: whether the file is renamed away. -/
def rotates (rotateBytes : Nat) (file : StoreFile Text) : Bool :=
  rotateBytes < format.byteLength file.text

/-! ### The disk budget -/

/-- The sweep of `enforceSessionDiskBudget` in progress. -/
structure Sweep (Entry : Type*) where
  store : OrderedMap String Entry
  files : List DirectoryFile
  total : Int
  projectedStoreBytes : Int

/-- `removeFileForBudget`. -/
def Sweep.removeFile (sweep : Sweep Entry) (path : String) : Sweep Entry :=
  match sweep.files.find? (·.path = path) with
  | none => sweep
  | some file => { sweep with
      files := sweep.files.filter (·.path ≠ path)
      total := sweep.total - file.size }

/-- The removal of one entry for the budget. -/
def Sweep.evict (around : Surroundings Entry) (sweep : Sweep Entry) (entry : String × Entry) :
    Sweep Entry :=
  let store := sweep.store.delete entry.1
  let projected := max 2 (sweep.projectedStoreBytes - (format.chunkBytes entry.1 entry.2 + 2))
  let evicted : Sweep Entry := { sweep with
    store := store
    total := sweep.total + (projected - sweep.projectedStoreBytes)
    projectedStoreBytes := projected }
  match nonEmpty (format.sessionId entry.2) with
  | none => evicted
  | some sessionId =>
    if store.values.any fun other => format.sessionId other = some sessionId then evicted
    else match around.transcriptPath entry.2 with
      | none => evicted
      | some path => evicted.removeFile path

/-- `enforceSessionDiskBudget` in the mode `enforce`: the store that is left, and the files. -/
def enforceSessionDiskBudget (around : Surroundings Entry) (activeSessionKey : Option String)
    (store : OrderedMap String Entry) (file : Option (StoreFile Text)) :
    OrderedMap String Entry × List DirectoryFile :=
  let storeFile := file.map fun file => (⟨around.storePath, format.byteLength file.text,
    file.mtimeMs, around.storeRemovable, around.storeTranscript⟩ : DirectoryFile)
  let files := around.files ++ storeFile.toList
  match around.config.maxDiskBytes, around.config.highWaterBytes with
  | some maxBytes, some highWaterBytes =>
    let projected : Int := format.byteLength (format.serialize store)
    let total : Int := (around.files.map DirectoryFile.size).sum + projected
    if total ≤ (maxBytes : Int) then (store, files)
    else
      let referenced := store.values.filterMap around.transcriptPath
      let queue := (files.filter fun file =>
        file.removable || file.transcript && file.path ∉ referenced).insertionSort
          fun first second => first.mtimeMs ≤ second.mtimeMs
      let swept := queue.foldl (fun sweep file =>
        if sweep.total ≤ (highWaterBytes : Int) then sweep else sweep.removeFile file.path)
        (⟨store, files, total, projected⟩ : Sweep Entry)
      let active := (normalizeOptionalString activeSessionKey).map format.toLowerCase
      let time : String × Entry → Int := fun entry => (format.updatedAt entry.2).getD 0
      let evicted := (store.entries.insertionSort fun first second => time first ≤ time second).foldl
        (fun sweep entry =>
          if sweep.total ≤ (highWaterBytes : Int) then sweep
          else if active = some (normalizeStoreSessionKey format entry.1) then sweep
          else sweep.evict format around entry) swept
      (evicted.store, evicted.files)
  | _, _ => (store, files)

/-! ### All of it -/

/-- A store that is about to be written, and the store file as maintenance leaves it. -/
structure Maintained (Entry Text : Type*) where
  store : OrderedMap String Entry
  file : Option (StoreFile Text)

/-- The maintenance of `saveSessionStoreUnlocked`. -/
def maintain (around : Surroundings Entry) (activeSessionKey : Option String)
    (store : OrderedMap String Entry) (file : Option (StoreFile Text)) : Maintained Entry Text :=
  if !around.config.enforce then ⟨store, file⟩
  else
    let stale := staleEntries format store around.config.pruneAfterMs around.now
    let pruned := removeEntries store stale
    let capped := cappedEntries format pruned around.config.maxEntries
    let kept := removeEntries pruned capped
    let removed := ((stale ++ capped).map Prod.snd).foldl (rememberRemovedSessionFile format) ∅
    let unarchived := file.filter fun _ =>
      around.storePath ∉ archivedPaths format around removed kept
    let unrotated := unarchived.filter fun file => !rotates format around.config.rotateBytes file
    let budget := enforceSessionDiskBudget format around activeSessionKey kept unrotated
    ⟨budget.1, unrotated.filter fun _ => budget.2.any (·.path = around.storePath)⟩

/-- Maintenance takes the store file away or leaves it as it is. -/
theorem maintain_file (around : Surroundings Entry) (activeSessionKey : Option String)
    (store : OrderedMap String Entry) (file : Option (StoreFile Text)) :
    (maintain format around activeSessionKey store file).file = none ∨
      (maintain format around activeSessionKey store file).file = file := by
  have takes : ∀ (left : Option (StoreFile Text)) (keeps : StoreFile Text → Bool),
      (left = none ∨ left = file) → (left.filter keeps = none ∨ left.filter keeps = file) := by
    intro left keeps before
    cases left with
    | none => exact .inl rfl
    | some found =>
      cases kept : keeps found
      · exact .inl (by simp [Option.filter, kept])
      · simpa [Option.filter, kept] using before
  unfold maintain
  split
  · exact .inr rfl
  · exact takes _ _ (takes _ _ (takes _ _ (.inr rfl)))

end OpenClaw.Session
