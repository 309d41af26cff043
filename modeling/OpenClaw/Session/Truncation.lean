/-
This file is `session-truncation.ts`: after a compaction the session file is rewritten
without the messages the compaction has summarised.

A session is a tree of entries, read from an append-only file: ids are distinct and not
empty, and an entry stands after its parent and, if it is a label,
  after its target. `SessionTree` carries
this, with the path from the root to the leaf that the session manager hands out.

What a message says, and the rest of an entry, is opaque: the code only asks of a message
whether it belongs to a heartbeat.
-/

import OpenClaw.Base.Lineage

namespace OpenClaw.Session

/-! ### Entries -/

/-- The type of an entry, with the fields the truncation reads. -/
inductive EntryKind (Message : Type)
  | message (message : Message)
  | label (targetId : String)
  | branchSummary
  | compaction (firstKeptEntryId : String)
  /-- `custom`, `custom_message`, `model_change`, `thinking_level_change`, `session_info`. -/
  | state
  deriving DecidableEq, Repr

structure SessionEntry (Message Body : Type) where
  id : String
  parentId : Option String
  kind : EntryKind Message
  body : Body
  deriving DecidableEq, Repr

variable {Message Body Header : Type}

def SessionEntry.isMessage (entry : SessionEntry Message Body) : Bool :=
  match entry.kind with
  | .message _ => true
  | _ => false

/-- The entry a label marks. -/
def SessionEntry.targetId (entry : SessionEntry Message Body) : Option String :=
  match entry.kind with
  | .label target => some target
  | _ => none

/-- The entry a branch summary hangs off. -/
def SessionEntry.summaryParent (entry : SessionEntry Message Body) : Option String :=
  match entry.kind with
  | .branchSummary => entry.parentId
  | _ => none

/-- An open session: `getHeader`, `getEntries` and `getBranch` of its manager. -/
structure SessionTree (Message Body Header : Type) where
  header : Option Header
  entries : List (SessionEntry Message Body)
  branch : List (SessionEntry Message Body)
  named : ∀ entry ∈ entries, entry.id ≠ ""
  distinct : (entries.map SessionEntry.id).Nodup
  parents : Lineage.Backward SessionEntry.id SessionEntry.parentId entries
  targets : Lineage.Backward SessionEntry.id SessionEntry.targetId entries
  within : ∀ entry ∈ branch, entry ∈ entries
  linked : Lineage.Path SessionEntry.id SessionEntry.parentId branch

/-! ### What is removed -/

/-- The loop that looks for the latest compaction, over the branch from its leaf: the first entry
it keeps, and what stands before it on the branch. -/
def latestCompaction : List (SessionEntry Message Body) →
    Option (String × List (SessionEntry Message Body))
  | [] => none
  | entry :: earlier =>
    match entry.kind with
    | .compaction firstKeptEntryId => some (firstKeptEntryId, earlier.reverse)
    | _ => latestCompaction earlier

/-- The ids before the first kept entry. -/
def summarizedBranchIds (firstKeptEntryId : String) (before : List (SessionEntry Message Body)) :
    List String :=
  (before.takeWhile fun entry => !(firstKeptEntryId ≠ "" && entry.id = firstKeptEntryId)).map
    SessionEntry.id

def removedMessages (summarized : List String) (allEntries : List (SessionEntry Message Body)) :
    List String :=
  (allEntries.filter fun entry => summarized.contains entry.id && entry.isMessage).map
    SessionEntry.id

/-- The pass over the branch for heartbeats and their acknowledgements. -/
def removeHeartbeats (isHeartbeatUserMessage isHeartbeatOkResponse : Message → Bool)
    (summarized : List String) : List (SessionEntry Message Body) → List String → List String
  | userEntry :: assistantEntry :: rest, removedIds =>
    match userEntry.kind, assistantEntry.kind with
    | .message user, .message assistant =>
      if summarized.contains userEntry.id && summarized.contains assistantEntry.id &&
          !removedIds.contains userEntry.id && !removedIds.contains assistantEntry.id &&
          isHeartbeatUserMessage user && isHeartbeatOkResponse assistant then
        removeHeartbeats isHeartbeatUserMessage isHeartbeatOkResponse summarized rest
          ((removedIds.insert userEntry.id).insert assistantEntry.id)
      else
        removeHeartbeats isHeartbeatUserMessage isHeartbeatOkResponse summarized
          (assistantEntry :: rest) removedIds
    | _, _ =>
      removeHeartbeats isHeartbeatUserMessage isHeartbeatOkResponse summarized
        (assistantEntry :: rest) removedIds
  | _, removedIds => removedIds

/-- One step of the pass over labels and branch summaries. -/
def removeDangling (removedIds : List String) (entry : SessionEntry Message Body) : List String :=
  match entry.kind with
  | .label targetId =>
    if removedIds.contains targetId then removedIds.insert entry.id else removedIds
  | .branchSummary =>
    match entry.parentId with
    | some parentId =>
      if removedIds.contains parentId then removedIds.insert entry.id else removedIds
    | none => removedIds
  | _ => removedIds

/-- `removedIds`, when the passes are over. -/
def collectRemovedIds (isHeartbeatUserMessage isHeartbeatOkResponse : Message → Bool)
    (firstKeptEntryId : String) (before branch allEntries : List (SessionEntry Message Body)) :
    List String :=
  let summarized := summarizedBranchIds firstKeptEntryId before
  allEntries.foldl removeDangling
    (removeHeartbeats isHeartbeatUserMessage isHeartbeatOkResponse summarized branch
      (removedMessages summarized allEntries))

/-! ### What is kept -/

/-- The loop that keeps entries and hangs them off their nearest kept ancestor. -/
def keepEntries (removedIds : List String) (allEntries : List (SessionEntry Message Body)) :
    List (SessionEntry Message Body) :=
  allEntries.filterMap fun entry =>
    if removedIds.contains entry.id then none
    else
      let newParentId := Lineage.climb SessionEntry.id SessionEntry.parentId allEntries
        removedIds.contains allEntries.length entry.parentId
      some (if newParentId ≠ entry.parentId then { entry with parentId := newParentId } else entry)

/-! ### The file -/

/-- What a file holds: a whole session, or something else. -/
inductive FileText (Message Body Header : Type)
  | session (header : Header) (entries : List (SessionEntry Message Body))
  | other (text : String)

abbrev Files (Message Body Header : Type) := String → Option (FileText Message Body Header)

/-- How the file operations go. What a failed copy or write leaves behind is anything. -/
structure DiskOutcome (Message Body Header : Type) where
  /-- Set when copying to the archive fails: what is left at its path. -/
  copyFails : Option (Option (FileText Message Body Header)) := none
  /-- Set when writing the temporary file fails: what is left of it, and the message. -/
  writeFails : Option (Option (FileText Message Body Header) × String) := none
  renameFails : Option String := none
  unlinkFails : Bool := false

structure TruncationResult where
  truncated : Bool
  entriesRemoved : Nat
  reason : Option String := none
  deriving DecidableEq, Repr

def Files.put (files : Files Message Body Header) (path : String)
    (text : Option (FileText Message Body Header)) : Files Message Body Header :=
  Function.update files path text

/-- The copy to the archive. A copy of a file to itself does nothing. -/
def archive (outcome : DiskOutcome Message Body Header) (sessionFile : String)
    (archivePath : Option String) (files : Files Message Body Header) : Files Message Body Header :=
  match archivePath with
  | some archivePath =>
    if archivePath = "" || archivePath = sessionFile then files
    else match outcome.copyFails with
      | some left => files.put archivePath left
      | none => files.put archivePath (files sessionFile)
  | none => files

/-- The write to a temporary file that is then renamed. -/
def writeTruncated (outcome : DiskOutcome Message Body Header) (sessionFile : String)
    (content : FileText Message Body Header) (files : Files Message Body Header) :
    Except String Unit × Files Message Body Header :=
  let tmpFile := sessionFile ++ ".truncate-tmp"
  let unlink (files : Files Message Body Header) :=
    if outcome.unlinkFails then files else files.put tmpFile none
  match outcome.writeFails with
  | some (left, reason) => (.error reason, unlink (files.put tmpFile left))
  | none =>
    let written := files.put tmpFile (some content)
    match outcome.renameFails with
    | some reason => (.error reason, unlink written)
    | none => (.ok (), (written.put tmpFile none).put sessionFile (some content))

def truncateSessionAfterCompaction (isHeartbeatUserMessage isHeartbeatOkResponse : Message → Bool)
    (sessionFile : String) (archivePath : Option String)
    (opened : Except String (SessionTree Message Body Header))
    (outcome : DiskOutcome Message Body Header) (files : Files Message Body Header) :
    TruncationResult × Files Message Body Header :=
  match opened with
  | .error reason => ({ truncated := false, entriesRemoved := 0, reason := some reason }, files)
  | .ok session =>
    let unchanged (reason : String) : TruncationResult × Files Message Body Header :=
      ({ truncated := false, entriesRemoved := 0, reason := some reason }, files)
    match session.header with
    | none => unchanged "missing session header"
    | some header =>
      if session.branch.isEmpty then unchanged "empty session"
      else match latestCompaction session.branch.reverse with
        | none => unchanged "no compaction entry found"
        | some (firstKeptEntryId, before) =>
          if before.isEmpty then unchanged "compaction already at root"
          else
            let removedIds := collectRemovedIds isHeartbeatUserMessage isHeartbeatOkResponse
              firstKeptEntryId before session.branch session.entries
            if removedIds.isEmpty then unchanged "no entries to remove"
            else
              match writeTruncated outcome sessionFile
                  (.session header (keepEntries removedIds session.entries))
                  (archive outcome sessionFile archivePath files) with
              | (.ok (), written) =>
                ({ truncated := true, entriesRemoved := removedIds.length }, written)
              | (.error reason, left) =>
                ({ truncated := false, entriesRemoved := 0, reason := some reason }, left)

end OpenClaw.Session
