/-
This file is the rewriting of transcript entries on the active branch of a session.

The session file is an append-only tree: every entry has a fresh id and the id of the entry it
was appended to, and the file ends with the leaf. A rewrite moves the leaf in front of the
first replaced message and appends the rest of the branch again, message by message, entry
by entry, with the ids of what it has appended so far put into references. An append may
throw; what it throws leaves the rewrite where it is.
-/

import OpenClaw.Base.OrderedMap
import OpenClaw.Shared.Text

namespace OpenClaw.Rewrite

open Text

/-- What an entry says, by its type. What the rewrite passes on as it is stands in one payload; a
missing name of a session is the empty text. -/
inductive EntryBody (Message Payload : Type*)
  | message (message : Message)
  | compaction (firstKeptEntryId : String) (content : Payload)
  | thinkingLevelChange (content : Payload)
  | modelChange (content : Payload)
  | custom (content : Payload)
  | customMessage (content : Payload)
  | sessionInfo (name : String)
  | branchSummary (content : Payload)
  | label (targetId : String) (content : Payload)
  deriving DecidableEq

structure SessionEntry (Message Payload : Type*) where
  id : String
  parentId : Option String
  body : EntryBody Message Payload
  deriving DecidableEq

variable {Message Payload : Type*}

/-! ### The session manager -/

/-- Entries that have been appended one after another, the newest first. -/
inductive IsTree : List (SessionEntry Message Payload) → Prop
  | nil : IsTree []
  | cons {entry : SessionEntry Message Payload} {older : List (SessionEntry Message Payload)}
      (tree : IsTree older) (named : trim entry.id ≠ "") (fresh : entry.id ∉ older.map SessionEntry.id)
      (rooted : ∀ parent ∈ entry.parentId, parent ∈ older.map SessionEntry.id) :
      IsTree (entry :: older)

/-- `getBranch` from an id, leaf first: each entry is followed to its parent. -/
def branchFrom : List (SessionEntry Message Payload) → Option String →
    List (SessionEntry Message Payload)
  | _, none => []
  | [], some _ => []
  | entry :: older, some id =>
    if entry.id = id then entry :: branchFrom older entry.parentId else branchFrom older (some id)

/-- A `SessionManager`: the entries of its file, the newest first, and the current leaf. -/
structure SessionManager (Message Payload : Type*) where
  entries : List (SessionEntry Message Payload)
  leaf : Option String

/-- `SessionManager.open`: the leaf is the last entry of the file. -/
def SessionManager.ofFile (entries : List (SessionEntry Message Payload)) :
    SessionManager Message Payload :=
  ⟨entries, entries.head?.map SessionEntry.id⟩

def SessionManager.getBranch (manager : SessionManager Message Payload) :
    List (SessionEntry Message Payload) :=
  (branchFrom manager.entries manager.leaf).reverse

/-- The active branch of a file. -/
def activeBranch (entries : List (SessionEntry Message Payload)) :
    List (SessionEntry Message Payload) :=
  (SessionManager.ofFile entries).getBranch

/-- Ids that no entry has yet. -/
structure IdSource (Message Payload : Type*) where
  next : List (SessionEntry Message Payload) → String
  named : ∀ entries, trim (next entries) ≠ ""
  fresh : ∀ entries, next entries ∉ entries.map SessionEntry.id

/-- Every append method: a child of the leaf, which becomes the leaf. -/
def SessionManager.append (ids : IdSource Message Payload)
    (manager : SessionManager Message Payload) (body : EntryBody Message Payload) :
    SessionManager Message Payload :=
  let id := ids.next manager.entries
  ⟨⟨id, manager.leaf, body⟩ :: manager.entries, some id⟩

/-! ### The rewrite -/

/-- `remapEntryId`, with the entry's own id where that gives nothing. -/
def remapEntryId (rewrittenEntryIds : OrderedMap String String) (entryId : String) : String :=
  if entryId = "" then entryId else (rewrittenEntryIds.get entryId).getD entryId

/-- The references of an entry to other entries, put through a mapping. -/
def EntryBody.mapReferences (remap : String → String) :
    EntryBody Message Payload → EntryBody Message Payload
  | .compaction firstKeptEntryId content => .compaction (remap firstKeptEntryId) content
  | .label targetId content => .label (remap targetId) content
  | body => body

/-- `appendBranchEntry`. A branch summary is appended to its own parent. -/
def appendBranchEntry (ids : IdSource Message Payload) (manager : SessionManager Message Payload)
    (rewrittenEntryIds : OrderedMap String String) (entry : SessionEntry Message Payload) :
    SessionManager Message Payload :=
  match entry.body with
  | .branchSummary content =>
    let parent := (nonEmpty entry.parentId).map (remapEntryId rewrittenEntryIds)
    SessionManager.append ids { manager with leaf := parent } (.branchSummary content)
  | body => manager.append ids (body.mapReferences (remapEntryId rewrittenEntryIds))

/-- The replacement of an entry, when it is a message. -/
def replacementOf (replacementsById : OrderedMap String Message)
    (entry : SessionEntry Message Payload) : Option Message :=
  match entry.body with
  | .message _ => replacementsById.get entry.id
  | _ => none

/-- One round of the loop: the replacement is appended, or the entry again. -/
def appendRewrittenEntry (ids : IdSource Message Payload)
    (replacementsById : OrderedMap String Message) (manager : SessionManager Message Payload)
    (rewrittenEntryIds : OrderedMap String String) (entry : SessionEntry Message Payload) :
    SessionManager Message Payload :=
  match replacementOf replacementsById entry with
  | none => appendBranchEntry ids manager rewrittenEntryIds entry
  | some replacement => manager.append ids (.message replacement)

/-- The loop over the suffix of the branch. `throws` tells which append of the loop throws; what
has been appended until then stays. -/
def appendSuffix (ids : IdSource Message Payload) (replacementsById : OrderedMap String Message)
    (throws : Nat → Bool) :
    Nat → SessionManager Message Payload → OrderedMap String String →
      List (SessionEntry Message Payload) → SessionManager Message Payload × Bool
  | _, manager, _, [] => (manager, true)
  | index, manager, rewrittenEntryIds, entry :: rest =>
    if throws index then (manager, false)
    else
      let appended := appendRewrittenEntry ids replacementsById manager rewrittenEntryIds entry
      appendSuffix ids replacementsById throws (index + 1) appended
        (rewrittenEntryIds.set entry.id (appended.leaf.getD "")) rest

/-- `TranscriptRewriteResult`. -/
structure RewriteResult where
  changed : Bool
  bytesFreed : Nat := 0
  rewrittenEntries : Nat := 0
  reason : Option String := none
  deriving DecidableEq

/-- What a rewrite is asked for and runs with. -/
structure RewriteRun (Message Payload : Type*) where
  ids : IdSource Message Payload
  estimateMessageBytes : Message → Nat
  /-- Which append of the loop throws, and with what message. -/
  throws : Nat → Bool
  thrown : String
  replacements : List (String × Message)

/-- The replacements by entry id, the last one for an id counting. -/
def RewriteRun.replacementsById (run : RewriteRun Message Payload) : OrderedMap String Message :=
  (run.replacements.filter fun replacement => trim replacement.1 ≠ "").foldl
    (fun map replacement => map.set replacement.1 replacement.2) ∅

/-- The bytes a replacement of the entry frees. -/
def RewriteRun.freedBytes (run : RewriteRun Message Payload)
    (entry : SessionEntry Message Payload) : Nat :=
  match entry.body, replacementOf run.replacementsById entry with
  | .message message, some replacement =>
    run.estimateMessageBytes message - run.estimateMessageBytes replacement
  | _, _ => 0

/-- The suffix of a branch from its first replaced message on. -/
def RewriteRun.suffix (run : RewriteRun Message Payload)
    (branch : List (SessionEntry Message Payload)) : List (SessionEntry Message Payload) :=
  branch.dropWhile fun entry => (replacementOf run.replacementsById entry).isNone

/-- `rewriteTranscriptEntriesInSessionManager`: the manager it leaves, and its result unless an
append has thrown. -/
def rewriteTranscriptEntriesInSessionManager (run : RewriteRun Message Payload)
    (manager : SessionManager Message Payload) :
    SessionManager Message Payload × Option RewriteResult :=
  let unchanged := fun reason => (manager, some { changed := false, reason := some reason })
  let branch := manager.getBranch
  let matched := branch.filter fun entry => (replacementOf run.replacementsById entry).isSome
  if run.replacementsById.entries = [] then unchanged "no replacements requested"
  else if branch = [] then unchanged "empty session"
  else match run.suffix branch with
    | [] => unchanged "no matching message entries"
    | first :: rest =>
      let branched := { manager with leaf := nonEmpty first.parentId }
      let appended := appendSuffix run.ids run.replacementsById run.throws 0 branched ∅
        (first :: rest)
      (appended.1, if appended.2 then some
        { changed := true
          bytesFreed := (matched.map run.freedBytes).sum
          rewrittenEntries := matched.length } else none)

/-- `rewriteTranscriptEntriesInSessionFile`: the entries of the file afterwards, and the result. -/
def rewriteTranscriptEntriesInSessionFile (run : RewriteRun Message Payload)
    (file : List (SessionEntry Message Payload)) :
    List (SessionEntry Message Payload) × RewriteResult :=
  let rewritten := rewriteTranscriptEntriesInSessionManager run (SessionManager.ofFile file)
  (rewritten.1.entries,
    rewritten.2.getD { changed := false, reason := some run.thrown })

end OpenClaw.Rewrite
