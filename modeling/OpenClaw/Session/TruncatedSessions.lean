/-
This file proves what a truncated session keeps.

Every message the compaction has summarised is removed at once, so the pass over the
heartbeats finds nothing. The pass over labels and branch summaries goes through the
file once; since an entry stands after what it refers to, one pass closes the removed
ids under "a label whose target is removed" and "a branch summary whose parent is
removed", and removes nothing else. What is kept climbs to its nearest kept ancestor.
-/

import OpenClaw.Session.Truncation

namespace OpenClaw.Session

open Lineage (Backward climb climb_parent NearestKept eq_of_id_eq)

variable {Message Body Header : Type} {entry : SessionEntry Message Body}
variable {entries : List (SessionEntry Message Body)} {removedIds : List String}
variable {firstKeptEntryId : String} {other : String}

/-! ### The passes -/

/-- What an entry does not outlive: the target of a label, the parent of a branch summary. -/
def SessionEntry.dependsOn (entry : SessionEntry Message Body) : Option String :=
  entry.targetId.or entry.summaryParent

theorem removeDangling_eq (removedIds : List String) (entry : SessionEntry Message Body) :
    removeDangling removedIds entry =
      match entry.dependsOn with
      | some id => if removedIds.contains id then removedIds.insert entry.id else removedIds
      | none => removedIds := by
  rw [removeDangling, SessionEntry.dependsOn, SessionEntry.targetId, SessionEntry.summaryParent]
  cases entry.kind with
  | branchSummary => rfl
  | _ => rfl

theorem mem_removeDangling {id : String} :
    id ∈ removeDangling removedIds entry ↔
      id ∈ removedIds ∨ id = entry.id ∧ ∃ other ∈ removedIds, entry.dependsOn = some other := by
  rw [removeDangling_eq]
  cases depends : entry.dependsOn with
  | none => simp
  | some other =>
    by_cases gone : other ∈ removedIds
    · simp [gone, or_comm]
    · simp [gone]

theorem mem_foldl_of_mem
    {id : String} (removed : id ∈ removedIds) : id ∈ entries.foldl removeDangling removedIds := by
  induction entries generalizing removedIds with
  | nil => exact removed
  | cons entry rest inductionHypothesis =>
    exact inductionHypothesis (mem_removeDangling.2 (.inl removed))

/-- What the pass removes depends on what is removed. -/
theorem of_mem_foldl {id : String} (removed : id ∈ entries.foldl removeDangling removedIds) :
    id ∈ removedIds ∨ ∃ entry ∈ entries, entry.id = id ∧
      ∃ other ∈ entries.foldl removeDangling removedIds, entry.dependsOn = some other := by
  induction entries generalizing removedIds with
  | nil => exact .inl removed
  | cons entry rest inductionHypothesis =>
    rcases inductionHypothesis removed with before | ⟨other, isOther, same, depends⟩
    · rcases mem_removeDangling.1 before with earlier | ⟨rfl, target, gone, depends⟩
      · exact .inl earlier
      · exact .inr ⟨entry, List.mem_cons_self, rfl, target, mem_foldl_of_mem gone, depends⟩
    · exact .inr ⟨other, List.mem_cons_of_mem _ isOther, same, depends⟩

/-- One pass closes the removed ids: what depends on a removed entry is removed. -/
theorem closed_foldl (backward : Backward SessionEntry.id SessionEntry.dependsOn entries)
    (isEntry : entry ∈ entries) (depends : entry.dependsOn = some other)
    (gone : other ∈ entries.foldl removeDangling removedIds) :
    entry.id ∈ entries.foldl removeDangling removedIds := by
  induction entries generalizing removedIds with
  | nil => exact absurd isEntry List.not_mem_nil
  | cons first rest inductionHypothesis =>
    obtain ⟨later, restLater⟩ := List.pairwise_cons.1 backward.later
    have restBackward : Backward SessionEntry.id SessionEntry.dependsOn rest :=
      ⟨fun node member => backward.self node (List.mem_cons_of_mem _ member), restLater⟩
    rcases List.mem_cons.1 isEntry with rfl | inRest
    · -- What this entry depends on stands before it, so no later step has removed it.
      rw [List.foldl_cons] at gone ⊢
      rcases of_mem_foldl gone with now | ⟨node, isNode, same, -⟩
      · rcases mem_removeDangling.1 now with before | ⟨same, -⟩
        · exact mem_foldl_of_mem (mem_removeDangling.2 (.inr ⟨rfl, other, before, depends⟩))
        · exact absurd (same ▸ depends) (backward.self _ List.mem_cons_self)
      · exact absurd (same ▸ depends) (later node isNode)
    · exact inductionHypothesis restBackward inRest gone

/-- The pass over the heartbeats comes too late: the summarised messages are all removed. -/
theorem removeHeartbeats_eq (isHeartbeatUserMessage isHeartbeatOkResponse : Message → Bool)
    {summarized removedIds : List String} (branch : List (SessionEntry Message Body))
    (gone : ∀ entry ∈ branch, entry.isMessage = true → entry.id ∈ summarized →
      entry.id ∈ removedIds) :
    removeHeartbeats isHeartbeatUserMessage isHeartbeatOkResponse summarized branch removedIds =
      removedIds := by
  induction branch with
  | nil => rfl
  | cons userEntry others inductionHypothesis =>
    have rest := inductionHypothesis fun entry member =>
      gone entry (List.mem_cons_of_mem _ member)
    cases others with
    | nil => rfl
    | cons assistantEntry rest' =>
      rw [removeHeartbeats]
      split
      · rename_i user assistant userKind _
        have isMessage : userEntry.isMessage = true := by rw [SessionEntry.isMessage, userKind]
        have removed := gone userEntry List.mem_cons_self isMessage
        split
        · rename_i conditions
          simp only [Bool.and_eq_true, Bool.not_eq_true', List.contains_eq_mem,
            decide_eq_false_iff_not, decide_eq_true_iff] at conditions
          exact absurd (removed conditions.1.1.1.1.1) conditions.1.1.1.2
        · exact rest
      · exact rest

/-! ### The removed entries of a session -/

theorem SessionEntry.dependsOn_eq_some (depends : entry.dependsOn = some other) :
    entry.targetId = some other ∨ entry.summaryParent = some other := by
  rw [SessionEntry.dependsOn, Option.or_eq_some_iff] at depends
  exact depends.imp_right And.right

theorem SessionEntry.dependsOn_of_targetId
    (target : entry.targetId = some other) : entry.dependsOn = some other := by
  rw [SessionEntry.dependsOn, target, Option.some_or]

theorem SessionEntry.parentId_of_summaryParent
    (parent : entry.summaryParent = some other) : entry.parentId = some other := by
  rw [SessionEntry.summaryParent] at parent
  split at parent
  · exact parent
  · exact absurd parent nofun

theorem SessionTree.dependencies (session : SessionTree Message Body Header) :
    Backward SessionEntry.id SessionEntry.dependsOn session.entries where
  self entry isEntry depends :=
    (SessionEntry.dependsOn_eq_some depends).elim (session.targets.self entry isEntry)
      fun parent => session.parents.self entry isEntry
        (SessionEntry.parentId_of_summaryParent parent)
  later := by
    refine (List.pairwise_and_iff.2 ⟨session.targets.later, session.parents.later⟩).imp ?_
    intro earlier later apart depends
    exact (SessionEntry.dependsOn_eq_some depends).elim apart.1 fun parent =>
      apart.2 (SessionEntry.parentId_of_summaryParent parent)

theorem latestCompaction_splits {reversed before : List (SessionEntry Message Body)}
    (latest : latestCompaction reversed = some (firstKeptEntryId, before)) :
    ∃ later compaction, reversed.reverse = before ++ compaction :: later ∧
      compaction.kind = .compaction firstKeptEntryId := by
  induction reversed with
  | nil => exact absurd latest nofun
  | cons entry earlier inductionHypothesis =>
    rw [latestCompaction] at latest
    rw [List.reverse_cons]
    split at latest
    · rename_i kind
      obtain ⟨rfl, rfl⟩ := Prod.mk.inj (Option.some.inj latest)
      exact ⟨[], entry, rfl, kind⟩
    · obtain ⟨later, compaction, splits, kind⟩ := inductionHypothesis latest
      exact ⟨later ++ [entry], compaction, by rw [splits, List.append_assoc]; rfl, kind⟩

section Removed

variable (session : SessionTree Message Body Header)
  (isHeartbeatUserMessage isHeartbeatOkResponse : Message → Bool)
  {firstKeptEntryId : String} {before : List (SessionEntry Message Body)}

/-- The pass over labels and branch summaries starts from the summarised messages. -/
theorem collectRemovedIds_eq :
    collectRemovedIds isHeartbeatUserMessage isHeartbeatOkResponse firstKeptEntryId before
        session.branch session.entries =
      session.entries.foldl removeDangling
        (removedMessages (summarizedBranchIds firstKeptEntryId before) session.entries) := by
  rw [collectRemovedIds, removeHeartbeats_eq]
  intro entry member isMessage summarized
  rw [removedMessages, List.mem_map]
  exact ⟨entry, List.mem_filter.2 ⟨session.within entry member, by simp [summarized, isMessage]⟩,
    rfl⟩

/-- What is removed is a summarised message, or depends on what is removed. -/
theorem of_mem_collectRemovedIds {id : String}
    (removed : id ∈ collectRemovedIds isHeartbeatUserMessage isHeartbeatOkResponse firstKeptEntryId
      before session.branch session.entries) :
    ∃ entry ∈ session.entries, entry.id = id ∧
      ((entry.isMessage = true ∧ id ∈ summarizedBranchIds firstKeptEntryId before) ∨
        ∃ other ∈ collectRemovedIds isHeartbeatUserMessage isHeartbeatOkResponse firstKeptEntryId
          before session.branch session.entries, entry.dependsOn = some other) := by
  rw [collectRemovedIds_eq] at removed ⊢
  rcases of_mem_foldl removed with message | ⟨entry, isEntry, same, depends⟩
  · rw [removedMessages, List.mem_map] at message
    obtain ⟨entry, listed, rfl⟩ := message
    obtain ⟨isEntry, conditions⟩ := List.mem_filter.1 listed
    rw [Bool.and_eq_true, List.contains_iff_mem] at conditions
    exact ⟨entry, isEntry, rfl, .inl ⟨conditions.2, conditions.1⟩⟩
  · exact ⟨entry, isEntry, same, .inr depends⟩

theorem closed_collectRemovedIds {entry : SessionEntry Message Body}
    (isEntry : entry ∈ session.entries) {other : String} (depends : entry.dependsOn = some other)
    (gone : other ∈ collectRemovedIds isHeartbeatUserMessage isHeartbeatOkResponse firstKeptEntryId
      before session.branch session.entries) :
    entry.id ∈ collectRemovedIds isHeartbeatUserMessage isHeartbeatOkResponse firstKeptEntryId
      before session.branch session.entries := by
  rw [collectRemovedIds_eq] at gone ⊢
  exact closed_foldl session.dependencies isEntry depends gone

theorem summarizedBranchIds_eq (named : firstKeptEntryId ≠ "") :
    summarizedBranchIds firstKeptEntryId before =
      (before.takeWhile fun other => other.id ≠ firstKeptEntryId).map SessionEntry.id := by
  rw [summarizedBranchIds]
  congr 2
  funext other
  simp [named]

theorem firstKept_named
    (latest : latestCompaction session.branch.reverse = some (firstKeptEntryId, before))
    (onBranch : ∃ entry ∈ before, entry.id = firstKeptEntryId) : firstKeptEntryId ≠ "" := by
  obtain ⟨later, compaction, splits, -⟩ := latestCompaction_splits latest
  rw [List.reverse_reverse] at splits
  obtain ⟨first, isFirst, rfl⟩ := onBranch
  exact session.named first (session.within first (splits ▸ List.mem_append_left _ isFirst))

/-- Nothing from the first kept entry on is summarised. -/
theorem not_summarized_of_tail
    (latest : latestCompaction session.branch.reverse = some (firstKeptEntryId, before))
    (onBranch : ∃ entry ∈ before, entry.id = firstKeptEntryId) {entry : SessionEntry Message Body}
    (inTail : entry ∈ session.branch.dropWhile fun other => other.id ≠ firstKeptEntryId) :
    entry.id ∉ summarizedBranchIds firstKeptEntryId before := by
  obtain ⟨later, compaction, splits, -⟩ := latestCompaction_splits latest
  rw [List.reverse_reverse] at splits
  have named := firstKept_named session latest onBranch
  obtain ⟨first, isFirst, isKept⟩ := onBranch
  have stops : (before.takeWhile fun other => other.id ≠ firstKeptEntryId).length ≠
      before.length := by
    intro whole
    have all := List.takeWhile_eq_self_iff.1
      ((List.takeWhile_prefix fun other : SessionEntry Message Body =>
        decide (other.id ≠ firstKeptEntryId)).eq_of_length whole) first isFirst
    exact of_decide_eq_true all isKept
  have heads : session.branch.takeWhile (fun other => other.id ≠ firstKeptEntryId) =
      before.takeWhile fun other => other.id ≠ firstKeptEntryId := by
    rw [splits, List.takeWhile_append, if_neg stops]
  have apart := session.linked.nodup session.parents session.distinct session.within
  rw [← List.takeWhile_append_dropWhile (p := fun other => decide (other.id ≠ firstKeptEntryId))
    (l := session.branch), List.map_append, heads] at apart
  intro summarized
  refine (List.nodup_append.1 apart).2.2 entry.id ?_ entry.id (List.mem_map_of_mem inTail) rfl
  rwa [summarizedBranchIds_eq named] at summarized

end Removed

/-! ### The kept entries -/

/-- An entry hung off its nearest kept ancestor. -/
def relink (removedIds : List String) (allEntries : List (SessionEntry Message Body))
    (entry : SessionEntry Message Body) : SessionEntry Message Body :=
  { entry with
    parentId := climb SessionEntry.id SessionEntry.parentId allEntries removedIds.contains
      allEntries.length entry.parentId }

/-- The loop over the entries keeps those that are not removed, each hung off its nearest kept
ancestor. -/
theorem keepEntries_eq (removedIds : List String) (allEntries : List (SessionEntry Message Body)) :
    keepEntries removedIds allEntries =
      (allEntries.filter fun entry => !removedIds.contains entry.id).map
        (relink removedIds allEntries) := by
  rw [keepEntries]
  generalize relinked : relink removedIds allEntries = relinks
  suffices ∀ entries : List (SessionEntry Message Body), entries.filterMap _ =
      (entries.filter fun entry => !removedIds.contains entry.id).map relinks from this allEntries
  intro entries
  induction entries with
  | nil => rfl
  | cons entry rest inductionHypothesis =>
    rw [List.filterMap_cons, List.filter_cons]
    cases removed : removedIds.contains entry.id with
    | true => exact inductionHypothesis
    | false =>
      rw [Bool.not_false, if_pos rfl, List.map_cons, ← inductionHypothesis, ← relinked, relink]
      simp only [Bool.false_eq_true, if_false]
      congr 1
      split
      · rfl
      · rename_i same
        rw [Decidable.not_not.1 same]

/-- What a truncated session keeps of the session: `removed` are the ids that are gone, `kept` the
entries of the new file. -/
structure KeepsContext (session : SessionTree Message Body Header) (firstKeptEntryId : String)
    (before : List (SessionEntry Message Body)) (removed : List String)
    (kept : List (SessionEntry Message Body)) : Prop where
  /-- The entries that are not removed are kept, in order, and only hung elsewhere. -/
  entries : List.Forall₂ (fun entry next => next = { entry with parentId := next.parentId } ∧
      NearestKept SessionEntry.id SessionEntry.parentId session.entries removed.contains
        entry.parentId next.parentId)
    (session.entries.filter fun entry => !removed.contains entry.id) kept
  /-- From the first kept entry to the leaf only what depends on a removed entry is removed. -/
  tail : ∀ entry ∈ session.branch.dropWhile (fun other => other.id ≠ firstKeptEntryId),
    entry.id ∈ removed → (∃ target ∈ removed, entry.targetId = some target) ∨
      ∃ parent ∈ removed, entry.summaryParent = some parent
  /-- The branch is left in its order. -/
  branch : ∃ path, Lineage.Path SessionEntry.id SessionEntry.parentId path ∧
    (∀ entry ∈ path, entry ∈ kept) ∧
    path.map SessionEntry.id =
      (session.branch.filter fun entry => !removed.contains entry.id).map SessionEntry.id
  /-- Only summarised messages are removed, and what depends on a removed entry. -/
  removedOnly : ∀ id ∈ removed, ∃ entry ∈ session.entries, entry.id = id ∧
    ((entry.isMessage = true ∧
        id ∈ (before.takeWhile fun other => other.id ≠ firstKeptEntryId).map SessionEntry.id) ∨
      (∃ target ∈ removed, entry.targetId = some target) ∨
      ∃ parent ∈ removed, entry.summaryParent = some parent)
  parents : ∀ next ∈ kept, ∀ parent, next.parentId = some parent → parent ∉ removed
  targets : ∀ next ∈ kept, ∀ target, next.targetId = some target → target ∉ removed

theorem keepsContext (session : SessionTree Message Body Header)
    (isHeartbeatUserMessage isHeartbeatOkResponse : Message → Bool)
    {before : List (SessionEntry Message Body)}
    (latest : latestCompaction session.branch.reverse = some (firstKeptEntryId, before))
    (onBranch : ∃ entry ∈ before, entry.id = firstKeptEntryId) {removed : List String}
    (collected : removed = collectRemovedIds isHeartbeatUserMessage isHeartbeatOkResponse
      firstKeptEntryId before session.branch session.entries) :
    KeepsContext session firstKeptEntryId before removed (keepEntries removed session.entries) := by
  have known : ∀ id, removed.contains id = true → ∃ entry ∈ session.entries, entry.id = id := by
    intro id gone
    rw [List.contains_iff_mem, collected] at gone
    obtain ⟨entry, isEntry, same, -⟩ :=
      of_mem_collectRemovedIds session isHeartbeatUserMessage isHeartbeatOkResponse gone
    exact ⟨entry, isEntry, same⟩
  have climbs := climb_parent session.parents session.distinct known
  have isKept : ∀ entry ∈ session.entries, entry.id ∉ removed →
      relink removed session.entries entry ∈ keepEntries removed session.entries := by
    intro entry isEntry stays
    rw [keepEntries_eq]
    exact List.mem_map_of_mem (List.mem_filter.2 ⟨isEntry, by simpa using stays⟩)
  constructor
  case entries =>
    rw [keepEntries_eq, List.forall₂_map_right_iff, List.forall₂_same]
    exact fun entry _ => ⟨rfl, climbs entry.parentId⟩
  case tail =>
    intro entry inTail gone
    have notSummarized := not_summarized_of_tail session latest onBranch inTail
    have isEntry := session.within entry ((List.dropWhile_sublist _).subset inTail)
    rw [collected] at gone ⊢
    obtain ⟨other, isOther, same, reason⟩ :=
      of_mem_collectRemovedIds session isHeartbeatUserMessage isHeartbeatOkResponse gone
    obtain rfl := eq_of_id_eq session.distinct isOther isEntry same
    rcases reason with ⟨-, summarized⟩ | ⟨target, targetGone, depends⟩
    · exact absurd summarized notSummarized
    · exact (SessionEntry.dependsOn_eq_some depends).imp
        (fun isTarget => ⟨target, targetGone, isTarget⟩)
        fun isParent => ⟨target, targetGone, isParent⟩
  case branch =>
    refine ⟨(session.branch.filter fun entry => !removed.contains entry.id).map
      (relink removed session.entries), ?_, ?_, ?_⟩
    · rw [Lineage.Path, List.isChain_map]
      refine (session.linked.isChain_kept session.within).imp fun parent child nearest => ?_
      exact (climbs child.parentId).unique session.distinct nearest
    · intro entry member
      obtain ⟨old, listed, rfl⟩ := List.mem_map.1 member
      obtain ⟨onBranch, stays⟩ := List.mem_filter.1 listed
      exact isKept old (session.within old onBranch) (by simpa using stays)
    · rw [List.map_map]
      rfl
  case removedOnly =>
    intro id gone
    rw [collected] at gone ⊢
    obtain ⟨entry, isEntry, same, reason⟩ :=
      of_mem_collectRemovedIds session isHeartbeatUserMessage isHeartbeatOkResponse gone
    rw [summarizedBranchIds_eq (firstKept_named session latest onBranch)] at reason
    refine ⟨entry, isEntry, same, reason.imp_right ?_⟩
    · rintro ⟨target, targetGone, depends⟩
      exact (SessionEntry.dependsOn_eq_some depends).imp
        (fun isTarget => ⟨target, targetGone, isTarget⟩)
        fun isParent => ⟨target, targetGone, isParent⟩
  case parents =>
    intro next isNext parent isParent gone
    rw [keepEntries_eq] at isNext
    obtain ⟨old, -, rfl⟩ := List.mem_map.1 isNext
    have stays := (climbs old.parentId).stays parent isParent
    rw [List.contains_eq_mem, decide_eq_false_iff_not] at stays
    exact stays gone
  case targets =>
    intro next isNext target isTarget gone
    rw [keepEntries_eq] at isNext
    obtain ⟨old, listed, rfl⟩ := List.mem_map.1 isNext
    obtain ⟨isOld, stays⟩ := List.mem_filter.1 listed
    rw [Bool.not_eq_true', List.contains_eq_mem, decide_eq_false_iff_not] at stays
    refine stays ?_
    rw [collected] at gone ⊢
    exact closed_collectRemovedIds session isHeartbeatUserMessage isHeartbeatOkResponse isOld
      (SessionEntry.dependsOn_of_targetId isTarget) gone

/-! ### The session file -/

theorem tmpFile_ne (sessionFile : String) : sessionFile ++ ".truncate-tmp" ≠ sessionFile := by
  intro same
  have lengths := congrArg String.length same
  rw [String.length_append] at lengths
  have suffix : ".truncate-tmp".length = 13 := rfl
  omega

theorem Files.put_ne (files : Files Message Body Header) {path other : String}
    (text : Option (FileText Message Body Header)) (apart : other ≠ path) :
    files.put path text other = files other :=
  Function.update_of_ne apart _ _

theorem archive_sessionFile (outcome : DiskOutcome Message Body Header) (sessionFile : String)
    (archivePath : Option String) (files : Files Message Body Header) :
    archive outcome sessionFile archivePath files sessionFile = files sessionFile := by
  unfold archive
  split
  · split
    · rfl
    · rename_i elsewhere
      rw [Bool.or_eq_true, not_or, decide_eq_true_iff, decide_eq_true_iff] at elsewhere
      cases outcome.copyFails with
      | none => exact Files.put_ne _ _ (Ne.symm elsewhere.2)
      | some left => exact Files.put_ne _ _ (Ne.symm elsewhere.2)
  · rfl

/-- The write replaces the session file, or leaves it as it is. -/
theorem writeTruncated_sessionFile (outcome : DiskOutcome Message Body Header)
    (sessionFile : String) (content : FileText Message Body Header)
    (files : Files Message Body Header) :
    (∃ written, writeTruncated outcome sessionFile content files = (.ok (), written) ∧
        written sessionFile = some content) ∨
      ∃ reason left, writeTruncated outcome sessionFile content files = (.error reason, left) ∧
        left sessionFile = files sessionFile := by
  have apart := Ne.symm (tmpFile_ne sessionFile)
  have unlinked : ∀ left : Files Message Body Header,
      (if outcome.unlinkFails = true then left
        else left.put (sessionFile ++ ".truncate-tmp") none) sessionFile = left sessionFile := by
    intro left
    split
    · rfl
    · exact Files.put_ne _ _ apart
  rw [writeTruncated]
  split
  · exact .inr ⟨_, _, rfl, (unlinked _).trans (Files.put_ne _ _ apart)⟩
  · split
    · exact .inr ⟨_, _, rfl, (unlinked _).trans (Files.put_ne _ _ apart)⟩
    · exact .inl ⟨_, rfl, Function.update_self _ _ _⟩

/-- How a truncation ends: without a write, or with one of what `keepEntries` keeps. -/
theorem truncateSessionAfterCompaction_cases
    (isHeartbeatUserMessage isHeartbeatOkResponse : Message → Bool) (sessionFile : String)
    (archivePath : Option String) (session : SessionTree Message Body Header)
    (outcome : DiskOutcome Message Body Header) (files : Files Message Body Header)
    {before : List (SessionEntry Message Body)}
    (latest : latestCompaction session.branch.reverse = some (firstKeptEntryId, before)) :
    (∃ reason, truncateSessionAfterCompaction isHeartbeatUserMessage isHeartbeatOkResponse
        sessionFile archivePath (.ok session) outcome files =
          ({ truncated := false, entriesRemoved := 0, reason := some reason }, files)) ∨
      ∃ header removed, session.header = some header ∧
        removed = collectRemovedIds isHeartbeatUserMessage isHeartbeatOkResponse firstKeptEntryId
          before session.branch session.entries ∧
        truncateSessionAfterCompaction isHeartbeatUserMessage isHeartbeatOkResponse sessionFile
            archivePath (.ok session) outcome files =
          match writeTruncated outcome sessionFile
              (.session header (keepEntries removed session.entries))
              (archive outcome sessionFile archivePath files) with
          | (.ok (), written) => ({ truncated := true, entriesRemoved := removed.length }, written)
          | (.error reason, left) =>
            ({ truncated := false, entriesRemoved := 0, reason := some reason }, left) := by
  simp only [truncateSessionAfterCompaction, latest]
  cases session.header with
  | none => exact .inl ⟨_, rfl⟩
  | some header =>
    dsimp only
    split
    · exact .inl ⟨_, rfl⟩
    split
    · exact .inl ⟨_, rfl⟩
    split
    · exact .inl ⟨_, rfl⟩
    · exact .inr ⟨header, _, rfl, rfl, rfl⟩

/-- Truncating a session whose latest compaction keeps from an entry of the branch before it either
writes the session with its context kept, or leaves the file as it is. -/
theorem truncation_keeps_the_context
    (isHeartbeatUserMessage isHeartbeatOkResponse : Message → Bool) (sessionFile : String)
    (archivePath : Option String) (session : SessionTree Message Body Header)
    (outcome : DiskOutcome Message Body Header) (files : Files Message Body Header)
    (firstKeptEntryId : String) (before : List (SessionEntry Message Body))
    (latest : latestCompaction session.branch.reverse = some (firstKeptEntryId, before))
    (onBranch : ∃ entry ∈ before, entry.id = firstKeptEntryId) :
    let result := truncateSessionAfterCompaction isHeartbeatUserMessage isHeartbeatOkResponse
      sessionFile archivePath (.ok session) outcome files
    (result.1.truncated = true → ∃ header removed kept, session.header = some header ∧
        result.2 sessionFile = some (.session header kept) ∧
        KeepsContext session firstKeptEntryId before removed kept) ∧
      (result.1.truncated = false → result.2 sessionFile = files sessionFile) := by
  intro result
  show (result.1.truncated = true → _) ∧ (result.1.truncated = false → _)
  rcases truncateSessionAfterCompaction_cases isHeartbeatUserMessage isHeartbeatOkResponse
    sessionFile archivePath session outcome files latest with
    ⟨reason, ended⟩ | ⟨header, removed, isHeader, collected, ended⟩
  · rw [show result = _ from ended]
    exact ⟨fun truncated => absurd truncated Bool.false_ne_true, fun _ => rfl⟩
  · rw [show result = _ from ended]
    rcases writeTruncated_sessionFile outcome sessionFile
      (.session header (keepEntries removed session.entries))
      (archive outcome sessionFile archivePath files) with
      ⟨written, wrote, holds⟩ | ⟨reason, left, failed, holds⟩
    · rw [wrote]
      refine ⟨fun _ => ⟨header, removed, _, isHeader, holds, ?_⟩,
        fun kept => absurd kept.symm Bool.false_ne_true⟩
      exact keepsContext session isHeartbeatUserMessage isHeartbeatOkResponse latest onBranch
        collected
    · rw [failed]
      exact ⟨fun truncated => absurd truncated Bool.false_ne_true,
        fun _ => holds.trans (archive_sessionFile outcome sessionFile archivePath files)⟩

/-- Two compactions, and a label on a message the first of them has summarised. -/
def labelledSession : SessionTree Unit Unit Unit where
  header := some ()
  entries := [
    ⟨"1", none, .message (), ()⟩,
    ⟨"2", some "1", .message (), ()⟩,
    ⟨"3", some "2", .compaction "2", ()⟩,
    ⟨"4", some "3", .message (), ()⟩,
    ⟨"5", some "4", .compaction "4", ()⟩,
    ⟨"6", some "5", .label "1", ()⟩]
  branch := [
    ⟨"1", none, .message (), ()⟩,
    ⟨"2", some "1", .message (), ()⟩,
    ⟨"3", some "2", .compaction "2", ()⟩,
    ⟨"4", some "3", .message (), ()⟩,
    ⟨"5", some "4", .compaction "4", ()⟩,
    ⟨"6", some "5", .label "1", ()⟩]
  named := by decide
  distinct := by decide
  parents := ⟨by decide, by decide⟩
  targets := ⟨by decide, by decide⟩
  within := fun _ => id
  linked := by
    rw [Lineage.Path]
    decide

theorem labelledSession_keeps_the_context :
    let result := truncateSessionAfterCompaction (fun _ : Unit => false) (fun _ => false) "s.jsonl"
      none (.ok labelledSession) {} (fun _ => none)
    (result.1.truncated = true → ∃ header removed kept, labelledSession.header = some header ∧
        result.2 "s.jsonl" = some (.session header kept) ∧
        KeepsContext labelledSession "4" (labelledSession.entries.take 4) removed kept) ∧
      (result.1.truncated = false → result.2 "s.jsonl" = none) :=
  truncation_keeps_the_context (fun _ => false) (fun _ => false) "s.jsonl" none labelledSession {}
    (fun _ => none) "4" (labelledSession.entries.take 4) (by decide) (by decide)

/-- The label at the leaf is gone, and the first compaction keeps from an entry that is gone. -/
theorem labelledSession_loses :
    ∃ kept, (truncateSessionAfterCompaction (fun _ : Unit => false) (fun _ => false) "s.jsonl" none
        (.ok labelledSession) {} (fun _ => none)).2 "s.jsonl" = some (.session () kept) ∧
      (∃ entry ∈ labelledSession.branch.dropWhile (fun other => other.id ≠ "4"),
        entry.id ∉ kept.map SessionEntry.id) ∧
      ∃ entry ∈ kept, entry.kind = .compaction "2" ∧
        "2" ∈ labelledSession.entries.map SessionEntry.id ∧ "2" ∉ kept.map SessionEntry.id :=
  ⟨[⟨"3", none, .compaction "2", ()⟩, ⟨"4", some "3", .message (), ()⟩,
      ⟨"5", some "4", .compaction "4", ()⟩],
    rfl, ⟨⟨"6", some "5", .label "1", ()⟩, by decide, by decide⟩,
    ⟨⟨"3", none, .compaction "2", ()⟩, by decide, by decide, by decide, by decide⟩⟩

end OpenClaw.Session
