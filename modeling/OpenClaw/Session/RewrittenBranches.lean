/-
This file says when a transcript rewrite is faithful and all or nothing.

The rest of the branch is appended again with new ids. The id map knows the copies of the
entries before, so a reference is carried over when it points back. A compaction or a label
that points to itself or to a later entry of the branch keeps the old id. An append that
throws after others have succeeded leaves these in the file, and the file is read again from
its last entry.
-/

import OpenClaw.Session.TranscriptRewrite

namespace OpenClaw.Rewrite

open Text

variable {Message Payload : Type*} {entry : SessionEntry Message Payload}
variable {entries : List (SessionEntry Message Payload)} {leaf : Option String}

/-- A session file: entries that have been appended one after another. -/
structure SessionFile (Message Payload : Type*) where
  entries : List (SessionEntry Message Payload)
  isTree : IsTree entries

/-! ### The property -/

def entryIds (entries : List (SessionEntry Message Payload)) : List String :=
  entries.map SessionEntry.id

/-- The replacement of an entry, or the entry with its references put through a mapping. -/
def RewriteRun.bodyOf (run : RewriteRun Message Payload) (remap : String → String)
    (entry : SessionEntry Message Payload) : EntryBody Message Payload :=
  match replacementOf run.replacementsById entry with
  | some replacement => .message replacement
  | none => entry.body.mapReferences remap

/-- The copy of an entry of the rewritten suffix. -/
def RewriteRun.copied (run : RewriteRun Message Payload) (copy : String → String)
    (entry : SessionEntry Message Payload) : SessionEntry Message Payload :=
  ⟨copy entry.id, entry.parentId.map copy, run.bodyOf copy entry⟩

/-- The part of a branch that a rewrite leaves. -/
def RewriteRun.kept (run : RewriteRun Message Payload)
    (branch : List (SessionEntry Message Payload)) : List (SessionEntry Message Payload) :=
  branch.takeWhile fun entry => (replacementOf run.replacementsById entry).isNone

/-- The new active branch is the old one with the suffix copied: entries of the suffix have new ids
of their own, every reference to one of them points to its copy, and replaced messages carry their
replacements. The old entries are still there. -/
structure RewriteRun.Faithful (run : RewriteRun Message Payload)
    (old new : List (SessionEntry Message Payload)) (copy : String → String) : Prop where
  others : ∀ id, id ∉ entryIds (run.suffix (activeBranch old)) → copy id = id
  fresh : ∀ id ∈ entryIds (run.suffix (activeBranch old)), copy id ∉ entryIds old
  distinct : Set.InjOn copy {id | id ∈ entryIds (run.suffix (activeBranch old))}
  branch : activeBranch new =
    run.kept (activeBranch old) ++ (run.suffix (activeBranch old)).map (run.copied copy)
  appended : ∃ added, new = added ++ old

/-- A rewrite that reports a change is faithful, and one that reports none has not changed the
active branch. -/
structure RewriteRun.AllOrNothing (run : RewriteRun Message Payload)
    (file : SessionFile Message Payload) : Prop where
  changed : (rewriteTranscriptEntriesInSessionFile run file.entries).2.changed = true →
    ∃ copy, run.Faithful file.entries
      (rewriteTranscriptEntriesInSessionFile run file.entries).1 copy
  unchanged : (rewriteTranscriptEntriesInSessionFile run file.entries).2.changed = false →
    activeBranch (rewriteTranscriptEntriesInSessionFile run file.entries).1 =
      activeBranch file.entries

/-! ### The condition -/

def EntryBody.references : EntryBody Message Payload → List String
  | .compaction firstKeptEntryId _ => [firstKeptEntryId]
  | .label targetId _ => [targetId]
  | _ => []

/-- No compaction and no label refers to itself or to a later entry. -/
def RefersBack : List (SessionEntry Message Payload) → Prop
  | [] => True
  | entry :: later =>
    (∀ id ∈ entry.body.references, id ∉ entryIds (entry :: later)) ∧ RefersBack later

/-- The condition: there is nothing to rewrite, or the first append throws already, or none does
and the entries of the suffix refer back. -/
def RewriteRun.Clean (run : RewriteRun Message Payload) (file : SessionFile Message Payload) :
    Prop :=
  let suffix := run.suffix (activeBranch file.entries)
  suffix = [] ∨ run.throws 0 = true ∨
    (∀ index < suffix.length, run.throws index = false) ∧ RefersBack suffix

/-! ### Branches of a tree -/

theorem IsTree.distinct (tree : IsTree entries) : (entryIds entries).Nodup := by
  induction tree with
  | nil => exact List.nodup_nil
  | cons _ _ fresh _ inductionHypothesis => exact List.nodup_cons.2 ⟨fresh, inductionHypothesis⟩

theorem IsTree.named (tree : IsTree entries) :
    ∀ id ∈ entryIds entries, id ≠ "" := by
  induction tree with
  | nil => exact nofun
  | cons _ named _ _ inductionHypothesis =>
    intro id member
    rcases List.mem_cons.1 member with rfl | older
    · rintro empty
      rw [empty] at named
      exact named rfl
    · exact inductionHypothesis id older

theorem IsTree.rooted (tree : IsTree entries) :
    ∀ entry ∈ entries, ∀ parent ∈ entry.parentId, parent ∈ entryIds entries := by
  induction tree with
  | nil => exact nofun
  | cons _ _ _ rooted inductionHypothesis =>
    intro entry member parent isParent
    rcases List.mem_cons.1 member with rfl | older
    · exact List.mem_cons_of_mem _ (rooted parent isParent)
    · exact List.mem_cons_of_mem _ (inductionHypothesis entry older parent isParent)

@[simp] theorem branchFrom_none (entries : List (SessionEntry Message Payload)) :
    branchFrom entries none = [] := by
  cases entries <;> rfl

theorem branchFrom_sublist (entries : List (SessionEntry Message Payload)) (leaf : Option String) :
    (branchFrom entries leaf).Sublist entries := by
  induction entries generalizing leaf with
  | nil => cases leaf <;> exact List.Sublist.refl _
  | cons entry older inductionHypothesis =>
    cases leaf with
    | none => exact List.nil_sublist _
    | some id =>
      rw [branchFrom]
      split
      · exact (inductionHypothesis _).cons_cons entry
      · exact (inductionHypothesis _).cons entry

/-- A branch starts at its leaf. -/
theorem leaf_of_branchFrom {entries back : List (SessionEntry Message Payload)}
    (branch : branchFrom entries leaf = entry :: back) : leaf = some entry.id := by
  induction entries with
  | nil => cases leaf <;> exact nomatch branch
  | cons newest older inductionHypothesis =>
    cases leaf with
    | none => exact nomatch branch
    | some id =>
      rw [branchFrom] at branch
      split at branch
      next same =>
        obtain ⟨rfl, -⟩ := List.cons.inj branch
        rw [same]
      next => exact inductionHypothesis branch

/-- Entries newer than the leaf do not matter. -/
theorem branchFrom_cons_of_mem {newest : SessionEntry Message Payload}
    {older : List (SessionEntry Message Payload)} (fresh : newest.id ∉ entryIds older)
    (rooted : ∀ id ∈ leaf, id ∈ entryIds older) :
    branchFrom (newest :: older) leaf = branchFrom older leaf := by
  cases leaf with
  | none => simp
  | some id =>
    have different : newest.id ≠ id := fun same => fresh (same ▸ rooted id rfl)
    rw [branchFrom, if_neg different]

/-- From the parent of the leaf goes the rest of the branch. -/
theorem branchFrom_parent {entries back : List (SessionEntry Message Payload)}
    (tree : IsTree entries) (branch : branchFrom entries leaf = entry :: back) :
    branchFrom entries entry.parentId = back := by
  induction tree with
  | nil => cases leaf <;> exact nomatch branch
  | @cons newest older tree named fresh rooted inductionHypothesis =>
    cases leaf with
    | none => exact nomatch branch
    | some id =>
      rw [branchFrom] at branch
      split at branch
      next =>
        obtain ⟨rfl, rest⟩ := List.cons.inj branch
        exact (branchFrom_cons_of_mem fresh rooted).trans rest
      next =>
        have member : entry ∈ older :=
          (branchFrom_sublist older (some id)).subset (branch ▸ List.mem_cons_self)
        rw [branchFrom_cons_of_mem fresh (tree.rooted entry member)]
        exact inductionHypothesis branch

/-- The rest of a branch behind any of its entries. -/
theorem branchFrom_split {entries front back : List (SessionEntry Message Payload)}
    (tree : IsTree entries) (branch : branchFrom entries leaf = front ++ entry :: back) :
    branchFrom entries entry.parentId = back := by
  induction front generalizing leaf with
  | nil => exact branchFrom_parent tree branch
  | cons first front inductionHypothesis =>
    exact inductionHypothesis (branchFrom_parent tree branch)

/-- Entries in the order of a branch: each one is the parent of the next. -/
def Descends : Option String → List (SessionEntry Message Payload) → Prop
  | _, [] => True
  | parent, entry :: later => entry.parentId = parent ∧ Descends (some entry.id) later

/-- A suffix of a branch descends from the parent of its first entry. -/
theorem descends_of_branchFrom
    (tree : IsTree entries) {later back : List (SessionEntry Message Payload)}
    (branch : branchFrom entries leaf = later.reverse ++ entry :: back) :
    Descends (some entry.id) later := by
  induction later generalizing entry back with
  | nil => trivial
  | cons next rest inductionHypothesis =>
    have split : branchFrom entries leaf = rest.reverse ++ next :: entry :: back := by
      simpa using branch
    exact ⟨leaf_of_branchFrom (branchFrom_split tree split), inductionHypothesis split⟩

/-! ### The loop -/

variable (run : RewriteRun Message Payload) {rest : List (SessionEntry Message Payload)}
variable {rewrittenEntryIds : OrderedMap String String} {manager : SessionManager Message Payload}
variable {parent : Option String} {body : EntryBody Message Payload}

/-- The body the loop appends for an entry. -/
def RewriteRun.appendedBody (rewrittenEntryIds : OrderedMap String String)
    (entry : SessionEntry Message Payload) : EntryBody Message Payload :=
  run.bodyOf (remapEntryId rewrittenEntryIds) entry

/-- Whatever the entry is, its copy is appended to the leaf, when the leaf is the copy of its
parent. -/
theorem appended_eq
    (leaf : manager.leaf = (nonEmpty entry.parentId).map (remapEntryId rewrittenEntryIds)) :
    appendRewrittenEntry run.ids run.replacementsById manager rewrittenEntryIds entry =
      manager.append run.ids (run.appendedBody rewrittenEntryIds entry) := by
  unfold appendRewrittenEntry RewriteRun.appendedBody RewriteRun.bodyOf
  cases replacementOf run.replacementsById entry with
  | some replacement => rfl
  | none =>
    dsimp only
    unfold appendBranchEntry
    cases entry.body with
    | branchSummary content =>
      dsimp only
      rw [← leaf]
      rfl
    | _ => rfl

/-- What the loop has appended, the newest first, when it ends. -/
structure Appends (manager final : SessionManager Message Payload)
    (added : List (SessionEntry Message Payload)) : Prop where
  entries : final.entries = added ++ manager.entries
  branch : branchFrom final.entries final.leaf = added ++ branchFrom manager.entries manager.leaf
  fresh : ∀ entry ∈ added, entry.id ∉ entryIds manager.entries
  none : added = [] → final = manager
  leaf : added ≠ [] → final.leaf = final.entries.head?.map SessionEntry.id

theorem Appends.refl (manager : SessionManager Message Payload) : Appends manager manager [] :=
  ⟨rfl, rfl, nofun, fun _ => rfl, fun some => absurd rfl some⟩

theorem Appends.append {manager final : SessionManager Message Payload}
    {added : List (SessionEntry Message Payload)}
    (appends : Appends (manager.append run.ids body) final added) :
    Appends manager final (added ++ [⟨run.ids.next manager.entries, manager.leaf, body⟩]) where
  entries := by
    rw [appends.entries, List.append_assoc]
    rfl
  branch := by
    rw [appends.branch, SessionManager.append, branchFrom, if_pos rfl, List.append_assoc]
    rfl
  fresh entry member := by
    rcases List.mem_append.1 member with later | first
    · exact fun old => appends.fresh entry later (List.mem_cons_of_mem _ old)
    · obtain rfl := List.mem_singleton.1 first
      exact run.ids.fresh manager.entries
  none empty := absurd empty (by simp)
  leaf _ := by
    by_cases last : added = []
    · rw [appends.none last]
      rfl
    · exact appends.leaf last

/-- The parent of what comes next is a leaf that has a copy, or is none. -/
structure Follows (manager : SessionManager Message Payload)
    (rewrittenEntryIds : OrderedMap String String) (parent : Option String)
    (rest : List (SessionEntry Message Payload)) : Prop where
  descends : Descends parent rest
  named : ∀ id ∈ entryIds rest, id ≠ ""
  distinct : (entryIds rest).Nodup
  apart : ∀ id ∈ parent, id ≠ "" ∧ id ∉ entryIds rest
  leaf : manager.leaf = parent.map (remapEntryId rewrittenEntryIds)

theorem Follows.nonEmpty (follows : Follows manager rewrittenEntryIds parent (entry :: rest)) :
    nonEmpty entry.parentId = parent := by
  rw [follows.descends.1]
  cases parent with
  | none => rfl
  | some id => exact (nonEmpty_eq_some_iff _ _).2 ⟨rfl, (follows.apart id rfl).1⟩

theorem Follows.next (follows : Follows manager rewrittenEntryIds parent (entry :: rest))
    (body : EntryBody Message Payload) :
    Follows (manager.append run.ids body)
      (rewrittenEntryIds.set entry.id (run.ids.next manager.entries)) (some entry.id) rest where
  descends := follows.descends.2
  named id member := follows.named id (List.mem_cons_of_mem _ member)
  distinct := (List.nodup_cons.1 follows.distinct).2
  apart := by
    rintro _ ⟨⟩
    exact ⟨follows.named _ List.mem_cons_self, (List.nodup_cons.1 follows.distinct).1⟩
  leaf := by
    have named := follows.named entry.id List.mem_cons_self
    simp [SessionManager.append, remapEntryId, named]

variable {run} {first : SessionEntry Message Payload}

/-- One round of the loop that does not throw. -/
theorem appendSuffix_cons
    (follows : Follows manager rewrittenEntryIds parent (entry :: rest)) {index : Nat}
    (succeeds : run.throws index = false) :
    appendSuffix run.ids run.replacementsById run.throws index manager rewrittenEntryIds
        (entry :: rest) =
      appendSuffix run.ids run.replacementsById run.throws (index + 1)
        (manager.append run.ids (run.appendedBody rewrittenEntryIds entry))
        (rewrittenEntryIds.set entry.id (run.ids.next manager.entries)) rest := by
  have leaf : manager.leaf =
      (OpenClaw.Text.nonEmpty entry.parentId).map (remapEntryId rewrittenEntryIds) := by
    rw [follows.nonEmpty]
    exact follows.leaf
  rw [appendSuffix, succeeds, if_neg Bool.false_ne_true]
  dsimp only
  rw [appended_eq run leaf]
  rfl

/-- Whatever is thrown, the loop has appended a first part of what it was to append. -/
theorem appendSuffix_appends
    (follows : Follows manager rewrittenEntryIds parent rest) (index : Nat) :
    ∃ added, Appends manager (appendSuffix run.ids run.replacementsById run.throws index manager
      rewrittenEntryIds rest).1 added ∧
      (rest ≠ [] → run.throws index = false → added ≠ []) := by
  induction rest generalizing manager rewrittenEntryIds parent index with
  | nil => exact ⟨[], Appends.refl manager, fun some => absurd rfl some⟩
  | cons entry rest inductionHypothesis =>
    cases throws : run.throws index with
    | true =>
      rw [appendSuffix, throws, if_pos rfl]
      exact ⟨[], Appends.refl manager, fun _ succeeds => absurd succeeds Bool.noConfusion⟩
    | false =>
      rw [appendSuffix_cons follows throws]
      obtain ⟨added, appends, -⟩ := inductionHypothesis (follows.next run _) (index + 1)
      exact ⟨_, appends.append run, fun _ _ => by simp⟩

/-- The copies of a suffix as the loop makes them: a reference to the entry itself or to a later
one stays as it is. -/
def RewriteRun.rewritten (run : RewriteRun Message Payload) (copy : String → String) :
    List (SessionEntry Message Payload) → List (SessionEntry Message Payload)
  | [] => []
  | entry :: later =>
    ⟨copy entry.id, entry.parentId.map copy,
      run.bodyOf (fun id => if id ∈ entryIds (entry :: later) then id else copy id) entry⟩ ::
      run.rewritten copy later

/-- The ids of the copies. -/
structure Copies (manager : SessionManager Message Payload)
    (rewrittenEntryIds : OrderedMap String String) (rest : List (SessionEntry Message Payload))
    (copy : String → String) : Prop where
  others : ∀ id, id ∉ entryIds rest → copy id = remapEntryId rewrittenEntryIds id
  fresh : ∀ id ∈ entryIds rest, copy id ∉ entryIds manager.entries
  distinct : Set.InjOn copy {id | id ∈ entryIds rest}

/-- A loop in which no append throws copies the whole suffix. -/
theorem appendSuffix_rewritten (follows : Follows manager rewrittenEntryIds parent rest)
    (unknown : ∀ id ∈ entryIds rest, rewrittenEntryIds.get id = none) (index : Nat)
    (succeeds : ∀ offset < rest.length, run.throws (index + offset) = false) :
    ∃ copy, Copies manager rewrittenEntryIds rest copy ∧
      (appendSuffix run.ids run.replacementsById run.throws index manager
        rewrittenEntryIds rest).2 = true ∧
      (appendSuffix run.ids run.replacementsById run.throws index manager
        rewrittenEntryIds rest).1.entries = (run.rewritten copy rest).reverse ++ manager.entries := by
  induction rest generalizing manager rewrittenEntryIds parent index with
  | nil => exact ⟨remapEntryId rewrittenEntryIds, ⟨fun _ _ => rfl, nofun, nofun⟩, rfl, rfl⟩
  | cons entry rest inductionHypothesis =>
    have named := follows.named entry.id List.mem_cons_self
    obtain ⟨alone, -⟩ := List.nodup_cons.1 follows.distinct
    rw [appendSuffix_cons follows (by simpa using succeeds 0 (by simp))]
    obtain ⟨copy, copies, completes, entries⟩ := inductionHypothesis
      (follows.next run (run.appendedBody rewrittenEntryIds entry))
      (fun id member => by
        have different : id ≠ entry.id := by
          rintro rfl
          exact alone member
        rw [OrderedMap.get_set_of_ne _ _ different]
        exact unknown id (List.mem_cons_of_mem _ member)) (index + 1)
      (fun offset bound => by
        have later := succeeds (offset + 1) (by simpa using bound)
        rwa [show index + 1 + offset = index + (offset + 1) by omega])
    have own : copy entry.id = run.ids.next manager.entries := by
      rw [copies.others entry.id alone]
      simp [remapEntryId, named]
    have others : ∀ id, id ∉ entryIds (entry :: rest) →
        copy id = remapEntryId rewrittenEntryIds id := by
      intro id outside
      have different : id ≠ entry.id := fun same => outside (same ▸ List.mem_cons_self)
      rw [copies.others id fun later => outside (List.mem_cons_of_mem _ later)]
      unfold remapEntryId
      rw [OrderedMap.get_set_of_ne _ _ different]
    have later : ∀ id ∈ entryIds rest, copy id ∉ entryIds manager.entries ∧
        copy id ≠ run.ids.next manager.entries := fun id member =>
      not_or.1 fun known => copies.fresh id member (List.mem_cons.2 known.symm)
    refine ⟨copy, ⟨others, ?_, ?_⟩, completes, ?_⟩
    · intro id member
      rcases List.mem_cons.1 member with rfl | member
      · rw [own]
        exact run.ids.fresh manager.entries
      · exact (later id member).1
    · intro first firstMember second secondMember same
      rcases List.mem_cons.1 firstMember with rfl | firstLater <;>
        rcases List.mem_cons.1 secondMember with rfl | secondLater
      · rfl
      · exact absurd (same.symm.trans own) (later second secondLater).2
      · exact absurd (same.trans own) (later first firstLater).2
      · exact copies.distinct firstLater secondLater same
    · have body : run.appendedBody rewrittenEntryIds entry = run.bodyOf
          (fun id => if id ∈ entryIds (entry :: rest) then id else copy id) entry := by
        refine congrArg (run.bodyOf · entry) (funext fun id => ?_)
        split
        next member => simp [remapEntryId, unknown id member]
        next outside => exact (others id outside).symm
      have leaf : manager.leaf = entry.parentId.map copy := by
        rw [follows.leaf, follows.descends.1]
        cases parent with
        | none => rfl
        | some id => exact congrArg some (others id (follows.apart id rfl).2).symm
      rw [entries, RewriteRun.rewritten, List.reverse_cons, List.append_assoc, own, ← leaf, ← body]
      rfl

/-! ### The theorem -/

theorem mapReferences_congr {first second : String → String}
    (same : ∀ id ∈ body.references, first id = second id) :
    body.mapReferences first = body.mapReferences second := by
  cases body <;> simp_all [EntryBody.mapReferences, EntryBody.references]

theorem references_of_mapReferences_eq {first second : String → String}
    (same : body.mapReferences first = body.mapReferences second) :
    ∀ id ∈ body.references, first id = second id := by
  cases body <;> simp_all [EntryBody.mapReferences, EntryBody.references]

/-- What the loop makes of a suffix are its copies when its entries refer back. -/
theorem rewritten_eq_of_refersBack {copy : String → String}
    (back : RefersBack rest) :
    run.rewritten copy rest = rest.map (run.copied copy) := by
  induction rest with
  | nil => rfl
  | cons entry later inductionHypothesis =>
    have body : run.bodyOf (fun id => if id ∈ entryIds (entry :: later) then id else copy id)
        entry = run.bodyOf copy entry := by
      unfold RewriteRun.bodyOf
      cases replacementOf run.replacementsById entry with
      | some replacement => rfl
      | none => exact mapReferences_congr fun id member => if_neg (back.1 id member)
    rw [RewriteRun.rewritten, List.map_cons, inductionHypothesis back.2, RewriteRun.copied, body]

/-- A replaced entry is a message, and a message refers to nothing. -/
theorem references_of_replaced {replacement : Message}
    (replaced : replacementOf run.replacementsById entry = some replacement) :
    entry.body.references = [] := by
  unfold replacementOf at replaced
  cases body : entry.body <;> simp_all [EntryBody.references]

/-- Only the copies of a suffix that refers back are what the loop makes of it. -/
theorem refersBack_of_rewritten_eq (copy other : String → String)
    (moved : ∀ id ∈ entryIds rest, other id ≠ id)
    (same : run.rewritten copy rest = rest.map (run.copied other)) : RefersBack rest := by
  induction rest with
  | nil => trivial
  | cons entry later inductionHypothesis =>
    rw [RewriteRun.rewritten, List.map_cons] at same
    obtain ⟨head, tail⟩ := List.cons.inj same
    refine ⟨fun id member known => ?_, inductionHypothesis
      (fun id member => moved id (List.mem_cons_of_mem _ member)) tail⟩
    have body := congrArg SessionEntry.body head
    simp only [RewriteRun.copied, RewriteRun.bodyOf] at body
    cases replaced : replacementOf run.replacementsById entry with
    | some replacement => simp [references_of_replaced replaced] at member
    | none =>
      rw [replaced] at body
      have reference := references_of_mapReferences_eq body id member
      rw [if_pos known] at reference
      exact moved id known reference.symm

/-- A rewrite that finds nothing to replace leaves the file. -/
theorem rewrite_of_suffix_nil (nothing : run.suffix (activeBranch entries) = []) :
    (rewriteTranscriptEntriesInSessionFile run entries).1 = entries ∧
      (rewriteTranscriptEntriesInSessionFile run entries).2.changed = false := by
  have branch : (SessionManager.ofFile entries).getBranch = activeBranch entries := rfl
  unfold rewriteTranscriptEntriesInSessionFile rewriteTranscriptEntriesInSessionManager
  dsimp only
  rw [branch, nothing]
  split_ifs <;> exact ⟨rfl, rfl⟩

/-- The manager whose leaf stands in front of an entry. -/
def branchedAt (entries : List (SessionEntry Message Payload))
    (first : SessionEntry Message Payload) : SessionManager Message Payload :=
  ⟨entries, OpenClaw.Text.nonEmpty first.parentId⟩

/-- The loop of a rewrite. -/
def RewriteRun.appended (run : RewriteRun Message Payload)
    (entries : List (SessionEntry Message Payload)) (first : SessionEntry Message Payload)
    (rest : List (SessionEntry Message Payload)) : SessionManager Message Payload × Bool :=
  appendSuffix run.ids run.replacementsById run.throws 0 (branchedAt entries first) ∅ (first :: rest)

theorem isSome_of_suffix {branch rest : List (SessionEntry Message Payload)}
    (suffix : run.suffix branch = first :: rest) :
    (replacementOf run.replacementsById first).isSome = true := by
  have stops := List.head?_dropWhile_not
    (fun entry => (replacementOf run.replacementsById entry).isNone) branch
  have found : branch.dropWhile (fun entry =>
    (replacementOf run.replacementsById entry).isNone) = first :: rest := suffix
  simpa [found] using stops

theorem rewrite_of_suffix_cons {entries rest : List (SessionEntry Message Payload)}
    (suffix : run.suffix (activeBranch entries) = first :: rest) :
    (rewriteTranscriptEntriesInSessionFile run entries).1 = (run.appended entries first rest).1.entries ∧
      (rewriteTranscriptEntriesInSessionFile run entries).2.changed =
        (run.appended entries first rest).2 := by
  have branch : (SessionManager.ofFile entries).getBranch = activeBranch entries := rfl
  have requested : run.replacementsById.entries ≠ [] := by
    intro none
    have replaced := isSome_of_suffix suffix
    unfold replacementOf at replaced
    cases body : first.body <;> simp [body, OrderedMap.get, none] at replaced
  have some : activeBranch entries ≠ [] := by
    intro none
    rw [none] at suffix
    cases suffix
  unfold rewriteTranscriptEntriesInSessionFile rewriteTranscriptEntriesInSessionManager
  dsimp only
  rw [branch, if_neg requested, if_neg some, suffix]
  refine ⟨rfl, ?_⟩
  show (Option.getD (if (run.appended entries first rest).2 = true then _ else _) _ :
    RewriteResult).changed = _
  cases (run.appended entries first rest).2 <;> rfl

theorem branchFrom_ne_nil {id : String}
    (known : id ∈ entryIds entries) : branchFrom entries (some id) ≠ [] := by
  induction entries with
  | nil => exact absurd known (by simp [entryIds])
  | cons newest older inductionHypothesis =>
    rw [branchFrom]
    split
    next => exact List.cons_ne_nil _ _
    next different =>
      exact inductionHypothesis ((List.mem_cons.1 known).resolve_left fun same => different same.symm)

/-- Where the suffix of the active branch is attached. -/
structure Attached (run : RewriteRun Message Payload)
    (entries : List (SessionEntry Message Payload)) (first : SessionEntry Message Payload)
    (rest : List (SessionEntry Message Payload)) : Prop where
  follows : Follows (branchedAt entries first) ∅ first.parentId (first :: rest)
  front : branchFrom entries (branchedAt entries first).leaf =
    (run.kept (activeBranch entries)).reverse
  known : ∀ id ∈ entryIds (first :: rest), id ∈ entryIds entries

theorem attached_of_suffix {file : SessionFile Message Payload}
    (suffix : run.suffix (activeBranch file.entries) = first :: rest) :
    Attached run file.entries first rest := by
  have split : activeBranch file.entries = run.kept (activeBranch file.entries) ++ first :: rest := by
    rw [← suffix]
    exact (List.takeWhile_append_dropWhile ..).symm
  have backward : branchFrom file.entries (SessionManager.ofFile file.entries).leaf =
      rest.reverse ++ first :: (run.kept (activeBranch file.entries)).reverse := by
    have reversed := congrArg List.reverse split
    simpa [activeBranch, SessionManager.getBranch, SessionManager.ofFile] using reversed
  have sublist := branchFrom_sublist file.entries (SessionManager.ofFile file.entries).leaf
  have front := branchFrom_split file.isTree backward
  have distinct : (entryIds (first :: rest) ++
      entryIds (run.kept (activeBranch file.entries)).reverse).Nodup := by
    have nodup : (entryIds (rest.reverse ++ first ::
        (run.kept (activeBranch file.entries)).reverse)).Nodup :=
      backward ▸ (sublist.map SessionEntry.id).nodup file.isTree.distinct
    refine (List.Perm.nodup_iff ?_).1 nodup
    rw [entryIds, entryIds, entryIds, ← List.map_append]
    refine List.Perm.map _ (List.perm_middle.trans ?_)
    rw [List.cons_append]
    exact ((List.reverse_perm rest).append_right _).cons first
  have known : ∀ id ∈ entryIds (first :: rest), id ∈ entryIds file.entries := by
    intro id member
    refine (sublist.map SessionEntry.id).subset ?_
    rw [backward]
    simp only [entryIds, List.map_cons, List.mem_cons, List.map_append, List.map_reverse,
      List.mem_append, List.mem_reverse] at member ⊢
    tauto
  have attachedParent : ∀ id ∈ first.parentId, id ≠ "" ∧ id ∉ entryIds (first :: rest) := by
    intro id isParent
    have member := sublist.subset (backward ▸ (by simp : first ∈ rest.reverse ++ first :: _))
    have rooted := file.isTree.rooted first member id isParent
    refine ⟨file.isTree.named id rooted, fun inside => ?_⟩
    have nonempty := branchFrom_ne_nil rooted
    rw [Option.mem_def] at isParent
    rw [isParent] at front
    obtain ⟨parent, others, kept⟩ := List.exists_cons_of_ne_nil nonempty
    obtain rfl := Option.some.inj (leaf_of_branchFrom kept)
    rw [front] at kept
    refine (List.disjoint_of_nodup_append distinct) inside ?_
    rw [kept]
    exact List.mem_cons_self
  have parent : OpenClaw.Text.nonEmpty first.parentId = first.parentId := by
    cases isParent : first.parentId with
    | none => rfl
    | some id => exact (nonEmpty_eq_some_iff _ _).2 ⟨rfl, (attachedParent id isParent).1⟩
  refine ⟨⟨⟨rfl, descends_of_branchFrom file.isTree backward⟩,
    fun id member => file.isTree.named id (known id member), ?_, attachedParent, ?_⟩, ?_, known⟩
  · exact (List.nodup_append.1 distinct).1
  · show OpenClaw.Text.nonEmpty first.parentId = _
    rw [parent]
    cases first.parentId with
    | none => rfl
    | some id => simp [remapEntryId]
  · show branchFrom file.entries (OpenClaw.Text.nonEmpty first.parentId) = _
    rw [parent]
    exact front

/-- The active branch after a loop that has appended something. -/
theorem activeBranch_of_appends {entries added : List (SessionEntry Message Payload)}
    {final : SessionManager Message Payload} (attached : Attached run entries first rest)
    (appends : Appends (branchedAt entries first) final added) (some : added ≠ []) :
    activeBranch final.entries = run.kept (activeBranch entries) ++ added.reverse := by
  have reopened : (SessionManager.ofFile final.entries).leaf = final.leaf :=
    (appends.leaf some).symm
  have branch : branchFrom final.entries final.leaf =
      added ++ (run.kept (activeBranch entries)).reverse := by
    rw [appends.branch]
    exact congrArg (added ++ ·) attached.front
  show (branchFrom final.entries (SessionManager.ofFile final.entries).leaf).reverse = _
  rw [reopened, branch, List.reverse_append, List.reverse_reverse]

/-- A loop that has thrown after its first append has changed the active branch. -/
theorem activeBranch_ne_of_appends {entries added : List (SessionEntry Message Payload)}
    {final : SessionManager Message Payload} (attached : Attached run entries first rest)
    (suffix : run.suffix (activeBranch entries) = first :: rest)
    (appends : Appends (branchedAt entries first) final added) (some : added ≠ []) :
    activeBranch final.entries ≠ activeBranch entries := by
  intro same
  have split : activeBranch entries = run.kept (activeBranch entries) ++ first :: rest := by
    rw [← suffix]
    exact (List.takeWhile_append_dropWhile ..).symm
  rw [activeBranch_of_appends attached appends some] at same
  have copies : added.reverse = first :: rest := List.append_cancel_left (same.trans split)
  have member : first ∈ added := by
    rw [← List.mem_reverse, copies]
    exact List.mem_cons_self
  exact appends.fresh first member (attached.known first.id List.mem_cons_self)

/-- A loop that completes has met no append that throws. -/
theorem succeeds_of_completes {index : Nat}
    (completes : (appendSuffix run.ids run.replacementsById run.throws index manager
      rewrittenEntryIds rest).2 = true) :
    ∀ offset < rest.length, run.throws (index + offset) = false := by
  induction rest generalizing manager rewrittenEntryIds index with
  | nil => exact nofun
  | cons entry rest inductionHypothesis =>
    intro offset bound
    rw [appendSuffix] at completes
    split at completes
    next => exact absurd completes Bool.false_ne_true
    next succeeds =>
      cases offset with
      | zero => simpa using succeeds
      | succ offset =>
        have later := inductionHypothesis completes offset (by simpa using bound)
        rwa [show index + (offset + 1) = index + 1 + offset by omega]

/-- When no append throws, the rewrite reports a change, and it is faithful exactly when the
entries of the suffix refer back. -/
theorem faithful_iff_of_succeeds {file : SessionFile Message Payload}
    (suffix : run.suffix (activeBranch file.entries) = first :: rest)
    (succeeds : ∀ index < (first :: rest).length, run.throws index = false) :
    (run.appended file.entries first rest).2 = true ∧
      ((∃ copy, run.Faithful file.entries (run.appended file.entries first rest).1.entries copy) ↔
        RefersBack (first :: rest)) := by
  have attached := attached_of_suffix suffix
  obtain ⟨added, appends, someAdded⟩ := appendSuffix_appends attached.follows 0
  obtain ⟨copy, copies, completes, entries⟩ := appendSuffix_rewritten attached.follows
    (fun _ _ => OrderedMap.get_empty _) 0 fun offset bound => by simpa using succeeds offset bound
  have same : added = (run.rewritten copy (first :: rest)).reverse :=
    List.append_cancel_right (appends.entries.symm.trans entries)
  have branch := activeBranch_of_appends attached appends
    (someAdded (List.cons_ne_nil _ _) (succeeds 0 (Nat.succ_pos _)))
  rw [same, List.reverse_reverse] at branch
  refine ⟨completes, ⟨?_, fun back => ⟨copy, ?_⟩⟩⟩
  · rintro ⟨other, faithful⟩
    have copied := faithful.branch
    have fresh := faithful.fresh
    rw [suffix] at copied fresh
    refine refersBack_of_rewritten_eq copy other (fun id member fixed => ?_)
      (List.append_cancel_left (branch.symm.trans copied))
    exact fresh id member (fixed.symm ▸ attached.known id member)
  · have others := copies.others
    have fresh := copies.fresh
    have distinct := copies.distinct
    refine ⟨?_, ?_, ?_, ?_, ?_⟩
    · rw [suffix]
      intro id outside
      rw [others id outside]
      simp [remapEntryId]
    · rw [suffix]
      exact fresh
    · rw [suffix]
      exact distinct
    · rw [suffix, ← rewritten_eq_of_refersBack back]
      exact branch
    · exact ⟨_, entries⟩

/-- A rewrite is faithful or leaves the active branch exactly when an append that throws is the
first one and, if none does, the entries of the suffix refer back. -/
theorem rewrite_is_all_or_nothing (run : RewriteRun Message Payload)
    (file : SessionFile Message Payload) : run.AllOrNothing file ↔ run.Clean file := by
  cases suffix : run.suffix (activeBranch file.entries) with
  | nil =>
    obtain ⟨entries, unchanged⟩ := rewrite_of_suffix_nil suffix
    refine ⟨fun _ => .inl suffix, fun _ => ⟨fun changed => ?_, fun _ => by rw [entries]⟩⟩
    exact absurd (unchanged.symm.trans changed) Bool.false_ne_true
  | cons first rest =>
    obtain ⟨entries, changed⟩ := rewrite_of_suffix_cons suffix
    have attached := attached_of_suffix suffix
    unfold RewriteRun.Clean
    dsimp only
    rw [suffix]
    cases first0 : run.throws 0 with
    | true =>
      have stops : run.appended file.entries first rest =
          (branchedAt file.entries first, false) := by
        rw [RewriteRun.appended, appendSuffix, first0, if_pos rfl]
      rw [stops] at entries changed
      refine ⟨fun _ => .inr (.inl rfl), fun _ => ⟨fun reported => ?_, fun _ => by rw [entries]; rfl⟩⟩
      exact absurd (changed.symm.trans reported) Bool.false_ne_true
    | false =>
      by_cases succeeds : ∀ index < (first :: rest).length, run.throws index = false
      · obtain ⟨completes, faithful⟩ := faithful_iff_of_succeeds suffix succeeds
        rw [completes] at changed
        constructor
        · intro clean
          have copies := clean.changed changed
          rw [entries] at copies
          exact .inr (.inr ⟨succeeds, faithful.1 copies⟩)
        · rintro (nothing | thrown | ⟨-, back⟩)
          · exact absurd nothing (List.cons_ne_nil _ _)
          · exact absurd thrown Bool.false_ne_true
          · refine ⟨fun _ => entries ▸ faithful.2 back, fun unchanged => ?_⟩
            exact absurd (changed.symm.trans unchanged) Bool.noConfusion
      · have stops : (run.appended file.entries first rest).2 = false := by
          refine Bool.eq_false_iff.2 fun completes => succeeds fun index bound => ?_
          simpa using succeeds_of_completes completes index bound
        obtain ⟨added, appends, someAdded⟩ := appendSuffix_appends attached.follows 0
        constructor
        · intro clean
          have same := clean.unchanged (changed.trans stops)
          rw [entries] at same
          exact absurd same (activeBranch_ne_of_appends attached suffix appends
            (someAdded (List.cons_ne_nil _ _) first0))
        · rintro (nothing | thrown | ⟨all, -⟩)
          · exact absurd nothing (List.cons_ne_nil _ _)
          · exact absurd thrown Bool.false_ne_true
          · exact absurd all succeeds

/-! ### A rewrite that is broken off -/

/-- Ids that are longer than all others. -/
def longIds : IdSource String String where
  next entries := String.ofList (List.replicate ((entryIds entries).map String.length).sum.succ 'x')
  named entries := by
    have blank : isWhiteSpace 'x' = false := by decide
    generalize ((entryIds entries).map String.length).sum = length
    intro empty
    simp [trim, trimWith, List.replicate_succ, blank, List.rdropWhile] at empty
    exact absurd (empty 'x' (.inr rfl)) (by rw [blank]; exact Bool.false_ne_true)
  fresh entries member := by
    have bound : ∀ (lengths : List Nat), ∀ length ∈ lengths, length ≤ lengths.sum :=
      fun lengths length => List.le_sum_of_mem
    have long := bound _ _ (List.mem_map_of_mem (f := String.length) member)
    simp [entryIds] at long

/-- The replacement of the first message of two, with an append that throws at the second. -/
def brokenOff : RewriteRun String String where
  ids := longIds
  estimateMessageBytes := String.length
  throws index := index = 1
  thrown := "ENOSPC"
  replacements := [("a", "short")]

/-- A branch of two messages. -/
def twoMessages : SessionFile String String where
  entries := [⟨"b", some "a", .message "answer"⟩, ⟨"a", none, .message "question"⟩]
  isTree := by
    refine .cons (.cons .nil (by decide) (by simp) nofun) (by decide) (by decide) ?_
    rintro _ ⟨⟩
    decide

/-- The rewrite reports no change, and the second message is gone from the active branch. -/
theorem broken_rewrite_loses_entries : ¬ ∀ (run : RewriteRun String String)
    (file : SessionFile String String), run.AllOrNothing file := by
  intro holds
  have same := (holds brokenOff twoMessages).unchanged (by decide)
  revert same
  decide

end OpenClaw.Rewrite
