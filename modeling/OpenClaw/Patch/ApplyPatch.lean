/-
This file is `applyPatch`, and what a patch that succeeds has done to the files.

The file operations are parameters: a sandbox bridge, the workspace-bound operations or
the plain ones. They act on a store that is opaque here but for the text of each file,
and a path names a file; several spellings may name the same one. `Lawful` says what an
operation that succeeds has done.

A move writes the destination and then removes the source. When both are the same file
this removes what it has just written, so what a patch states is what happens exactly
when no move is of that kind.
-/

import OpenClaw.Patch.UpdateHunk

namespace OpenClaw.Patch

open Text

/-! ### File operations -/

structure ResolvedPath where
  resolved : String
  display : String
  deriving DecidableEq, Repr

inductive PathAliasPolicy
  | strict
  | unlinkTarget
  deriving DecidableEq, Repr

/-- `PatchFileOps`, with the path functions the code calls. -/
structure PatchFileOps (Store : Type) where
  resolvePatchPath : String → PathAliasPolicy → EStateM String Store ResolvedPath
  dirname : String → String
  readFile : String → EStateM String Store String
  writeFile : String → String → EStateM String Store Unit
  remove : String → EStateM String Store Unit
  mkdirp : String → EStateM String Store Unit

/-! ### The summary -/

inductive SummaryBucket
  | added
  | modified
  | deleted
  deriving DecidableEq, Repr

structure ApplyPatchSummary where
  added : List String := []
  modified : List String := []
  deleted : List String := []
  deriving DecidableEq, Repr

def ApplyPatchSummary.bucket (summary : ApplyPatchSummary) : SummaryBucket → List String
  | .added => summary.added
  | .modified => summary.modified
  | .deleted => summary.deleted

def recordSummary (summary : ApplyPatchSummary) (bucket : SummaryBucket) (value : String) :
    ApplyPatchSummary :=
  if (summary.bucket bucket).contains value then summary
  else match bucket with
    | .added => { summary with added := summary.added ++ [value] }
    | .modified => { summary with modified := summary.modified ++ [value] }
    | .deleted => { summary with deleted := summary.deleted ++ [value] }

def formatSummary (summary : ApplyPatchSummary) : String :=
  "\n".intercalate ("Success. Updated the following files:" ::
    (summary.added.map ("A " ++ ·) ++ summary.modified.map ("M " ++ ·) ++
      summary.deleted.map ("D " ++ ·)))

structure ApplyPatchResult where
  summary : ApplyPatchSummary
  text : String
  deriving DecidableEq, Repr

/-! ### Applying -/

section Applying

variable {Store : Type} (ops : PatchFileOps Store)

def ensureDir (filePath : String) : EStateM String Store Unit :=
  let parent := ops.dirname filePath
  if parent = "" || parent = "." then pure () else ops.mkdirp parent

def applyUpdateHunk (filePath : String) (chunks : List UpdateFileChunk) :
    EStateM String Store String := fun store =>
  match ops.readFile filePath store with
  | .ok originalContents next =>
    match updatedText filePath chunks originalContents with
    | .ok applied => .ok applied next
    | .error problem => .error problem next
  | .error problem next =>
    .error ("Failed to read file to update " ++ filePath ++ ": " ++ problem) next

def applyHunk (summary : ApplyPatchSummary) : Hunk → EStateM String Store ApplyPatchSummary
  | .add path contents => do
    let target ← ops.resolvePatchPath path .strict
    ensureDir ops target.resolved
    ops.writeFile target.resolved contents
    pure (recordSummary summary .added target.display)
  | .delete path => do
    let target ← ops.resolvePatchPath path .unlinkTarget
    ops.remove target.resolved
    pure (recordSummary summary .deleted target.display)
  | .update path movePath chunks => do
    let target ← ops.resolvePatchPath path .strict
    let applied ← applyUpdateHunk ops target.resolved chunks
    match nonEmpty movePath with
    | some movePath => do
      let moveTarget ← ops.resolvePatchPath movePath .strict
      ensureDir ops moveTarget.resolved
      ops.writeFile moveTarget.resolved applied
      ops.remove target.resolved
      pure (recordSummary summary .modified moveTarget.display)
    | none => do
      ops.writeFile target.resolved applied
      pure (recordSummary summary .modified target.display)

/-- The loop over the hunks. `aborted` is what the signal says before each of them. -/
def applyHunks (aborted : Nat → Bool) :
    Nat → List Hunk → ApplyPatchSummary → EStateM String Store ApplyPatchSummary
  | _, [], summary => pure summary
  | index, hunk :: rest, summary =>
    if aborted index then throw "Aborted"
    else do
      let next ← applyHunk ops summary hunk
      applyHunks aborted (index + 1) rest next

def applyPatch (aborted : Nat → Bool) (input : String) : EStateM String Store ApplyPatchResult :=
  match parsePatchText input with
  | .error problem => throw problem
  | .ok hunks =>
    if hunks.isEmpty then throw "No files were modified."
    else do
      let summary ← applyHunks ops aborted 0 hunks {}
      pure { summary, text := formatSummary summary }

end Applying

/-! ### What a patch states -/

section Effects

variable {File : Type} [DecidableEq File] (fileOf : String → File)
  (target : String → ResolvedPath)

/-- The text of each file that is there. -/
abbrev Contents (File : Type) := File → Option String

/-- The file a path of a patch names. -/
def named (path : String) : File := fileOf (target path).resolved

/-- What one hunk states of the files before and after it. -/
inductive HunkEffect : Hunk → Contents File → Contents File → Prop
  | add (path contents : String) (files : Contents File) :
      HunkEffect (.add path contents) files
        (Function.update files (named fileOf target path) (some contents))
  | delete (path : String) (files : Contents File) :
      HunkEffect (.delete path) files (Function.update files (named fileOf target path) none)
  | update (path : String) (movePath : Option String) (chunks : List UpdateFileChunk)
      (files : Contents File) (text applied : String) (stays : nonEmpty movePath = none)
      (present : files (named fileOf target path) = some text)
      (updated : updatedText (target path).resolved chunks text = .ok applied) :
      HunkEffect (.update path movePath chunks) files
        (Function.update files (named fileOf target path) (some applied))
  | move (path : String) (movePath : Option String) (destination : String)
      (chunks : List UpdateFileChunk) (files : Contents File) (text applied : String)
      (moves : nonEmpty movePath = some destination)
      (present : files (named fileOf target path) = some text)
      (updated : updatedText (target path).resolved chunks text = .ok applied) :
      HunkEffect (.update path movePath chunks) files
        (Function.update (Function.update files (named fileOf target path) none)
          (named fileOf target destination) (some applied))

/-- What the hunks state, one after the other. -/
def HunksEffect : List Hunk → Contents File → Contents File → Prop
  | [], before, after => after = before
  | hunk :: rest, before, after =>
    ∃ between, HunkEffect fileOf target hunk before between ∧ HunksEffect rest between after

/-- The files a hunk names. -/
def Hunk.files : Hunk → List File
  | .add path _ => [named fileOf target path]
  | .delete path => [named fileOf target path]
  | .update path movePath _ =>
    named fileOf target path :: ((nonEmpty movePath).map (named fileOf target)).toList

/-- Whether a hunk moves a file onto itself. -/
def Hunk.movesOntoItself : Hunk → Prop
  | .update path movePath _ =>
    (nonEmpty movePath).map (named fileOf target) = some (named fileOf target path)
  | _ => False

/-- The line of the summary a hunk is reported in: a move is reported at its destination. -/
def Hunk.report : Hunk → SummaryBucket × String
  | .add path _ => (.added, (target path).display)
  | .delete path => (.deleted, (target path).display)
  | .update path movePath _ => (.modified, (target ((nonEmpty movePath).getD path)).display)

/-- What a file operation that succeeds has done. -/
structure PatchFileOps.Lawful {Store : Type} (ops : PatchFileOps Store)
    (contents : Store → Contents File) : Prop where
  resolvePatchPath : ∀ path policy store found next,
    ops.resolvePatchPath path policy store = .ok found next →
    found = target path ∧ contents next = contents store
  readFile : ∀ path store text next, ops.readFile path store = .ok text next →
    contents store (fileOf path) = some text ∧ contents next = contents store
  writeFile : ∀ path text store next, ops.writeFile path text store = .ok () next →
    contents next = Function.update (contents store) (fileOf path) (some text)
  remove : ∀ path store next, ops.remove path store = .ok () next →
    contents next = Function.update (contents store) (fileOf path) none
  mkdirp : ∀ path store next, ops.mkdirp path store = .ok () next →
    contents next = contents store

/-! ### What a successful run has done -/

theorem bind_eq_ok {Store α β : Type} {first : EStateM String Store α}
    {second : α → EStateM String Store β} {store after : Store} {result : β} :
    (first >>= second) store = .ok result after ↔
      ∃ value between, first store = .ok value between ∧
        second value between = .ok result after := by
  show EStateM.bind first second store = _ ↔ _
  rw [EStateM.bind]
  cases ran : first store with
  | ok value between => exact ⟨fun continued => ⟨_, _, rfl, continued⟩,
      fun ⟨_, _, same, continued⟩ => by cases same; exact continued⟩
  | error problem left => exact ⟨nofun, fun ⟨_, _, same, _⟩ => absurd same nofun⟩

theorem pure_eq_ok {Store α : Type} {value result : α} {store after : Store}
    (ran : (pure value : EStateM String Store α) store = .ok result after) :
    result = value ∧ after = store := by
  cases ran
  exact ⟨rfl, rfl⟩

variable {fileOf target} {Store : Type} {ops : PatchFileOps Store}
    {contents : Store → Contents File}

theorem contents_ensureDir (lawful : ops.Lawful fileOf target contents) {filePath : String}
    {store after : Store} (ran : ensureDir ops filePath store = .ok () after) :
    contents after = contents store := by
  rw [ensureDir] at ran
  split at ran
  · rw [(pure_eq_ok ran).2]
  · exact lawful.mkdirp _ _ _ ran

theorem applyUpdateHunk_ok (lawful : ops.Lawful fileOf target contents) {filePath applied : String}
    {chunks : List UpdateFileChunk} {store after : Store}
    (ran : applyUpdateHunk ops filePath chunks store = .ok applied after) :
    (∃ text, contents store (fileOf filePath) = some text ∧
      updatedText filePath chunks text = .ok applied) ∧ contents after = contents store := by
  rw [applyUpdateHunk] at ran
  cases read : ops.readFile filePath store with
  | error problem left =>
    rw [read] at ran
    exact absurd ran nofun
  | ok text next =>
    obtain ⟨present, kept⟩ := lawful.readFile _ _ _ _ read
    simp only [read] at ran
    cases updated : updatedText filePath chunks text with
    | error problem =>
      rw [updated] at ran
      exact absurd ran nofun
    | ok value =>
      rw [updated] at ran
      cases ran
      exact ⟨⟨text, present, updated⟩, kept⟩

/-- A hunk that does not move a file onto itself has the effect it states, and is reported. -/
theorem applyHunk_ok (lawful : ops.Lawful fileOf target contents) {hunk : Hunk}
    (apart : ¬hunk.movesOntoItself fileOf target) {summary next : ApplyPatchSummary}
    {store after : Store} (ran : applyHunk ops summary hunk store = .ok next after) :
    HunkEffect fileOf target hunk (contents store) (contents after) ∧
      next = recordSummary summary (hunk.report target).1 (hunk.report target).2 := by
  cases hunk with
  | add path text =>
    obtain ⟨found, resolved, resolves, ran⟩ := bind_eq_ok.1 ran
    obtain ⟨⟨⟩, made, makes, ran⟩ := bind_eq_ok.1 ran
    obtain ⟨⟨⟩, written, writes, ran⟩ := bind_eq_ok.1 ran
    obtain ⟨rfl, kept⟩ := lawful.resolvePatchPath _ _ _ _ _ resolves
    obtain ⟨rfl, rfl⟩ := pure_eq_ok ran
    rw [lawful.writeFile _ _ _ _ writes, contents_ensureDir lawful makes, kept]
    exact ⟨.add path text _, rfl⟩
  | delete path =>
    obtain ⟨found, resolved, resolves, ran⟩ := bind_eq_ok.1 ran
    obtain ⟨⟨⟩, removed, removes, ran⟩ := bind_eq_ok.1 ran
    obtain ⟨rfl, kept⟩ := lawful.resolvePatchPath _ _ _ _ _ resolves
    obtain ⟨rfl, rfl⟩ := pure_eq_ok ran
    rw [lawful.remove _ _ _ removes, kept]
    exact ⟨.delete path _, rfl⟩
  | update path movePath chunks =>
    obtain ⟨found, resolved, resolves, ran⟩ := bind_eq_ok.1 ran
    obtain ⟨applied, read, reads, ran⟩ := bind_eq_ok.1 ran
    obtain ⟨rfl, kept⟩ := lawful.resolvePatchPath _ _ _ _ _ resolves
    obtain ⟨⟨text, present, updated⟩, readKept⟩ := applyUpdateHunk_ok lawful reads
    rw [kept] at present
    cases moves : nonEmpty movePath with
    | none =>
      rw [moves] at ran
      obtain ⟨⟨⟩, written, writes, ran⟩ := bind_eq_ok.1 ran
      obtain ⟨rfl, rfl⟩ := pure_eq_ok ran
      rw [lawful.writeFile _ _ _ _ writes, readKept, kept]
      exact ⟨.update path movePath chunks _ text applied moves present updated,
        by rw [Hunk.report, moves]; rfl⟩
    | some destination =>
      rw [moves] at ran
      obtain ⟨moved, movedResolved, movedResolves, ran⟩ := bind_eq_ok.1 ran
      obtain ⟨⟨⟩, made, makes, ran⟩ := bind_eq_ok.1 ran
      obtain ⟨⟨⟩, written, writes, ran⟩ := bind_eq_ok.1 ran
      obtain ⟨⟨⟩, removed, removes, ran⟩ := bind_eq_ok.1 ran
      obtain ⟨rfl, movedKept⟩ := lawful.resolvePatchPath _ _ _ _ _ movedResolves
      obtain ⟨rfl, rfl⟩ := pure_eq_ok ran
      have elsewhere : fileOf (target destination).resolved ≠ fileOf (target path).resolved :=
        fun same => apart (by
          rw [Hunk.movesOntoItself, moves, Option.map_some, named, named, same])
      rw [lawful.remove _ _ _ removes, lawful.writeFile _ _ _ _ writes,
        contents_ensureDir lawful makes, movedKept, readKept, kept,
        Function.update_comm elsewhere]
      exact ⟨.move path movePath destination chunks _ text applied moves present updated,
        by rw [Hunk.report, moves]; rfl⟩

theorem applyHunks_ok (lawful : ops.Lawful fileOf target contents) {aborted : Nat → Bool}
    {index : Nat} {hunks : List Hunk} (apart : ∀ hunk ∈ hunks, ¬hunk.movesOntoItself fileOf target)
    {summary result : ApplyPatchSummary} {store after : Store}
    (ran : applyHunks ops aborted index hunks summary store = .ok result after) :
    HunksEffect fileOf target hunks (contents store) (contents after) ∧
      result = (hunks.map (Hunk.report target)).foldl
        (fun summary report => recordSummary summary report.1 report.2) summary := by
  induction hunks generalizing index summary store with
  | nil =>
    obtain ⟨rfl, rfl⟩ := pure_eq_ok ran
    exact ⟨rfl, rfl⟩
  | cons hunk rest inductionHypothesis =>
    obtain ⟨thisApart, restApart⟩ := List.forall_mem_cons.1 apart
    rw [applyHunks] at ran
    split at ran
    · exact absurd ran nofun
    · obtain ⟨next, between, first, others⟩ := bind_eq_ok.1 ran
      obtain ⟨effect, rfl⟩ := applyHunk_ok lawful thisApart first
      obtain ⟨effects, recorded⟩ := inductionHypothesis restApart others
      exact ⟨⟨_, effect, effects⟩, recorded⟩

/-- A hunk changes no file but those it names. -/
theorem HunkEffect.elsewhere {hunk : Hunk} {before after : Contents File}
    (effect : HunkEffect fileOf target hunk before after) {file : File}
    (other : file ∉ hunk.files fileOf target) : after file = before file := by
  cases effect with
  | add => exact Function.update_of_ne (by simpa [Hunk.files] using other) _ _
  | delete => exact Function.update_of_ne (by simpa [Hunk.files] using other) _ _
  | update _ _ _ _ _ _ stays =>
    exact Function.update_of_ne (by simpa [Hunk.files, stays] using other) _ _
  | move _ _ _ _ _ _ _ moves =>
    simp only [Hunk.files, moves, Option.map_some, Option.toList_some, List.mem_cons,
      List.not_mem_nil, or_false, not_or] at other
    rw [Function.update_of_ne other.2, Function.update_of_ne other.1]

theorem HunksEffect.elsewhere {hunks : List Hunk} {before after : Contents File}
    (effects : HunksEffect fileOf target hunks before after) {file : File}
    (other : ∀ hunk ∈ hunks, file ∉ hunk.files fileOf target) : after file = before file := by
  induction hunks generalizing before with
  | nil => exact congrFun effects file
  | cons hunk rest inductionHypothesis =>
    obtain ⟨thisOther, restOther⟩ := List.forall_mem_cons.1 other
    obtain ⟨between, effect, others⟩ := effects
    exact (inductionHypothesis others restOther).trans (effect.elsewhere thisOther)

end Effects

/-! ### What the summary lists -/

theorem bucket_recordSummary (summary : ApplyPatchSummary) (bucket other : SummaryBucket)
    (value : String) :
    (recordSummary summary bucket value).bucket other =
      if other = bucket ∧ value ∉ summary.bucket bucket then summary.bucket bucket ++ [value]
      else summary.bucket other := by
  by_cases seen : value ∈ summary.bucket bucket
  · simp [recordSummary, seen]
  · cases bucket <;> cases other <;> simp_all [recordSummary, ApplyPatchSummary.bucket]

/-- Each bucket lists what is reported in it, once. -/
theorem bucket_foldl (reports : List (SummaryBucket × String)) (summary : ApplyPatchSummary)
    (bucket : SummaryBucket) (distinct : (summary.bucket bucket).Nodup) :
    let result := reports.foldl (fun summary report => recordSummary summary report.1 report.2)
      summary
    (result.bucket bucket).Nodup ∧ ∀ value, value ∈ result.bucket bucket ↔
      value ∈ summary.bucket bucket ∨ (bucket, value) ∈ reports := by
  induction reports generalizing summary with
  | nil => exact ⟨distinct, fun value => by simp⟩
  | cons report rest inductionHypothesis =>
    obtain ⟨reported, value⟩ := report
    have recorded := bucket_recordSummary summary reported bucket value
    by_cases fresh : bucket = reported ∧ value ∉ summary.bucket reported
    · obtain ⟨rfl, unseen⟩ := fresh
      rw [if_pos ⟨rfl, unseen⟩] at recorded
      have step := inductionHypothesis (recordSummary summary bucket value)
        (by rw [recorded]; exact List.nodup_append.2 ⟨distinct, List.nodup_singleton _, by
          rintro first isFirst second isSecond rfl
          exact unseen (List.mem_singleton.1 isSecond ▸ isFirst)⟩)
      refine ⟨step.1, fun other => (step.2 other).trans ?_⟩
      rw [recorded]
      simp only [List.mem_append, List.mem_cons, List.not_mem_nil, or_false, Prod.mk.injEq,
        true_and]
      tauto
    · rw [if_neg fresh] at recorded
      have step := inductionHypothesis (recordSummary summary reported value) (by rwa [recorded])
      refine ⟨step.1, fun other => (step.2 other).trans ?_⟩
      rw [recorded, List.mem_cons, Prod.mk.injEq]
      constructor
      · tauto
      · rintro (listed | ⟨rfl, rfl⟩ | listed)
        · exact .inl listed
        · exact .inl (by tauto)
        · exact .inr listed

/-! ### The patch as a whole -/

/-- A patch that succeeds, and moves no file onto itself, has the effects it states: hunk by hunk,
on the files it names and on no other, and its summary lists what it has added, updated, moved to
and deleted. -/
theorem applyPatch_has_stated_effects {Store File : Type} [DecidableEq File]
    (ops : PatchFileOps Store) (fileOf : String → File) (target : String → ResolvedPath)
    (contents : Store → Contents File) (lawful : ops.Lawful fileOf target contents)
    (aborted : Nat → Bool) (input : String) (hunks : List Hunk)
    (parsed : parsePatchText input = .ok hunks)
    (apart : ∀ hunk ∈ hunks, ¬hunk.movesOntoItself fileOf target) (store after : Store)
    (result : ApplyPatchResult) (ran : applyPatch ops aborted input store = .ok result after) :
    HunksEffect fileOf target hunks (contents store) (contents after) ∧
      (∀ file, (∀ hunk ∈ hunks, file ∉ hunk.files fileOf target) →
        contents after file = contents store file) ∧
      (∀ bucket, (result.summary.bucket bucket).Nodup ∧ ∀ value,
        value ∈ result.summary.bucket bucket ↔
          ∃ hunk ∈ hunks, hunk.report target = (bucket, value)) ∧
      result.text = formatSummary result.summary := by
  rw [applyPatch, parsed] at ran
  dsimp only at ran
  split at ran
  · exact absurd ran nofun
  · obtain ⟨summary, between, applied, ended⟩ := bind_eq_ok.1 ran
    obtain ⟨rfl, rfl⟩ := pure_eq_ok ended
    obtain ⟨effects, recorded⟩ := applyHunks_ok lawful apart applied
    refine ⟨effects, fun file other => effects.elsewhere other, fun bucket => ?_, rfl⟩
    have lists := bucket_foldl (hunks.map (Hunk.report target)) {} bucket
      (by cases bucket <;> exact List.nodup_nil)
    rw [show summary = _ from recorded]
    refine ⟨lists.1, fun value => (lists.2 value).trans ?_⟩
    have empty : value ∉ ({} : ApplyPatchSummary).bucket bucket := by
      cases bucket <;> exact List.not_mem_nil
    rw [List.mem_map]
    exact ⟨fun listed => listed.resolve_left empty, .inr⟩

/-- Operations on a store that is its files, each path its own name. -/
def plainOps : PatchFileOps (Contents String) where
  resolvePatchPath path _ := pure ⟨path, path⟩
  dirname _ := "."
  readFile path := fun files =>
    match files path with
    | some text => .ok text files
    | none => .error "ENOENT" files
  writeFile path text := fun files => .ok () (Function.update files path (some text))
  remove path := fun files =>
    if (files path).isSome then .ok () (Function.update files path none) else .error "ENOENT" files
  mkdirp _ := pure ()

theorem plainOps_lawful :
    plainOps.Lawful id (fun path => ⟨path, path⟩) fun files : Contents String => files where
  resolvePatchPath path policy store found next ran := by
    obtain ⟨rfl, rfl⟩ := pure_eq_ok ran
    exact ⟨rfl, rfl⟩
  readFile path store text next ran := by
    simp only [plainOps] at ran
    split at ran
    · rename_i present
      cases ran
      exact ⟨present, rfl⟩
    · exact absurd ran nofun
  writeFile path text store next ran := by
    cases ran
    rfl
  remove path store next ran := by
    simp only [plainOps] at ran
    split at ran
    · cases ran
      rfl
    · exact absurd ran nofun
  mkdirp path store next ran := by
    rw [(pure_eq_ok ran).2]

def oneFile : Contents String := Function.update (fun _ => none) "a" (some "x\n")

/-- The run of a move of the one file. -/
theorem oneFile_moves {input : String} (destination : String) (isNamed : destination ≠ "")
    (parsed : parsePatchText input =
      .ok [.update "a" (some destination) [⟨none, ["x"], ["y"], false⟩]]) :
    applyPatch plainOps (fun _ => false) input oneFile =
      .ok ⟨{ modified := [destination] }, formatSummary { modified := [destination] }⟩
        (Function.update (Function.update oneFile destination (some "y\n")) "a" none) := by
  have updated : updatedText "a" [⟨none, ["x"], ["y"], false⟩] "x\n" = .ok "y\n" :=
    by decide +kernel
  have moves : nonEmpty (some destination) = some destination :=
    (nonEmpty_eq_some_iff _ _).2 ⟨rfl, isNamed⟩
  have read : applyUpdateHunk plainOps "a" [⟨none, ["x"], ["y"], false⟩] oneFile =
      .ok "y\n" oneFile := by
    rw [applyUpdateHunk, show plainOps.readFile "a" oneFile = .ok "x\n" oneFile from rfl]
    simp only [updated]
  have present : (Function.update oneFile destination (some "y\n") "a").isSome = true := by
    rw [Function.update_apply]
    split <;> rfl
  have ran : applyHunk plainOps {} (.update "a" (some destination) [⟨none, ["x"], ["y"], false⟩])
      oneFile = .ok { modified := [destination] }
        (Function.update (Function.update oneFile destination (some "y\n")) "a" none) := by
    refine bind_eq_ok.2 ⟨⟨"a", "a"⟩, oneFile, rfl, bind_eq_ok.2 ⟨"y\n", oneFile, read, ?_⟩⟩
    rw [moves]
    refine bind_eq_ok.2 ⟨⟨destination, destination⟩, oneFile, rfl, bind_eq_ok.2
      ⟨(), oneFile, rfl, bind_eq_ok.2 ⟨(), _, rfl, bind_eq_ok.2 ⟨(), _, ?_, rfl⟩⟩⟩⟩
    exact if_pos present
  rw [applyPatch, parsed]
  exact bind_eq_ok.2 ⟨_, _, bind_eq_ok.2 ⟨_, _, ran, rfl⟩, rfl⟩

theorem moved_file_has_stated_effects :
    HunksEffect id (fun path => ⟨path, path⟩) [.update "a" (some "b") [⟨none, ["x"], ["y"], false⟩]]
        oneFile (Function.update (Function.update oneFile "b" (some "y\n")) "a" none) ∧
      (∀ file, (∀ hunk ∈ [Hunk.update "a" (some "b") [⟨none, ["x"], ["y"], false⟩]],
          file ∉ hunk.files id fun path => ⟨path, path⟩) →
        Function.update (Function.update oneFile "b" (some "y\n")) "a" none file = oneFile file) ∧
      (∀ bucket, (ApplyPatchSummary.bucket { modified := ["b"] } bucket).Nodup ∧ ∀ value,
        value ∈ ApplyPatchSummary.bucket { modified := ["b"] } bucket ↔
          ∃ hunk ∈ [Hunk.update "a" (some "b") [⟨none, ["x"], ["y"], false⟩]],
            hunk.report (fun path => ⟨path, path⟩) = (bucket, value)) ∧
      formatSummary { modified := ["b"] } = formatSummary { modified := ["b"] } :=
  have parsed : parsePatchText
      "*** Begin Patch\n*** Update File: a\n*** Move to: b\n@@\n-x\n+y\n*** End Patch" =
        .ok [.update "a" (some "b") [⟨none, ["x"], ["y"], false⟩]] := by
    decide +kernel
  applyPatch_has_stated_effects plainOps id (fun path => ⟨path, path⟩) (fun files => files)
    plainOps_lawful (fun _ => false) _ _ parsed
    (by
      rw [List.forall_mem_singleton]
      show ¬(nonEmpty (some "b")).map (named id _) = some _
      decide)
    oneFile _ _ (oneFile_moves "b" (by decide) parsed)

/-- A file moved onto itself is gone, and the source of a move is listed nowhere. -/
theorem moves_lose_and_leave_out :
    (∃ result after, applyPatch plainOps (fun _ => false)
        "*** Begin Patch\n*** Update File: a\n*** Move to: a\n@@\n-x\n+y\n*** End Patch" oneFile =
          .ok result after ∧ after "a" = none) ∧
      ∃ result after, applyPatch plainOps (fun _ => false)
          "*** Begin Patch\n*** Update File: a\n*** Move to: b\n@@\n-x\n+y\n*** End Patch" oneFile =
            .ok result after ∧ oneFile "a" = some "x\n" ∧ after "a" = none ∧
        ∀ bucket, "a" ∉ result.summary.bucket bucket :=
  ⟨⟨_, _, oneFile_moves "a" (by decide) (by decide +kernel), rfl⟩,
    ⟨_, _, oneFile_moves "b" (by decide) (by decide +kernel), rfl, rfl,
      fun bucket => by cases bucket <;> decide⟩⟩

end OpenClaw.Patch
