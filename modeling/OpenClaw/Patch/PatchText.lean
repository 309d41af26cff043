/-
This file is the parser of `apply-patch.ts`: a patch text is cut into lines, its envelope
is checked, and the lines between are read as hunks.

The loops of the source take their lines from the front until none is left. Here each
has as much fuel as it has lines; every hunk and every chunk takes at least one, so the
fuel is never the reason to stop.
-/

import OpenClaw.Shared.Text

namespace OpenClaw.Patch

open Text

/-! ### Hunks -/

structure UpdateFileChunk where
  changeContext : Option String := none
  oldLines : List String := []
  newLines : List String := []
  isEndOfFile : Bool := false
  deriving DecidableEq, Repr

inductive Hunk
  | add (path contents : String)
  | delete (path : String)
  | update (path : String) (movePath : Option String) (chunks : List UpdateFileChunk)
  deriving DecidableEq, Repr

/-! ### Lines -/

/-- `startsWith` a marker, and what `slice` leaves behind it. -/
def afterMarker (marker line : String) : Option String :=
  if marker.toList.isPrefixOf line.toList then
    some (String.ofList (line.toList.drop marker.toList.length))
  else none

/-- `split(/\r?\n/)`. -/
def splitLines : List Char → List (List Char)
  | [] => [[]]
  | '\r' :: '\n' :: rest => [] :: splitLines rest
  | '\n' :: rest => [] :: splitLines rest
  | character :: rest =>
    match splitLines rest with
    | [] => [[character]]
    | line :: others => (character :: line) :: others

/-! ### The envelope -/

def checkPatchBoundariesStrict (lines : List String) : Option String :=
  let firstLine := lines.head?.map trim
  let lastLine := lines.getLast?.map trim
  if firstLine = some "*** Begin Patch" && lastLine = some "*** End Patch" then none
  else if firstLine ≠ some "*** Begin Patch" then
    some "The first line of the patch must be '*** Begin Patch'"
  else some "The last line of the patch must be '*** End Patch'"

def checkPatchBoundariesLenient (lines : List String) : Except String (List String) :=
  match checkPatchBoundariesStrict lines with
  | none => .ok lines
  | some strictError =>
    if lines.length < 4 then .error strictError
    else
      let opens := ["<<EOF", "<<'EOF'", "<<\"EOF\""].any fun opening => lines.head? = some opening
      let closes := lines.getLast?.any fun last => "EOF".toList.isSuffixOf last.toList
      if opens && closes then
        let inner := lines.tail.dropLast
        match checkPatchBoundariesStrict inner with
        | none => .ok inner
        | some innerError => .error innerError
      else .error strictError

/-! ### Chunks -/

def invalidHunk (lineNumber : Nat) (problem : String) : String :=
  "Invalid patch hunk at line " ++ toString lineNumber ++ ": " ++ problem

/-- The loop over the lines of a chunk: the chunk, and how many lines it took. -/
def parseChunkLines (lineNumber : Nat) :
    List String → UpdateFileChunk → Nat → Except String (UpdateFileChunk × Nat)
  | [], chunk, parsedLines => .ok (chunk, parsedLines)
  | line :: rest, chunk, parsedLines =>
    if line = "*** End of File" then
      if parsedLines = 0 then
        .error (invalidHunk (lineNumber + 1) "Update hunk does not contain any lines")
      else .ok ({ chunk with isEndOfFile := true }, parsedLines + 1)
    else match line.toList with
      | [] =>
        parseChunkLines lineNumber rest
          { chunk with oldLines := chunk.oldLines ++ [""], newLines := chunk.newLines ++ [""] }
          (parsedLines + 1)
      | ' ' :: content =>
        parseChunkLines lineNumber rest
          { chunk with
            oldLines := chunk.oldLines ++ [String.ofList content]
            newLines := chunk.newLines ++ [String.ofList content] }
          (parsedLines + 1)
      | '+' :: content =>
        parseChunkLines lineNumber rest
          { chunk with newLines := chunk.newLines ++ [String.ofList content] } (parsedLines + 1)
      | '-' :: content =>
        parseChunkLines lineNumber rest
          { chunk with oldLines := chunk.oldLines ++ [String.ofList content] } (parsedLines + 1)
      | _ =>
        if parsedLines = 0 then
          .error (invalidHunk (lineNumber + 1) ("Unexpected line found in update hunk: '" ++ line ++
            "'. Every line should start with ' ' (context line), '+' (added line), or '-' " ++
            "(removed line)"))
        else .ok (chunk, parsedLines)

def parseUpdateFileChunk (lines : List String) (lineNumber : Nat) (allowMissingContext : Bool) :
    Except String (UpdateFileChunk × Nat) :=
  match lines with
  | [] => .error (invalidHunk lineNumber "Update hunk does not contain any lines")
  | first :: rest =>
    let body (changeContext : Option String) (startIndex : Nat) (lines : List String) :=
      if lines.isEmpty then
        .error (invalidHunk (lineNumber + 1) "Update hunk does not contain any lines")
      else (parseChunkLines lineNumber lines { changeContext } 0).map fun (chunk, parsedLines) =>
        (chunk, parsedLines + startIndex)
    if first = "@@" then body none 1 rest
    else match afterMarker "@@ " first with
      | some changeContext => body (some changeContext) 1 rest
      | none =>
        if allowMissingContext then body none 0 lines
        else .error (invalidHunk lineNumber
          ("Expected update hunk to start with a @@ context marker, got: '" ++ first ++ "'"))

/-- The loop over the chunks of an update hunk. -/
def parseChunks (lineNumber : Nat) :
    Nat → List String → Nat → List UpdateFileChunk → Except String (List UpdateFileChunk × Nat)
  | 0, _, consumed, chunks => .ok (chunks, consumed)
  | fuel + 1, remaining, consumed, chunks =>
    match remaining with
    | [] => .ok (chunks, consumed)
    | first :: rest =>
      if trim first = "" then parseChunks lineNumber fuel rest (consumed + 1) chunks
      else if (afterMarker "***" first).isSome then .ok (chunks, consumed)
      else match parseUpdateFileChunk remaining (lineNumber + consumed) chunks.isEmpty with
        | .error problem => .error problem
        | .ok (chunk, chunkLines) =>
          parseChunks lineNumber fuel (remaining.drop chunkLines) (consumed + chunkLines)
            (chunks ++ [chunk])

/-! ### The text -/

def parseOneHunk (lines : List String) (lineNumber : Nat) : Except String (Hunk × Nat) :=
  match lines with
  | [] => .error (invalidHunk lineNumber "empty hunk")
  | first :: rest =>
    let firstLine := trim first
    match afterMarker "*** Add File: " firstLine with
    | some targetPath =>
      let added := (rest.map (afterMarker "+")).takeWhile Option.isSome
      .ok (.add targetPath (String.join (added.map fun line => line.getD "" ++ "\n")),
        added.length + 1)
    | none =>
      match afterMarker "*** Delete File: " firstLine with
      | some targetPath => .ok (.delete targetPath, 1)
      | none =>
        match afterMarker "*** Update File: " firstLine with
        | some targetPath =>
          let movePath := rest.head?.bind fun line => afterMarker "*** Move to: " (trim line)
          let remaining := if movePath.isSome then rest.tail else rest
          let consumed := if movePath.isSome then 2 else 1
          match parseChunks lineNumber remaining.length remaining consumed [] with
          | .error problem => .error problem
          | .ok (chunks, consumed) =>
            if chunks.isEmpty then
              .error (invalidHunk lineNumber
                ("Update file hunk for path '" ++ targetPath ++ "' is empty"))
            else .ok (.update targetPath movePath chunks, consumed)
        | none =>
          .error (invalidHunk lineNumber
            ("'" ++ first ++ "' is not a valid hunk header. Valid hunk " ++
            "headers: '*** Add File: \x7bpath\x7d', '*** Delete File: \x7bpath\x7d', " ++
            "'*** Update File: \x7bpath\x7d'"))

/-- The loop over the hunks of a patch. -/
def parseHunks : Nat → List String → Nat → Except String (List Hunk)
  | 0, _, _ => .ok []
  | fuel + 1, remaining, lineNumber =>
    if remaining.isEmpty then .ok []
    else match parseOneHunk remaining lineNumber with
      | .error problem => .error problem
      | .ok (hunk, consumed) =>
        (parseHunks fuel (remaining.drop consumed) (lineNumber + consumed)).map (hunk :: ·)

def parsePatchText (input : String) : Except String (List Hunk) :=
  let trimmed := trim input
  if trimmed = "" then .error "Invalid patch: input is empty."
  else match checkPatchBoundariesLenient ((splitLines trimmed.toList).map String.ofList) with
    | .error problem => .error problem
    | .ok validated =>
      let remaining := validated.tail.dropLast
      parseHunks remaining.length remaining 2

/-! ### Every hunk takes a line -/

variable {lines : List String}

variable {remaining : List String}

theorem parseChunks_consumes {lineNumber fuel consumed total : Nat}
    {chunks result : List UpdateFileChunk}
    (parsed : parseChunks lineNumber fuel remaining consumed chunks = .ok (result, total)) :
    consumed ≤ total := by
  induction fuel generalizing remaining consumed chunks with
  | zero => exact le_of_eq (Prod.mk.inj (Except.ok.inj parsed)).2
  | succ fuel inductionHypothesis =>
    cases remaining with
    | nil => exact le_of_eq (Prod.mk.inj (Except.ok.inj parsed)).2
    | cons first rest =>
      rw [parseChunks] at parsed
      split at parsed
      · exact Nat.le_of_succ_le (inductionHypothesis parsed)
      split at parsed
      · exact le_of_eq (Prod.mk.inj (Except.ok.inj parsed)).2
      split at parsed
      · exact absurd parsed nofun
      · exact Nat.le_of_add_right_le (inductionHypothesis parsed)

theorem parseOneHunk_consumes {lineNumber consumed : Nat} {hunk : Hunk}
    (parsed : parseOneHunk lines lineNumber = .ok (hunk, consumed)) : 0 < consumed := by
  cases lines with
  | nil => exact absurd parsed nofun
  | cons first rest =>
    rw [parseOneHunk] at parsed
    dsimp only at parsed
    split at parsed
    · rw [← (Prod.mk.inj (Except.ok.inj parsed)).2]
      exact Nat.succ_pos _
    split at parsed
    · rw [← (Prod.mk.inj (Except.ok.inj parsed)).2]
      exact Nat.one_pos
    split at parsed
    · split at parsed
      · exact absurd parsed nofun
      · rename_i chunks total taken
        split at parsed
        · exact absurd parsed nofun
        · rw [← (Prod.mk.inj (Except.ok.inj parsed)).2]
          refine Nat.lt_of_lt_of_le ?_ (parseChunks_consumes taken)
          split <;> omega
    · exact absurd parsed nofun

/-- The lines fall into the hunks, each of which is read where the one before it ends. -/
def FallsInto : List String → Nat → List Hunk → Prop
  | lines, _, [] => lines = []
  | lines, lineNumber, hunk :: hunks => ∃ consumed, 0 < consumed ∧
    parseOneHunk lines lineNumber = .ok (hunk, consumed) ∧
      FallsInto (lines.drop consumed) (lineNumber + consumed) hunks

/-- The fuel is never less than the lines that are left, because a hunk takes a line. -/
theorem parseHunks_iff {fuel lineNumber : Nat} {hunks : List Hunk}
    (enough : remaining.length ≤ fuel) :
    parseHunks fuel remaining lineNumber = .ok hunks ↔ FallsInto remaining lineNumber hunks := by
  induction fuel generalizing remaining lineNumber hunks with
  | zero =>
    obtain rfl := List.length_eq_zero_iff.1 (Nat.le_zero.1 enough)
    cases hunks <;> simp [parseHunks, FallsInto, parseOneHunk]
  | succ fuel inductionHypothesis =>
    cases remaining with
    | nil => cases hunks <;> simp [parseHunks, FallsInto, parseOneHunk]
    | cons first rest =>
      rw [parseHunks, if_neg (by simp)]
      cases parsed : parseOneHunk (first :: rest) lineNumber with
      | error problem => cases hunks <;> simp [FallsInto, parsed]
      | ok result =>
        obtain ⟨hunk, consumed⟩ := result
        have positive := parseOneHunk_consumes parsed
        have shorter : ((first :: rest).drop consumed).length ≤ fuel := by
          rw [List.length_drop]
          omega
        dsimp only
        cases hunks with
        | nil => cases parseHunks fuel _ _ <;> simp [Except.map, FallsInto]
        | cons head hunks =>
          simp only [FallsInto, parsed, Except.ok.injEq, Prod.mk.injEq]
          have behind : ∀ line, _ ↔ FallsInto _ line hunks := fun _ => inductionHypothesis shorter
          constructor
          · intro mapped
            cases later : parseHunks fuel ((first :: rest).drop consumed)
              (lineNumber + consumed) with
            | error problem => simp [later, Except.map] at mapped
            | ok others =>
              simp only [later, Except.map, Except.ok.injEq, List.cons.injEq] at mapped
              exact ⟨consumed, positive, ⟨mapped.1, rfl⟩, (behind _).1 (mapped.2 ▸ later)⟩
          · rintro ⟨_, -, ⟨rfl, rfl⟩, falls⟩
            rw [(behind _).2 falls]
            rfl

example : parsePatchText "*** Begin Patch\n*** Add File: a\n+x\n*** Delete File: b\n*** End Patch" =
    .ok [.add "a" "x\n", .delete "b"] := by
  decide +kernel

end OpenClaw.Patch
