/-
This file compares what an update hunk makes of a file with what its chunks ask for: one
range of the file for each chunk, which matches its old lines and is replaced by its new
ones, the ranges apart and in the order of the chunks.

A chunk is looked for behind the lines that the chunk before it replaces, and as long as this
is so the ranges are apart. Two kinds of chunks are placed without looking at what has been
replaced: one marked as the end of the file, which is compared with the last lines only, and
one without old lines, whose lines go to the end of the file, and before its last line where
that is empty. Where such a range lies in another, replacing the lines from the back to the
front takes away lines that another chunk has put in, without an error.
-/

import OpenClaw.Base.Splices
import OpenClaw.Patch.UpdateHunk

namespace OpenClaw.Patch

open Splices

/-! ### Finding lines -/

/-- How lines are compared, the strictest first. -/
def leniencies : List (String → String) :=
  [id, trimEnd, Text.trim, fun value => normalizePunctuation (Text.trim value)]

/-- The pattern stands at a place of the file, in one of these comparisons. -/
def LooselyMatches (lines pattern : List String) (start : Nat) : Prop :=
  start + pattern.length ≤ lines.length ∧ ∃ normalize ∈ leniencies,
    ((lines.drop start).take pattern.length).map normalize = pattern.map normalize

theorem seekSequence_nil (lines : List String) (start : Nat) (eof : Bool) :
    seekSequence lines [] start eof = some start := rfl

/-- Where a pattern is found: from the start on, or at the very end when that is asked for. -/
theorem seekSequence_spec {lines pattern : List String} {start found : Nat} {eof : Bool}
    (some : pattern ≠ []) (sought : seekSequence lines pattern start eof = .some found) :
    LooselyMatches lines pattern found ∧
      if eof then found + pattern.length = lines.length else start ≤ found := by
  unfold seekSequence at sought
  rw [if_neg (by simpa using some)] at sought
  split at sought
  · exact absurd sought nofun
  next long =>
    obtain ⟨normalize, listed, first⟩ := List.exists_of_findSome?_eq_some sought
    have stands := List.find?_some first
    have place := List.mem_range'_1.1 (List.mem_of_find?_eq_some first)
    refine ⟨⟨by omega, normalize, listed, by simpa [linesMatch] using stands⟩, ?_⟩
    cases eof
    · simp only [Bool.false_eq_true, ↓reduceIte] at place ⊢
      exact place.1
    · simp only [↓reduceIte] at place ⊢
      omega

/-! ### One pass of the loop -/

/-- Where lines are put in that replace nothing. -/
def insertionIndex (lines : List String) : Nat :=
  if lines.getLast? = some "" then lines.length - 1 else lines.length

theorem insertionIndex_le (lines : List String) : insertionIndex lines ≤ lines.length := by
  unfold insertionIndex
  split <;> omega

variable {lines : List String}

theorem insertionIndex_of_lt (inside : insertionIndex lines < lines.length) :
    lines.getLast? = some "" ∧ insertionIndex lines = lines.length - 1 := by
  unfold insertionIndex at inside ⊢
  split at inside
  next ends => exact ⟨ends, if_pos ends⟩
  · exact absurd inside (lt_irrefl _)

/-- What replaces a chunk that is looked for from a line on. -/
inductive Finds (lines : List String) (start : Nat) (chunk : UpdateFileChunk) : Replacement → Prop
  | insertion (noOldLines : chunk.oldLines = []) :
    Finds lines start chunk ⟨insertionIndex lines, 0, chunk.newLines⟩
  | whole {found : Nat} (oldLines : chunk.oldLines ≠ [])
      (sought : seekSequence lines chunk.oldLines start chunk.isEndOfFile = some found) :
    Finds lines start chunk ⟨found, chunk.oldLines.length, chunk.newLines⟩
  | shortened {pattern : List String} {found : Nat} (oldLines : chunk.oldLines = pattern ++ [""])
      (sought : seekSequence lines pattern start chunk.isEndOfFile = some found) :
    Finds lines start chunk ⟨found, pattern.length, dropFinalEmpty chunk.newLines⟩

/-- Where the next chunk is looked for. -/
def nextLine (start : Nat) (chunk : UpdateFileChunk) (replacement : Replacement) : Nat :=
  if chunk.oldLines = [] then start else replacement.startIndex + replacement.oldLen

variable {replacements : List Replacement} {chunk : UpdateFileChunk} {filePath : String}

/-- What a pass of the loop has done when it has not failed. -/
theorem collectReplacements_cons {lineIndex : Nat} {rest : List UpdateFileChunk}
    (collected : collectReplacements lines filePath lineIndex (chunk :: rest) = .ok replacements) :
    ∃ start replacement others, lineIndex ≤ start ∧
      (lineIndex ≤ lines.length → start ≤ lines.length) ∧ Finds lines start chunk replacement ∧
      collectReplacements lines filePath (nextLine start chunk replacement) rest = .ok others ∧
      replacements = replacement :: others := by
  have mapped : ∀ {start next : Nat} {replacement : Replacement}, lineIndex ≤ start →
      (lineIndex ≤ lines.length → start ≤ lines.length) → Finds lines start chunk replacement →
      nextLine start chunk replacement = next →
      (collectReplacements lines filePath next rest).map (replacement :: ·) = .ok replacements →
      ∃ start replacement others, lineIndex ≤ start ∧
      (lineIndex ≤ lines.length → start ≤ lines.length) ∧ Finds lines start chunk replacement ∧
      collectReplacements lines filePath (nextLine start chunk replacement) rest = .ok others ∧
      replacements = replacement :: others := by
    rintro start - replacement onward within finds rfl ok
    cases further : collectReplacements lines filePath (nextLine start chunk replacement) rest with
    | error problem =>
      rw [further] at ok
      exact absurd ok nofun
    | ok others =>
      rw [further] at ok
      exact ⟨start, replacement, others, onward, within, finds, further, (Except.ok.inj ok).symm⟩
  rw [collectReplacements] at collected
  dsimp only at collected
  split at collected
  · exact absurd collected nofun
  next start located =>
    have onward : lineIndex ≤ start ∧ (lineIndex ≤ lines.length → start ≤ lines.length) := by
      split at located
      · obtain rfl := Except.ok.inj located
        exact ⟨le_rfl, id⟩
      next changeContext _ =>
        split at located
        next ctxIndex context =>
          obtain rfl := Except.ok.inj located
          obtain ⟨⟨within, -⟩, after⟩ := seekSequence_spec (List.cons_ne_nil _ _) context
          rw [if_neg Bool.false_ne_true] at after
          exact ⟨after.trans (Nat.le_succ _), fun _ => within⟩
        · exact absurd located nofun
    split at collected
    next noOldLines =>
      have noOldLines := List.isEmpty_iff.1 noOldLines
      exact mapped onward.1 onward.2 (.insertion noOldLines) (if_pos noOldLines) collected
    next oldLines =>
      have oldLines : chunk.oldLines ≠ [] := by simpa using oldLines
      split at collected
      next found sought =>
        exact mapped onward.1 onward.2 (.whole oldLines sought) (if_neg oldLines) collected
      · split at collected
        next ends =>
          split at collected
          next found sought =>
            have parts : chunk.oldLines = chunk.oldLines.dropLast ++ [""] :=
              (List.dropLast_append_getLast? _ ends).symm
            exact mapped onward.1 onward.2 (.shortened parts sought) (if_neg oldLines) collected
          · exact absurd collected nofun
        · exact absurd collected nofun

/-! ### Where the ranges lie -/

def Replacement.splice (replacement : Replacement) : Splice String :=
  ⟨replacement.startIndex, replacement.oldLen, replacement.newLines⟩

@[simp] theorem Replacement.splice_stop (replacement : Replacement) :
    replacement.splice.stop = replacement.startIndex + replacement.oldLen := rfl

/-- A chunk and what replaces it. -/
abbrev PlacedChunk := UpdateFileChunk × Replacement

/-- The chunk says of itself where its range is: at the end, or before the last empty line. -/
structure Settled (lines : List String) (placed : PlacedChunk) : Prop where
  within : placed.2.splice.stop ≤ lines.length
  insertion : placed.1.oldLines = [] →
    placed.2 = ⟨insertionIndex lines, 0, placed.1.newLines⟩
  atEnd : placed.1.oldLines ≠ [] → placed.1.isEndOfFile = true → 0 < placed.2.oldLen →
    placed.2.splice.stop = lines.length

/-- A chunk that is looked for is found behind the lines of those found before it. -/
def Follows (first second : PlacedChunk) : Prop :=
  first.1.oldLines ≠ [] → second.1.oldLines ≠ [] →
    second.1.isEndOfFile = false ∨ second.2.oldLen = 0 → first.2.splice.Before second.2.splice

variable {replacement : Replacement} {chunks : List UpdateFileChunk}

theorem Finds.settled {start : Nat} (finds : Finds lines start chunk replacement)
    (within : start ≤ lines.length) : Settled lines (chunk, replacement) := by
  have looked : ∀ {pattern : List String} {found : Nat},
      seekSequence lines pattern start chunk.isEndOfFile = some found →
      found + pattern.length ≤ lines.length ∧ (chunk.isEndOfFile = true → 0 < pattern.length →
        found + pattern.length = lines.length) := by
    intro pattern found sought
    by_cases empty : pattern = []
    · subst empty
      rw [seekSequence_nil] at sought
      obtain rfl := Option.some.inj sought
      exact ⟨within, fun _ nonempty => absurd nonempty (lt_irrefl _)⟩
    · obtain ⟨⟨inside, -⟩, place⟩ := seekSequence_spec empty sought
      exact ⟨inside, fun eof _ => by rwa [if_pos eof] at place⟩
  cases finds with
  | insertion noOldLines =>
    exact ⟨insertionIndex_le lines, fun _ => rfl, fun oldLines => absurd noOldLines oldLines⟩
  | whole oldLines sought =>
    exact ⟨(looked sought).1, fun noOldLines => absurd noOldLines oldLines,
      fun _ => (looked sought).2⟩
  | shortened parts sought =>
    refine ⟨(looked sought).1, fun noOldLines => ?_, fun _ => (looked sought).2⟩
    exact absurd (parts.symm.trans noOldLines) (by simp)

/-- The lines of a range are the old lines of the chunk up to the leniencies, and its new lines
take their place. A last old line that is empty need not be there, and is none then on either
side. -/
inductive Replaces (lines : List String) (chunk : UpdateFileChunk) : Replacement → Prop
  | insertion (noOldLines : chunk.oldLines = []) :
    Replaces lines chunk ⟨insertionIndex lines, 0, chunk.newLines⟩
  | whole {start : Nat} (oldLines : chunk.oldLines ≠ [])
      (stands : LooselyMatches lines chunk.oldLines start) :
    Replaces lines chunk ⟨start, chunk.oldLines.length, chunk.newLines⟩
  | shortened {pattern : List String} {start : Nat} (oldLines : chunk.oldLines = pattern ++ [""])
      (stands : LooselyMatches lines pattern start) :
    Replaces lines chunk ⟨start, pattern.length, dropFinalEmpty chunk.newLines⟩

theorem Finds.replaces {start : Nat} (finds : Finds lines start chunk replacement)
    (within : start ≤ lines.length) : Replaces lines chunk replacement := by
  have looked : ∀ {pattern : List String} {found : Nat},
      seekSequence lines pattern start chunk.isEndOfFile = some found →
        LooselyMatches lines pattern found := by
    intro pattern found sought
    by_cases empty : pattern = []
    · subst empty
      rw [seekSequence_nil] at sought
      obtain rfl := Option.some.inj sought
      exact ⟨within, id, List.mem_cons_self, rfl⟩
    · exact (seekSequence_spec empty sought).1
  cases finds with
  | insertion noOldLines => exact .insertion noOldLines
  | whole oldLines sought => exact .whole oldLines (looked sought)
  | shortened parts sought => exact .shortened parts (looked sought)

/-- Unless a range is placed at the end of the file, it is behind where its search starts. -/
theorem Finds.start_le {start : Nat} (finds : Finds lines start chunk replacement)
    (oldLines : chunk.oldLines ≠ [])
    (sought : chunk.isEndOfFile = false ∨ replacement.oldLen = 0) :
    start ≤ replacement.startIndex := by
  have looked : ∀ {pattern : List String} {found : Nat},
      seekSequence lines pattern start chunk.isEndOfFile = some found →
      chunk.isEndOfFile = false ∨ pattern.length = 0 → start ≤ found := by
    intro pattern found looked unplaced
    by_cases empty : pattern = []
    · subst empty
      rw [seekSequence_nil] at looked
      exact (Option.some.inj looked).le
    · obtain ⟨-, place⟩ := seekSequence_spec empty looked
      have notEnd := unplaced.resolve_right fun none => empty (List.length_eq_zero_iff.1 none)
      rwa [notEnd, if_neg Bool.false_ne_true] at place
  cases finds with
  | insertion noOldLines => exact absurd noOldLines oldLines
  | whole _ found => exact looked found sought
  | shortened _ found => exact looked found sought

/-- The search goes on behind what it has found. -/
theorem Finds.next {start : Nat} (finds : Finds lines start chunk replacement)
    (within : start ≤ lines.length) :
    start ≤ nextLine start chunk replacement ∧ nextLine start chunk replacement ≤ lines.length ∧
      (chunk.oldLines ≠ [] → replacement.splice.stop = nextLine start chunk replacement) := by
  have settled := finds.settled within
  unfold nextLine
  split
  next noOldLines => exact ⟨le_rfl, within, fun oldLines => absurd noOldLines oldLines⟩
  next oldLines =>
    refine ⟨?_, settled.within, fun _ => rfl⟩
    by_cases placed : chunk.isEndOfFile = true ∧ 0 < replacement.oldLen
    · have ends := settled.atEnd oldLines placed.1 placed.2
      rw [Replacement.splice_stop] at ends
      exact within.trans ends.ge
    · have sought : chunk.isEndOfFile = false ∨ replacement.oldLen = 0 := by
        rw [not_and_or, Bool.not_eq_true] at placed
        exact placed.imp_right (by omega)
      exact (finds.start_le oldLines sought).trans (Nat.le_add_right _ _)

/-- What holds of the ranges of a whole hunk. -/
theorem collectReplacements_spec {lineIndex : Nat}
    (collected : collectReplacements lines filePath lineIndex chunks = .ok replacements)
    (within : lineIndex ≤ lines.length) :
    chunks.length = replacements.length ∧
      (∀ placed ∈ chunks.zip replacements,
        Settled lines placed ∧ Replaces lines placed.1 placed.2) ∧
      (chunks.zip replacements).Pairwise Follows ∧
      ∀ placed ∈ chunks.zip replacements, placed.1.oldLines ≠ [] →
        placed.1.isEndOfFile = false ∨ placed.2.oldLen = 0 →
        lineIndex ≤ placed.2.startIndex := by
  induction chunks generalizing lineIndex replacements with
  | nil =>
    obtain rfl := Except.ok.inj collected
    simp
  | cons chunk rest inductionHypothesis =>
    obtain ⟨start, replacement, others, onward, inside, finds, further, rfl⟩ :=
      collectReplacements_cons collected
    have within := inside within
    obtain ⟨next, nextWithin, stops⟩ := finds.next within
    obtain ⟨lengths, settled, follows, behind⟩ := inductionHypothesis further nextWithin
    refine ⟨congrArg Nat.succ lengths, ?_, ?_, ?_⟩
    · rw [List.zip_cons_cons, List.forall_mem_cons]
      exact ⟨⟨finds.settled within, finds.replaces within⟩, settled⟩
    · rw [List.zip_cons_cons, List.pairwise_cons]
      refine ⟨fun placed member oldLines placedOldLines sought => ?_, follows⟩
      exact (stops oldLines).le.trans (behind placed member placedOldLines sought)
    · rw [List.zip_cons_cons, List.forall_mem_cons]
      refine ⟨fun oldLines sought => onward.trans (finds.start_le oldLines sought),
        fun placed member oldLines sought => ?_⟩
      exact (onward.trans next).trans (behind placed member oldLines sought)

/-! ### Ranges in each other -/

/-- The later of two chunks is placed at the end of the file, or before its last empty line,
without regard to the range of the earlier one, or takes what the earlier one is placed before. -/
inductive Collides (lines : List String) (earlier later : PlacedChunk) : Prop
  /-- The chunk marked as the end of the file takes more lines than the earlier one has left. -/
  | overtaken (eof : later.1.isEndOfFile = true) (oldLines : later.1.oldLines ≠ [])
      (takes : 0 < later.2.oldLen) (alters : earlier.2.splice.Alters)
      (starts : earlier.2.startIndex < lines.length)
      (short : lines.length < earlier.2.splice.stop + later.2.oldLen)
  /-- The later one takes the last empty line, and more, before which lines are put in. -/
  | insertionTaken (noOldLines : earlier.1.oldLines = []) (newLines : earlier.1.newLines ≠ [])
      (ends : lines.getLast? = some "") (taken : later.2.splice.stop = lines.length)
      (more : 1 < later.2.oldLen)
  /-- The later one puts lines in before the last empty line, which the earlier one replaces. -/
  | insertedBefore (noOldLines : later.1.oldLines = []) (newLines : later.1.newLines ≠ [])
      (ends : lines.getLast? = some "") (taken : earlier.2.splice.stop = lines.length)
      (takes : 0 < earlier.2.oldLen)

variable {earlier later : PlacedChunk}

/-- A chunk that puts lines in is apart from one before it unless that takes the last line. -/
theorem apart_insertion_iff
    (settledEarlier : Settled lines earlier) (settledLater : Settled lines later)
    (noOldLines : later.1.oldLines = []) (altersLater : later.2.splice.Alters) :
    earlier.2.splice.Apart later.2.splice ↔ ¬Collides lines earlier later := by
  have within := settledEarlier.within
  have bound := insertionIndex_le lines
  obtain ⟨chunk, replacement⟩ := later
  have isInsertion := settledLater.insertion noOldLines
  dsimp only at isInsertion
  subst isInsertion
  have newLines : chunk.newLines ≠ [] := altersLater.resolve_left (lt_irrefl 0)
  have collides_iff : Collides lines earlier
      (chunk, ⟨insertionIndex lines, 0, chunk.newLines⟩) ↔ lines.getLast? = some "" ∧
        earlier.2.splice.stop = lines.length ∧ 0 < earlier.2.oldLen := by
    constructor
    · rintro (⟨_, oldLines, _, _, _, _⟩ | ⟨_, _, _, _, more⟩ | ⟨_, _, ends, taken, takes⟩)
      · exact absurd noOldLines oldLines
      · exact absurd more (Nat.not_lt_zero 1)
      · exact ⟨ends, taken, takes⟩
    · rintro ⟨ends, taken, takes⟩
      exact .insertedBefore noOldLines newLines ends taken takes
  rw [collides_iff, Splice.apart_iff]
  simp only [Replacement.splice, Splice.stop] at within ⊢
  rcases bound.lt_or_eq with inside | outside
  · obtain ⟨ends, place⟩ := insertionIndex_of_lt inside
    simp only [ends, true_and]
    omega
  · have lastLine : lines.getLast? = some "" → lines.length = 0 := by
      intro ends
      rw [insertionIndex, if_pos ends] at outside
      omega
    constructor
    · rintro - ⟨ends, taken, takes⟩
      have := lastLine ends
      omega
    · intro _
      omega

/-- A chunk that is looked for is apart from lines put in before it unless it takes the last
empty line with others. -/
theorem insertion_apart_iff
    (settledEarlier : Settled lines earlier) (settledLater : Settled lines later)
    (noOldLines : earlier.1.oldLines = []) (oldLines : later.1.oldLines ≠ [])
    (altersEarlier : earlier.2.splice.Alters) :
    earlier.2.splice.Apart later.2.splice ↔ ¬Collides lines earlier later := by
  have within := settledLater.within
  have atEnd := settledLater.atEnd oldLines
  have bound := insertionIndex_le lines
  obtain ⟨chunk, replacement⟩ := earlier
  have isInsertion := settledEarlier.insertion noOldLines
  dsimp only at isInsertion
  subst isInsertion
  have newLines : chunk.newLines ≠ [] := altersEarlier.resolve_left (lt_irrefl 0)
  have collides_iff : Collides lines (chunk, ⟨insertionIndex lines, 0, chunk.newLines⟩) later ↔
      insertionIndex lines < lines.length ∧ later.2.splice.stop = lines.length ∧
        1 < later.2.oldLen := by
    constructor
    · rintro (⟨eof, _, takes, _, starts, short⟩ | ⟨_, _, ends, taken, more⟩ | ⟨none, _, _, _, _⟩)
      · have place := (insertionIndex_of_lt starts).2
        simp only [Replacement.splice_stop] at short
        exact ⟨starts, atEnd eof takes, by omega⟩
      · refine ⟨?_, taken, more⟩
        simp only [Replacement.splice_stop] at taken
        rw [insertionIndex, if_pos ends]
        omega
      · exact absurd none oldLines
    · rintro ⟨inside, taken, more⟩
      exact .insertionTaken noOldLines newLines (insertionIndex_of_lt inside).1 taken more
  rw [collides_iff, Splice.apart_iff]
  have place : insertionIndex lines < lines.length →
      insertionIndex lines = lines.length - 1 := fun inside => (insertionIndex_of_lt inside).2
  simp only [Replacement.splice, Splice.stop] at within ⊢
  omega

theorem apart_iff_not_collides
    (settledEarlier : Settled lines earlier) (settledLater : Settled lines later)
    (follows : Follows earlier later) (altersEarlier : earlier.2.splice.Alters)
    (altersLater : later.2.splice.Alters) :
    earlier.2.splice.Apart later.2.splice ↔ ¬Collides lines earlier later := by
  by_cases noLater : later.1.oldLines = []
  · exact apart_insertion_iff settledEarlier settledLater noLater altersLater
  by_cases noEarlier : earlier.1.oldLines = []
  · exact insertion_apart_iff settledEarlier settledLater noEarlier noLater altersEarlier
  have collides_iff : Collides lines earlier later ↔ later.1.isEndOfFile = true ∧
      0 < later.2.oldLen ∧ earlier.2.startIndex < lines.length ∧
      lines.length < earlier.2.splice.stop + later.2.oldLen := by
    constructor
    · rintro (⟨eof, _, takes, _, starts, short⟩ | ⟨none, _, _, _, _⟩ | ⟨none, _, _, _, _⟩)
      · exact ⟨eof, takes, starts, short⟩
      · exact absurd none noEarlier
      · exact absurd none noLater
    · rintro ⟨eof, takes, starts, short⟩
      exact .overtaken eof noLater takes altersEarlier starts short
  rw [collides_iff]
  by_cases placed : later.1.isEndOfFile = true ∧ 0 < later.2.oldLen
  · have ends := settledLater.atEnd noLater placed.1 placed.2
    have within := settledEarlier.within
    rw [Splice.apart_iff]
    simp only [placed, true_and]
    simp only [Replacement.splice, Splice.stop] at ends within ⊢
    omega
  · refine iff_of_true (Splice.apart_of_before (follows noEarlier noLater ?_))
      fun collides => placed ⟨collides.1, collides.2.1⟩
    rw [not_and_or, Bool.not_eq_true] at placed
    exact placed.imp_right (by omega)

/-! ### The replaced lines -/

theorem removeLines_eq (startIndex : Nat) :
    ∀ oldLen result, removeLines startIndex oldLen result =
      result.take startIndex ++ result.drop (startIndex + oldLen)
  | 0, result => (List.take_append_drop startIndex result).symm
  | oldLen + 1, result => by
    rw [removeLines, removeLines_eq startIndex oldLen]
    split
    next inside =>
      rw [List.eraseIdx_eq_take_drop_succ]
      have taken : (result.take startIndex).length = startIndex := by
        rw [List.length_take]
        omega
      rw [List.take_left' taken, List.drop_append, taken, List.drop_drop,
        List.drop_eq_nil_of_le (by omega), List.nil_append]
      congr 2
      omega
    next outside =>
      rw [List.drop_eq_nil_of_le (by omega), List.drop_eq_nil_of_le (by omega)]

theorem insertLines_eq : ∀ (newLines : List String) (index : Nat) (result : List String),
    index ≤ result.length →
      insertLines index newLines result = result.take index ++ newLines ++ result.drop index
  | [], index, result, _ => by
    rw [insertLines, List.append_nil, List.take_append_drop]
  | line :: rest, index, result, inside => by
    have taken : (result.take index).length = index := by
      rw [List.length_take]
      omega
    have longer : index + 1 ≤ (result.take index ++ line :: result.drop index).length := by
      rw [List.length_append, taken, List.length_cons]
      omega
    have short : (result.take index).length ≤ index + 1 := by omega
    rw [insertLines, insertLines_eq rest _ _ longer, List.take_append, List.drop_append,
      List.take_of_length_le short, List.drop_eq_nil_of_le short, taken, Nat.add_sub_cancel_left]
    simp

theorem replace_eq_apply {result : List String} (inside : replacement.startIndex ≤ result.length) :
    insertLines replacement.startIndex replacement.newLines
        (removeLines replacement.startIndex replacement.oldLen result) =
      replacement.splice.apply result := by
  have taken : (result.take replacement.startIndex).length = replacement.startIndex := by
    rw [List.length_take]
    omega
  rw [removeLines_eq, insertLines_eq _ _ _ (by rw [List.length_append, taken]; omega),
    List.take_left' taken, List.drop_left' taken]
  rfl

theorem replace_idle (idle : ¬replacement.splice.Alters) (result : List String) :
    insertLines replacement.startIndex replacement.newLines
        (removeLines replacement.startIndex replacement.oldLen result) =
      replacement.splice.apply result := by
  rw [Splice.apply_of_not_alters idle]
  obtain ⟨nothingRemoved, nothingInserted⟩ := not_or.1 idle
  have noOldLines : replacement.oldLen = 0 := Nat.eq_zero_of_not_pos nothingRemoved
  have noNewLines : replacement.newLines = [] := not_not.1 nothingInserted
  rw [noOldLines, noNewLines]
  rfl

/-- Replacing from the back to the front is applying the splices, with the ranges apart. -/
theorem foldr_replace_eq
    (within : ∀ replacement ∈ replacements, replacement.splice.stop ≤ lines.length)
    (inOrder : ((replacements.map Replacement.splice).filter (Splice.Alters ·)).Pairwise
      Splice.Before) :
    replacements.foldr (fun replacement result =>
        insertLines replacement.startIndex replacement.newLines
          (removeLines replacement.startIndex replacement.oldLen result)) lines =
      (replacements.map Replacement.splice).foldr Splice.apply lines := by
  induction replacements with
  | nil => rfl
  | cons first rest inductionHypothesis =>
    obtain ⟨firstWithin, restWithin⟩ := List.forall_mem_cons.1 within
    rw [List.map_cons, List.filter_cons] at inOrder
    rw [List.map_cons, List.foldr_cons, List.foldr_cons]
    by_cases alters : first.splice.Alters
    · rw [if_pos (decide_eq_true alters), List.pairwise_cons] at inOrder
      rw [inductionHypothesis restWithin inOrder.2]
      refine replace_eq_apply ?_
      have spliced := foldr_apply inOrder.2 (fun splice member => ?_) firstWithin inOrder.1
      · rw [← foldr_apply_filter, spliced, List.length_append, List.length_take]
        have : first.startIndex ≤ first.splice.stop := Nat.le_add_right _ _
        omega
      · obtain ⟨replacement, among, rfl⟩ := List.mem_map.1 (List.mem_filter.1 member).1
        exact restWithin replacement among
    · rw [if_neg (by simpa using alters)] at inOrder
      rw [inductionHypothesis restWithin inOrder]
      exact replace_idle alters _

/-- The replacements that change something, in the order in which they stand in the file. -/
def splicesOf (replacements : List Replacement) : List (Splice String) :=
  (sortedByStart (replacements.map Replacement.splice)).filter (Splice.Alters ·)

/-- With its ranges apart, a hunk replaces them and keeps all other lines. -/
theorem applyReplacements_eq
    (within : ∀ replacement ∈ replacements, replacement.splice.stop ≤ lines.length)
    (inOrder : (splicesOf replacements).Pairwise Splice.Before) :
    applyReplacements lines (replacements.mergeSort fun first second =>
      first.startIndex ≤ second.startIndex) = splicedFrom lines 0 (splicesOf replacements) := by
  have sorted : (replacements.mergeSort fun first second =>
      first.startIndex ≤ second.startIndex).map Replacement.splice =
        sortedByStart (replacements.map Replacement.splice) :=
    List.map_mergeSort fun _ _ _ _ => rfl
  have sortedWithin : ∀ splice ∈ splicesOf replacements, splice.stop ≤ lines.length := by
    intro splice member
    obtain ⟨replacement, among, rfl⟩ :=
      List.mem_map.1 (mem_sortedByStart.1 (List.mem_filter.1 member).1)
    exact within replacement among
  rw [applyReplacements, List.foldl_reverse]
  refine (foldr_replace_eq (fun replacement member => ?_) ?_).trans ?_
  · exact within replacement (List.mem_mergeSort.1 member)
  · rw [sorted]
    exact inOrder
  · rw [sorted, ← foldr_apply_filter]
    exact foldr_apply inOrder sortedWithin (Nat.zero_le _) fun _ _ => Nat.zero_le _

/-! ### The hunk as a whole -/

/-- One range for each chunk, replaced as the chunk says; the ranges that take lines away are in
the order of the chunks, no two reach into each other, and all else stays as it is. -/
structure AppliesExactly (lines : List String) (chunks : List UpdateFileChunk)
    (replacements : List Replacement) (newLines : List String) : Prop where
  replaces : List.Forall₂ (Replaces lines) chunks replacements
  inChunkOrder : (replacements.filter (0 < ·.oldLen)).Pairwise fun first second =>
    first.splice.Before second.splice
  apart : (splicesOf replacements).Pairwise Splice.Before
  spliced : newLines = splicedFrom lines 0 (splicesOf replacements)
  appears : ∀ replacement ∈ replacements, replacement.newLines <:+: newLines

/-- The lines of a file, as the hunk is applied to them. -/
def originalLines (contents : String) : List String :=
  dropFinalEmpty ((contents.toList.splitOn '\n').map String.ofList)

/-- The text that is written: the lines, with a line end behind the last. -/
def fileText (newLines : List String) : String :=
  "\n".intercalate (if newLines.getLast? = some "" then newLines else newLines ++ [""])

theorem updatedText_eq (filePath : String) (chunks : List UpdateFileChunk) (contents : String) :
    updatedText filePath chunks contents =
      (collectReplacements (originalLines contents) filePath 0 chunks).map fun replacements =>
        fileText (applyReplacements (originalLines contents)
          (replacements.mergeSort fun first second => first.startIndex ≤ second.startIndex)) := by
  have unfolded : updatedText filePath chunks contents =
      ((collectReplacements (originalLines contents) filePath 0 chunks).map fun replacements =>
        replacements.mergeSort fun first second => first.startIndex ≤ second.startIndex).map
          fun replacements => fileText (applyReplacements (originalLines contents) replacements) :=
    rfl
  rw [unfolded]
  cases collectReplacements (originalLines contents) filePath 0 chunks <;> rfl

/-- No two ranges reach into each other exactly if no two chunks collide. -/
theorem apart_of_collected_iff
    (collected : collectReplacements lines filePath 0 chunks = .ok replacements) :
    (splicesOf replacements).Pairwise Splice.Before ↔
      (chunks.zip replacements).Pairwise fun earlier later =>
        earlier.2.splice.Alters → later.2.splice.Alters → ¬Collides lines earlier later := by
  obtain ⟨lengths, settled, follows, -⟩ := collectReplacements_spec collected (Nat.zero_le _)
  have placements : (chunks.zip replacements).map Prod.snd = replacements :=
    List.map_snd_zip lengths.ge
  have apart_iff : (chunks.zip replacements).Pairwise fun earlier later =>
      earlier.2.splice.Alters → later.2.splice.Alters →
        (earlier.2.splice.Apart later.2.splice ↔ ¬Collides lines earlier later) :=
    follows.imp_of_mem fun first second follow =>
      apart_iff_not_collides (settled _ first).1 (settled _ second).1 follow
  rw [splicesOf, pairwise_sortedByStart_iff, List.pairwise_filter, List.pairwise_map]
  conv_lhs => rw [← placements]
  rw [List.pairwise_map]
  simp only [decide_eq_true_eq]
  constructor
  · intro apart
    exact (apart.and apart_iff).imp fun ⟨apart, equal⟩ first second =>
      (equal first second).1 (apart first second)
  · intro free
    exact (free.and apart_iff).imp fun ⟨free, equal⟩ first second =>
      (equal first second).2 (free first second)

theorem inChunkOrder_of_free
    (collected : collectReplacements lines filePath 0 chunks = .ok replacements)
    (free : (chunks.zip replacements).Pairwise fun earlier later =>
      ¬Collides lines earlier later) :
    (replacements.filter (0 < ·.oldLen)).Pairwise fun first second =>
      first.splice.Before second.splice := by
  obtain ⟨lengths, settled, follows, -⟩ := collectReplacements_spec collected (Nat.zero_le _)
  have placements : (chunks.zip replacements).map Prod.snd = replacements :=
    List.map_snd_zip lengths.ge
  have oldLinesOf : ∀ {placed : PlacedChunk}, Settled lines placed → 0 < placed.2.oldLen →
      placed.1.oldLines ≠ [] := by
    intro placed settled takes none
    rw [settled.insertion none] at takes
    exact absurd takes (lt_irrefl 0)
  rw [List.pairwise_filter, ← placements, List.pairwise_map]
  simp only [decide_eq_true_eq]
  refine (free.and follows).imp_of_mem ?_
  rintro earlier later first second ⟨apart, follow⟩ takesEarlier takesLater
  have oldLinesEarlier := oldLinesOf (settled _ first).1 takesEarlier
  have oldLinesLater := oldLinesOf (settled _ second).1 takesLater
  cases eof : later.1.isEndOfFile with
  | false => exact follow oldLinesEarlier oldLinesLater (Or.inl eof)
  | true =>
    have ends := (settled _ second).1.atEnd oldLinesLater eof takesLater
    have within := (settled _ first).1.within
    rw [Replacement.splice_stop] at ends within
    have left : ¬lines.length < earlier.2.splice.stop + later.2.oldLen := fun short =>
      apart (.overtaken eof oldLinesLater takesLater (Or.inl takesEarlier) (by omega) short)
    rw [Replacement.splice_stop] at left
    change earlier.2.startIndex + earlier.2.oldLen ≤ later.2.startIndex
    omega

/-- Chunks that collide both change something. -/
theorem Collides.alters
    (settledEarlier : Settled lines earlier) (settledLater : Settled lines later)
    (collides : Collides lines earlier later) :
    earlier.2.splice.Alters ∧ later.2.splice.Alters := by
  cases collides with
  | overtaken _ _ takes alters _ _ => exact ⟨alters, Or.inl takes⟩
  | insertionTaken noOldLines newLines _ _ more =>
    rw [settledEarlier.insertion noOldLines]
    exact ⟨Or.inr newLines, Or.inl (Nat.zero_lt_of_lt more)⟩
  | insertedBefore noOldLines newLines _ _ takes =>
    rw [settledLater.insertion noOldLines]
    exact ⟨Or.inl takes, Or.inr newLines⟩

/-- All new lines are in the result, where the ranges are apart. -/
theorem infix_of_spliced (lines : List String) (member : replacement ∈ replacements) :
    replacement.newLines <:+: splicedFrom lines 0 (splicesOf replacements) := by
  by_cases alters : replacement.splice.Alters
  · refine @infix_splicedFrom _ lines _ replacement.splice ?_ 0
    refine List.mem_filter.2 ⟨mem_sortedByStart.2 ?_, decide_eq_true alters⟩
    exact List.mem_map_of_mem member
  · have noNewLines : replacement.newLines = [] := not_not.1 (not_or.1 alters).2
    rw [noNewLines]
    exact List.nil_infix

theorem mem_intercalate {Item : Type*} {separator field : List Item} {fields : List (List Item)}
    (listed : field ∈ fields) {item : Item} (member : item ∈ field) :
    item ∈ separator.intercalate fields := by
  refine List.mem_flatten.2 ⟨field, ?_, member⟩
  induction fields with
  | nil => exact absurd listed List.not_mem_nil
  | cons first rest inductionHypothesis =>
    cases rest with
    | nil => exact listed
    | cons next others =>
      rw [List.intersperse_cons_cons]
      rcases List.mem_cons.1 listed with rfl | later
      · exact List.mem_cons_self
      · exact List.mem_cons_of_mem _ (List.mem_cons_of_mem _ (inductionHypothesis later))

theorem mem_fileText {newLines : List String} {line : String} (listed : line ∈ newLines)
    {character : Char} (member : character ∈ line.toList) :
    character ∈ (fileText newLines).toList := by
  unfold fileText
  rw [String.toList_intercalate]
  refine mem_intercalate (List.mem_map_of_mem ?_) member
  split
  · exact listed
  · exact List.mem_append_left _ listed

end OpenClaw.Patch
