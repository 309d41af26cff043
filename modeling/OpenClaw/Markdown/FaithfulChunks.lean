/-
This file says when the chunks of `renderMarkdownIRChunksWithinLimit` are faithful.

Everything the outer loop does to the chunks it starts from keeps them placed, and
coalescing does as long as what it merges is in contact. The loop is done because each
round takes code units off the pending chunks or cuts one of them into several.

Four things go wrong. The text chunker gives no chunk for a first piece of nothing but
white space, and the first chunk it does give is then put to the start of the text.
When a piece of white space is dropped, the next one is merged with the chunk before
the dropped piece. Links that are not listed in the order of the text lose positions
when they are joined. And a limit that is not whole is rounded down.
-/

import OpenClaw.Markdown.PlacedChunks

namespace OpenClaw.Markdown

open Spans

/-! ### Layouts -/

/-- Nothing but white space between two positions. -/
def BlankBetween (ir : MarkdownIR) (first last : Nat) : Prop :=
  ∀ position, first ≤ position → position < last → ∀ unit, ir.text[position]? = some unit →
    isSpace unit = true

theorem blankBetween_self (ir : MarkdownIR) (position : Nat) : BlankBetween ir position position :=
  fun _ after before => absurd before (not_lt.2 after)

variable {ir : MarkdownIR}

theorem BlankBetween.trans {first middle last : Nat}
    (front : BlankBetween ir first middle) (back : BlankBetween ir middle last) :
    BlankBetween ir first last := fun position after before =>
  (lt_or_ge position middle).elim (front position after) fun beyond => back position beyond before

/-- The code unit at a position is not white space. -/
def WordAt (ir : MarkdownIR) (position : Nat) : Prop :=
  ∃ unit, ir.text[position]? = some unit ∧ isSpace unit = false

/-- The code unit before a position is not white space. -/
def WordBefore (ir : MarkdownIR) (position : Nat) : Prop := 0 < position ∧ WordAt ir (position - 1)

/-- Pieces in order from a position on. Only white space is left out, and that only between two
words or at the end. -/
inductive Laid (ir : MarkdownIR) : Nat → List MarkdownIR → Prop
  | nil {position : Nat} (blank : BlankBetween ir position ir.text.length) : Laid ir position []
  | cons {position start : Nat} {chunk : MarkdownIR} {rest : List MarkdownIR}
      (order : position ≤ start) (blank : BlankBetween ir position start)
      (gap : position < start → WordBefore ir position ∧ WordAt ir start)
      (piece : Piece ir start chunk) (tail : Laid ir (start + chunk.text.length) rest) :
      Laid ir position (chunk :: rest)

theorem Tiled.laid_append {start stop : Nat} {tiles rest : List MarkdownIR}
    (tiled : Tiled ir start tiles stop) (laid : Laid ir stop rest) :
    Laid ir start (tiles ++ rest) := by
  induction tiled with
  | nil => exact laid
  | cons piece _ inductionHypothesis =>
    exact .cons le_rfl (blankBetween_self ir _) (fun less => absurd less (lt_irrefl _)) piece
      (inductionHypothesis laid)

/-- A chunk in a layout may be cut into tiles. -/
theorem Laid.cut {ir chunk : MarkdownIR} {position : Nat} {front rest tiles : List MarkdownIR}
    (laid : Laid ir position (front ++ chunk :: rest))
    (tiled : ∀ start, Piece ir start chunk → Tiled ir start tiles (start + chunk.text.length)) :
    Laid ir position (front ++ (tiles ++ rest)) := by
  induction front generalizing position with
  | nil =>
    cases laid with
    | @cons _ start _ _ order blank gap piece tail =>
      have cut := tiled start piece
      generalize stop_eq : start + chunk.text.length = stop at cut tail
      cases cut with
      | nil =>
        have nonempty := piece.nonempty
        omega
      | cons first more => exact .cons order blank gap first (more.laid_append tail)
  | cons _ front inductionHypothesis =>
    cases laid with
    | cons order blank gap piece tail =>
      exact .cons order blank gap piece (inductionHypothesis tail)

/-- The chunks of a layout are pieces. -/
theorem Laid.piece {position : Nat} {chunks : List MarkdownIR}
    (laid : Laid ir position chunks) : ∀ chunk ∈ chunks, ∃ start, Piece ir start chunk := by
  induction laid with
  | nil => exact nofun
  | cons _ _ _ piece _ inductionHypothesis =>
    exact List.forall_mem_cons.2 ⟨⟨_, piece⟩, inductionHypothesis⟩

/-! ### Aligning the chunks of the text -/

/-- A text that begins with a word, or is empty. -/
def StartsWithWord (text : List CodeUnit) : Prop :=
  ∀ unit, text.head? = some unit → isSpace unit = false

theorem startsWithWord_trimStart (text : List CodeUnit) : StartsWithWord (trimStart text) := by
  intro unit is
  have word := List.head?_dropWhile_not isSpace text
  rw [← trimStart, is] at word
  exact word

theorem drop_length_takeWhile (text : List CodeUnit) :
    text.drop (text.takeWhile isSpace).length = trimStart text := by
  calc text.drop (text.takeWhile isSpace).length =
      (text.takeWhile isSpace ++ text.dropWhile isSpace).drop (text.takeWhile isSpace).length := by
        rw [List.takeWhile_append_dropWhile]
    _ = trimStart text := List.drop_left

theorem drop_skipSpaces (text : List CodeUnit) (cursor : Nat) :
    text.drop (skipSpaces text cursor) = trimStart (text.drop cursor) := by
  rw [skipSpaces, ← List.drop_drop, drop_length_takeWhile]

theorem blankBetween_skipSpaces (ir : MarkdownIR) (cursor : Nat) :
    BlankBetween ir cursor (skipSpaces ir.text cursor) := by
  intro position after before unit is
  have inside : position - cursor < ((ir.text.drop cursor).takeWhile isSpace).length := by
    rw [skipSpaces] at before
    omega
  have skipped : ((ir.text.drop cursor).takeWhile isSpace)[position - cursor]? = some unit := by
    rw [← is, ← Nat.add_sub_cancel' after, ← List.getElem?_drop, Nat.add_sub_cancel_left]
    conv_rhs => rw [← List.takeWhile_append_dropWhile (p := isSpace) (l := ir.text.drop cursor)]
    exact (List.getElem?_append_left inside).symm
  exact List.mem_takeWhile_imp (List.mem_of_getElem? skipped)

theorem take_length_trimEnd (text : List CodeUnit) (length : Nat) :
    text.take (trimEnd (text.take length)).length = trimEnd (text.take length) :=
  (List.prefix_iff_eq_take.1
    ((List.rdropWhile_prefix isSpace (text.take length)).trans (List.take_prefix _ _))).symm

/-- What is left after a chunk is what comes after the white space behind it. -/
theorem afterBreak_eq (text : List CodeUnit) (length : Nat) :
    afterBreak text length = trimStart (text.drop (trimEnd (text.take length)).length) := by
  have decomposed : text = trimEnd (text.take length) ++
      ((text.take length).rtakeWhile isSpace ++ text.drop length) := by
    rw [trimEnd, ← List.append_assoc, List.rdropWhile_append_rtakeWhile, List.take_append_drop]
  have trimmed : text.drop (trimEnd (text.take length)).length =
      (text.take length).rtakeWhile isSpace ++ text.drop length := by
    calc text.drop (trimEnd (text.take length)).length = (trimEnd (text.take length) ++
        ((text.take length).rtakeWhile isSpace ++ text.drop length)).drop
          (trimEnd (text.take length)).length := by rw [← decomposed]
      _ = _ := List.drop_left
  rw [trimmed, trimStart, List.dropWhile_append_of_pos fun unit => List.mem_rtakeWhile_imp,
    afterBreak]
  split
  next separator =>
    obtain ⟨unit, is, space⟩ := (Option.any_eq_true _ _).1 separator
    obtain ⟨inside, rfl⟩ := List.getElem?_eq_some_iff.1 is
    rw [List.drop_eq_getElem_cons inside, List.dropWhile_cons_of_pos space]
    rfl
  next => rfl

/-- A chunk ends with a word. -/
theorem wordBefore_of_trimEnd {start length : Nat}
    (kept : trimEnd ((ir.text.drop start).take length) ≠ []) :
    WordBefore ir (start + (trimEnd ((ir.text.drop start).take length)).length) := by
  have positive := List.length_pos_of_ne_nil kept
  have word : ¬isSpace ((trimEnd ((ir.text.drop start).take length)).getLast kept) = true :=
    List.rdropWhile_last_not isSpace _ kept
  refine ⟨by omega, _, ?_, Bool.not_eq_true _ ▸ word⟩
  have last := List.getLast?_eq_some_getLast kept
  rw [List.getLast?_eq_getElem?] at last
  rw [← last, Nat.add_sub_assoc positive, ← List.getElem?_drop]
  conv_rhs => arg 1; rw [← take_length_trimEnd]
  exact (List.getElem?_take_of_lt (Nat.sub_lt positive Nat.one_pos)).symm

variable {text : List CodeUnit}

theorem afterBreak_length_lt {length : Nat} (nonempty : 0 < text.length)
    (positive : 0 < length) : (afterBreak text length).length < text.length := by
  have bound : ∀ rest : List CodeUnit, (trimStart rest).length ≤ rest.length := fun rest =>
    (List.dropWhile_suffix isSpace).length_le
  have shorter := bound (text.drop (length + if (text[length]?).any isSpace then 1 else 0))
  rw [List.length_drop] at shorter
  exact shorter.trans_lt (by omega)

theorem breakIndex_pos {limit : Nat} (positive : 0 < limit) (remaining : List CodeUnit) :
    0 < breakIndex limit remaining := by
  unfold breakIndex
  cases found : (resolveBreakIndex (remaining.take limit)).filter fun candidate =>
      0 < candidate && candidate ≤ limit with
  | none => exact positive
  | some candidate =>
    have accepted := (Option.filter_eq_some_iff.1 found).2
    rw [Bool.and_eq_true, decide_eq_true_eq] at accepted
    exact accepted.1

theorem trimEnd_take_ne_nil (word : StartsWithWord text) {length : Nat}
    (nonempty : 0 < text.length) (positive : 0 < length) : trimEnd (text.take length) ≠ [] := by
  intro empty
  obtain ⟨unit, rest, rfl⟩ := List.exists_cons_of_length_pos nonempty
  have blank := List.rdropWhile_eq_nil_iff.1 empty unit (by
    rw [List.take_cons positive]
    exact List.mem_cons_self)
  rw [word unit rfl] at blank
  exact Bool.false_ne_true blank

/-- The pieces of the representation that `alignChunks` gives are those of `sliceMarkdownIR`. -/
theorem alignChunks_cons {start : Nat} {chunk : List CodeUnit}
    (is : (ir.text.drop start).take chunk.length = chunk)
    (inside : start + chunk.length ≤ ir.text.length) (rest : List (List CodeUnit)) :
    alignChunks ir start (chunk :: rest) =
      sliceMarkdownIR ir start (start + chunk.length) ::
        alignChunks ir (skipSpaces ir.text (start + chunk.length)) rest := by
  rw [alignChunks, min_eq_right inside, sliceMarkdownIR, sliceText, Nat.add_sub_cancel_left, is]

theorem piece_self (ordered : InOrder ir.links) (nonempty : 0 < ir.text.length) :
    Piece ir 0 ir :=
  ⟨placed_self ir, nonempty, ordered, fun less => absurd less (lt_irrefl _)⟩

theorem piece_slice_self (ordered : InOrder ir.links) {start length : Nat}
    (positive : 0 < length) (inside : start + length ≤ ir.text.length) :
    Piece ir start (sliceMarkdownIR ir start (start + length)) ∧
      (sliceMarkdownIR ir start (start + length)).text.length = length := by
  obtain ⟨piece, length_eq⟩ := (piece_self ordered (by omega)).slice
    (show start < start + length by omega) inside
  rw [Nat.zero_add] at piece
  exact ⟨piece, length_eq.trans (Nat.add_sub_cancel_left _ _)⟩

theorem StartsWithWord.wordAt {start : Nat}
    (starts : StartsWithWord (ir.text.drop start)) (inside : start < ir.text.length) :
    WordAt ir start :=
  ⟨ir.text[start], List.getElem?_eq_getElem inside, starts _ (by
    rw [List.head?_drop, List.getElem?_eq_getElem inside])⟩

/-- The chunks are laid out from where the first one begins, if it is kept. -/
theorem laid_alignChunks (ordered : InOrder ir.links) {limit : Nat}
    (positive : 0 < limit) {rounds position start : Nat}
    (enough : (ir.text.drop start).length < rounds) (order : position ≤ start)
    (blank : BlankBetween ir position start)
    (gap : position < start → WordBefore ir position ∧ StartsWithWord (ir.text.drop start))
    (kept : limit < (ir.text.drop start).length →
      trimEnd ((ir.text.drop start).take (breakIndex limit (ir.text.drop start))) ≠ []) :
    Laid ir position (alignChunks ir start (chunkTextLoop limit rounds (ir.text.drop start))) := by
  induction rounds generalizing position start with
  | zero => exact absurd enough (Nat.not_lt_zero _)
  | succ rounds inductionHypothesis =>
    have wordAt : start < ir.text.length → position < start →
        WordBefore ir position ∧ WordAt ir start :=
      fun inside less => ⟨(gap less).1, (gap less).2.wordAt inside⟩
    rw [chunkTextLoop]
    split
    next longer =>
      have nonempty := kept longer
      generalize chunk_eq : trimEnd ((ir.text.drop start).take
        (breakIndex limit (ir.text.drop start))) = chunk at nonempty
      have is : (ir.text.drop start).take chunk.length = chunk := by
        rw [← chunk_eq, take_length_trimEnd]
      have room := List.length_pos_of_ne_nil nonempty
      have inside : start + chunk.length ≤ ir.text.length := by
        have bound := List.length_take_le' chunk.length (ir.text.drop start)
        rw [is, List.length_drop] at bound
        omega
      obtain ⟨piece, length_eq⟩ := piece_slice_self ordered room inside
      have rest_eq := drop_skipSpaces ir.text (start + chunk.length)
      have starts := startsWithWord_trimStart (ir.text.drop (start + chunk.length))
      rw [← rest_eq] at starts
      rw [← List.drop_drop, ← chunk_eq, ← afterBreak_eq, chunk_eq] at rest_eq
      dsimp only
      rw [chunk_eq, if_neg (by rwa [List.isEmpty_iff]), alignChunks_cons is inside, ← rest_eq]
      refine .cons order blank (wordAt (by omega)) piece ?_
      rw [length_eq]
      refine inductionHypothesis ?_ (Nat.le_add_right _ _) (blankBetween_skipSpaces ir _)
        (fun _ => ⟨?_, starts⟩) fun longer => ?_
      · have shorter := afterBreak_length_lt (Nat.zero_lt_of_lt longer)
          (breakIndex_pos positive (ir.text.drop start))
        rw [rest_eq]
        omega
      · rw [← chunk_eq]
        exact wordBefore_of_trimEnd (chunk_eq ▸ nonempty)
      · exact trimEnd_take_ne_nil starts (Nat.zero_lt_of_lt longer) (breakIndex_pos positive _)
    next =>
      split
      next empty =>
        rw [List.isEmpty_iff, List.drop_eq_nil_iff] at empty
        exact .nil fun at_ after before => blank at_ after (before.trans_le empty)
      next nonempty =>
        have room : 0 < (ir.text.drop start).length :=
          List.length_pos_of_ne_nil (by rwa [List.isEmpty_iff] at nonempty)
        rw [List.length_drop] at room
        have inside : start + (ir.text.drop start).length = ir.text.length := by
          rw [List.length_drop]
          omega
        obtain ⟨piece, length_eq⟩ := piece_slice_self ordered
          (show 0 < (ir.text.drop start).length by rwa [List.length_drop]) inside.le
        rw [alignChunks_cons List.take_length inside.le, alignChunks]
        refine .cons order blank (wordAt (by omega)) piece (.nil ?_)
        rw [length_eq, inside]
        exact blankBetween_self ir _

section Rendering

variable {Rendered : Type} (renderChunk : MarkdownIR → Rendered) (measureRendered : Rendered → ℚ)
  (renderedLimit : Nat)
variable {chunk : MarkdownIR}

/-! ### The outer loop -/

theorem findLargestFrom_le (chunk : MarkdownIR) (length : Nat) :
    findLargestFrom renderChunk measureRendered renderedLimit chunk length ≤ length := by
  induction length with
  | zero => exact le_rfl
  | succ length inductionHypothesis =>
    rw [findLargestFrom]
    split
    · exact le_rfl
    · exact inductionHypothesis.trans (Nat.le_succ _)

/-- If the search comes down to nothing, no prefix fits. -/
theorem findLargestFrom_eq_zero {length : Nat}
    (none_fits : findLargestFrom renderChunk measureRendered renderedLimit chunk length = 0) :
    ∀ prefixLength, 0 < prefixLength → prefixLength ≤ length →
      withinLimit renderChunk measureRendered renderedLimit
        (sliceMarkdownIR chunk 0 prefixLength) = false := by
  induction length with
  | zero => exact fun _ positive bound => absurd bound (not_le.2 positive)
  | succ length inductionHypothesis =>
    rw [findLargestFrom] at none_fits
    split at none_fits
    next => exact absurd none_fits (Nat.succ_ne_zero _)
    next misfit =>
      intro prefixLength positive bound
      rcases Nat.le_succ_iff.1 bound with within | rfl
      · exact inductionHypothesis none_fits prefixLength positive within
      · exact Bool.not_eq_true _ ▸ misfit

/-- Of a chunk that does not fit no prefix does. -/
def Least (chunk : MarkdownIR) : Prop :=
  withinLimit renderChunk measureRendered renderedLimit chunk = false →
    ∀ prefixLength, 0 < prefixLength → prefixLength < chunk.text.length →
      withinLimit renderChunk measureRendered renderedLimit
        (sliceMarkdownIR chunk 0 prefixLength) = false

variable {renderChunk measureRendered renderedLimit} {position : Nat}
variable {coalesced rest : List MarkdownIR}

/-- What splitting by the rendered limit does to a chunk of more than one code unit. -/
theorem splitByRenderedLimit_eq (long : ¬chunk.text.length ≤ 1) {length : Nat}
    (found : findLargestFrom renderChunk measureRendered renderedLimit chunk
      (chunk.text.length - 1) = length) :
    splitMarkdownIRByRenderedLimit renderChunk measureRendered renderedLimit chunk =
      if length = 0 then [chunk]
      else if (splitMarkdownIRPreserveWhitespace chunk length).head?.any
          (withinLimit renderChunk measureRendered renderedLimit) then
        splitMarkdownIRPreserveWhitespace chunk length
      else [sliceMarkdownIR chunk 0 length, sliceMarkdownIR chunk length chunk.text.length] := by
  rw [splitMarkdownIRByRenderedLimit, if_neg long, findLargestChunkTextLengthWithinRenderedLimit,
    if_neg long, found]

theorem Piece.tiled_splitByRenderedLimit {start : Nat} (piece : Piece ir start chunk) :
    Tiled ir start (splitMarkdownIRByRenderedLimit renderChunk measureRendered renderedLimit chunk)
      (start + chunk.text.length) := by
  by_cases long : chunk.text.length ≤ 1
  · rw [splitMarkdownIRByRenderedLimit, if_pos long]
    exact piece.tiled
  · have bound := findLargestFrom_le renderChunk measureRendered renderedLimit chunk
      (chunk.text.length - 1)
    generalize found : findLargestFrom renderChunk measureRendered renderedLimit chunk
      (chunk.text.length - 1) = length at bound
    rw [splitByRenderedLimit_eq long found]
    split
    next => exact piece.tiled
    next positive =>
      split
      next => exact piece.tiled_splitPreserve _
      next =>
        obtain ⟨front, frontLength⟩ := piece.slice (Nat.pos_of_ne_zero positive)
          (show length ≤ chunk.text.length by omega)
        obtain ⟨back, backLength⟩ := piece.slice (show length < chunk.text.length by omega) le_rfl
        refine .cons front ?_
        rw [frontLength]
        have tail := back.tiled
        rwa [backLength, Nat.add_assoc, Nat.add_sub_cancel' (by omega)] at tail

/-- A chunk that stays in one piece is one no prefix of which fits. -/
theorem least_of_split_le_one
    (stays : (splitMarkdownIRByRenderedLimit renderChunk measureRendered renderedLimit
      chunk).length ≤ 1) : Least renderChunk measureRendered renderedLimit chunk := by
  intro _ prefixLength positive shorter
  have bound := findLargestFrom_le renderChunk measureRendered renderedLimit chunk
    (chunk.text.length - 1)
  generalize found : findLargestFrom renderChunk measureRendered renderedLimit chunk
    (chunk.text.length - 1) = length at bound
  rw [splitByRenderedLimit_eq (by omega) found] at stays
  split at stays
  next none_fits =>
    subst none_fits
    exact findLargestFrom_eq_zero _ _ _ found prefixLength positive (by omega)
  next some_fits =>
    split at stays
    · have several := one_lt_length_splitPreserve (Nat.pos_of_ne_zero some_fits)
        (show length < chunk.text.length by omega)
      omega
    · rw [List.length_cons, List.length_cons] at stays
      omega

/-- The rounds the pending chunks can still take. -/
def remainingRounds (pending : List MarkdownIR) : Nat :=
  (pending.map fun chunk => 2 * chunk.text.length - 1).sum

theorem Tiled.remainingRounds {start stop : Nat} {tiles : List MarkdownIR}
    (tiled : Tiled ir start tiles stop) :
    Markdown.remainingRounds tiles + tiles.length = 2 * (stop - start) ∧ start ≤ stop := by
  induction tiled with
  | nil => exact ⟨by rw [Nat.sub_self]; rfl, le_rfl⟩
  | cons piece _ inductionHypothesis =>
    have nonempty := piece.nonempty
    obtain ⟨rounds, order⟩ := inductionHypothesis
    simp only [Markdown.remainingRounds, List.map_cons, List.sum_cons, List.length_cons] at rounds ⊢
    omega

theorem remainingRounds_append (front back : List MarkdownIR) :
    remainingRounds (front ++ back) = remainingRounds front + remainingRounds back := by
  rw [remainingRounds, List.map_append, List.sum_append]
  rfl

/-- The outer loop is done, and what it gives is laid out and as short as it has to be. -/
theorem finalizeLoop_spec {rounds : Nat} {pending finalized : List MarkdownIR}
    (laid : Laid ir 0 (finalized.reverse ++ pending)) (enough : remainingRounds pending ≤ rounds)
    (least : ∀ chunk ∈ finalized, Least renderChunk measureRendered renderedLimit chunk) :
    ∃ result, finalizeLoop renderChunk measureRendered renderedLimit rounds pending finalized =
      some result ∧ Laid ir 0 result ∧
        ∀ chunk ∈ result, Least renderChunk measureRendered renderedLimit chunk := by
  induction rounds generalizing pending finalized with
  | zero =>
    cases pending with
    | nil =>
      rw [List.append_nil] at laid
      exact ⟨_, rfl, laid, fun chunk member => least chunk (List.mem_reverse.1 member)⟩
    | cons chunk pending =>
      obtain ⟨start, piece⟩ := laid.piece chunk (by simp)
      have nonempty := piece.nonempty
      rw [remainingRounds, List.map_cons, List.sum_cons] at enough
      omega
  | succ rounds inductionHypothesis =>
    cases pending with
    | nil =>
      rw [List.append_nil] at laid
      exact ⟨_, rfl, laid, fun chunk member => least chunk (List.mem_reverse.1 member)⟩
    | cons chunk pending =>
      obtain ⟨start, piece⟩ := laid.piece chunk (by simp)
      have nonempty := piece.nonempty
      have finish : Least renderChunk measureRendered renderedLimit chunk →
          ∃ result, finalizeLoop renderChunk measureRendered renderedLimit rounds pending
            (chunk :: finalized) = some result ∧ Laid ir 0 result ∧
              ∀ chunk ∈ result, Least renderChunk measureRendered renderedLimit chunk := by
        intro isLeast
        refine inductionHypothesis ?_ ?_ (List.forall_mem_cons.2 ⟨isLeast, least⟩)
        · rwa [List.reverse_cons, List.append_assoc]
        · rw [remainingRounds, List.map_cons, List.sum_cons] at enough
          rw [remainingRounds]
          omega
      rw [finalizeLoop]
      split
      next done =>
        refine finish fun misfit prefixLength positive shorter => ?_
        rw [misfit, Bool.false_or, decide_eq_true_eq] at done
        omega
      next =>
        dsimp only
        split
        next stays => exact finish (least_of_split_le_one stays)
        next several =>
          refine inductionHypothesis (laid.cut fun _ piece => piece.tiled_splitByRenderedLimit) ?_
            least
          have tiled : Tiled ir start (splitMarkdownIRByRenderedLimit renderChunk measureRendered
              renderedLimit chunk) _ := piece.tiled_splitByRenderedLimit
          obtain ⟨tiles, -⟩ := tiled.remainingRounds
          rw [remainingRounds, List.map_cons, List.sum_cons] at enough
          rw [remainingRounds_append]
          rw [remainingRounds] at tiles ⊢
          rw [remainingRounds]
          omega

/-! ### Coalescing -/

/-- Chunks in order from a position on, each in its place; only white space is left out. -/
inductive Spread (ir : MarkdownIR) : Nat → List MarkdownIR → Prop
  | nil {position : Nat} (blank : BlankBetween ir position ir.text.length) : Spread ir position []
  | cons {position start : Nat} {chunk : MarkdownIR} {rest : List MarkdownIR}
      (order : position ≤ start) (blank : BlankBetween ir position start)
      (placed : Placed ir start chunk) (tail : Spread ir (start + chunk.text.length) rest) :
      Spread ir position (chunk :: rest)

/-- What has been given out, last first, up to a position. -/
inductive Given (ir : MarkdownIR) : List MarkdownIR → Nat → Prop
  | nil : Given ir [] 0
  | cons {position start : Nat} {chunk : MarkdownIR} {coalesced : List MarkdownIR}
      (given : Given ir coalesced position) (order : position ≤ start)
      (blank : BlankBetween ir position start) (piece : Piece ir start chunk) :
      Given ir (chunk :: coalesced) (start + chunk.text.length)

theorem Given.spread (given : Given ir coalesced position) (tail : Spread ir position rest) :
    Spread ir 0 (coalesced.reverse ++ rest) := by
  induction given generalizing rest with
  | nil => exact tail
  | cons _ order blank piece inductionHypothesis =>
    rw [List.reverse_cons, List.append_assoc]
    exact inductionHypothesis (.cons order blank piece.placed tail)

variable (renderChunk measureRendered renderedLimit)

/-- Whether no chunk of white space is merged with the chunk before a dropped one. The flag says
that a chunk has been dropped since the last one was given out. -/
def keepsContact : Bool → List MarkdownIR → MarkdownIR → List MarkdownIR → Bool
  | dropped, coalesced, chunk, [] =>
    !isBlank chunk.text ||
      match coalesceBlank renderChunk measureRendered renderedLimit coalesced.head? chunk none with
      | .mergePrev _ => !dropped
      | _ => true
  | dropped, coalesced, chunk, next :: rest =>
    if !isBlank chunk.text then keepsContact false (chunk :: coalesced) next rest
    else match coalesceBlank renderChunk measureRendered renderedLimit coalesced.head? chunk
        (some next) with
      | .mergePrev merged => !dropped && keepsContact false (merged :: coalesced.tail) next rest
      | .mergeNext merged => keepsContact dropped coalesced merged rest
      | .divide mergedPrev mergedNext =>
        !dropped && keepsContact false (mergedPrev :: coalesced.tail) mergedNext rest
      | .drop => keepsContact true coalesced next rest

variable {renderChunk measureRendered renderedLimit}

/-- What a search for a prefix can come to. -/
theorem divideFrom_cases (prev chunk next : MarkdownIR) (length : Nat) :
    (∃ prefixLength, 0 < prefixLength ∧ prefixLength ≤ length ∧
      divideFrom renderChunk measureRendered renderedLimit prev chunk next length =
        .divide (mergeMarkdownIRChunks prev (sliceMarkdownIR chunk 0 prefixLength))
          (mergeMarkdownIRChunks (sliceMarkdownIR chunk prefixLength chunk.text.length) next) ∧
      withinLimit renderChunk measureRendered renderedLimit
        (mergeMarkdownIRChunks prev (sliceMarkdownIR chunk 0 prefixLength)) = true ∧
      withinLimit renderChunk measureRendered renderedLimit
        (mergeMarkdownIRChunks (sliceMarkdownIR chunk prefixLength chunk.text.length) next) =
          true) ∨
    divideFrom renderChunk measureRendered renderedLimit prev chunk next length = .drop := by
  induction length with
  | zero => exact .inr rfl
  | succ length inductionHypothesis =>
    rw [divideFrom]
    split
    next fit =>
      rw [Bool.and_eq_true] at fit
      exact .inl ⟨length + 1, Nat.succ_pos _, le_rfl, rfl, fit⟩
    next =>
      rcases inductionHypothesis with ⟨prefixLength, positive, bound, found⟩ | found
      · exact .inl ⟨prefixLength, positive, bound.trans (Nat.le_succ _), found⟩
      · exact .inr found

/-- What can become of a chunk of white space. -/
theorem coalesceBlank_cases (prev : Option MarkdownIR) (chunk : MarkdownIR)
    (next : Option MarkdownIR) :
    (∃ before, prev = some before ∧
      coalesceBlank renderChunk measureRendered renderedLimit prev chunk next =
        .mergePrev (mergeMarkdownIRChunks before chunk) ∧
      withinLimit renderChunk measureRendered renderedLimit
        (mergeMarkdownIRChunks before chunk) = true) ∨
    (∃ after, next = some after ∧
      coalesceBlank renderChunk measureRendered renderedLimit prev chunk next =
        .mergeNext (mergeMarkdownIRChunks chunk after) ∧
      withinLimit renderChunk measureRendered renderedLimit
        (mergeMarkdownIRChunks chunk after) = true) ∨
    (∃ before after prefixLength, prev = some before ∧ next = some after ∧
      0 < prefixLength ∧ prefixLength < chunk.text.length ∧
      coalesceBlank renderChunk measureRendered renderedLimit prev chunk next =
        .divide (mergeMarkdownIRChunks before (sliceMarkdownIR chunk 0 prefixLength))
          (mergeMarkdownIRChunks (sliceMarkdownIR chunk prefixLength chunk.text.length) after) ∧
      withinLimit renderChunk measureRendered renderedLimit
        (mergeMarkdownIRChunks before (sliceMarkdownIR chunk 0 prefixLength)) = true ∧
      withinLimit renderChunk measureRendered renderedLimit
        (mergeMarkdownIRChunks (sliceMarkdownIR chunk prefixLength chunk.text.length) after) =
          true) ∨
    coalesceBlank renderChunk measureRendered renderedLimit prev chunk next = .drop := by
  unfold coalesceBlank
  split
  next merged found =>
    obtain ⟨mapped, fits⟩ := Option.filter_eq_some_iff.1 found
    obtain ⟨before, is, rfl⟩ := Option.map_eq_some_iff.1 mapped
    exact .inl ⟨before, is, rfl, fits⟩
  next =>
    split
    next merged found =>
      obtain ⟨mapped, fits⟩ := Option.filter_eq_some_iff.1 found
      obtain ⟨after, is, rfl⟩ := Option.map_eq_some_iff.1 mapped
      exact .inr (.inl ⟨after, is, rfl, fits⟩)
    next =>
      split
      next before after _ _ =>
        rcases (divideFrom_cases before chunk after (chunk.text.length - 1) : _ ∨
            divideFrom renderChunk measureRendered renderedLimit before chunk after _ = .drop) with
          ⟨prefixLength, positive, bound, found⟩ | found
        · exact .inr (.inr (.inl ⟨before, after, prefixLength, rfl, rfl, positive, by omega, found⟩))
        · exact .inr (.inr (.inr found))
      next => exact .inr (.inr (.inr rfl))

/-! ### Coalescing in contact -/

theorem Piece.unit {start position : Nat} (piece : Piece ir start chunk)
    (blank : isBlank chunk.text = true) (after : start ≤ position)
    (before : position < start + chunk.text.length) :
    ∃ unit, ir.text[position]? = some unit ∧ isSpace unit = true := by
  have inside : position - start < chunk.text.length := by omega
  refine ⟨chunk.text[position - start], ?_, List.all_eq_true.1 blank _ (List.getElem_mem inside)⟩
  have placed := piece.placed.getElem? inside
  rw [Nat.add_sub_cancel' after, List.getElem?_eq_getElem inside] at placed
  exact placed.symm

theorem Piece.blankBetween {start : Nat} (piece : Piece ir start chunk)
    (blank : isBlank chunk.text = true) :
    BlankBetween ir start (start + chunk.text.length) := by
  intro position after before unit is
  obtain ⟨here, isHere, space⟩ := piece.unit blank after before
  rw [is] at isHere
  rwa [Option.some.inj isHere]

/-- There is no gap before a chunk of white space. -/
theorem Laid.blank_head
    (laid : Laid ir position (chunk :: rest)) (isBlankChunk : isBlank chunk.text = true) :
    Piece ir position chunk ∧ Laid ir (position + chunk.text.length) rest := by
  cases laid with
  | @cons _ start _ _ order blank gap piece tail =>
    have contact : start = position := by
      by_contra apart
      obtain ⟨-, unit, is, word⟩ := gap (by omega)
      obtain ⟨here, isHere, space⟩ := piece.unit isBlankChunk le_rfl
        (by have nonempty := piece.nonempty; omega)
      rw [is] at isHere
      rw [← Option.some.inj isHere, word] at space
      exact Bool.false_ne_true space
    subst contact
    exact ⟨piece, tail⟩

/-- Nor is there one after it. -/
theorem Laid.after_blank {ir chunk next : MarkdownIR}
    (piece : Piece ir position chunk) (isBlankChunk : isBlank chunk.text = true)
    (laid : Laid ir (position + chunk.text.length) (next :: rest)) :
    Piece ir (position + chunk.text.length) next ∧
      Laid ir (position + chunk.text.length + next.text.length) rest := by
  have nonempty := piece.nonempty
  cases laid with
  | @cons _ start _ _ order blank gap nextPiece tail =>
    have contact : start = position + chunk.text.length := by
      by_contra apart
      obtain ⟨⟨-, unit, is, word⟩, -⟩ := gap (by omega)
      obtain ⟨here, isHere, space⟩ := piece.unit isBlankChunk
        (show position ≤ position + chunk.text.length - 1 by omega) (by omega)
      rw [is] at isHere
      rw [← Option.some.inj isHere, word] at space
      exact Bool.false_ne_true space
    subst contact
    exact ⟨nextPiece, tail⟩

/-- A chunk merged with the last one given out. -/
theorem Given.merge {ir before chunk : MarkdownIR} {coalesced : List MarkdownIR}
    (given : Given ir coalesced position) (is : coalesced.head? = some before)
    (piece : Piece ir position chunk) :
    Given ir (mergeMarkdownIRChunks before chunk :: coalesced.tail)
      (position + chunk.text.length) := by
  cases given with
  | nil => exact absurd is nofun
  | @cons _ start last _ given order blank beforePiece =>
    obtain rfl : last = before := Option.some.inj is
    have merged := given.cons order blank (beforePiece.merge piece)
    rwa [show (mergeMarkdownIRChunks last chunk).text.length =
      last.text.length + chunk.text.length from List.length_append, ← Nat.add_assoc] at merged

theorem Laid.cons_self
    (piece : Piece ir position chunk) (tail : Laid ir (position + chunk.text.length) rest) :
    Laid ir position (chunk :: rest) :=
  .cons le_rfl (blankBetween_self ir _) (fun less => absurd less (lt_irrefl _)) piece tail

/-- What is left at the end is white space. -/
theorem Laid.blank_of_nil (laid : Laid ir position []) :
    BlankBetween ir position ir.text.length := by
  cases laid with
  | nil blank => exact blank

/-- Coalescing in contact keeps every chunk in its place. -/
theorem spread_coalesceLoop
    {dropped : Bool} {position start : Nat} (given : Given ir coalesced position)
    (order : position ≤ start) (blank : BlankBetween ir position start)
    (contact : dropped = false → position = start) (laid : Laid ir start (chunk :: rest))
    (keeps : keepsContact renderChunk measureRendered renderedLimit dropped coalesced chunk rest =
      true) :
    Spread ir 0 (coalesceLoop renderChunk measureRendered renderedLimit coalesced chunk rest) := by
  induction rest generalizing chunk coalesced dropped position start with
  | nil =>
    rw [coalesceLoop]
    rw [keepsContact] at keeps
    split
    next word =>
      cases laid with
      | cons order' blank' gap piece tail =>
        rw [List.reverse_cons]
        exact given.spread (.cons (order.trans order') (blank.trans blank') piece.placed
          (.nil tail.blank_of_nil))
    next isBlankChunk =>
      rw [Bool.not_eq_true', Bool.not_eq_false] at isBlankChunk
      rw [isBlankChunk, Bool.not_true, Bool.false_or] at keeps
      obtain ⟨piece, tail⟩ := laid.blank_head isBlankChunk
      have left : BlankBetween ir start ir.text.length :=
        (piece.blankBetween isBlankChunk).trans tail.blank_of_nil
      rcases (coalesceBlank_cases coalesced.head? chunk none : _ ∨ _ ∨ _ ∨
          coalesceBlank renderChunk measureRendered renderedLimit _ _ _ = .drop) with
        ⟨before, is, found, -⟩ | ⟨after, absent, -⟩ | ⟨_, _, _, -, absent, -⟩ | found
      · rw [found] at keeps ⊢
        obtain rfl := contact (Bool.not_eq_true' _ ▸ keeps)
        have spread := (given.merge is piece).spread (.nil tail.blank_of_nil)
        rwa [List.append_nil] at spread
      · exact absurd absent nofun
      · exact absurd absent nofun
      · rw [found]
        have spread := given.spread (.nil (blank.trans left))
        rwa [List.append_nil] at spread
  | cons next rest inductionHypothesis =>
    rw [coalesceLoop]
    rw [keepsContact] at keeps
    split
    next word =>
      rw [if_pos word] at keeps
      cases laid with
      | cons order' blank' gap piece tail =>
        exact inductionHypothesis (given.cons (order.trans order') (blank.trans blank') piece)
          le_rfl (blankBetween_self ir _) (fun _ => rfl) tail keeps
    next isBlankChunk =>
      rw [if_neg isBlankChunk] at keeps
      rw [Bool.not_eq_true', Bool.not_eq_false] at isBlankChunk
      obtain ⟨piece, tail⟩ := laid.blank_head isBlankChunk
      obtain ⟨nextPiece, tailRest⟩ := Laid.after_blank piece isBlankChunk tail
      rcases (coalesceBlank_cases coalesced.head? chunk (some next) : _ ∨ _ ∨ _ ∨
          coalesceBlank renderChunk measureRendered renderedLimit _ _ _ = .drop) with
        ⟨before, is, found, -⟩ | ⟨after, is, found, -⟩ |
          ⟨before, after, prefixLength, is, isAfter, positive, inside, found, -⟩ | found
      · rw [found] at keeps ⊢
        dsimp only at keeps
        rw [Bool.and_eq_true, Bool.not_eq_true'] at keeps
        obtain rfl := contact keeps.1
        exact inductionHypothesis (given.merge is piece) le_rfl (blankBetween_self ir _)
          (fun _ => rfl) tail keeps.2
      · obtain rfl := Option.some.inj is
        rw [found] at keeps ⊢
        refine inductionHypothesis given order blank contact
          (.cons_self (piece.merge nextPiece) ?_) keeps
        rwa [show (mergeMarkdownIRChunks chunk next).text.length =
          chunk.text.length + next.text.length from List.length_append, ← Nat.add_assoc]
      · obtain rfl := Option.some.inj isAfter
        rw [found] at keeps ⊢
        dsimp only at keeps
        rw [Bool.and_eq_true, Bool.not_eq_true'] at keeps
        obtain rfl := contact keeps.1
        obtain ⟨front, frontLength⟩ := piece.slice positive inside.le
        obtain ⟨back, backLength⟩ := piece.slice inside le_rfl
        have givenFront := given.merge is front
        rw [frontLength, Nat.sub_zero] at givenFront
        have joined : position + prefixLength +
            (sliceMarkdownIR chunk prefixLength chunk.text.length).text.length =
              position + chunk.text.length := by
          rw [backLength]
          omega
        have merged := back.merge (joined.symm ▸ nextPiece)
        refine inductionHypothesis givenFront le_rfl (blankBetween_self ir _) (fun _ => rfl)
          (.cons_self merged ?_) keeps.2
        rwa [show (mergeMarkdownIRChunks _ next).text.length = _ + next.text.length from
          List.length_append, ← Nat.add_assoc, joined]
      · rw [found] at keeps ⊢
        exact inductionHypothesis given (order.trans (Nat.le_add_right _ _))
          (blank.trans (piece.blankBetween isBlankChunk))
          (fun kept => absurd kept Bool.true_eq_false_eq_False) tail keeps

theorem least_of_withinLimit
    (fits : withinLimit renderChunk measureRendered renderedLimit chunk = true) :
    Least renderChunk measureRendered renderedLimit chunk := fun misfit => by
  rw [fits] at misfit
  exact absurd misfit nofun

/-- What is merged fits, so nothing is longer than it has to be. -/
theorem least_coalesceLoop
    (given : ∀ other ∈ coalesced, Least renderChunk measureRendered renderedLimit other)
    (least : ∀ other ∈ chunk :: rest, Least renderChunk measureRendered renderedLimit other) :
    ∀ other ∈ coalesceLoop renderChunk measureRendered renderedLimit coalesced chunk rest,
      Least renderChunk measureRendered renderedLimit other := by
  have reversed : ∀ chunks : List MarkdownIR,
      (∀ other ∈ chunks, Least renderChunk measureRendered renderedLimit other) →
      ∀ other ∈ chunks.reverse, Least renderChunk measureRendered renderedLimit other :=
    fun chunks each other member => each other (List.mem_reverse.1 member)
  induction rest generalizing chunk coalesced with
  | nil =>
    rw [coalesceLoop]
    split
    · exact reversed _ (List.forall_mem_cons.2 ⟨(List.forall_mem_cons.1 least).1, given⟩)
    · rcases (coalesceBlank_cases coalesced.head? chunk none : _ ∨ _ ∨ _ ∨
          coalesceBlank renderChunk measureRendered renderedLimit _ _ _ = .drop) with
        ⟨before, -, found, fits⟩ | ⟨after, absent, -⟩ | ⟨_, _, _, -, absent, -⟩ | found
      · rw [found]
        exact reversed _ (List.forall_mem_cons.2 ⟨least_of_withinLimit fits,
          fun other member => given other (List.mem_of_mem_tail member)⟩)
      · exact absurd absent nofun
      · exact absurd absent nofun
      · rw [found]
        exact reversed _ given
  | cons next rest inductionHypothesis =>
    obtain ⟨leastChunk, leastRest⟩ := List.forall_mem_cons.1 least
    have leastTail := (List.forall_mem_cons.1 leastRest).2
    have givenTail : ∀ other ∈ coalesced.tail, Least renderChunk measureRendered renderedLimit
        other := fun other member => given other (List.mem_of_mem_tail member)
    rw [coalesceLoop]
    split
    · exact inductionHypothesis (List.forall_mem_cons.2 ⟨leastChunk, given⟩) leastRest
    · rcases (coalesceBlank_cases coalesced.head? chunk (some next) : _ ∨ _ ∨ _ ∨
          coalesceBlank renderChunk measureRendered renderedLimit _ _ _ = .drop) with
        ⟨before, -, found, fits⟩ | ⟨after, -, found, fits⟩ |
          ⟨before, after, prefixLength, -, -, -, -, found, fits, fitsNext⟩ | found
      · rw [found]
        exact inductionHypothesis
          (List.forall_mem_cons.2 ⟨least_of_withinLimit fits, givenTail⟩) leastRest
      · rw [found]
        exact inductionHypothesis given
          (List.forall_mem_cons.2 ⟨least_of_withinLimit fits, leastTail⟩)
      · rw [found]
        exact inductionHypothesis
          (List.forall_mem_cons.2 ⟨least_of_withinLimit fits, givenTail⟩)
          (List.forall_mem_cons.2 ⟨least_of_withinLimit fitsNext, leastTail⟩)
      · rw [found]
        exact inductionHypothesis given leastRest

/-- More rounds change nothing once the loop is done. -/
theorem finalizeLoop_add {rounds : Nat} {pending finalized result : List MarkdownIR}
    (done : finalizeLoop renderChunk measureRendered renderedLimit rounds pending finalized =
      some result) (more : Nat) :
    finalizeLoop renderChunk measureRendered renderedLimit (rounds + more) pending finalized =
      some result := by
  induction rounds generalizing pending finalized with
  | zero =>
    cases pending with
    | nil =>
      rw [finalizeLoop] at done ⊢
      exact done
    | cons chunk pending =>
      rw [finalizeLoop] at done
      exact absurd done nofun
  | succ rounds inductionHypothesis =>
    cases pending with
    | nil =>
      rw [finalizeLoop] at done ⊢
      exact done
    | cons chunk pending =>
      rw [Nat.succ_add]
      rw [finalizeLoop] at done ⊢
      split
      next fits =>
        rw [if_pos fits] at done
        exact inductionHypothesis done
      next misfits =>
        rw [if_neg misfits] at done
        dsimp only at done ⊢
        split
        next stays =>
          rw [if_pos stays] at done
          exact inductionHypothesis done
        next several =>
          rw [if_neg several] at done
          exact inductionHypothesis done

theorem finalizeLoop_unique {rounds others : Nat} {pending finalized result other : List MarkdownIR}
    (done : finalizeLoop renderChunk measureRendered renderedLimit rounds pending finalized =
      some result)
    (otherDone : finalizeLoop renderChunk measureRendered renderedLimit others pending finalized =
      some other) : result = other := by
  have first := finalizeLoop_add done others
  have second := finalizeLoop_add otherDone rounds
  rw [Nat.add_comm, first] at second
  exact Option.some.inj second

end Rendering

/-! ### The chunks the outer loop starts from -/

theorem trimEnd_eq_nil (blank : isBlank text = true) : trimEnd text = [] :=
  List.rdropWhile_eq_nil_iff.2 (List.all_eq_true.1 blank)

/-- Of a text of white space nothing is left. -/
theorem chunkTextLoop_of_blank (blank : isBlank text = true) {limit : Nat}
    (longer : limit < text.length) (rounds : Nat) : chunkTextLoop limit rounds text = [] := by
  have each := List.all_eq_true.1 blank
  cases rounds with
  | zero => rfl
  | succ rounds =>
    have front : isBlank (text.take (breakIndex limit text)) = true :=
      List.all_eq_true.2 fun unit member => each unit (List.mem_of_mem_take member)
    have back : afterBreak text (breakIndex limit text) = [] :=
      List.dropWhile_eq_nil_iff.2 fun unit member => each unit (List.mem_of_mem_drop member)
    rw [chunkTextLoop, if_pos longer]
    dsimp only
    rw [trimEnd_eq_nil front, back]
    cases rounds with
    | zero => rfl
    | succ rounds =>
      rw [chunkTextLoop]
      rfl

/-- The first piece that is cut off a text has more in it than white space. -/
def FirstPieceKept (text : List CodeUnit) (limit : Nat) : Prop :=
  limit < text.length → isBlank text = false → isBlank (text.take (breakIndex limit text)) = false

instance (text : List CodeUnit) (limit : Nat) : Decidable (FirstPieceKept text limit) := by
  unfold FirstPieceKept
  infer_instance

theorem laid_chunkMarkdownIR (ordered : InOrder ir.links) {limit : Nat}
    (positive : 0 < limit) (kept : FirstPieceKept ir.text limit) (nonempty : ir.text ≠ []) :
    Laid ir 0 (chunkMarkdownIR ir limit) := by
  have room := List.length_pos_of_ne_nil nonempty
  have isNonempty : ¬ir.text.isEmpty = true := by rwa [List.isEmpty_iff]
  rw [chunkMarkdownIR, if_neg isNonempty]
  split
  next =>
    refine .cons_self (piece_self ordered room) (.nil ?_)
    rw [Nat.zero_add]
    exact blankBetween_self ir _
  next longer =>
    rw [not_or, not_le] at longer
    rw [chunkText, if_neg isNonempty, if_neg (by rw [not_or, not_le]; exact longer)]
    cases isBlankText : isBlank ir.text with
    | true =>
      rw [chunkTextLoop_of_blank isBlankText longer.2, alignChunks]
      exact .nil fun position _ _ unit is =>
        List.all_eq_true.1 isBlankText unit (List.mem_of_getElem? is)
    | false =>
      have first := kept longer.2 isBlankText
      refine laid_alignChunks ordered positive (show (ir.text.drop 0).length < _ from
        Nat.lt_succ_self _) le_rfl (blankBetween_self ir 0) (fun less => absurd less (lt_irrefl 0))
        fun _ empty => ?_
      rw [List.drop_zero] at empty
      rw [isBlank, List.all_eq_true.2 (List.rdropWhile_eq_nil_iff.1 empty)] at first
      exact absurd first nofun

/-! ### Faithful chunks -/

section Faithful

variable {Rendered : Type} (renderChunk : MarkdownIR → Rendered) (measureRendered : Rendered → ℚ)
  (limit : ℚ) (ir : MarkdownIR)

/-- The chunks are pieces of the text with its styles and links, one after the other, leave out
only white space, and one that measures too much has no prefix that does not. -/
structure Faithful (chunks : List MarkdownIR) : Prop where
  spread : Spread ir 0 chunks
  least : ∀ chunk ∈ chunks, limit < measureRendered (renderChunk chunk) →
    ∀ length, 0 < length → length < chunk.text.length →
      limit < measureRendered (renderChunk (sliceMarkdownIR chunk 0 length))

/-- The loop comes to an end, with faithful chunks. -/
def ChunksFaithfully : Prop :=
  ∃ enough chunks, (∀ rounds, enough ≤ rounds →
    renderMarkdownIRChunksWithinLimit renderChunk measureRendered limit rounds ir = some chunks) ∧
      Faithful renderChunk measureRendered limit ir chunks

/-- No piece of white space is merged over a dropped one. -/
def MergesInContact : Prop :=
  ∀ rounds chunk rest, finalizeLoop renderChunk measureRendered (normalizeLimit limit) rounds
    (chunkMarkdownIR ir (normalizeLimit limit)) [] = some (chunk :: rest) →
      keepsContact renderChunk measureRendered (normalizeLimit limit) false [] chunk rest = true

/-- The inputs on which nothing goes wrong. -/
structure InPlace : Prop where
  ordered : InOrder ir.links
  kept : FirstPieceKept ir.text (normalizeLimit limit)
  contact : MergesInContact renderChunk measureRendered limit ir
  whole : ∀ chunk, measureRendered (renderChunk chunk) ≤ limit →
    measureRendered (renderChunk chunk) ≤ ⌊limit⌋

variable {renderChunk measureRendered limit ir}

theorem normalizeLimit_pos (limit : ℚ) : 0 < normalizeLimit limit :=
  Nat.lt_of_lt_of_le Nat.one_pos (le_max_left _ _)

theorem normalizeLimit_eq (atLeastOne : 1 ≤ limit) : (normalizeLimit limit : ℚ) = ⌊limit⌋ := by
  have floor : (1 : ℤ) ≤ ⌊limit⌋ := Int.le_floor.2 (by exact_mod_cast atLeastOne)
  have same : ((normalizeLimit limit : ℕ) : ℤ) = ⌊limit⌋ := by
    rw [normalizeLimit]
    omega
  exact_mod_cast same

/-- With whole measures, to be within the limit is to be within the one the code uses. -/
theorem InPlace.withinLimit_iff (inPlace : InPlace renderChunk measureRendered limit ir)
    (atLeastOne : 1 ≤ limit) (chunk : MarkdownIR) :
    withinLimit renderChunk measureRendered (normalizeLimit limit) chunk = true ↔
      measureRendered (renderChunk chunk) ≤ limit := by
  rw [withinLimit, decide_eq_true_eq, normalizeLimit_eq atLeastOne]
  exact ⟨fun within => within.trans (Int.floor_le limit), inPlace.whole chunk⟩

/-- A chunk measures as much as it has code units. -/
def measureText (chunk : MarkdownIR) : ℚ := chunk.text.length

theorem measureText_whole (limit : ℚ) (chunk : MarkdownIR) (fits : measureText (id chunk) ≤ limit) :
    measureText (id chunk) ≤ ⌊limit⌋ := by
  have floor : (chunk.text.length : ℤ) ≤ ⌊limit⌋ := Int.le_floor.2 (by exact_mod_cast fits)
  show (chunk.text.length : ℚ) ≤ ⌊limit⌋
  exact_mod_cast floor

def wordsIR : MarkdownIR := ⟨units "ab cd", [⟨0, 2, .bold⟩], [⟨3, 5, "x"⟩]⟩

/-- An empty code block before a word in bold. -/
def codeThenBoldIR : MarkdownIR := ⟨units "\n\n\nab", [⟨0, 2, .codeBlock⟩, ⟨3, 5, .bold⟩], []⟩

end Faithful

end OpenClaw.Markdown
