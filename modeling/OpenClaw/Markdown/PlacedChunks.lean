/-
This file says what it is for a chunk to be in its place, and that the cuts keep it there.

A chunk is placed at a position of the representation when its text is the text there
and it carries the styles and links there, position by position. Slicing a placed chunk
gives a placed chunk, and merging two that follow each other does. Splitting gives
pieces that tile the chunk, and more than one of them if the chunk is too long.
-/

import OpenClaw.Markdown.RenderAwareChunking

namespace OpenClaw.Markdown

open Spans

/-! ### Pieces of a text -/

theorem length_sliceText (text : List CodeUnit) (start stop : Nat) :
    (sliceText text start stop).length = min (stop - start) (text.length - start) := by
  rw [sliceText, List.length_take, List.length_drop]

theorem getElem?_sliceText (text : List CodeUnit) (start stop offset : Nat)
    (inside : start + offset < stop) :
    (sliceText text start stop)[offset]? = text[start + offset]? := by
  rw [sliceText, List.getElem?_take_of_lt (by omega), List.getElem?_drop]

/-- A piece of a piece. -/
theorem sliceText_sliceText (text : List CodeUnit) (start stop first last : Nat)
    (inside : start + last ≤ stop) :
    sliceText (sliceText text start stop) first last = sliceText text (start + first) (start + last) := by
  rw [sliceText, sliceText, sliceText, List.drop_take, List.drop_drop, List.take_take,
    show start + last - (start + first) = last - first by omega, min_eq_left (by omega)]

/-- Two pieces that follow each other. -/
theorem sliceText_append (text : List CodeUnit) {start middle stop : Nat} (front : start ≤ middle)
    (back : middle ≤ stop) :
    sliceText text start middle ++ sliceText text middle stop = sliceText text start stop := by
  rw [sliceText, sliceText, sliceText, show stop - start = (middle - start) + (stop - middle) by omega,
    List.take_add, List.drop_drop, show start + (middle - start) = middle by omega]

theorem sliceText_self (text : List CodeUnit) : sliceText text 0 text.length = text := by
  rw [sliceText, List.drop_zero, Nat.sub_zero, List.take_length]

/-! ### Placed chunks -/

/-- The chunk is what the representation has at a position: the text, and for each of its code
units the styles and links. -/
structure Placed (ir : MarkdownIR) (start : Nat) (chunk : MarkdownIR) : Prop where
  fits : start + chunk.text.length ≤ ir.text.length
  text : chunk.text = sliceText ir.text start (start + chunk.text.length)
  styles : ∀ offset < chunk.text.length, ∀ style,
    Covers chunk.styles style offset ↔ Covers ir.styles style (start + offset)
  links : ∀ offset < chunk.text.length, ∀ href,
    Covers chunk.links href offset ↔ Covers ir.links href (start + offset)

theorem placed_self (ir : MarkdownIR) : Placed ir 0 ir where
  fits := by rw [Nat.zero_add]
  text := by rw [Nat.zero_add, sliceText_self]
  styles offset _ style := by rw [Nat.zero_add]
  links offset _ href := by rw [Nat.zero_add]

variable {ir chunk : MarkdownIR} {start : Nat}

theorem Placed.getElem? (placed : Placed ir start chunk)
    {offset : Nat} (inside : offset < chunk.text.length) :
    chunk.text[offset]? = ir.text[start + offset]? := by
  conv_lhs => rw [placed.text]
  exact getElem?_sliceText _ _ _ _ (by omega)

theorem mergesStyles_touch (last span : Span MarkdownStyle) (merges : mergesStyles last span = true) :
    last.label = span.label ∧ span.start ≤ last.stop := by
  simp only [mergesStyles, Bool.and_eq_true, Bool.or_eq_true, decide_eq_true_eq] at merges
  exact ⟨merges.1, by omega⟩

theorem touches_touch {Label : Type} [DecidableEq Label] (last span : Span Label)
    (touching : touches last span = true) : last.label = span.label ∧ span.start ≤ last.stop := by
  simp only [touches, Bool.and_eq_true, decide_eq_true_eq] at touching
  exact touching

theorem inOrder_sorted (spans : List (Span MarkdownStyle)) :
    InOrder (spans.insertionSort sortsBefore) := by
  refine (List.pairwise_insertionSort sortsBefore spans).imp fun before _ => ?_
  rcases before with earlier | ⟨same, -⟩
  · exact earlier.le
  · exact same.le

/-- Merging style spans changes nothing about what they cover. -/
theorem covers_mergeStyleSpans (spans : List (Span MarkdownStyle)) (style : MarkdownStyle)
    (position : Nat) : Covers (mergeStyleSpans spans) style position ↔ Covers spans style position :=
  (covers_joinNeighbours mergesStyles_touch (inOrder_sorted spans) style position).trans
    (covers_of_perm (List.perm_insertionSort sortsBefore spans) style position)

theorem covers_sliceStyleSpans (spans : List (Span MarkdownStyle)) (start stop : Nat)
    (style : MarkdownStyle) (position : Nat) :
    Covers (sliceStyleSpans spans start stop) style position ↔
      start + position < stop ∧ Covers spans style (start + position) :=
  (covers_mergeStyleSpans _ _ _).trans (covers_restrict _ _ _ _ _)

/-- Sliced styles are tidy however they were listed. -/
theorem tidy_sliceStyleSpans (spans : List (Span MarkdownStyle)) (start stop : Nat) :
    Tidy (sliceStyleSpans spans start stop) (stop - start) := by
  have perm := List.perm_insertionSort sortsBefore (spans.filterMap (restrict start stop))
  refine Tidy.joinNeighbours ⟨?_, inOrder_sorted _, ?_⟩
  · exact fun span member => within_restrict spans start stop span (perm.mem_iff.1 member)
  · exact fun span member => inhabited_restrict spans start stop span (perm.mem_iff.1 member)

theorem Placed.slice (placed : Placed ir start chunk)
    {first last : Nat} (order : first ≤ last) (inside : last ≤ chunk.text.length) :
    Placed ir (start + first) (sliceMarkdownIR chunk first last) ∧
      (sliceMarkdownIR chunk first last).text.length = last - first := by
  have length_eq : (sliceMarkdownIR chunk first last).text.length = last - first := by
    show (sliceText chunk.text first last).length = _
    rw [length_sliceText]
    omega
  have fits := placed.fits
  refine ⟨⟨?_, ?_, ?_, ?_⟩, length_eq⟩
  · rw [length_eq]
    omega
  · rw [length_eq]
    show sliceText chunk.text first last = _
    conv_lhs => rw [placed.text]
    rw [sliceText_sliceText _ _ _ _ _ (by omega),
      show start + first + (last - first) = start + last by omega]
  · intro offset bound style
    rw [length_eq] at bound
    rw [show (sliceMarkdownIR chunk first last).styles = sliceStyleSpans chunk.styles first last
      from rfl, covers_sliceStyleSpans, placed.styles (first + offset) (by omega),
      ← Nat.add_assoc]
    exact and_iff_right (by omega)
  · intro offset bound href
    rw [length_eq] at bound
    rw [show (sliceMarkdownIR chunk first last).links =
      chunk.links.filterMap (restrict first last) from rfl, covers_restrict,
      placed.links (first + offset) (by omega), ← Nat.add_assoc]
    exact and_iff_right (by omega)

/-- The spans of a chunk are as slicing leaves them. -/
structure Trim (chunk : MarkdownIR) : Prop where
  styles : Tidy chunk.styles chunk.text.length
  links : Tidy chunk.links chunk.text.length

theorem trim_slice {chunk : MarkdownIR} (ordered : InOrder chunk.links) (first : Nat) {last : Nat}
    (inside : last ≤ chunk.text.length) : Trim (sliceMarkdownIR chunk first last) := by
  have length_eq : (sliceMarkdownIR chunk first last).text.length = last - first := by
    show (sliceText chunk.text first last).length = _
    rw [length_sliceText]
    omega
  constructor
  · rw [length_eq]
    exact tidy_sliceStyleSpans chunk.styles first last
  · rw [length_eq]
    exact ordered.tidy_restrict first last

theorem Trim.merge {left right : MarkdownIR} (leftTrim : Trim left) (rightTrim : Trim right) :
    Trim (mergeMarkdownIRChunks left right) := by
  have length_eq : (mergeMarkdownIRChunks left right).text.length =
      left.text.length + right.text.length := List.length_append
  constructor
  · rw [length_eq]
    exact (leftTrim.styles.append_shift rightTrim.styles).joinNeighbours
  · rw [length_eq]
    exact (leftTrim.links.append_shift rightTrim.links).joinNeighbours

theorem covers_merged {Label : Type} [DecidableEq Label] {left right : List (Span Label)}
    {leftLength rightLength : Nat} (leftTidy : Tidy left leftLength)
    (rightTidy : Tidy right rightLength) (label : Label) (position : Nat) :
    Covers (joinNeighbours touches (left ++ shift leftLength right)) label position ↔
      if position < leftLength then Covers left label position
      else Covers right label (position - leftLength) := by
  rw [covers_joinNeighbours touches_touch (leftTidy.append_shift rightTidy).ordered, covers_append,
    covers_shift]
  split
  next inLeft => exact ⟨fun either => either.resolve_right fun inRight => by omega, .inl⟩
  next inRight =>
    constructor
    · rintro (left | right)
      · exact absurd left (leftTidy.within.not_covers label (not_lt.1 inRight))
      · exact right.2
    · exact fun right => .inr ⟨not_lt.1 inRight, right⟩

theorem Placed.merge {ir left right : MarkdownIR} (leftPlaced : Placed ir start left)
    (rightPlaced : Placed ir (start + left.text.length) right) (leftTrim : Trim left)
    (rightTrim : Trim right) : Placed ir start (mergeMarkdownIRChunks left right) := by
  have length_eq : (mergeMarkdownIRChunks left right).text.length =
      left.text.length + right.text.length := List.length_append
  have fits := rightPlaced.fits
  constructor
  · rw [length_eq]
    omega
  · rw [length_eq, ← Nat.add_assoc, ← sliceText_append ir.text (Nat.le_add_right start _)
      (Nat.le_add_right (start + left.text.length) right.text.length), ← leftPlaced.text,
      ← rightPlaced.text]
    rfl
  · intro offset bound style
    rw [length_eq] at bound
    refine (covers_merged leftTrim.styles rightTrim.styles style offset).trans ?_
    split
    next inLeft => exact leftPlaced.styles offset inLeft style
    next inRight =>
      rw [rightPlaced.styles (offset - left.text.length) (by omega),
        show start + left.text.length + (offset - left.text.length) = start + offset by omega]
  · intro offset bound href
    rw [length_eq] at bound
    refine (covers_merged leftTrim.links rightTrim.links href offset).trans ?_
    split
    next inLeft => exact leftPlaced.links offset inLeft href
    next inRight =>
      rw [rightPlaced.links (offset - left.text.length) (by omega),
        show start + left.text.length + (offset - left.text.length) = start + offset by omega]

/-- A chunk on its way through the loops. A chunk that is not the whole text has been sliced. -/
structure Piece (ir : MarkdownIR) (start : Nat) (chunk : MarkdownIR) : Prop where
  placed : Placed ir start chunk
  nonempty : 0 < chunk.text.length
  ordered : InOrder chunk.links
  trim : chunk.text.length < ir.text.length → Trim chunk

theorem Piece.slice (piece : Piece ir start chunk)
    {first last : Nat} (order : first < last) (inside : last ≤ chunk.text.length) :
    Piece ir (start + first) (sliceMarkdownIR chunk first last) ∧
      (sliceMarkdownIR chunk first last).text.length = last - first := by
  obtain ⟨placed, length_eq⟩ := piece.placed.slice order.le inside
  have trim := trim_slice piece.ordered first inside
  exact ⟨⟨placed, by omega, trim.links.ordered, fun _ => trim⟩, length_eq⟩

theorem Piece.merge {ir left right : MarkdownIR} (leftPiece : Piece ir start left)
    (rightPiece : Piece ir (start + left.text.length) right) :
    Piece ir start (mergeMarkdownIRChunks left right) := by
  have fits := rightPiece.placed.fits
  have leftRoom := leftPiece.nonempty
  have rightRoom := rightPiece.nonempty
  have leftTrim := leftPiece.trim (by omega)
  have rightTrim := rightPiece.trim (by omega)
  have trim := leftTrim.merge rightTrim
  refine ⟨leftPiece.placed.merge rightPiece.placed leftTrim rightTrim, ?_, trim.links.ordered,
    fun _ => trim⟩
  show 0 < (left.text ++ right.text).length
  rw [List.length_append]
  omega

/-! ### Tilings -/

/-- Pieces that follow each other from one position to another. -/
inductive Tiled (ir : MarkdownIR) : Nat → List MarkdownIR → Nat → Prop
  | nil (position : Nat) : Tiled ir position [] position
  | cons {start stop : Nat} {chunk : MarkdownIR} {rest : List MarkdownIR}
      (piece : Piece ir start chunk) (tail : Tiled ir (start + chunk.text.length) rest stop) :
      Tiled ir start (chunk :: rest) stop

theorem Piece.tiled (piece : Piece ir start chunk) :
    Tiled ir start [chunk] (start + chunk.text.length) := .cons piece (.nil _)

/-- What the scan for a split records lies in the window. -/
structure ScansWithin (start stop : Nat) (scan : SplitScan) : Prop where
  outsideNewline : ∀ index, scan.lastOutsideParenNewlineBreak = some index →
    start < index ∧ index ≤ stop
  outsideWhitespace : ∀ index, scan.lastOutsideParenWhitespaceBreak = some index →
    start < index ∧ index ≤ stop
  outsideRun : ∀ index, scan.lastOutsideParenWhitespaceRunStart = some index → index ≤ stop
  anyNewline : ∀ index, scan.lastAnyNewlineBreak = some index → start < index ∧ index ≤ stop
  anyWhitespace : ∀ index, scan.lastAnyWhitespaceBreak = some index → start < index ∧ index ≤ stop
  anyRun : ∀ index, scan.lastAnyWhitespaceRunStart = some index → index ≤ stop

theorem ScansWithin.step {start stop : Nat} {scan : SplitScan} (within : ScansWithin start stop scan)
    (text : List CodeUnit) {index : Nat} (after : start ≤ index) (before : index < stop)
    (unit : CodeUnit) : ScansWithin start stop (scanSplit text start index unit scan) := by
  have here : ∀ other, some (index + 1) = some other → start < other ∧ other ≤ stop := by
    intro other same
    obtain rfl := Option.some.inj same
    omega
  have run : ∀ other, (if index = start ∨ (!(text[index - 1]?).any isSpace) = true then some index
      else scan.lastAnyWhitespaceRunStart) = some other → other ≤ stop := by
    intro other same
    split_ifs at same
    · obtain rfl := Option.some.inj same
      exact before.le
    · exact within.anyRun other same
  unfold scanSplit
  by_cases opens : unit = openParen
  · rw [if_pos opens]
    exact ⟨within.1, within.2, within.3, within.4, within.5, within.6⟩
  rw [if_neg opens]
  by_cases closes : unit = closeParen ∧ 0 < scan.parenDepth
  · rw [if_pos closes]
    exact ⟨within.1, within.2, within.3, within.4, within.5, within.6⟩
  rw [if_neg closes]
  by_cases word : (!isSpace unit) = true
  · rw [if_pos word]
    exact ⟨within.1, within.2, within.3, within.4, within.5, within.6⟩
  rw [if_neg word]
  by_cases leading : (!scan.sawNonWhitespace) = true
  · rw [if_pos leading]
    exact within
  rw [if_neg leading]
  by_cases breaks : unit = newline
  · rw [if_pos breaks]
    refine ⟨?_, within.2, within.3, here, within.5, within.6⟩
    dsimp only
    split_ifs
    · exact here
    · exact within.outsideNewline
  · rw [if_neg breaks]
    refine ⟨within.1, ?_, ?_, within.4, here, run⟩
    · dsimp only
      split
      · exact here
      · exact within.outsideWhitespace
    · dsimp only
      split
      · exact run
      · exact within.outsideRun

theorem scansWithin (text : List CodeUnit) (start stop : Nat) :
    ScansWithin start stop (scanSplits text start stop) := by
  have fold : ∀ (indices : List Nat) (scan : SplitScan), ScansWithin start stop scan →
      (∀ index ∈ indices, start ≤ index ∧ index < stop) →
      ScansWithin start stop (indices.foldl (fun scan index =>
        (text[index]?).elim scan fun unit => scanSplit text start index unit scan) scan) := by
    intro indices
    induction indices with
    | nil => exact fun scan within _ => within
    | cons index rest inductionHypothesis =>
      intro scan within bounds
      obtain ⟨⟨after, before⟩, bounds⟩ := List.forall_mem_cons.1 bounds
      refine inductionHypothesis _ ?_ bounds
      show ScansWithin start stop (text[index]?.elim scan _)
      cases text[index]? with
      | none => exact within
      | some unit => exact within.step text after before unit
  refine fold _ _ ⟨nofun, nofun, nofun, nofun, nofun, nofun⟩ fun index member => ?_
  obtain ⟨offset, bound, rfl⟩ := List.mem_range'.1 member
  omega

/-- A split makes progress and stays in its window. -/
theorem findMarkdownIRPreservedSplitIndex_bounds (text : List CodeUnit) {start limit : Nat}
    (inside : start < text.length) (positive : 0 < limit) :
    start < findMarkdownIRPreservedSplitIndex text start limit ∧
      findMarkdownIRPreservedSplitIndex text start limit ≤ min text.length (start + limit) := by
  have within := scansWithin text start (min text.length (start + limit))
  have resolved : ∀ breakIndex runStart,
      start < breakIndex ∧ breakIndex ≤ min text.length (start + limit) →
      (∀ index, runStart = some index → index ≤ min text.length (start + limit)) →
      start < resolveWhitespaceBreak text start breakIndex runStart ∧
        resolveWhitespaceBreak text start breakIndex runStart ≤ min text.length (start + limit) := by
    intro breakIndex runStart bounds run
    unfold resolveWhitespaceBreak
    split
    next => exact bounds
    next index filtered =>
      obtain ⟨is, after⟩ := Option.filter_eq_some_iff.1 filtered
      split
      · exact ⟨of_decide_eq_true after, run index is⟩
      · exact bounds
  unfold findMarkdownIRPreservedSplitIndex
  dsimp only
  split
  next atEnd => omega
  next =>
    split
    next index found =>
      exact within.outsideNewline index (Option.filter_eq_some_iff.1 found).1
    next index _ found =>
      exact resolved index _ (within.outsideWhitespace index (Option.filter_eq_some_iff.1 found).1)
        within.outsideRun
    next index _ _ found =>
      exact within.anyNewline index (Option.filter_eq_some_iff.1 found).1
    next index _ _ _ found =>
      exact resolved index _ (within.anyWhitespace index (Option.filter_eq_some_iff.1 found).1)
        within.anyRun
    next => omega

theorem Piece.tiled_splitLoop {start limit : Nat}
    (piece : Piece ir start chunk) (positive : 0 < limit) {rounds cursor : Nat}
    (inside : cursor ≤ chunk.text.length) (enough : chunk.text.length ≤ cursor + rounds) :
    Tiled ir (start + cursor) (splitLoop chunk limit rounds cursor) (start + chunk.text.length) := by
  induction rounds generalizing cursor with
  | zero =>
    rw [show cursor = chunk.text.length by omega]
    exact .nil _
  | succ rounds inductionHypothesis =>
    rw [splitLoop]
    split
    next more =>
      obtain ⟨progress, bound⟩ := findMarkdownIRPreservedSplitIndex_bounds chunk.text more positive
      obtain ⟨part, length_eq⟩ := piece.slice progress (bound.trans (min_le_left _ _))
      refine .cons part ?_
      rw [length_eq, show start + cursor +
        (findMarkdownIRPreservedSplitIndex chunk.text cursor limit - cursor) =
        start + findMarkdownIRPreservedSplitIndex chunk.text cursor limit by omega]
      exact inductionHypothesis (bound.trans (min_le_left _ _)) (by omega)
    next done =>
      rw [show cursor = chunk.text.length by omega]
      exact .nil _

theorem Piece.tiled_splitPreserve (piece : Piece ir start chunk) (limit : Nat) :
    Tiled ir start (splitMarkdownIRPreserveWhitespace chunk limit) (start + chunk.text.length) := by
  have nonempty : ¬chunk.text.isEmpty = true := by
    rw [List.isEmpty_iff_length_eq_zero]
    exact piece.nonempty.ne'
  rw [splitMarkdownIRPreserveWhitespace, if_neg nonempty]
  dsimp only
  split
  · exact piece.tiled
  · exact piece.tiled_splitLoop (Nat.lt_of_lt_of_le Nat.one_pos (le_max_left _ _)) (Nat.zero_le _)
      (by omega)

/-- A chunk that is longer than the limit comes apart. -/
theorem one_lt_length_splitPreserve {chunk : MarkdownIR} {limit : Nat} (positive : 0 < limit)
    (longer : limit < chunk.text.length) :
    1 < (splitMarkdownIRPreserveWhitespace chunk limit).length := by
  have nonempty : ¬chunk.text.isEmpty = true := by
    rw [List.isEmpty_iff_length_eq_zero]
    omega
  rw [splitMarkdownIRPreserveWhitespace, if_neg nonempty]
  dsimp only
  rw [max_eq_right (show 1 ≤ limit from positive), if_neg (not_le.2 longer)]
  obtain ⟨progress, bound⟩ := findMarkdownIRPreservedSplitIndex_bounds chunk.text
    (show 0 < chunk.text.length by omega) positive
  have twice : ∃ rounds, chunk.text.length = rounds + 1 + 1 :=
    ⟨chunk.text.length - 2, by omega⟩
  obtain ⟨rounds, length_eq⟩ := twice
  rw [length_eq, splitLoop, if_pos (by omega)]
  dsimp only
  rw [splitLoop, if_pos (by omega), List.length_cons, List.length_cons]
  omega

end OpenClaw.Markdown
