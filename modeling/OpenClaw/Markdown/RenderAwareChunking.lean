/-
This file is `markdown/render-aware-chunking.ts`: chunks of the representation that
measure no more than a limit once they are rendered.

Rendering and measuring are parameters, and nothing is known of how they relate. The
outer loop keeps a stack of pending chunks and stops when it is empty; it is run for a
number of rounds here, which the loop itself does not count.
-/

import OpenClaw.Markdown.IR

namespace OpenClaw.Markdown

open Spans

/-! ### Splitting where words end -/

/-- The variables of the scan of `findMarkdownIRPreservedSplitIndex`; nothing is the `-1` a break
index starts from. -/
structure SplitScan where
  lastOutsideParenNewlineBreak : Option Nat := none
  lastOutsideParenWhitespaceBreak : Option Nat := none
  lastOutsideParenWhitespaceRunStart : Option Nat := none
  lastAnyNewlineBreak : Option Nat := none
  lastAnyWhitespaceBreak : Option Nat := none
  lastAnyWhitespaceRunStart : Option Nat := none
  parenDepth : Nat := 0
  sawNonWhitespace : Bool := false

/-- One round of the scan. -/
def scanSplit (text : List CodeUnit) (start index : Nat) (unit : CodeUnit) (scan : SplitScan) :
    SplitScan :=
  if unit = openParen then { scan with sawNonWhitespace := true, parenDepth := scan.parenDepth + 1 }
  else if unit = closeParen ∧ 0 < scan.parenDepth then
    { scan with sawNonWhitespace := true, parenDepth := scan.parenDepth - 1 }
  else if !isSpace unit then { scan with sawNonWhitespace := true }
  else if !scan.sawNonWhitespace then scan
  else if unit = newline then
    { scan with
      lastAnyNewlineBreak := some (index + 1)
      lastOutsideParenNewlineBreak :=
        if scan.parenDepth = 0 then some (index + 1) else scan.lastOutsideParenNewlineBreak }
  else
    let whitespaceRunStart :=
      if index = start ∨ !(text[index - 1]?).any isSpace then some index
      else scan.lastAnyWhitespaceRunStart
    { scan with
      lastAnyWhitespaceBreak := some (index + 1)
      lastAnyWhitespaceRunStart := whitespaceRunStart
      lastOutsideParenWhitespaceBreak :=
        if scan.parenDepth = 0 then some (index + 1) else scan.lastOutsideParenWhitespaceBreak
      lastOutsideParenWhitespaceRunStart :=
        if scan.parenDepth = 0 then whitespaceRunStart
        else scan.lastOutsideParenWhitespaceRunStart }

/-- The scan from `start` up to `stop`. -/
def scanSplits (text : List CodeUnit) (start stop : Nat) : SplitScan :=
  ((List.range' start (stop - start)).foldl
    (fun scan index => (text[index]?).elim scan fun unit => scanSplit text start index unit scan) {})

/-- `resolveWhitespaceBreak`. -/
def resolveWhitespaceBreak (text : List CodeUnit) (start breakIndex : Nat)
    (runStart : Option Nat) : Nat :=
  match runStart.filter (start < ·) with
  | none => breakIndex
  | some runStart => if (text[breakIndex]?).any isSpace then runStart else breakIndex

def findMarkdownIRPreservedSplitIndex (text : List CodeUnit) (start limit : Nat) : Nat :=
  let maxEnd := min text.length (start + limit)
  if text.length ≤ maxEnd then text.length
  else
    let scan := scanSplits text start maxEnd
    match scan.lastOutsideParenNewlineBreak.filter (start < ·),
        scan.lastOutsideParenWhitespaceBreak.filter (start < ·),
        scan.lastAnyNewlineBreak.filter (start < ·),
        scan.lastAnyWhitespaceBreak.filter (start < ·) with
    | some breakIndex, _, _, _ => breakIndex
    | none, some breakIndex, _, _ =>
      resolveWhitespaceBreak text start breakIndex scan.lastOutsideParenWhitespaceRunStart
    | none, none, some breakIndex, _ => breakIndex
    | none, none, none, some breakIndex =>
      resolveWhitespaceBreak text start breakIndex scan.lastAnyWhitespaceRunStart
    | none, none, none, none => maxEnd

/-- The loop of `splitMarkdownIRPreserveWhitespace`; each round takes at least one code unit. -/
def splitLoop (ir : MarkdownIR) (limit : Nat) : Nat → Nat → List MarkdownIR
  | 0, _ => []
  | rounds + 1, cursor =>
    if cursor < ir.text.length then
      let stop := findMarkdownIRPreservedSplitIndex ir.text cursor limit
      sliceMarkdownIR ir cursor stop :: splitLoop ir limit rounds stop
    else []

def splitMarkdownIRPreserveWhitespace (ir : MarkdownIR) (limit : Nat) : List MarkdownIR :=
  if ir.text.isEmpty then []
  else
    let normalizedLimit := max 1 limit
    if ir.text.length ≤ normalizedLimit then [ir]
    else splitLoop ir normalizedLimit ir.text.length 0

/-! ### Merging neighbours -/

/-- When a span is joined to the one before it. -/
def touches {Label : Type} [DecidableEq Label] (last span : Span Label) : Bool :=
  last.label = span.label && span.start ≤ last.stop

def mergeMarkdownIRChunks (left right : MarkdownIR) : MarkdownIR where
  text := left.text ++ right.text
  styles := joinNeighbours touches (left.styles ++ shift left.text.length right.styles)
  links := joinNeighbours touches (left.links ++ shift left.text.length right.links)

section Rendering

variable {Rendered : Type} (renderChunk : MarkdownIR → Rendered) (measureRendered : Rendered → ℚ)
  (renderedLimit : Nat)

/-- A chunk is within the limit once it is rendered. -/
def withinLimit (chunk : MarkdownIR) : Bool :=
  measureRendered (renderChunk chunk) ≤ renderedLimit

/-! ### Splitting by the rendered limit -/

/-- The loop of `findLargestChunkTextLengthWithinRenderedLimit`, from a length downwards. -/
def findLargestFrom (chunk : MarkdownIR) : Nat → Nat
  | 0 => 0
  | candidateLength + 1 =>
    if withinLimit renderChunk measureRendered renderedLimit
        (sliceMarkdownIR chunk 0 (candidateLength + 1)) then
      candidateLength + 1
    else findLargestFrom chunk candidateLength

def findLargestChunkTextLengthWithinRenderedLimit (chunk : MarkdownIR) : Nat :=
  if chunk.text.length ≤ 1 then chunk.text.length
  else findLargestFrom renderChunk measureRendered renderedLimit chunk (chunk.text.length - 1)

def splitMarkdownIRByRenderedLimit (chunk : MarkdownIR) : List MarkdownIR :=
  if chunk.text.length ≤ 1 then [chunk]
  else
    let splitLimit := findLargestChunkTextLengthWithinRenderedLimit renderChunk measureRendered
      renderedLimit chunk
    if splitLimit = 0 then [chunk]
    else
      let split := splitMarkdownIRPreserveWhitespace chunk splitLimit
      if split.head?.any (withinLimit renderChunk measureRendered renderedLimit) then split
      else
        [sliceMarkdownIR chunk 0 splitLimit, sliceMarkdownIR chunk splitLimit chunk.text.length]

/-! ### Coalescing white space -/

/-- What becomes of a chunk of white space between the last chunk given out and the next one. -/
inductive Coalescing
  | mergePrev (merged : MarkdownIR)
  | mergeNext (merged : MarkdownIR)
  | divide (mergedPrev mergedNext : MarkdownIR)
  | drop
  deriving DecidableEq, Repr

/-- The search for a prefix of the chunk that fits the last chunk while the rest fits the next. -/
def divideFrom (prev chunk next : MarkdownIR) : Nat → Coalescing
  | 0 => .drop
  | prefixLength + 1 =>
    let mergedPrev := mergeMarkdownIRChunks prev (sliceMarkdownIR chunk 0 (prefixLength + 1))
    let mergedNext := mergeMarkdownIRChunks
      (sliceMarkdownIR chunk (prefixLength + 1) chunk.text.length) next
    if withinLimit renderChunk measureRendered renderedLimit mergedPrev &&
        withinLimit renderChunk measureRendered renderedLimit mergedNext then
      .divide mergedPrev mergedNext
    else divideFrom prev chunk next prefixLength

/-- The part of the loop of `coalesceWhitespaceOnlyMarkdownIRChunks` for a chunk of white space. -/
def coalesceBlank (prev : Option MarkdownIR) (chunk : MarkdownIR) (next : Option MarkdownIR) :
    Coalescing :=
  match prev.map (mergeMarkdownIRChunks · chunk) |>.filter
      (withinLimit renderChunk measureRendered renderedLimit) with
  | some merged => .mergePrev merged
  | none =>
    match next.map (mergeMarkdownIRChunks chunk) |>.filter
        (withinLimit renderChunk measureRendered renderedLimit) with
    | some merged => .mergeNext merged
    | none =>
      match prev, next with
      | some prev, some next =>
        divideFrom renderChunk measureRendered renderedLimit prev chunk next (chunk.text.length - 1)
      | _, _ => .drop

/-- The loop of `coalesceWhitespaceOnlyMarkdownIRChunks`: what has been given out, last first, the
chunk at hand and the chunks after it. -/
def coalesceLoop : List MarkdownIR → MarkdownIR → List MarkdownIR → List MarkdownIR
  | coalesced, chunk, [] =>
    if !isBlank chunk.text then (chunk :: coalesced).reverse
    else match coalesceBlank renderChunk measureRendered renderedLimit coalesced.head? chunk none with
      | .mergePrev merged => (merged :: coalesced.tail).reverse
      | _ => coalesced.reverse
  | coalesced, chunk, next :: rest =>
    if !isBlank chunk.text then coalesceLoop (chunk :: coalesced) next rest
    else match coalesceBlank renderChunk measureRendered renderedLimit coalesced.head? chunk
        (some next) with
      | .mergePrev merged => coalesceLoop (merged :: coalesced.tail) next rest
      | .mergeNext merged => coalesceLoop coalesced merged rest
      | .divide mergedPrev mergedNext => coalesceLoop (mergedPrev :: coalesced.tail) mergedNext rest
      | .drop => coalesceLoop coalesced next rest

def coalesceWhitespaceOnlyMarkdownIRChunks : List MarkdownIR → List MarkdownIR
  | [] => []
  | chunk :: rest => coalesceLoop renderChunk measureRendered renderedLimit [] chunk rest

/-! ### The outer loop -/

/-- The loop over the pending chunks, for at most so many rounds. -/
def finalizeLoop : Nat → List MarkdownIR → List MarkdownIR → Option (List MarkdownIR)
  | _, [], finalized => some finalized.reverse
  | 0, _ :: _, _ => none
  | rounds + 1, chunk :: pending, finalized =>
    if withinLimit renderChunk measureRendered renderedLimit chunk || chunk.text.length ≤ 1 then
      finalizeLoop rounds pending (chunk :: finalized)
    else
      let split := splitMarkdownIRByRenderedLimit renderChunk measureRendered renderedLimit chunk
      if split.length ≤ 1 then finalizeLoop rounds pending (chunk :: finalized)
      else finalizeLoop rounds (split ++ pending) finalized

end Rendering

/-- `normalizedLimit`. -/
def normalizeLimit (limit : ℚ) : Nat := max 1 ⌊limit⌋.toNat

/-- The sources of `renderMarkdownIRChunksWithinLimit`, if the loop is done in so many rounds. What
is rendered of each is the chunk itself. -/
def renderMarkdownIRChunksWithinLimit {Rendered : Type} (renderChunk : MarkdownIR → Rendered)
    (measureRendered : Rendered → ℚ) (limit : ℚ) (rounds : Nat) (ir : MarkdownIR) :
    Option (List MarkdownIR) :=
  if ir.text.isEmpty then some []
  else
    let normalizedLimit := normalizeLimit limit
    (finalizeLoop renderChunk measureRendered normalizedLimit rounds
      (chunkMarkdownIR ir normalizedLimit) []).map
        (coalesceWhitespaceOnlyMarkdownIRChunks renderChunk measureRendered normalizedLimit)

end OpenClaw.Markdown
