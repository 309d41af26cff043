/-
This file is the intermediate representation of rendered markdown and what cuts it up:
`shared/text-chunking.ts`, `chunkText` of `auto-reply/chunk.ts`, and the slicing,
merging and chunking of `markdown/ir.ts`.

Text is a list of UTF-16 code units, which is what its offsets count. White space is the
same set for `trim` and for `\s`, and all of it is in single code units.
-/

import OpenClaw.Base.Spans

namespace OpenClaw.Markdown

open Spans

/-! ### Text -/

/-- A UTF-16 code unit. -/
abbrev CodeUnit := UInt16

/-- `/\s/.test` on one code unit. -/
def isSpace (unit : CodeUnit) : Bool :=
  (9 ≤ unit && unit ≤ 13) || unit == 32 || unit == 160 || unit == 5760 ||
    (8192 ≤ unit && unit ≤ 8202) || unit == 8232 || unit == 8233 || unit == 8239 ||
    unit == 8287 || unit == 12288 || unit == 65279

def newline : CodeUnit := 10

def openParen : CodeUnit := 40

def closeParen : CodeUnit := 41

def trimStart (text : List CodeUnit) : List CodeUnit := text.dropWhile isSpace

def trimEnd (text : List CodeUnit) : List CodeUnit := text.rdropWhile isSpace

/-- Text without anything but white space. -/
def isBlank (text : List CodeUnit) : Bool := text.all isSpace

/-- The code units of a text in ASCII. -/
def units (text : String) : List CodeUnit := text.toList.map fun character =>
  UInt16.ofNat character.toNat

/-! ### The representation -/

inductive MarkdownStyle
  | bold
  | italic
  | strikethrough
  | code
  | codeBlock
  | spoiler
  | blockquote
  deriving DecidableEq, Repr

/-- `MarkdownIR`. A style span carries its style, a link span its `href`. -/
structure MarkdownIR where
  text : List CodeUnit
  styles : List (Span MarkdownStyle)
  links : List (Span String)
  deriving DecidableEq, Repr

/-- The place of a style among the others in `localeCompare`. -/
def MarkdownStyle.rank : MarkdownStyle → Nat
  | .blockquote => 0
  | .bold => 1
  | .code => 2
  | .codeBlock => 3
  | .italic => 4
  | .spoiler => 5
  | .strikethrough => 6

/-- The order `mergeStyleSpans` sorts by. -/
def sortsBefore (a b : Span MarkdownStyle) : Prop :=
  a.start < b.start ∨ a.start = b.start ∧
    (a.stop < b.stop ∨ a.stop = b.stop ∧ a.label.rank ≤ b.label.rank)

instance : DecidableRel sortsBefore := fun a b => by unfold sortsBefore; infer_instance

instance : Std.Total sortsBefore := ⟨fun a b => by unfold sortsBefore; omega⟩

instance : IsTrans (Span MarkdownStyle) sortsBefore := ⟨fun a b c => by unfold sortsBefore; omega⟩

/-- Blockquotes are containers: two that touch stay two. -/
def mergesStyles (prev span : Span MarkdownStyle) : Bool :=
  prev.label = span.label &&
    (span.start < prev.stop || span.start = prev.stop && span.label ≠ .blockquote)

def mergeStyleSpans (spans : List (Span MarkdownStyle)) : List (Span MarkdownStyle) :=
  joinNeighbours mergesStyles (spans.insertionSort sortsBefore)

def sliceStyleSpans (spans : List (Span MarkdownStyle)) (start stop : Nat) :
    List (Span MarkdownStyle) :=
  mergeStyleSpans (spans.filterMap (restrict start stop))

def sliceLinkSpans (spans : List (Span String)) (start stop : Nat) : List (Span String) :=
  spans.filterMap (restrict start stop)

/-- `text.slice(start, end)`. -/
def sliceText (text : List CodeUnit) (start stop : Nat) : List CodeUnit :=
  (text.drop start).take (stop - start)

def sliceMarkdownIR (ir : MarkdownIR) (start stop : Nat) : MarkdownIR where
  text := sliceText ir.text start stop
  styles := sliceStyleSpans ir.styles start stop
  links := sliceLinkSpans ir.links start stop

/-! ### Chunking text -/

/-- What `scanParenAwareBreakpoints` has seen. -/
structure Breakpoints where
  lastNewline : Option Nat := none
  lastWhitespace : Option Nat := none
  depth : Nat := 0

/-- `scanParenAwareBreakpoints`, from the position `index` on. -/
def scanParenAwareBreakpoints : List CodeUnit → Nat → Breakpoints → Breakpoints
  | [], _, seen => seen
  | unit :: rest, index, seen =>
    scanParenAwareBreakpoints rest (index + 1)
      (if unit = openParen then { seen with depth := seen.depth + 1 }
      else if unit = closeParen ∧ 0 < seen.depth then { seen with depth := seen.depth - 1 }
      else if seen.depth ≠ 0 then seen
      else if unit = newline then { seen with lastNewline := some index }
      else if isSpace unit then { seen with lastWhitespace := some index }
      else seen)

/-- The break `chunkText` asks for in a window: a newline, or else white space. -/
def resolveBreakIndex (window : List CodeUnit) : Option Nat :=
  let seen := scanParenAwareBreakpoints window 0 {}
  if seen.lastNewline.any (0 < ·) then seen.lastNewline else seen.lastWhitespace

/-- `breakIdx`. -/
def breakIndex (limit : Nat) (remaining : List CodeUnit) : Nat :=
  ((resolveBreakIndex (remaining.take limit)).filter fun candidate =>
    0 < candidate && candidate ≤ limit).getD limit

/-- What is left after a chunk: one separator goes, and then all white space. -/
def afterBreak (remaining : List CodeUnit) (breakIdx : Nat) : List CodeUnit :=
  let brokeOnSeparator := (remaining[breakIdx]?).any isSpace
  trimStart (remaining.drop (breakIdx + if brokeOnSeparator then 1 else 0))

/-- The loop of `chunkTextByBreakResolver`; each round takes at least one code unit. -/
def chunkTextLoop (limit : Nat) : Nat → List CodeUnit → List (List CodeUnit)
  | 0, _ => []
  | rounds + 1, remaining =>
    if limit < remaining.length then
      let breakIdx := breakIndex limit remaining
      let chunk := trimEnd (remaining.take breakIdx)
      let chunks := chunkTextLoop limit rounds (afterBreak remaining breakIdx)
      if chunk.isEmpty then chunks else chunk :: chunks
    else if remaining.isEmpty then []
    else [remaining]

def chunkText (text : List CodeUnit) (limit : Nat) : List (List CodeUnit) :=
  if text.isEmpty then []
  else if limit = 0 ∨ text.length ≤ limit then [text]
  else chunkTextLoop limit (text.length + 1) text

/-! ### Chunking the representation -/

/-- Skips white space from a position on. -/
def skipSpaces (text : List CodeUnit) (cursor : Nat) : Nat :=
  cursor + ((text.drop cursor).takeWhile isSpace).length

/-- Puts the chunks of the text back to where they come from. -/
def alignChunks (ir : MarkdownIR) : Nat → List (List CodeUnit) → List MarkdownIR
  | _, [] => []
  | start, chunk :: rest =>
    let stop := min ir.text.length (start + chunk.length)
    { text := chunk
      styles := sliceStyleSpans ir.styles start stop
      links := sliceLinkSpans ir.links start stop } ::
    alignChunks ir (skipSpaces ir.text stop) rest

/-- `chunkMarkdownIR`. The first chunk is taken to begin where the text does. -/
def chunkMarkdownIR (ir : MarkdownIR) (limit : Nat) : List MarkdownIR :=
  if ir.text.isEmpty then []
  else if limit = 0 ∨ ir.text.length ≤ limit then [ir]
  else alignChunks ir 0 (chunkText ir.text limit)

end OpenClaw.Markdown
