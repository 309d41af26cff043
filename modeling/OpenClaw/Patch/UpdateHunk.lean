/-
This file is `apply-patch-update.ts`: how the chunks of an update hunk are found in the
text of a file and replaced there.
-/

import OpenClaw.Patch.PatchText

namespace OpenClaw.Patch

open Text

/-! ### Looking for lines -/

def trimEnd (text : String) : String := String.ofList (text.toList.rdropWhile isWhiteSpace)

/-- The hyphens, quotation marks and spaces of typography, as those of ASCII. -/
def normalizePunctuationCharacter (character : Char) : Char :=
  let code := character.toNat
  if [0x2010, 0x2011, 0x2012, 0x2013, 0x2014, 0x2015, 0x2212].contains code then '-'
  else if [0x2018, 0x2019, 0x201A, 0x201B].contains code then Char.ofNat 0x27
  else if [0x201C, 0x201D, 0x201E, 0x201F].contains code then Char.ofNat 0x22
  else if [0x00A0, 0x2002, 0x2003, 0x2004, 0x2005, 0x2006, 0x2007, 0x2008, 0x2009, 0x200A, 0x202F,
    0x205F, 0x3000].contains code then ' '
  else character

def normalizePunctuation (value : String) : String :=
  String.ofList (value.toList.map normalizePunctuationCharacter)

def linesMatch (lines pattern : List String) (normalize : String → String) (start : Nat) : Bool :=
  ((lines.drop start).take pattern.length).map normalize = pattern.map normalize

/-- The first place from `start` on where the pattern stands, compared ever more loosely. -/
def seekSequence (lines pattern : List String) (start : Nat) (eof : Bool) : Option Nat :=
  if pattern.isEmpty then some start
  else if lines.length < pattern.length then none
  else
    let maxStart := lines.length - pattern.length
    let searchStart := if eof then maxStart else start
    let places := List.range' searchStart (maxStart + 1 - searchStart)
    [id, trimEnd, trim, fun value => normalizePunctuation (trim value)].findSome? fun normalize =>
      places.find? (linesMatch lines pattern normalize)

/-! ### Replacing lines -/

structure Replacement where
  startIndex : Nat
  oldLen : Nat
  newLines : List String
  deriving DecidableEq, Repr

/-- A list without its last entry, when that is the empty line. -/
def dropFinalEmpty (lines : List String) : List String :=
  if lines.getLast? = some "" then lines.dropLast else lines

/-- The loop over the chunks, before the replacements are sorted. -/
def collectReplacements (originalLines : List String) (filePath : String) :
    Nat → List UpdateFileChunk → Except String (List Replacement)
  | _, [] => .ok []
  | lineIndex, chunk :: rest =>
    let located : Except String Nat := match nonEmpty chunk.changeContext with
      | none => .ok lineIndex
      | some changeContext =>
        match seekSequence originalLines [changeContext] lineIndex false with
        | some ctxIndex => .ok (ctxIndex + 1)
        | none => .error ("Failed to find context '" ++ changeContext ++ "' in " ++ filePath)
    match located with
    | .error problem => .error problem
    | .ok lineIndex =>
      if chunk.oldLines.isEmpty then
        let insertionIndex :=
          if originalLines.getLast? = some "" then originalLines.length - 1
          else originalLines.length
        (collectReplacements originalLines filePath lineIndex rest).map
          (⟨insertionIndex, 0, chunk.newLines⟩ :: ·)
      else
        let replace (found : Nat) (pattern newSlice : List String) :=
          (collectReplacements originalLines filePath (found + pattern.length) rest).map
            (⟨found, pattern.length, newSlice⟩ :: ·)
        let notFound : Except String (List Replacement) :=
          .error ("Failed to find expected lines in " ++ filePath ++ ":\n" ++
            "\n".intercalate chunk.oldLines)
        match seekSequence originalLines chunk.oldLines lineIndex chunk.isEndOfFile with
        | some found => replace found chunk.oldLines chunk.newLines
        | none =>
          if chunk.oldLines.getLast? = some "" then
            let pattern := chunk.oldLines.dropLast
            match seekSequence originalLines pattern lineIndex chunk.isEndOfFile with
            | some found => replace found pattern (dropFinalEmpty chunk.newLines)
            | none => notFound
          else notFound

def computeReplacements (originalLines : List String) (filePath : String)
    (chunks : List UpdateFileChunk) : Except String (List Replacement) :=
  (collectReplacements originalLines filePath 0 chunks).map fun replacements =>
    replacements.mergeSort fun first second => first.startIndex ≤ second.startIndex

/-- `splice(startIndex, 1)`, so many times. -/
def removeLines (startIndex : Nat) : Nat → List String → List String
  | 0, result => result
  | oldLen + 1, result =>
    removeLines startIndex oldLen
      (if startIndex < result.length then result.eraseIdx startIndex else result)

/-- `splice(index, 0, line)`, for each line one place further. -/
def insertLines : Nat → List String → List String → List String
  | _, [], result => result
  | index, line :: rest, result =>
    insertLines (index + 1) rest (result.take index ++ line :: result.drop index)

def applyReplacements (lines : List String) (replacements : List Replacement) : List String :=
  replacements.reverse.foldl (fun result replacement =>
    insertLines replacement.startIndex replacement.newLines
      (removeLines replacement.startIndex replacement.oldLen result)) lines

/-- What `applyUpdateHunk` makes of the text it has read. -/
def updatedText (filePath : String) (chunks : List UpdateFileChunk) (originalContents : String) :
    Except String String :=
  let originalLines :=
    dropFinalEmpty ((originalContents.toList.splitOn '\n').map String.ofList)
  (computeReplacements originalLines filePath chunks).map fun replacements =>
    let newLines := applyReplacements originalLines replacements
    "\n".intercalate (if newLines.getLast? = some "" then newLines else newLines ++ [""])

example : updatedText "a" [{ oldLines := ["two"], newLines := ["2", "and a half"] }]
    "one\ntwo\nthree\n" = .ok "one\n2\nand a half\nthree\n" := by
  decide +kernel

end OpenClaw.Patch
