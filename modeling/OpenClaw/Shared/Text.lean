/-
This file is the string handling the modelled code leans on: trimming, and the
coercions of `string-coerce.ts` that turn a blank string into an absent one.

JavaScript's `trim` removes its own set of white space and line terminators at
both ends; SQLite's `trim` removes spaces only. Both are `trimWith` at a set of
blank characters. What the registries need from them is that trimming twice is
trimming once, so that a key that has been normalised is its own normal form.
-/

import Mathlib

namespace OpenClaw.Text

/-! ### Trimming -/

/-- Removes blank characters at both ends. -/
def trimWith (blank : Char → Bool) (text : String) : String :=
  String.ofList ((text.toList.dropWhile blank).rdropWhile blank)

/-- The white space and line terminators of JavaScript. -/
def isWhiteSpace (character : Char) : Bool :=
  let code := character.toNat
  (9 ≤ code && code ≤ 13) || code == 32 || code == 160 || code == 5760 ||
    (8192 ≤ code && code ≤ 8202) || code == 8232 || code == 8233 || code == 8239 ||
    code == 8287 || code == 12288 || code == 65279

/-- JavaScript's `trim`. -/
def trim (text : String) : String := trimWith isWhiteSpace text

theorem dropWhile_rdropWhile_dropWhile (blank : Char → Bool) (characters : List Char) :
    ((characters.dropWhile blank).rdropWhile blank).dropWhile blank =
      (characters.dropWhile blank).rdropWhile blank := by
  rw [List.dropWhile_eq_self_iff]
  intro nonempty
  obtain ⟨suffix, decomposed⟩ := List.rdropWhile_prefix blank (l := characters.dropWhile blank)
  have whole : 0 < (characters.dropWhile blank).length := by
    rw [← decomposed, List.length_append]
    omega
  have first := List.dropWhile_get_zero_not blank characters whole
  have sameFirst : ((characters.dropWhile blank).rdropWhile blank)[0] =
      (characters.dropWhile blank)[0] := by
    rw [List.getElem_of_eq decomposed.symm, List.getElem_append_left nonempty]
  rw [sameFirst]
  exact first

/-- What has been trimmed is its own trimming. -/
theorem trimWith_trimWith (blank : Char → Bool) (text : String) :
    trimWith blank (trimWith blank text) = trimWith blank text := by
  rw [trimWith, trimWith, String.toList_ofList, dropWhile_rdropWhile_dropWhile,
    List.rdropWhile_idempotent]

@[simp] theorem trim_trim (text : String) : trim (trim text) = trim text :=
  trimWith_trimWith isWhiteSpace text

@[simp] theorem trim_empty : trim "" = "" := by decide

/-! ### Coercions -/

/-- The value of an optional string when it is there and not empty: what a JavaScript
condition on the string sees. -/
def nonEmpty (text : Option String) : Option String := text.filter (· ≠ "")

/-- `normalizeOptionalString`: the trimmed string, or nothing when it is blank. -/
def normalizeOptionalString (text : Option String) : Option String := nonEmpty (text.map trim)

theorem nonEmpty_eq_some_iff (text : Option String) (value : String) :
    nonEmpty text = some value ↔ text = some value ∧ value ≠ "" := by
  rw [nonEmpty, Option.filter_eq_some_iff, decide_eq_true_iff]

theorem normalizeOptionalString_eq_some_iff (text : Option String) (value : String) :
    normalizeOptionalString text = some value ↔ text.map trim = some value ∧ value ≠ "" :=
  nonEmpty_eq_some_iff _ _

/-- A normalised string is not empty and is its own normal form. -/
theorem normalizeOptionalString_normal {text : Option String} {value : String}
    (normalised : normalizeOptionalString text = some value) : trim value = value ∧ value ≠ "" := by
  obtain ⟨trimmed, nonempty⟩ := (normalizeOptionalString_eq_some_iff _ _).1 normalised
  obtain ⟨raw, -, rfl⟩ := Option.map_eq_some_iff.1 trimmed
  exact ⟨trim_trim raw, nonempty⟩

/-- Normalising twice is normalising once. -/
@[simp] theorem normalizeOptionalString_idem (text : Option String) :
    normalizeOptionalString (normalizeOptionalString text) = normalizeOptionalString text := by
  cases normalised : normalizeOptionalString text with
  | none => rfl
  | some value =>
    obtain ⟨trimmed, nonempty⟩ := normalizeOptionalString_normal normalised
    rw [normalizeOptionalString_eq_some_iff]
    exact ⟨by rw [Option.map_some, trimmed], nonempty⟩

/-- `toLowerCase`, on the texts the code compares with ASCII names: the Kelvin sign is the only
other character whose lower case is an ASCII letter. -/
def lowerCharacter (character : Char) : Char :=
  if character.toNat = 0x212A then 'k' else character.toLower

/-- `normalizeLowercaseStringOrEmpty`. -/
def normalizeLowercaseStringOrEmpty (text : Option String) : String :=
  match normalizeOptionalString text with
  | some value => String.ofList (value.toList.map lowerCharacter)
  | none => ""

/-- `value?.replace(/\s+/g, " ").trim() || undefined`: runs of white space become one space. -/
def collapseSpaces : List Char → List Char
  | [] => []
  | character :: rest =>
    if isWhiteSpace character then
      match collapseSpaces rest with
      | [] => [' ']
      | next :: others => if next = ' ' then next :: others else ' ' :: next :: others
    else character :: collapseSpaces rest

def collapseWhiteSpace (text : String) : String := String.ofList (collapseSpaces text.toList)

example : collapseWhiteSpace "  a \n\t b  " = " a b " := by decide

end OpenClaw.Text
