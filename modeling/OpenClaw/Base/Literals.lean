/-
This file is about search patterns that are made of literal characters and of anchors.

A pattern is read to atoms; one that uses more of the grammar of regular expressions is left to
whoever knows it. A text with its syntax characters escaped is read as itself, and between two
anchors it matches nothing else.
-/

import Mathlib

namespace Literals

inductive Atom
  | start | stop
  | literal (character : Char)
  deriving DecidableEq

/-- The characters that stand for something else than themselves. -/
def isSyntaxCharacter (character : Char) : Bool :=
  character ∈ ['.', '*', '+', '?', '^', '$', '\x7b', '\x7d', '(', ')', '|', '[', ']', '\\']

/-! ### Reading a pattern -/

/-- The atoms of a pattern that has no others. -/
def readAtoms : List Char → Option (List Atom)
  | [] => some []
  | '^' :: rest => (readAtoms rest).map (.start :: ·)
  | '$' :: rest => (readAtoms rest).map (.stop :: ·)
  | ['\\'] => none
  | '\\' :: character :: rest =>
    if isSyntaxCharacter character then (readAtoms rest).map (.literal character :: ·) else none
  | character :: rest =>
    if isSyntaxCharacter character then none else (readAtoms rest).map (.literal character :: ·)

/-- A text with a backslash before each syntax character. -/
def escape (text : List Char) : List Char :=
  text.flatMap fun character =>
    if isSyntaxCharacter character then ['\\', character] else [character]

theorem readAtoms_literal {character : Char} (plain : isSyntaxCharacter character = false)
    (rest : List Char) :
    readAtoms (character :: rest) = (readAtoms rest).map (.literal character :: ·) := by
  have others : character ≠ '^' ∧ character ≠ '$' ∧ character ≠ '\\' := by
    refine ⟨?_, ?_, ?_⟩ <;> rintro rfl <;> exact absurd plain (by decide)
  rw [readAtoms.eq_def]
  split
  · next isCons => nomatch isCons
  · next isCons => exact absurd (List.cons.inj isCons).1 others.1
  · next isCons => exact absurd (List.cons.inj isCons).1 others.2.1
  · next isCons => exact absurd (List.cons.inj isCons).1 others.2.2
  · next isCons => exact absurd (List.cons.inj isCons).1 others.2.2
  · next isCons =>
    obtain ⟨rfl, rfl⟩ := List.cons.inj isCons
    rw [plain, if_neg Bool.false_ne_true]

/-- An escaped text is read as its characters. -/
theorem readAtoms_escape (text rest : List Char) :
    readAtoms (escape text ++ rest) = (readAtoms rest).map (text.map .literal ++ ·) := by
  induction text with
  | nil => exact Option.map_id'.symm
  | cons character text inductionHypothesis =>
    have tail : (readAtoms (escape text ++ rest)).map (.literal character :: ·) =
        (readAtoms rest).map ((character :: text).map .literal ++ ·) := by
      rw [inductionHypothesis, Option.map_map]
      rfl
    rw [escape, List.flatMap_cons, ← escape, List.append_assoc]
    cases isSyntax : isSyntaxCharacter character with
    | true =>
      rw [if_pos rfl, ← tail]
      change readAtoms ('\\' :: character :: (escape text ++ rest)) = _
      rw [readAtoms, isSyntax, if_pos rfl]
    | false =>
      rw [if_neg Bool.false_ne_true, List.singleton_append, readAtoms_literal isSyntax]
      exact tail

/-! ### Searching a text -/

/-- Whether the atoms match from a position on, which is the start of the text or is not. -/
def matchesAt : List Atom → Bool → List Char → Bool
  | [], _, _ => true
  | .start :: atoms, atStart, rest => atStart && matchesAt atoms atStart rest
  | .stop :: atoms, atStart, rest => rest = [] && matchesAt atoms atStart rest
  | .literal _ :: _, _, [] => false
  | .literal character :: atoms, _, next :: rest => next = character && matchesAt atoms false rest

/-- Whether the atoms match from any position on. -/
def searchFrom (atoms : List Atom) : Bool → List Char → Bool
  | atStart, [] => matchesAt atoms atStart []
  | atStart, next :: rest => matchesAt atoms atStart (next :: rest) || searchFrom atoms false rest

/-- Whether the atoms match anywhere in a text. -/
def test (atoms : List Atom) (text : List Char) : Bool := searchFrom atoms true text

/-- Literal characters up to the end match themselves. -/
theorem matchesAt_literals (literals text : List Char) (atStart : Bool) :
    matchesAt (literals.map .literal ++ [.stop]) atStart text = decide (text = literals) := by
  induction literals generalizing text atStart with
  | nil => exact Bool.and_true _
  | cons literal literals inductionHypothesis =>
    cases text with
    | nil => rfl
    | cons next rest =>
      rw [List.map_cons, List.cons_append, matchesAt, inductionHypothesis, ← Bool.decide_and]
      exact decide_eq_decide.2 (List.cons_eq_cons).symm

/-- What is anchored at the start is found there or nowhere. -/
theorem searchFrom_start (atoms : List Atom) (text : List Char) :
    searchFrom (.start :: atoms) false text = false := by
  induction text with
  | nil => rfl
  | cons next rest inductionHypothesis =>
    rw [searchFrom, inductionHypothesis]
    rfl

/-- Between two anchors a text matches itself and nothing else. -/
theorem test_exact (literals text : List Char) :
    test (.start :: (literals.map .literal ++ [.stop])) text = decide (text = literals) := by
  have first : matchesAt (.start :: (literals.map .literal ++ [.stop])) true text =
      decide (text = literals) := by
    rw [matchesAt, Bool.true_and, matchesAt_literals]
  unfold test
  cases text with
  | nil => exact first
  | cons next rest => rw [searchFrom, first, searchFrom_start, Bool.or_false]

end Literals
