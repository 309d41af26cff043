/-
This file cuts a list at its marked elements: a preamble without a mark, then
one section for each marked element, holding that element and the unmarked ones
up to the next mark. A transcript is cut at its assistant turns or at everything
that is not a tool result.

Cutting is characterised once, by `cut_join`: a list put together from parts of
the right shape is cut into exactly these parts.
-/

import Mathlib

namespace Sections

variable {Item : Type*}

/-- The unmarked elements before the first mark, and the sections that follow. -/
def cut (mark : Item → Bool) : List Item → List Item × List (Item × List Item)
  | [] => ([], [])
  | item :: rest =>
    if mark item then ([], (item, (cut mark rest).1) :: (cut mark rest).2)
    else (item :: (cut mark rest).1, (cut mark rest).2)

/-- The list that a preamble and sections make up. -/
def join (preamble : List Item) (sections : List (Item × List Item)) : List Item :=
  preamble ++ sections.flatMap fun part => part.1 :: part.2

/-- Preamble and sections carry their marks where `cut` puts them. -/
structure Shaped (mark : Item → Bool) (preamble : List Item)
    (sections : List (Item × List Item)) : Prop where
  preamble : ∀ item ∈ preamble, mark item = false
  heads : ∀ part ∈ sections, mark part.1 = true
  bodies : ∀ part ∈ sections, ∀ item ∈ part.2, mark item = false

variable {mark : Item → Bool}

@[simp] theorem cut_nil : cut mark [] = ([], []) := rfl

theorem cut_cons_marked {item : Item} (marked : mark item = true) (rest : List Item) :
    cut mark (item :: rest) = ([], (item, (cut mark rest).1) :: (cut mark rest).2) := by
  rw [cut, if_pos marked]

theorem cut_cons_unmarked {item : Item} (unmarked : mark item = false) (rest : List Item) :
    cut mark (item :: rest) = (item :: (cut mark rest).1, (cut mark rest).2) := by
  rw [cut, if_neg (by simp [unmarked])]

@[simp] theorem join_nil (sections : List (Item × List Item)) :
    join [] sections = sections.flatMap fun part => part.1 :: part.2 := rfl

theorem join_cons (preamble : List Item) (part : Item × List Item)
    (sections : List (Item × List Item)) :
    join preamble (part :: sections) = preamble ++ part.1 :: join part.2 sections := by
  simp [join]

theorem join_cons_left (item : Item) (preamble : List Item) (sections : List (Item × List Item)) :
    join (item :: preamble) sections = item :: join preamble sections := rfl

theorem join_cut (list : List Item) : join (cut mark list).1 (cut mark list).2 = list := by
  induction list with
  | nil => rfl
  | cons item rest inductionHypothesis =>
    cases marked : mark item with
    | true =>
      rw [cut_cons_marked marked, join_cons, List.nil_append]
      exact congrArg (item :: ·) inductionHypothesis
    | false =>
      rw [cut_cons_unmarked marked, join_cons_left]
      exact congrArg (item :: ·) inductionHypothesis

theorem shaped_cut (list : List Item) : Shaped mark (cut mark list).1 (cut mark list).2 := by
  induction list with
  | nil => exact ⟨by simp, by simp, by simp⟩
  | cons item rest inductionHypothesis =>
    cases marked : mark item with
    | true =>
      rw [cut_cons_marked marked]
      refine ⟨by simp, ?_, ?_⟩
      · simpa [marked] using inductionHypothesis.heads
      · simpa using And.intro inductionHypothesis.preamble inductionHypothesis.bodies
    | false =>
      rw [cut_cons_unmarked marked]
      refine ⟨?_, inductionHypothesis.heads, inductionHypothesis.bodies⟩
      simpa [marked] using inductionHypothesis.preamble

/-- Elements without a mark in front of a list go to its preamble. -/
theorem cut_append_of_unmarked {front : List Item} (unmarked : ∀ item ∈ front, mark item = false)
    (rest : List Item) : cut mark (front ++ rest) = (front ++ (cut mark rest).1, (cut mark rest).2) := by
  induction front with
  | nil => rfl
  | cons item front inductionHypothesis =>
    rw [List.cons_append, cut_cons_unmarked (unmarked item List.mem_cons_self),
      inductionHypothesis fun other member => unmarked other (List.mem_cons_of_mem _ member)]
    rfl

/-- Reading up to the first mark reads the preamble. -/
theorem takeWhile_join {preamble : List Item} {sections : List (Item × List Item)}
    (shaped : Shaped mark preamble sections) :
    (join preamble sections).takeWhile (fun item => !mark item) = preamble := by
  have unmarked : ∀ item ∈ preamble, (!mark item) = true := fun item member => by
    simp [shaped.preamble item member]
  cases sections with
  | nil => simpa [join] using unmarked
  | cons part sections =>
    have marked := shaped.heads part List.mem_cons_self
    rw [join_cons, List.takeWhile_append_of_pos unmarked, List.takeWhile_cons_of_neg (by simp [marked]),
      List.append_nil]

/-- The shape of what follows the first section. -/
theorem Shaped.tail {preamble : List Item} {part : Item × List Item}
    {sections : List (Item × List Item)} (shaped : Shaped mark preamble (part :: sections)) :
    Shaped mark part.2 sections :=
  ⟨shaped.bodies part List.mem_cons_self,
    fun other member => shaped.heads other (List.mem_cons_of_mem _ member),
    fun other member => shaped.bodies other (List.mem_cons_of_mem _ member)⟩

/-- A list put together from parts of the right shape is cut into these parts. -/
theorem cut_join {preamble : List Item} {sections : List (Item × List Item)}
    (shaped : Shaped mark preamble sections) : cut mark (join preamble sections) = (preamble, sections) := by
  induction sections generalizing preamble with
  | nil =>
    have alone := cut_append_of_unmarked shaped.preamble []
    simpa [join] using alone
  | cons part sections inductionHypothesis =>
    rw [join_cons, cut_append_of_unmarked shaped.preamble,
      cut_cons_marked (shaped.heads part List.mem_cons_self), inductionHypothesis shaped.tail]
    simp

end Sections
