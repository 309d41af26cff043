/-
This file is about splices: ranges of a list that are each replaced by other entries, all
numbered in the list as it was.

Applying them from the back to the front gives what one expects of them together, the list
with every range replaced and everything between the ranges kept, as soon as no range reaches
into the next. Sorting by the start brings splices into such an order exactly if any two of
them are apart, where of two that start at one place the earlier one listed comes first.
-/

import Mathlib

namespace Splices

variable {Item : Type*}

structure Splice (Item : Type*) where
  start : Nat
  removed : Nat
  inserted : List Item
  deriving DecidableEq

namespace Splice

/-- Where the range ends. -/
def stop (splice : Splice Item) : Nat := splice.start + splice.removed

def apply (splice : Splice Item) (list : List Item) : List Item :=
  list.take splice.start ++ splice.inserted ++ list.drop splice.stop

/-- A splice that takes something away or puts something in. -/
def Alters (splice : Splice Item) : Prop := 0 < splice.removed ∨ splice.inserted ≠ []

instance (splice : Splice Item) : Decidable splice.Alters :=
  inferInstanceAs (Decidable (0 < splice.removed ∨ ¬splice.inserted = []))

theorem apply_of_not_alters {splice : Splice Item} (idle : ¬splice.Alters) (list : List Item) :
    splice.apply list = list := by
  obtain ⟨nothingRemoved, nothingInserted⟩ := not_or.1 idle
  have stays : splice.stop = splice.start := by
    unfold stop
    omega
  rw [apply, stays, not_not.1 nothingInserted, List.append_nil, List.take_append_drop]

/-- The first range ends before the second starts. -/
def Before (first second : Splice Item) : Prop := first.stop ≤ second.start

/-- Neither range reaches into the other, whichever starts first. -/
def Apart (first second : Splice Item) : Prop :=
  if first.start ≤ second.start then first.Before second else second.Before first

theorem apart_iff {first second : Splice Item} :
    first.Apart second ↔ (first.start ≤ second.start → first.stop ≤ second.start) ∧
      (second.start < first.start → second.stop ≤ first.start) := by
  unfold Apart
  split
  next inOrder => exact ⟨fun before => ⟨fun _ => before, fun other => by omega⟩, (·.1 inOrder)⟩
  next reversed =>
    exact ⟨fun before => ⟨fun other => absurd other reversed, fun _ => before⟩,
      (·.2 (not_le.1 reversed))⟩

theorem apart_of_before {first second : Splice Item} (before : first.Before second) :
    first.Apart second := by
  unfold Apart
  rwa [if_pos (le_trans (Nat.le_add_right _ _) before)]

end Splice

/-! ### Applying splices together -/

/-- The list from a position on, with the ranges replaced and what lies between them kept. -/
def splicedFrom (list : List Item) : Nat → List (Splice Item) → List Item
  | position, [] => list.drop position
  | position, splice :: rest =>
    (list.drop position).take (splice.start - position) ++ splice.inserted ++
      splicedFrom list splice.stop rest

theorem infix_splicedFrom (list : List Item) {splices : List (Splice Item)} {splice : Splice Item}
    (member : splice ∈ splices) (position : Nat) :
    splice.inserted <:+: splicedFrom list position splices := by
  induction splices generalizing position with
  | nil => exact absurd member List.not_mem_nil
  | cons first rest inductionHypothesis =>
    rcases List.mem_cons.1 member with rfl | later
    · exact ⟨_, _, rfl⟩
    · obtain ⟨front, back, whole⟩ := inductionHypothesis later first.stop
      refine ⟨(list.drop position).take (first.start - position) ++ first.inserted ++ front,
        back, ?_⟩
      rw [splicedFrom, ← whole]
      simp only [List.append_assoc]

/-- From the back to the front, splices that stand one before the other are applied together. -/
theorem foldr_apply {list : List Item} {splices : List (Splice Item)}
    (inOrder : splices.Pairwise Splice.Before) (within : ∀ splice ∈ splices,
      splice.stop ≤ list.length) {position : Nat} (reached : position ≤ list.length)
    (behind : ∀ splice ∈ splices, position ≤ splice.start) :
    splices.foldr Splice.apply list = list.take position ++ splicedFrom list position splices := by
  induction splices generalizing position with
  | nil => exact (List.take_append_drop position list).symm
  | cons first rest inductionHypothesis =>
    obtain ⟨firstBefore, restInOrder⟩ := List.pairwise_cons.1 inOrder
    have firstWithin := within first List.mem_cons_self
    have starts := behind first List.mem_cons_self
    have ends : first.start ≤ first.stop := Nat.le_add_right _ _
    have rest_eq := inductionHypothesis restInOrder
      (fun splice member => within splice (List.mem_cons_of_mem _ member)) firstWithin firstBefore
    have kept : (list.take first.stop).length = first.stop := by
      rw [List.length_take]
      omega
    have front : (list.take first.stop).take first.start =
        list.take position ++ (list.drop position).take (first.start - position) := by
      have parts : first.start = position + (first.start - position) := by omega
      rw [List.take_take, min_eq_left ends]
      conv_lhs => rw [parts, List.take_add]
    rw [List.foldr_cons, rest_eq, Splice.apply, splicedFrom,
      List.take_append_of_le_length (kept.symm ▸ ends), front, List.drop_left' kept]
    simp only [List.append_assoc]

theorem foldr_apply_filter (splices : List (Splice Item)) (list : List Item) :
    (splices.filter (Splice.Alters ·)).foldr Splice.apply list =
      splices.foldr Splice.apply list := by
  induction splices with
  | nil => rfl
  | cons first rest inductionHypothesis =>
    rw [List.filter_cons, List.foldr_cons]
    split
    · rw [List.foldr_cons, inductionHypothesis]
    next idle =>
      rw [inductionHypothesis, Splice.apply_of_not_alters (by simpa using idle)]

/-! ### Sorting by the start -/

/-- The splices in the order of their starts, those of one start as listed. -/
def sortedByStart (splices : List (Splice Item)) : List (Splice Item) :=
  splices.mergeSort fun first second => first.start ≤ second.start

theorem mem_sortedByStart {splice : Splice Item} {splices : List (Splice Item)} :
    splice ∈ sortedByStart splices ↔ splice ∈ splices := List.mem_mergeSort

/-- Where a splice listed first goes: behind those that start before it. -/
theorem sortedByStart_cons (first : Splice Item) (rest : List (Splice Item)) :
    ∃ front back, sortedByStart (first :: rest) = front ++ first :: back ∧
      sortedByStart rest = front ++ back ∧ (∀ splice ∈ front, splice.start < first.start) ∧
      ∀ splice ∈ back, first.start ≤ splice.start := by
  have trans : ∀ a b c : Splice Item, decide (a.start ≤ b.start) → decide (b.start ≤ c.start) →
      decide (a.start ≤ c.start) := by
    simp only [decide_eq_true_eq]
    intro a b c
    exact le_trans
  have total : ∀ a b : Splice Item,
      (decide (a.start ≤ b.start) || decide (b.start ≤ a.start)) = true := by
    simp only [Bool.or_eq_true, decide_eq_true_eq]
    exact fun a b => le_total a.start b.start
  obtain ⟨front, back, whole, without, smaller⟩ := List.mergeSort_cons trans total first rest
  have sorted := List.pairwise_mergeSort trans total (first :: rest)
  rw [whole, List.pairwise_append] at sorted
  refine ⟨front, back, whole, without, fun splice member => ?_, fun splice member => ?_⟩
  · simpa using smaller splice member
  · simpa using (List.pairwise_cons.1 sorted.2.1).1 splice member

/-- Sorting brings the splices one before the other exactly if any two of them are apart. -/
theorem pairwise_sortedByStart_iff (keep : Splice Item → Bool) (splices : List (Splice Item)) :
    ((sortedByStart splices).filter keep).Pairwise Splice.Before ↔
      (splices.filter keep).Pairwise Splice.Apart := by
  induction splices with
  | nil => simp [sortedByStart]
  | cons first rest inductionHypothesis =>
    obtain ⟨front, back, whole, without, smaller, larger⟩ := sortedByStart_cons first rest
    have members : ∀ splice, splice ∈ front ++ back ↔ splice ∈ rest := by
      intro splice
      rw [← without, mem_sortedByStart]
    rw [without, List.filter_append] at inductionHypothesis
    rw [whole, List.filter_append, List.filter_cons, List.filter_cons]
    cases kept : keep first with
    | false => exact inductionHypothesis
    | true =>
      have apart_iff : (∀ splice ∈ rest.filter keep, first.Apart splice) ↔
          (∀ splice ∈ front.filter keep, splice.Before first) ∧
            ∀ splice ∈ back.filter keep, first.Before splice := by
        simp only [List.mem_filter, ← members, List.mem_append, Splice.Apart]
        constructor
        · intro apart
          refine ⟨fun splice member => ?_, fun splice member => ?_⟩
          · have := apart splice ⟨Or.inl member.1, member.2⟩
            rwa [if_neg (not_le.2 (smaller splice member.1))] at this
          · have := apart splice ⟨Or.inr member.1, member.2⟩
            rwa [if_pos (larger splice member.1)] at this
        · rintro ⟨before, after⟩ splice ⟨inFront | inBack, keeps⟩
          · rw [if_neg (not_le.2 (smaller splice inFront))]
            exact before splice ⟨inFront, keeps⟩
          · rw [if_pos (larger splice inBack)]
            exact after splice ⟨inBack, keeps⟩
      rw [if_pos rfl, if_pos rfl, List.pairwise_cons, apart_iff, ← inductionHypothesis,
        List.pairwise_append, List.pairwise_append, List.pairwise_cons]
      simp only [List.forall_mem_cons]
      constructor
      · rintro ⟨inFront, ⟨toBack, inBack⟩, across⟩
        exact ⟨⟨fun splice member => (across splice member).1, toBack⟩, inFront, inBack,
          fun splice member => (across splice member).2⟩
      · rintro ⟨⟨fromFront, toBack⟩, inFront, inBack, across⟩
        exact ⟨inFront, ⟨toBack, inBack⟩,
          fun splice member => ⟨fromFront splice member, across splice member⟩⟩

end Splices
