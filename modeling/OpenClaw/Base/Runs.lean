/-
This file is about the runs of neighbours a list falls into.

`List.splitBy` cuts a list where two neighbours are not related. A loop that walks
the list with the run so far in hand is at a `runsFrom`, and each of its steps is one
of two rewritings: the next element goes to the run, or closes it. What is done to
every element beforehand is done inside the runs.
-/

import Mathlib.Data.List.SplitBy

namespace Runs

variable {α β : Type*}

/-- The runs of a list whose walk has come to `last`, with the elements of the run before it
in `done`, the latest first. -/
def runsFrom (related : α → α → Bool) (done : List α) (last : α) (rest : List α) : List (List α) :=
  List.splitBy.loop related rest last done []

variable (related : α → α → Bool)

theorem splitByLoop_eq_append (done : List α) (last : α) (rest : List α) (closed : List (List α)) :
    List.splitBy.loop related rest last done closed =
      closed.reverse ++ runsFrom related done last rest := by
  induction rest generalizing done last closed with
  | nil => simp [runsFrom, List.splitBy.loop]
  | cons next rest inductionHypothesis =>
    rw [runsFrom, List.splitBy.loop, List.splitBy.loop]
    split
    · exact inductionHypothesis _ _ _
    · rw [inductionHypothesis, inductionHypothesis [] next [(last :: done).reverse],
        List.reverse_cons, List.reverse_singleton, List.append_assoc]

theorem splitBy_cons (first : α) (rest : List α) :
    (first :: rest).splitBy related = runsFrom related [] first rest := rfl

@[simp] theorem runsFrom_nil (done : List α) (last : α) :
    runsFrom related done last [] = [(last :: done).reverse] := by
  rw [runsFrom, List.splitBy.loop, List.reverse_cons, List.reverse_nil, List.nil_append]

theorem runsFrom_cons_of_related {last next : α} (joined : related last next = true)
    (done rest : List α) :
    runsFrom related done last (next :: rest) = runsFrom related (last :: done) next rest := by
  rw [runsFrom, List.splitBy.loop, joined]
  rfl

theorem runsFrom_cons_of_not {last next : α} (apart : related last next = false)
    (done rest : List α) :
    runsFrom related done last (next :: rest) =
      (last :: done).reverse :: runsFrom related [] next rest := by
  rw [runsFrom, List.splitBy.loop, apart]
  exact splitByLoop_eq_append related [] next rest [(last :: done).reverse]

theorem runsFrom_map (f : β → α) {related' : β → β → Bool}
    (same : ∀ left right, related (f left) (f right) = related' left right) (done : List β)
    (last : β) (rest : List β) :
    runsFrom related (done.map f) (f last) (rest.map f) =
      (runsFrom related' done last rest).map (List.map f) := by
  induction rest generalizing done last with
  | nil =>
    rw [List.map_nil, runsFrom_nil, runsFrom_nil, List.map_singleton, List.map_reverse,
      List.map_cons]
  | cons next rest inductionHypothesis =>
    rw [List.map_cons]
    cases joined : related' last next with
    | true =>
      rw [runsFrom_cons_of_related related ((same _ _).trans joined),
        runsFrom_cons_of_related _ joined, ← List.map_cons, inductionHypothesis]
    | false =>
      rw [runsFrom_cons_of_not related ((same _ _).trans joined), runsFrom_cons_of_not _ joined,
        List.map_cons, List.map_reverse, List.map_cons, ← inductionHypothesis [], List.map_nil]

/-- The runs of a mapped list are the mapped runs. -/
theorem splitBy_map (f : β → α) {related' : β → β → Bool}
    (same : ∀ left right, related (f left) (f right) = related' left right) (list : List β) :
    (list.map f).splitBy related = (list.splitBy related').map (List.map f) := by
  cases list with
  | nil => rfl
  | cons first rest =>
    rw [List.map_cons, splitBy_cons, splitBy_cons, ← runsFrom_map related f same, List.map_nil]

/-- A run of two and more is of related elements only: each is related to a neighbour. -/
theorem neighbour_of_mem_run {list run : List α} (member : run ∈ list.splitBy related)
    (several : 2 ≤ run.length) {element : α} (inRun : element ∈ run) :
    (∃ next, related element next = true) ∨ ∃ previous, related previous element = true := by
  have chain := List.isChain_of_mem_splitBy member
  obtain ⟨before, after, rfl⟩ := List.append_of_mem inRun
  cases after with
  | cons next after =>
    rw [List.isChain_append, List.isChain_cons_cons] at chain
    exact Or.inl ⟨next, chain.2.1.1⟩
  | nil =>
    have nonempty : before ≠ [] := by
      rintro rfl
      simp at several
    rw [List.isChain_append] at chain
    exact Or.inr ⟨before.getLast nonempty, chain.2.2 _ (List.getLast?_eq_getLast_of_ne_nil nonempty)
      element rfl⟩

end Runs
