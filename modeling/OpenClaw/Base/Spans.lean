/-
This file is about labelled spans over positions: half-open intervals that each carry a
label, in a list.

What a list of spans says is which positions carry which label, and that is what the
operations are judged by: restricting spans to an interval, shifting them, and joining
a span to the one before it when the two touch. Joining looks at neighbours in the list
only and keeps the start of the first, so it loses positions if a later span of the
label starts earlier; in a list whose spans of one label are in order it does not.
-/

import Mathlib

namespace Spans

structure Span (Label : Type*) where
  start : Nat
  stop : Nat
  label : Label
  deriving DecidableEq, Repr

variable {Label : Type*} {spans : List (Span Label)} {first second : List (Span Label)}
variable {length : Nat}

/-- A position carries a label. -/
def Covers (spans : List (Span Label)) (label : Label) (position : Nat) : Prop :=
  ∃ span ∈ spans, span.label = label ∧ span.start ≤ position ∧ position < span.stop

/-- Spans of one label are listed in the order of their starts. -/
def InOrder (spans : List (Span Label)) : Prop :=
  spans.Pairwise fun earlier later => earlier.label = later.label → earlier.start ≤ later.start

instance [DecidableEq Label] (spans : List (Span Label)) : Decidable (InOrder spans) :=
  inferInstanceAs (Decidable (spans.Pairwise _))

/-- No span reaches beyond a length. -/
def Within (spans : List (Span Label)) (length : Nat) : Prop := ∀ span ∈ spans, span.stop ≤ length

theorem covers_cons (span : Span Label) (spans : List (Span Label)) (label : Label)
    (position : Nat) :
    Covers (span :: spans) label position ↔
      (span.label = label ∧ span.start ≤ position ∧ position < span.stop) ∨
        Covers spans label position := by
  simp only [Covers, List.mem_cons, exists_eq_or_imp]

theorem covers_append (first second : List (Span Label)) (label : Label) (position : Nat) :
    Covers (first ++ second) label position ↔
      Covers first label position ∨ Covers second label position := by
  simp only [Covers, List.mem_append, or_and_right, exists_or]

theorem covers_of_perm (perm : first.Perm second) (label : Label) (position : Nat) :
    Covers first label position ↔ Covers second label position := by
  simp only [Covers, perm.mem_iff]

theorem Within.not_covers (within : Within spans length)
    (label : Label) {position : Nat} (outside : length ≤ position) :
    ¬Covers spans label position := by
  rintro ⟨span, member, -, -, inside⟩
  exact absurd (within span member) (by omega)

/-! ### Restricting -/

/-- A span restricted to an interval and counted from its start. -/
def restrict (start stop : Nat) (span : Span Label) : Option (Span Label) :=
  let first := max span.start start
  let last := min span.stop stop
  if last ≤ first then none else some ⟨first - start, last - start, span.label⟩

theorem restrict_eq_some {start stop : Nat} {span part : Span Label}
    (restricted : restrict start stop span = some part) :
    max span.start start < min span.stop stop ∧
      part = ⟨max span.start start - start, min span.stop stop - start, span.label⟩ := by
  unfold restrict at restricted
  dsimp only at restricted
  split at restricted
  · exact absurd restricted nofun
  next inhabited => exact ⟨not_le.1 inhabited, (Option.some.inj restricted).symm⟩

/-- Exactly the labels of the interval are left. -/
theorem covers_restrict (spans : List (Span Label)) (start stop : Nat) (label : Label)
    (position : Nat) :
    Covers (spans.filterMap (restrict start stop)) label position ↔
      start + position < stop ∧ Covers spans label (start + position) := by
  simp only [Covers, List.mem_filterMap]
  constructor
  · rintro ⟨part, ⟨span, member, restricted⟩, label_eq, after, before⟩
    obtain ⟨inhabited, rfl⟩ := restrict_eq_some restricted
    dsimp only at label_eq after before
    exact ⟨by omega, span, member, label_eq, by omega, by omega⟩
  · rintro ⟨inside, span, member, label_eq, after, before⟩
    refine ⟨⟨max span.start start - start, min span.stop stop - start, span.label⟩,
      ⟨span, member, ?_⟩, label_eq, ?_, ?_⟩
    · exact if_neg (by omega)
    · dsimp only
      omega
    · dsimp only
      omega

theorem within_restrict (spans : List (Span Label)) (start stop : Nat) :
    Within (spans.filterMap (restrict start stop)) (stop - start) := by
  intro part member
  obtain ⟨span, -, restricted⟩ := List.mem_filterMap.1 member
  obtain ⟨-, rfl⟩ := restrict_eq_some restricted
  dsimp only
  omega

theorem inhabited_restrict (spans : List (Span Label)) (start stop : Nat) :
    ∀ part ∈ spans.filterMap (restrict start stop), part.start < part.stop := by
  intro part member
  obtain ⟨span, -, restricted⟩ := List.mem_filterMap.1 member
  obtain ⟨room, rfl⟩ := restrict_eq_some restricted
  dsimp only
  omega

theorem InOrder.restrict (ordered : InOrder spans) (start stop : Nat) :
    InOrder (spans.filterMap (restrict start stop)) := by
  refine List.Pairwise.filterMap _ ?_ ordered
  intro earlier later order firstPart first secondPart second label_eq
  obtain ⟨-, rfl⟩ := restrict_eq_some first
  obtain ⟨-, rfl⟩ := restrict_eq_some second
  have starts := order label_eq
  dsimp only
  omega

/-! ### Shifting -/

/-- Spans counted from an earlier position. -/
def shift (offset : Nat) (spans : List (Span Label)) : List (Span Label) :=
  spans.map fun span => { span with start := span.start + offset, stop := span.stop + offset }

theorem covers_shift (offset : Nat) (spans : List (Span Label)) (label : Label) (position : Nat) :
    Covers (shift offset spans) label position ↔
      offset ≤ position ∧ Covers spans label (position - offset) := by
  simp only [Covers, shift, List.mem_map, exists_exists_and_eq_and]
  constructor
  · rintro ⟨span, member, label_eq, after, before⟩
    exact ⟨by omega, span, member, label_eq, by omega, by omega⟩
  · rintro ⟨order, span, member, label_eq, after, before⟩
    exact ⟨span, member, label_eq, by omega, by omega⟩

theorem Within.shift (within : Within spans length)
    (offset : Nat) : Within (shift offset spans) (offset + length) := by
  intro moved member
  obtain ⟨span, isSpan, rfl⟩ := List.mem_map.1 member
  have bound := within span isSpan
  dsimp only
  omega

/-- Spans that lie one after the other are in order together. -/
theorem InOrder.append_shift
    (ordered : InOrder first) (next : InOrder second) (within : Within first length)
    (inhabited : ∀ span ∈ first, span.start < span.stop) :
    InOrder (first ++ shift length second) := by
  refine List.pairwise_append.2 ⟨ordered, ?_, ?_⟩
  · refine List.pairwise_map.2 (next.imp fun order label_eq => ?_)
    have starts := order label_eq
    dsimp only
    omega
  · intro earlier isEarlier moved isMoved _
    obtain ⟨later, -, rfl⟩ := List.mem_map.1 isMoved
    have bound := within earlier isEarlier
    have room := inhabited earlier isEarlier
    dsimp only
    omega

/-! ### Joining neighbours -/

/-- The span a neighbour is joined to. -/
def extend (last span : Span Label) : Span Label := { last with stop := max last.stop span.stop }

section Join

variable (joins : Span Label → Span Label → Bool)

/-- Walks through a list with the last span that has not been given out yet. -/
def joinFrom (last : Span Label) : List (Span Label) → List (Span Label)
  | [] => [last]
  | span :: rest =>
    if joins last span then joinFrom (extend last span) rest else last :: joinFrom span rest

/-- Every span is joined to the one before it where the two are to be joined. -/
def joinNeighbours : List (Span Label) → List (Span Label)
  | [] => []
  | span :: rest => joinFrom joins span rest

variable {joins}

theorem covers_joinFrom
    (touch : ∀ last span, joins last span = true →
      last.label = span.label ∧ span.start ≤ last.stop)
    (last : Span Label) (spans : List (Span Label)) (ordered : InOrder (last :: spans))
    (label : Label) (position : Nat) :
    Covers (joinFrom joins last spans) label position ↔ Covers (last :: spans) label position := by
  induction spans generalizing last with
  | nil => rfl
  | cons span rest inductionHypothesis =>
    obtain ⟨fromLast, ordered⟩ := List.pairwise_cons.1 ordered
    rw [joinFrom]
    split
    next joined =>
      obtain ⟨label_eq, reaches⟩ := touch last span joined
      have order := fromLast span List.mem_cons_self label_eq
      have extended : InOrder (extend last span :: rest) :=
        List.pairwise_cons.2 ⟨fun later member => fromLast later (List.mem_cons_of_mem _ member),
          (List.pairwise_cons.1 ordered).2⟩
      rw [inductionHypothesis _ extended, covers_cons, covers_cons, covers_cons, ← or_assoc]
      refine or_congr_left ?_
      rw [extend, ← label_eq, ← and_or_left]
      refine and_congr_right fun _ => ?_
      dsimp only
      omega
    next =>
      rw [covers_cons, covers_cons, inductionHypothesis span ordered]

/-- Joining neighbours in a list that is in order changes nothing about what is covered. -/
theorem covers_joinNeighbours
    (touch : ∀ last span, joins last span = true →
      last.label = span.label ∧ span.start ≤ last.stop)
    (ordered : InOrder spans) (label : Label) (position : Nat) :
    Covers (joinNeighbours joins spans) label position ↔ Covers spans label position := by
  cases spans with
  | nil => rfl
  | cons span rest => exact covers_joinFrom touch span rest ordered label position

/-- Each span that is left starts where one of its label did. -/
theorem start_joinFrom (last : Span Label) (spans : List (Span Label)) :
    ∀ joined ∈ joinFrom joins last spans,
      ∃ span ∈ last :: spans, span.label = joined.label ∧ span.start = joined.start := by
  induction spans generalizing last with
  | nil =>
    intro joined member
    exact ⟨joined, member, rfl, rfl⟩
  | cons span rest inductionHypothesis =>
    rw [joinFrom]
    split
    · intro joined member
      obtain ⟨origin, isOrigin, label_eq, start_eq⟩ := inductionHypothesis _ joined member
      rcases List.mem_cons.1 isOrigin with rfl | isOrigin
      · exact ⟨last, List.mem_cons_self, label_eq, start_eq⟩
      · exact ⟨origin, List.mem_cons_of_mem _ (List.mem_cons_of_mem _ isOrigin), label_eq, start_eq⟩
    · intro joined member
      rcases List.mem_cons.1 member with rfl | member
      · exact ⟨joined, List.mem_cons_self, rfl, rfl⟩
      · obtain ⟨origin, isOrigin, same⟩ := inductionHypothesis _ joined member
        exact ⟨origin, List.mem_cons_of_mem _ isOrigin, same⟩

theorem InOrder.joinNeighbours (ordered : InOrder spans) :
    InOrder (joinNeighbours joins spans) := by
  have from_ : ∀ last rest, InOrder (last :: rest) → InOrder (joinFrom joins last rest) := by
    intro last rest
    induction rest generalizing last with
    | nil => exact fun ordered => ordered
    | cons span rest inductionHypothesis =>
      intro ordered
      obtain ⟨fromLast, ordered⟩ := List.pairwise_cons.1 ordered
      rw [joinFrom]
      split
      · exact inductionHypothesis _ (List.pairwise_cons.2
          ⟨fun later member => fromLast later (List.mem_cons_of_mem _ member),
            (List.pairwise_cons.1 ordered).2⟩)
      · refine List.pairwise_cons.2 ⟨fun joined member label_eq => ?_, inductionHypothesis _ ordered⟩
        obtain ⟨origin, isOrigin, originLabel, originStart⟩ := start_joinFrom span rest joined member
        exact (fromLast origin isOrigin (label_eq.trans originLabel.symm)).trans_eq originStart
  cases spans with
  | nil => exact ordered
  | cons span rest => exact from_ span rest ordered

theorem Within.joinNeighbours {length : Nat}
    (within : Within spans length) : Within (joinNeighbours joins spans) length := by
  have from_ : ∀ last rest, Within (last :: rest) length →
      Within (joinFrom joins last rest) length := by
    intro last rest
    induction rest generalizing last with
    | nil => exact fun within => within
    | cons span rest inductionHypothesis =>
      intro within
      obtain ⟨lastBound, within⟩ := List.forall_mem_cons.1 within
      obtain ⟨spanBound, restBound⟩ := List.forall_mem_cons.1 within
      rw [joinFrom]
      split
      · exact inductionHypothesis _
          (List.forall_mem_cons.2 ⟨max_le lastBound spanBound, restBound⟩)
      · exact List.forall_mem_cons.2 ⟨lastBound, inductionHypothesis _ within⟩
  cases spans with
  | nil => exact within
  | cons span rest => exact from_ span rest within

/-- Spans that are not empty stay so. -/
theorem inhabited_joinNeighbours (inhabited : ∀ span ∈ spans, span.start < span.stop) :
    ∀ joined ∈ joinNeighbours joins spans, joined.start < joined.stop := by
  have from_ : ∀ last rest, (∀ span ∈ last :: rest, span.start < span.stop) →
      ∀ joined ∈ joinFrom joins last rest, joined.start < joined.stop := by
    intro last rest
    induction rest generalizing last with
    | nil => exact fun inhabited => inhabited
    | cons span rest inductionHypothesis =>
      intro inhabited
      obtain ⟨lastRoom, inhabited⟩ := List.forall_mem_cons.1 inhabited
      rw [joinFrom]
      split
      · exact inductionHypothesis _ (List.forall_mem_cons.2
          ⟨lastRoom.trans_le (le_max_left _ _), (List.forall_mem_cons.1 inhabited).2⟩)
      · exact List.forall_mem_cons.2 ⟨lastRoom, inductionHypothesis _ inhabited⟩
  cases spans with
  | nil => exact inhabited
  | cons span rest => exact from_ span rest inhabited

end Join

/-! ### Tidy lists -/

/-- Spans as restricting leaves them: within a length, in order, none of them empty. -/
structure Tidy (spans : List (Span Label)) (length : Nat) : Prop where
  within : Within spans length
  ordered : InOrder spans
  inhabited : ∀ span ∈ spans, span.start < span.stop

theorem InOrder.tidy_restrict (ordered : InOrder spans) (start stop : Nat) :
    Tidy (spans.filterMap (Spans.restrict start stop)) (stop - start) :=
  ⟨within_restrict spans start stop, ordered.restrict start stop,
    inhabited_restrict spans start stop⟩

theorem Tidy.joinNeighbours {joins : Span Label → Span Label → Bool}
    (tidy : Tidy spans length) : Tidy (joinNeighbours joins spans) length :=
  ⟨tidy.within.joinNeighbours, tidy.ordered.joinNeighbours,
    inhabited_joinNeighbours tidy.inhabited⟩

/-- Spans that lie one after the other are tidy together. -/
theorem Tidy.append_shift {firstLength secondLength : Nat}
    (front : Tidy first firstLength) (back : Tidy second secondLength) :
    Tidy (first ++ shift firstLength second) (firstLength + secondLength) := by
  refine ⟨?_, front.ordered.append_shift back.ordered front.within front.inhabited, ?_⟩
  · intro span member
    rcases List.mem_append.1 member with inFirst | inSecond
    · exact (front.within span inFirst).trans (Nat.le_add_right _ _)
    · exact back.within.shift firstLength span inSecond
  · intro span member
    rcases List.mem_append.1 member with inFirst | inSecond
    · exact front.inhabited span inFirst
    · obtain ⟨origin, isOrigin, rfl⟩ := List.mem_map.1 inSecond
      exact Nat.add_lt_add_right (back.inhabited origin isOrigin) firstLength

end Spans
