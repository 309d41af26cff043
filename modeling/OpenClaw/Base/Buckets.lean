/-
This file is about lists that are taken apart under keys and put together again.

Items are pushed into buckets in the order they come, so a bucket is what a filter of the
list leaves. Two filters of one list that have nothing in common merge into the filter for
either of them, since every item knows its place. And a first match is found by a filter
whenever the filter leaves out only what does not match.
-/

import OpenClaw.Base.OrderedMap

namespace Buckets

variable {Key Item : Type*} {before : Item → Item → Bool}

section Push

variable [DecidableEq Key]

/-- Puts an item at the end of the bucket of a key. -/
def push (buckets : OrderedMap Key (List Item)) (key : Key) (item : Item) :
    OrderedMap Key (List Item) :=
  buckets.set key ((buckets.get key).getD [] ++ [item])

/-- The bucket of a key, empty when there is none. -/
def bucket (buckets : OrderedMap Key (List Item)) (key : Key) : List Item :=
  (buckets.get key).getD []

theorem bucket_push (buckets : OrderedMap Key (List Item)) (key other : Key) (item : Item) :
    bucket (push buckets key item) other =
      bucket buckets other ++ if other = key then [item] else [] := by
  rw [bucket, push, OrderedMap.get_set]
  split
  next same => rw [same, Option.getD_some, bucket]
  next => rw [List.append_nil, bucket]

/-- An item is pushed once for each of its keys. -/
theorem bucket_foldl_push (buckets : OrderedMap Key (List Item)) {keys : List Key}
    (nodup : keys.Nodup) (item : Item) (other : Key) :
    bucket (keys.foldl (fun buckets key => push buckets key item) buckets) other =
      bucket buckets other ++ if other ∈ keys then [item] else [] := by
  induction keys generalizing buckets with
  | nil => rw [List.foldl_nil, if_neg List.not_mem_nil, List.append_nil]
  | cons key keys inductionHypothesis =>
    obtain ⟨fresh, nodup⟩ := List.nodup_cons.1 nodup
    rw [List.foldl_cons, inductionHypothesis _ nodup, bucket_push, List.append_assoc]
    refine congrArg (bucket buckets other ++ ·) ?_
    by_cases same : other = key
    · rw [if_pos same, if_neg (same ▸ fresh), if_pos (same ▸ List.mem_cons_self), List.append_nil]
    · rw [if_neg same, List.nil_append]
      exact if_congr ⟨List.mem_cons_of_mem _, fun member =>
        (List.mem_cons.1 member).resolve_left same⟩ rfl rfl

end Push

/-- An item is in front of those it comes before. -/
theorem cons_merge {item : Item} {left right : List Item}
    (first : ∀ other ∈ right, before item other = true) :
    (item :: left).merge right before = item :: left.merge right before := by
  cases right with
  | nil => rw [List.merge_right, List.merge_right]
  | cons other right => exact List.cons_merge_cons_pos _ _ _ (first other List.mem_cons_self)

theorem merge_cons {item : Item} {left right : List Item}
    (first : ∀ other ∈ left, before other item = false) :
    left.merge (item :: right) before = item :: left.merge right before := by
  cases left with
  | nil => rw [List.nil_merge, List.nil_merge]
  | cons other left =>
    exact List.cons_merge_cons_neg _ _ _ (by simp [first other List.mem_cons_self])

/-- Two filters without a common item merge into the filter for either. -/
theorem merge_filter {left right : Item → Bool} {items : List Item}
    (ordered : items.Pairwise fun first second =>
      before first second = true ∧ before second first = false)
    (apart : ∀ item ∈ items, left item = true → right item = false) :
    (items.filter left).merge (items.filter right) before =
      items.filter fun item => left item || right item := by
  induction items with
  | nil => rw [List.filter_nil, List.filter_nil, List.filter_nil, List.nil_merge]
  | cons item rest inductionHypothesis =>
    obtain ⟨least, ordered⟩ := List.pairwise_cons.1 ordered
    have merged := inductionHypothesis ordered
      fun other member => apart other (List.mem_cons_of_mem _ member)
    by_cases isLeft : left item = true
    · have notRight := apart item List.mem_cons_self isLeft
      rw [List.filter_cons_of_pos isLeft, List.filter_cons_of_neg (by simp [notRight]),
        List.filter_cons_of_pos (by simp [isLeft]), cons_merge, merged]
      exact fun other member => (least other (List.mem_of_mem_filter member)).1
    · rw [List.filter_cons_of_neg isLeft]
      by_cases isRight : right item = true
      · rw [List.filter_cons_of_pos isRight, List.filter_cons_of_pos (by simp [isRight]),
          merge_cons, merged]
        exact fun other member => (least other (List.mem_of_mem_filter member)).2
      · rw [List.filter_cons_of_neg isRight, List.filter_cons_of_neg (by simp [isLeft, isRight]),
          merged]

section New

variable [DecidableEq Item]

/-- Appends the items that are not there yet. -/
def appendNew (out items : List Item) : List Item :=
  items.foldl (fun out item => if item ∈ out then out else out ++ [item]) out

theorem appendNew_of_nodup {out items : List Item} (nodup : (out ++ items).Nodup) :
    appendNew out items = out ++ items := by
  induction items generalizing out with
  | nil => rw [List.append_nil, appendNew, List.foldl_nil]
  | cons item rest inductionHypothesis =>
    have fresh : item ∉ out := fun member =>
      List.disjoint_of_nodup_append nodup member List.mem_cons_self
    rw [← List.singleton_append, ← List.append_assoc] at nodup ⊢
    rw [← inductionHypothesis nodup, appendNew, List.singleton_append, List.foldl_cons,
      if_neg fresh, ← appendNew]

theorem appendNew_of_subset {out items : List Item} (present : ∀ item ∈ items, item ∈ out) :
    appendNew out items = out := by
  induction items with
  | nil => rw [appendNew, List.foldl_nil]
  | cons item rest inductionHypothesis =>
    rw [appendNew, List.foldl_cons, if_pos (present item List.mem_cons_self), ← appendNew]
    exact inductionHypothesis fun other member => present other (List.mem_cons_of_mem _ member)

end New

/-- Looking where a match must be finds the first match. -/
theorem find?_filter_eq {kept matched : Item → Bool} {items : List Item}
    (covers : ∀ item ∈ items, matched item = true → kept item = true) :
    (items.filter kept).find? matched = items.find? matched := by
  rw [List.find?_filter]
  refine List.find?_congr fun item member => ?_
  cases isMatched : matched item with
  | false => simp
  | true => simp [covers item member isMatched]

/-- Two searches agree at each place as long as the second has found nothing before. -/
inductive AgreeInTurn {First Second Found : Type*} (first : First → Option Found)
    (second : Second → Option Found) : List First → List Second → Prop
  | nil : AgreeInTurn first second [] []
  | cons {left : First} {right : Second} {lefts : List First} {rights : List Second}
      (same : first left = second right)
      (rest : second right = none → AgreeInTurn first second lefts rights) :
      AgreeInTurn first second (left :: lefts) (right :: rights)

theorem AgreeInTurn.findSome?_eq {First Second Found : Type*} {first : First → Option Found}
    {second : Second → Option Found} {lefts : List First} {rights : List Second}
    (agree : AgreeInTurn first second lefts rights) :
    lefts.findSome? first = rights.findSome? second := by
  induction agree with
  | nil => rfl
  | cons same rest inductionHypothesis =>
    rw [List.findSome?_cons, List.findSome?_cons, same]
    split
    · rfl
    next none => exact inductionHypothesis none

end Buckets
