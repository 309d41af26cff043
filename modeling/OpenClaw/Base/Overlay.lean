/-
This file is about laying one map over another.

Each entry of the upper map is combined with what the lower one has under the key, and
whatever the upper map is silent about stays. Writing one entry after the other comes to
that because the keys of a map are distinct.
-/

import OpenClaw.Base.OrderedMap

namespace OrderedMap

variable {Key Value Other : Type*} [DecidableEq Key]

/-- Combines the entries of the upper map, one after the other, with those of the lower one. -/
def overlay (combine : Option Value → Other → Value) (lower : OrderedMap Key Value)
    (upper : OrderedMap Key Other) : OrderedMap Key Value :=
  upper.entries.foldl (fun merged entry =>
    merged.set entry.1 (combine (merged.get entry.1) entry.2)) lower

theorem get_foldl_combine (combine : Option Value → Other → Value) (entries : List (Key × Other))
    (distinct : (entries.map Prod.fst).Nodup) (lower : OrderedMap Key Value) (key : Key) :
    (entries.foldl (fun merged entry =>
        merged.set entry.1 (combine (merged.get entry.1) entry.2)) lower).get key =
      match entries.find? (fun entry => entry.1 = key) with
      | some entry => some (combine (lower.get key) entry.2)
      | none => lower.get key := by
  induction entries generalizing lower with
  | nil => rfl
  | cons entry rest inductionHypothesis =>
    obtain ⟨fresh, distinct⟩ := List.nodup_cons.1 distinct
    rw [List.foldl_cons, inductionHypothesis distinct]
    by_cases same : entry.1 = key
    · have none : rest.find? (fun entry => entry.1 = key) = none := by
        rw [List.find?_eq_none]
        intro later member isKey
        exact fresh (same ▸ of_decide_eq_true isKey ▸ List.mem_map_of_mem member)
      rw [none, List.find?_cons_of_pos (by simpa using same), ← same, get_set_self]
    · rw [List.find?_cons_of_neg (by simpa using same), get_set_of_ne _ _ (Ne.symm same)]

theorem get_overlay (combine : Option Value → Other → Value) (lower : OrderedMap Key Value)
    (upper : OrderedMap Key Other) (key : Key) :
    (overlay combine lower upper).get key =
      match upper.get key with
      | some other => some (combine (lower.get key) other)
      | none => lower.get key := by
  have read : upper.get key =
      (upper.entries.find? fun entry => entry.1 = key).map Prod.snd := rfl
  rw [overlay, get_foldl_combine combine upper.entries upper.distinct, read]
  cases upper.entries.find? fun entry => entry.1 = key <;> rfl

/-- The spread of one object after another. -/
def spread (lower upper : OrderedMap Key Value) : OrderedMap Key Value :=
  overlay (fun _ value => value) lower upper

theorem get_spread (lower upper : OrderedMap Key Value) (key : Key) :
    (spread lower upper).get key = (upper.get key).or (lower.get key) := by
  rw [spread, get_overlay]
  cases upper.get key <;> rfl

end OrderedMap
