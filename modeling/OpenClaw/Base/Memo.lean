/-
This file is about remembering results under a key.

A memo forgets everything when it has grown too large and keeps what was put in last. What
it gives back has been put in under that key, so whatever holds of all results put in holds
of those it gives back.
-/

import OpenClaw.Base.OrderedMap

namespace Memo

variable {Key Value : Type*} [DecidableEq Key]

/-- Puts a result in, and starts afresh with it when there are more than the limit. -/
def remember (limit : Nat) (memo : OrderedMap Key Value) (key : Key) (value : Value) :
    OrderedMap Key Value :=
  let grown := memo.set key value
  if limit < grown.entries.length then (∅ : OrderedMap Key Value).set key value else grown

/-- Every result stands under a key it is right for. -/
def Holds (right : Key → Value → Prop) (memo : OrderedMap Key Value) : Prop :=
  ∀ key value, memo.get key = some value → right key value

variable {right : Key → Value → Prop} {memo : OrderedMap Key Value}

theorem holds_empty : Holds right (∅ : OrderedMap Key Value) := nofun

theorem Holds.set (holds : Holds right memo) {key : Key}
    {value : Value} (isRight : right key value) : Holds right (memo.set key value) := by
  intro other stored found
  rw [OrderedMap.get_set] at found
  split at found
  next same => exact same ▸ Option.some.inj found ▸ isRight
  next => exact holds other stored found

theorem Holds.remember {limit : Nat} (holds : Holds right memo)
    {key : Key} {value : Value} (isRight : right key value) :
    Holds right (remember limit memo key value) := by
  unfold Memo.remember
  dsimp only
  split
  · exact holds_empty.set isRight
  · exact holds.set isRight

end Memo
