/-
This file is edits of a value in place that may fail on the way: assignments and checks in
sequence, where a failure leaves what has been assigned before it.

An edit is a program of `EStateM`, which keeps the state on a throw. Whether it fails with some
value left is read off step by step: an assignment never fails, and where a check does, the value
it was made on is what is left.
-/

import Mathlib

namespace Edits

variable {Err Value Result Next : Type}

/-- Whenever an edit of a value fails, it leaves this value. -/
def FailsTo (edit : EStateM Err Value Result) (start original : Value) : Prop :=
  ∀ err left, edit.run start = .error err left → left = original

/-- A check, which may also write the value down in another form. -/
def check (assert : Value → Except Err Value) : EStateM Err Value Unit := fun value =>
  match assert value with
  | .ok checked => .ok () checked
  | .error err => .error err value

/-- A check that leaves the value as it is. -/
def require (assert : Value → Except Err Unit) : EStateM Err Value Unit :=
  check fun value => (assert value).map fun _ => value

section Rules

variable {start original : Value}

theorem failsTo_modify_bind (fn : Value → Value) (next : Unit → EStateM Err Value Next) :
    FailsTo (modify fn >>= next) start original ↔ FailsTo (next ()) (fn start) original := Iff.rfl

theorem failsTo_check (assert : Value → Except Err Value) :
    FailsTo (check assert) start original ↔
      ∀ err, assert start = .error err → start = original := by
  have runs : (check assert).run start = match assert start with
    | .ok checked => .ok () checked
    | .error err => .error err start := rfl
  unfold FailsTo
  rw [runs]
  cases assert start with
  | ok checked => exact iff_of_true nofun nofun
  | error err =>
    refine ⟨fun fails _ _ => fails err start rfl, fun fails other left failed => ?_⟩
    obtain ⟨-, rfl⟩ := EStateM.Result.error.inj failed
    exact fails err rfl

theorem failsTo_check_bind (assert : Value → Except Err Value)
    (next : Unit → EStateM Err Value Next) :
    FailsTo (check assert >>= next) start original ↔
      (∀ err, assert start = .error err → start = original) ∧
        ∀ checked, assert start = .ok checked → FailsTo (next ()) checked original := by
  have runs : (check assert >>= next).run start = match assert start with
    | .ok checked => (next ()).run checked
    | .error err => .error err start := by
    have first : (check assert) start = match assert start with
      | .ok checked => .ok () checked
      | .error err => .error err start := rfl
    change EStateM.bind (check assert) next start = _
    unfold EStateM.bind
    rw [first]
    cases assert start with
    | ok checked => rfl
    | error err => rfl
  unfold FailsTo
  rw [runs]
  cases assert start with
  | ok checked =>
    refine ⟨fun fails => ⟨nofun, fun other isOk => ?_⟩,
      fun fails => fails.2 checked rfl⟩
    obtain rfl := Except.ok.inj isOk
    exact fails
  | error err =>
    refine ⟨fun fails => ⟨fun _ _ => fails err start rfl, nofun⟩,
      fun fails other left failed => ?_⟩
    obtain ⟨-, rfl⟩ := EStateM.Result.error.inj failed
    exact fails.1 err rfl

theorem failsTo_require_bind (assert : Value → Except Err Unit)
    (next : Unit → EStateM Err Value Next) :
    FailsTo (require assert >>= next) start original ↔
      (∀ err, assert start = .error err → start = original) ∧
        (assert start = .ok () → FailsTo (next ()) start original) := by
  refine (failsTo_check_bind _ next).trans ?_
  cases assert start with
  | ok done =>
    refine and_congr ⟨fun _ => nofun, fun _ => nofun⟩
      ⟨fun fails _ => fails start rfl, fun fails checked isChecked => ?_⟩
    obtain rfl := Except.ok.inj isChecked
    exact fails rfl
  | error err =>
    refine and_congr ⟨fun fails _ _ => fails err rfl, fun fails _ _ => fails err rfl⟩
      ⟨fun _ => nofun, fun _ => nofun⟩

end Rules

end Edits
