/-
This file is the language every synchronous stretch of the modelled program is
written in: code that reads and writes a state, may throw, and keeps what it
wrote when it throws. A JavaScript function between two awaits is exactly that,
so a `throw` halfway through leaves the half-finished state behind and a
`try`/`catch` resumes from it.

Two judgements are developed over it. `Related`: started in a given state, the
program leaves a state that stands in a given preorder to it, whatever it did
and however it ended. Invariants, frame conditions and histories of writes are
all preorders. `Leaves`: the state it leaves meets a postcondition, however it
ended. The rules follow the constructors of the language and hand the proof of a
continuation the exact outcome of what ran before it.
-/

import Mathlib

/-- A synchronous computation over a state. The state survives an exception. -/
def Sync (State Error Value : Type) : Type := State → Except Error Value × State

namespace Sync

variable {State Error Value Result : Type} {state middle : State}

/-- A computation that neither reads nor writes. -/
def done (value : Value) : Sync State Error Value := fun state => (.ok value, state)

/-- Sequencing: an exception skips the rest and keeps the state it left. -/
def andThen (first : Sync State Error Value) (rest : Value → Sync State Error Result) :
    Sync State Error Result := fun state =>
  match first state with
  | (.ok value, middle) => rest value middle
  | (.error error, middle) => (.error error, middle)

instance : Monad (Sync State Error) where
  pure := done
  bind := andThen

/-- Reads the state. -/
def read : Sync State Error State := fun state => (.ok state, state)

/-- Reads a component of the state. -/
def reads (component : State → Value) : Sync State Error Value :=
  fun state => (.ok (component state), state)

/-- Writes the state. -/
def modify (change : State → State) : Sync State Error Unit := fun state => (.ok (), change state)

/-- Throws. -/
def throw (error : Error) : Sync State Error Value := fun state => (.error error, state)

/-- `try first catch handler`: the handler starts in the state the exception left. -/
def attempt (first : Sync State Error Value) (handler : Error → Sync State Error Value) :
    Sync State Error Value := fun state =>
  match first state with
  | (.ok value, middle) => (.ok value, middle)
  | (.error error, middle) => handler error middle

/-- `try first finally cleanup`: the cleanup runs on both exits and keeps the outcome. -/
def ensuring (first : Sync State Error Value) (cleanup : State → State) :
    Sync State Error Value := fun state => ((first state).1, cleanup (first state).2)

/-- Runs a body on every item of a list; an exception leaves the loop. -/
def forEach {Item : Type} (body : Item → Sync State Error Unit) :
    List Item → Sync State Error Unit
  | [] => done ()
  | item :: rest => andThen (body item) fun _ => forEach body rest

/-! ### Evaluation -/

@[simp] theorem pure_run (value : Value) (state : State) :
    (pure value : Sync State Error Value) state = (.ok value, state) := rfl

@[simp] theorem modify_run (change : State → State) (state : State) :
    (modify change : Sync State Error Unit) state = (.ok (), change state) := rfl

@[simp] theorem throw_run (error : Error) (state : State) :
    (throw error : Sync State Error Value) state = (.error error, state) := rfl

theorem bind_run_ok {first : Sync State Error Value} {rest : Value → Sync State Error Result}
    {value : Value} (ran : first state = (.ok value, middle)) :
    (first >>= rest) state = rest value middle := by
  show andThen first rest state = rest value middle
  rw [andThen, ran]

theorem bind_run_error {first : Sync State Error Value}
    {rest : Value → Sync State Error Result} {error : Error}
    (ran : first state = (.error error, middle)) :
    (first >>= rest) state = (.error error, middle) := by
  show andThen first rest state = (.error error, middle)
  rw [andThen, ran]

theorem forEach_cons_ok {Item : Type} {body : Item → Sync State Error Unit} {item : Item}
    {value : Unit} (ran : body item state = (.ok value, middle))
    (rest : List Item) : forEach body (item :: rest) state = forEach body rest middle := by
  rw [forEach, andThen, ran]

theorem forEach_cons_error {Item : Type} {body : Item → Sync State Error Unit} {item : Item}
    {error : Error} (ran : body item state = (.error error, middle))
    (rest : List Item) : forEach body (item :: rest) state = (.error error, middle) := by
  rw [forEach, andThen, ran]

@[simp] theorem modify_bind (change : State → State) (rest : Unit → Sync State Error Result)
    (state : State) : (modify change >>= rest) state = rest () (change state) := rfl

@[simp] theorem read_bind (rest : State → Sync State Error Result) (state : State) :
    (read >>= rest) state = rest state state := rfl

@[simp] theorem reads_bind (component : State → Value)
    (rest : Value → Sync State Error Result) (state : State) :
    (reads component >>= rest) state = rest (component state) state := rfl

/-! ### Related states -/

/-- However the program ends when it starts in `state`, the relation holds between that state and
the one it leaves. -/
def Related (relation : State → State → Prop) (program : Sync State Error Value) (state : State) :
    Prop := relation state (program state).2

section Related

variable {relation : State → State → Prop} [IsPreorder State relation]
variable {first : Sync State Error Value}

theorem related_pure (value : Value) (state : State) :
    Related relation (pure value : Sync State Error Value) state := refl_of relation state

theorem related_throw (error : Error) (state : State) :
    Related relation (throw error : Sync State Error Value) state := refl_of relation state

theorem related_read (state : State) :
    Related relation (read : Sync State Error State) state := refl_of relation state

omit [IsPreorder State relation] in
theorem related_read_bind {rest : State → Sync State Error Result}
    (back : Related relation (rest state) state) : Related relation (read >>= rest) state := back

omit [IsPreorder State relation] in
theorem related_reads_bind {component : State → Value}
    {rest : Value → Sync State Error Result}
    (back : Related relation (rest (component state)) state) :
    Related relation (reads component >>= rest) state := back

omit [IsPreorder State relation] in
theorem related_modify {change : State → State} (holds : relation state (change state)) :
    Related relation (modify change : Sync State Error Unit) state := holds

/-- The continuation may be proved knowing how the first part ended. -/
theorem Related.bind {rest : Value → Sync State Error Result} (front : Related relation first state)
    (back : ∀ value middle, first state = (.ok value, middle) →
      Related relation (rest value) middle) :
    Related relation (first >>= rest) state := by
  unfold Related at front ⊢
  cases ran : first state with
  | mk outcome middle =>
    rw [ran] at front
    cases outcome with
    | ok value =>
      rw [bind_run_ok ran]
      exact trans_of relation front (back value middle ran)
    | error error =>
      rw [bind_run_error ran]
      exact front

/-- The handler may be proved knowing what was thrown and where. -/
theorem Related.attempt {handler : Error → Sync State Error Value}
    (front : Related relation first state)
    (back : ∀ error middle, first state = (.error error, middle) →
      Related relation (handler error) middle) :
    Related relation (attempt first handler) state := by
  unfold Related at front ⊢
  cases ran : first state with
  | mk outcome middle =>
    rw [ran] at front
    cases outcome with
    | ok value =>
      simp only [Sync.attempt, ran]
      exact front
    | error error =>
      simp only [Sync.attempt, ran]
      exact trans_of relation front (back error middle ran)

theorem Related.ensuring {cleanup : State → State} (front : Related relation first state)
    (holds : ∀ final, relation final (cleanup final)) :
    Related relation (ensuring first cleanup) state :=
  trans_of relation front (holds _)

/-- A loop is related when every turn is, from every state that meets what is known of the items
still to come. -/
theorem related_forEach {Item : Type} {body : Item → Sync State Error Unit}
    (Known : List Item → State → Prop)
    (turn : ∀ item rest state, Known (item :: rest) state → Related relation (body item) state)
    (next : ∀ item rest state, Known (item :: rest) state → Known rest (body item state).2)
    {items : List Item} (known : Known items state) :
    Related relation (forEach body items) state := by
  induction items generalizing state with
  | nil => exact refl_of relation state
  | cons item rest inductionHypothesis =>
    refine (turn item rest state known).bind fun _ middle ran => ?_
    have remaining := next item rest state known
    rw [ran] at remaining
    exact inductionHypothesis remaining

omit [IsPreorder State relation] in
theorem Related.weaken {weaker : State → State → Prop} {program : Sync State Error Value}
    (valid : Related relation program state)
    (implies : ∀ next, relation state next → weaker state next) : Related weaker program state :=
  implies _ valid

end Related

/-! ### The state a program leaves -/

/-- However the program ends when it starts in `state`, the state it leaves meets the
postcondition. -/
def Leaves (post : State → Prop) (program : Sync State Error Value) (state : State) : Prop :=
  post (program state).2

section Leaves

variable {post : State → Prop} {first : Sync State Error Value}

theorem Leaves.bind {rest : Value → Sync State Error Result}
    (failed : ∀ error middle, first state = (.error error, middle) → post middle)
    (back : ∀ value middle, first state = (.ok value, middle) → Leaves post (rest value) middle) :
    Leaves post (first >>= rest) state := by
  unfold Leaves
  cases ran : first state with
  | mk outcome middle =>
    cases outcome with
    | ok value =>
      rw [bind_run_ok ran]
      exact back value middle ran
    | error error =>
      rw [bind_run_error ran]
      exact failed error middle ran

theorem Leaves.attempt {handler : Error → Sync State Error Value}
    (returned : ∀ value middle, first state = (.ok value, middle) → post middle)
    (handled : ∀ error middle, first state = (.error error, middle) →
      Leaves post (handler error) middle) :
    Leaves post (Sync.attempt first handler) state := by
  unfold Leaves
  cases ran : first state with
  | mk outcome middle =>
    cases outcome with
    | ok value =>
      simp only [Sync.attempt, ran]
      exact returned value middle ran
    | error error =>
      simp only [Sync.attempt, ran]
      exact handled error middle ran

/-- A postcondition that the first part establishes and the rest keeps. -/
theorem Leaves.keep {rest : Value → Sync State Error Result}
    (front : Leaves post first state)
    (back : ∀ value middle, post middle → Leaves post (rest value) middle) :
    Leaves post (first >>= rest) state := by
  unfold Leaves at front
  refine Leaves.bind (fun error middle ran => ?_) fun value middle ran => ?_
  · rw [ran] at front
    exact front
  · rw [ran] at front
    exact back value middle front

/-- A postcondition that the body establishes and the handler keeps. -/
theorem Leaves.keep_attempt
    {handler : Error → Sync State Error Value} (front : Leaves post first state)
    (back : ∀ error middle, post middle → Leaves post (handler error) middle) :
    Leaves post (Sync.attempt first handler) state := by
  unfold Leaves at front
  refine Leaves.attempt (fun value middle ran => ?_) fun error middle ran => ?_
  · rw [ran] at front
    exact front
  · rw [ran] at front
    exact back error middle front

/-- A program that is known to leave a related state carries a postcondition along. -/
theorem Related.leaves {relation : State → State → Prop} {program : Sync State Error Value}
    (related : Related relation program state)
    (implies : ∀ final, relation state final → post final) : Leaves post program state :=
  implies _ related

end Leaves

end Sync
