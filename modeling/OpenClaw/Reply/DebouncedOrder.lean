/-
This file shows that the debouncer keeps the order of the items of a key and loses none: what has
arrived for a key is what has been handed on, in as many calls, followed by what is pending on
the chain of the key.

The tasks of a chain are begun one after the other, since each waits for the one that was the end
of the chain when it came, and the chain is dropped only when its last task is done. An open
buffer is the last task of its chain, so that an item that comes late never goes before one that
came early. A task that has not begun waits for the timer of its buffer or for an earlier task, or
else one of its own steps is at hand.
-/

import OpenClaw.Reply.InboundDebounce

namespace OpenClaw.InboundDebounce

open Machine

variable {Item : Type} {task : Task Item} {tasks : List (Task Item)}

/-! ### Tasks of a chain -/

/-- The items of the tasks that have not begun. -/
def pendingOf (tasks : List (Task Item)) : List Item :=
  (tasks.filter (·.status = .waiting)).flatMap Task.items

theorem pendingOf_append (first second : List (Task Item)) :
    pendingOf (first ++ second) = pendingOf first ++ pendingOf second := by
  rw [pendingOf, List.filter_append, List.flatMap_append]
  rfl

theorem pendingOf_singleton (waiting : task.status = .waiting) :
    pendingOf [task] = task.items := by
  simp [pendingOf, waiting]

theorem pendingOf_cons {rest : List (Task Item)}
    (waiting : task.status = .waiting) : pendingOf (task :: rest) = task.items ++ pendingOf rest :=
  (pendingOf_append [task] rest).trans
    (congrArg (fun items => items ++ pendingOf rest) (pendingOf_singleton waiting))

theorem pendingOf_cons_of_ne {rest : List (Task Item)}
    (begun : task.status ≠ .waiting) : pendingOf (task :: rest) = pendingOf rest := by
  simp [pendingOf, begun]

theorem pendingOf_eq_nil
    (begun : ∀ task ∈ tasks, task.status ≠ .waiting) : pendingOf tasks = [] := by
  rw [pendingOf, List.filter_eq_nil_iff.2 fun task member => by simpa using begun task member]
  rfl

/-- A task on its chain, with what stands before it and behind it. -/
theorem exists_split {place : ℕ}
    (isTask : tasks[place]? = some task) : ∃ before after, tasks = before ++ task :: after ∧
      before.length = place ∧
      ∀ change, tasks.modify place change = before ++ change task :: after := by
  obtain ⟨inside, rfl⟩ := List.getElem?_eq_some_iff.1 isTask
  refine ⟨tasks.take place, tasks.drop (place + 1), ?_, ?_, fun change => ?_⟩
  · rw [← List.drop_eq_getElem_cons inside, List.take_append_drop]
  · exact List.length_take_of_le inside.le
  · rw [List.modify_eq_take_cons_drop inside]

theorem modify_append_left (first second : List (Task Item)) {place : ℕ}
    (inside : place < first.length) (change : Task Item → Task Item) :
    (first ++ second).modify place change = first.modify place change ++ second := by
  induction first generalizing place with
  | nil => exact absurd inside (Nat.not_lt_zero place)
  | cons task first inductionHypothesis =>
    cases place with
    | zero => rfl
    | succ place =>
      rw [List.cons_append, List.modify_succ_cons, List.modify_succ_cons, List.cons_append,
        inductionHypothesis (Nat.lt_of_succ_lt_succ inside)]

theorem getElem?_modify_self {place : ℕ}
    (change : Task Item → Task Item) (isTask : tasks[place]? = some task) :
    (tasks.modify place change)[place]? = some (change task) := by
  rw [List.getElem?_modify_eq, isTask]
  rfl

/-- A task of a changed list is a task of the list, changed or not. -/
theorem exists_of_modify {place other : ℕ} {change : Task Item → Task Item}
    (isTask : (tasks.modify place change)[other]? = some task) :
    ∃ old, tasks[other]? = some old ∧
      (place = other ∧ task = change old ∨ place ≠ other ∧ task = old) := by
  by_cases here : place = other
  · subst here
    rw [List.getElem?_modify_eq] at isTask
    obtain ⟨old, isOld, rfl⟩ := Option.map_eq_some_iff.1 isTask
    exact ⟨old, isOld, Or.inl ⟨rfl, rfl⟩⟩
  · rw [List.getElem?_modify_ne _ _ here] at isTask
    exact ⟨task, isTask, Or.inr ⟨here, rfl⟩⟩

theorem isDone_iff {lane : Lane Item} {place : ℕ} : isDone lane place = true ↔
    ∃ task, lane.tasks[place]? = some task ∧ task.status = .done := by
  unfold isDone
  cases lane.tasks[place]? <;> simp

/-- Tasks begin in their order, each with its place on the chain. -/
structure Chained (lane : Lane Item) : Prop where
  begun : ∀ {early late : ℕ} {first second : Task Item}, early < late →
    lane.tasks[early]? = some first → lane.tasks[late]? = some second →
    second.status ≠ .waiting → first.status = .done
  previous : ∀ {place : ℕ} {task : Task Item}, lane.tasks[place]? = some task →
    (∃ before, task.previous = some before ∧ before + 1 = place) ∨
      task.previous = none ∧ ∀ early < place, isDone lane early = true
  chain : (∃ last, lane.keyChain = some last ∧ last + 1 = lane.tasks.length) ∨
    lane.keyChain = none ∧ ∀ place < lane.tasks.length, isDone lane place = true

/-- A buffer that is open is the last task; a place that is not ready has something to wait for. -/
structure Buffered (lane : Lane Item) : Prop where
  buffer : ∀ {place : ℕ}, lane.buffer = some place → place + 1 = lane.tasks.length ∧
    ∃ task, lane.tasks[place]? = some task ∧ task.ready = false ∧ task.timeout = true ∧
      task.behind = none
  timeout : ∀ {place : ℕ} {task : Task Item}, lane.tasks[place]? = some task →
    task.timeout = true → lane.buffer = some place
  unready : ∀ {place : ℕ} {task : Task Item}, lane.tasks[place]? = some task →
    task.ready = false → task.status = .waiting ∧
      (task.timeout = true ∨ ∃ before < place, task.behind = some before)
  filled : ∀ {place : ℕ} {task : Task Item}, lane.tasks[place]? = some task → task.items ≠ []

/-- A change that leaves how far the task is, and its place. -/
structure KeepsPlace (change : Task Item → Task Item) : Prop where
  status : ∀ task, (change task).status = task.status
  previous : ∀ task, (change task).previous = task.previous

section Chains

variable {lane : Lane Item} {place : ℕ} {change : Task Item → Task Item}
variable {next : Lane Item}

theorem isDone_modify (keeps : KeepsPlace change)
    (place other : ℕ) : isDone (lane.modify place change) other = isDone lane other := by
  unfold isDone Lane.modify
  dsimp only
  by_cases here : place = other
  · subst here
    rw [List.getElem?_modify_eq]
    cases lane.tasks[place]? with
    | none => rfl
    | some task => simp [keeps.status]
  · rw [List.getElem?_modify_ne _ _ here]

theorem Chained.modify (chained : Chained lane)
    (keeps : KeepsPlace change) (place : ℕ) : Chained (lane.modify place change) where
  begun {early late first second} earlier isFirst isSecond begun := by
    obtain ⟨oldFirst, wasFirst, isChanged⟩ := exists_of_modify isFirst
    obtain ⟨oldSecond, wasSecond, isChangedSecond⟩ := exists_of_modify isSecond
    have sameFirst : first.status = oldFirst.status := by
      rcases isChanged with ⟨-, rfl⟩ | ⟨-, rfl⟩
      · exact keeps.status oldFirst
      · rfl
    have sameSecond : second.status = oldSecond.status := by
      rcases isChangedSecond with ⟨-, rfl⟩ | ⟨-, rfl⟩
      · exact keeps.status oldSecond
      · rfl
    rw [sameFirst]
    exact chained.begun earlier wasFirst wasSecond (sameSecond ▸ begun)
  previous {other task} isTask := by
    obtain ⟨old, wasTask, isChanged⟩ := exists_of_modify isTask
    have samePrevious : task.previous = old.previous := by
      rcases isChanged with ⟨-, rfl⟩ | ⟨-, rfl⟩
      · exact keeps.previous old
      · rfl
    rw [samePrevious]
    simp only [isDone_modify keeps]
    exact chained.previous wasTask
  chain := by
    simp only [isDone_modify keeps]
    simpa [Lane.modify] using chained.chain

theorem getElem?_enqueueKeyTask {task found : Task Item}
    (isTask : (enqueueKeyTask lane task).tasks[place]? = some found) :
    place < lane.tasks.length ∧ lane.tasks[place]? = some found ∨
      place = lane.tasks.length ∧ found = { task with previous := lane.keyChain } := by
  unfold enqueueKeyTask at isTask
  dsimp only at isTask
  rcases lt_trichotomy place lane.tasks.length with inside | rfl | outside
  · rw [List.getElem?_append_left inside] at isTask
    exact Or.inl ⟨inside, isTask⟩
  · rw [List.getElem?_concat_length] at isTask
    exact Or.inr ⟨rfl, (Option.some.inj isTask).symm⟩
  · rw [List.getElem?_eq_none (by simp; omega)] at isTask
    exact absurd isTask nofun

theorem isDone_enqueueKeyTask (inside : place < lane.tasks.length) :
    isDone (enqueueKeyTask lane task) place = isDone lane place := by
  unfold isDone enqueueKeyTask
  dsimp only
  rw [List.getElem?_append_left inside]

theorem Chained.enqueueKeyTask (chained : Chained lane) {task : Task Item}
    (waiting : task.status = .waiting) : Chained (enqueueKeyTask lane task) where
  begun {early late first second} earlier isFirst isSecond begun := by
    rcases getElem?_enqueueKeyTask isSecond with ⟨inside, wasSecond⟩ | ⟨-, rfl⟩
    · rcases getElem?_enqueueKeyTask isFirst with ⟨-, wasFirst⟩ | ⟨rfl, -⟩
      · exact chained.begun earlier wasFirst wasSecond begun
      · exact absurd (earlier.trans inside) (lt_irrefl _)
    · exact absurd waiting begun
  previous {place found} isTask := by
    rcases getElem?_enqueueKeyTask isTask with ⟨inside, wasTask⟩ | ⟨rfl, rfl⟩
    · refine (chained.previous wasTask).imp_right fun ⟨first, done⟩ => ⟨first, ?_⟩
      intro early earlier
      rw [isDone_enqueueKeyTask (earlier.trans inside)]
      exact done early earlier
    · refine chained.chain.imp_right fun ⟨first, done⟩ => ⟨first, ?_⟩
      intro early earlier
      rw [isDone_enqueueKeyTask earlier]
      exact done early earlier
  chain := Or.inl ⟨lane.tasks.length, rfl, by simp [InboundDebounce.enqueueKeyTask]⟩

/-- What stands before a task that may run, or runs, is done. -/
theorem Chained.done_before (chained : Chained lane) (isTask : lane.tasks[place]? = some task)
    (turn : task.previous.all (isDone lane) = true ∨ task.status ≠ .waiting) :
    ∀ early < place, isDone lane early = true := by
  have inside := (List.getElem?_eq_some_iff.1 isTask).1
  have earlier_done : ∀ {late : ℕ} {second : Task Item}, lane.tasks[late]? = some second →
      second.status ≠ .waiting → ∀ early < late, isDone lane early = true := by
    intro late second isSecond begun early earlier
    have bound := (List.getElem?_eq_some_iff.1 isSecond).1
    have isFirst : lane.tasks[early]? = some lane.tasks[early] :=
      List.getElem?_eq_getElem (earlier.trans bound)
    exact isDone_iff.2 ⟨_, isFirst, chained.begun earlier isFirst isSecond begun⟩
  rcases turn with turn | begun
  · rcases chained.previous isTask with ⟨before, isBefore, rfl⟩ | ⟨-, done⟩
    · rw [isBefore, Option.all_some] at turn
      obtain ⟨last, isLast, lastDone⟩ := isDone_iff.1 turn
      intro early earlier
      rcases Nat.lt_succ_iff_lt_or_eq.1 earlier with further | rfl
      · exact earlier_done isLast (by rw [lastDone]; nofun) early further
      · exact turn
    · exact done
  · exact earlier_done isTask begun

/-- A task is taken further when all before it are done. -/
theorem Chained.proceed (chained : Chained lane) {status : Status}
    (isTask : lane.tasks[place]? = some task) (undone : task.status ≠ .done)
    (done : ∀ early < place, isDone lane early = true) :
    Chained (lane.modify place fun task => { task with status := status }) := by
  have still : ∀ other, isDone lane other = true →
      isDone (lane.modify place fun task => { task with status := status }) other = true := by
    intro other otherDone
    obtain ⟨old, isOld, oldDone⟩ := isDone_iff.1 otherDone
    have apart : place ≠ other := by
      rintro rfl
      rw [isTask] at isOld
      exact undone (Option.some.inj isOld ▸ oldDone)
    refine isDone_iff.2 ⟨old, ?_, oldDone⟩
    exact (List.getElem?_modify_ne _ _ apart).trans isOld
  refine ⟨?_, ?_, ?_⟩
  · intro early late first second earlier isFirst isSecond begun
    obtain ⟨oldSecond, wasSecond, isChanged⟩ := exists_of_modify isSecond
    have earlyDone : isDone lane early = true := by
      rcases isChanged with ⟨rfl, -⟩ | ⟨-, rfl⟩
      · exact done early earlier
      · exact chained.done_before wasSecond (Or.inr begun) early earlier
    obtain ⟨found, isFound, foundDone⟩ := isDone_iff.1 (still early earlyDone)
    obtain rfl := Option.some.inj (isFirst.symm.trans isFound)
    exact foundDone
  · intro other found isFound
    obtain ⟨old, wasFound, isChanged⟩ := exists_of_modify isFound
    have samePrevious : found.previous = old.previous := by
      rcases isChanged with ⟨-, rfl⟩ | ⟨-, rfl⟩
      · rfl
      · rfl
    rw [samePrevious]
    exact (chained.previous wasFound).imp_right fun ⟨first, allDone⟩ =>
      ⟨first, fun early earlier => still early (allDone early earlier)⟩
  · refine chained.chain.imp ?_ ?_
    · rintro ⟨last, isLast, whole⟩
      exact ⟨last, isLast, by simpa [Lane.modify] using whole⟩
    · rintro ⟨noChain, allDone⟩
      refine ⟨noChain, fun other inside => still other (allDone other ?_)⟩
      simpa [Lane.modify] using inside

theorem Chained.dropChain (chained : Chained lane)
    (dropped : dropChain lane = some next) : Chained next := by
  unfold InboundDebounce.dropChain at dropped
  obtain ⟨lastDone, isNext⟩ := Option.ite_none_right_eq_some.1 dropped
  obtain rfl := Option.some.inj isNext
  refine ⟨chained.begun, chained.previous, Or.inr ⟨rfl, ?_⟩⟩
  intro place inside
  rcases chained.chain with ⟨last, isLast, whole⟩ | ⟨-, allDone⟩
  · rw [isLast, Option.any_some] at lastDone
    obtain ⟨task, isTask, done⟩ := isDone_iff.1 lastDone
    rcases Nat.lt_succ_iff_lt_or_eq.1 (whole ▸ inside) with earlier | rfl
    · exact chained.done_before isTask (Or.inr (by rw [done]; nofun)) place earlier
    · exact lastDone
  · exact allDone place inside

/-! ### Buffers -/

theorem length_enqueueKeyTask (task : Task Item) :
    (enqueueKeyTask lane task).tasks.length = lane.tasks.length + 1 := by
  simp [enqueueKeyTask]

/-- A task that comes when no buffer is open, ready or behind another. -/
theorem Buffered.enqueueKeyTask (buffered : Buffered lane) {task : Task Item}
    (noBuffer : lane.buffer = none) (filled : task.items ≠ []) (noTimer : task.timeout = false)
    (waits : task.ready = false → task.status = .waiting ∧
      ∃ before < lane.tasks.length, task.behind = some before) :
    Buffered (enqueueKeyTask lane task) where
  buffer isBuffer := absurd (noBuffer.symm.trans isBuffer) nofun
  timeout isTask isSet := by
    rcases getElem?_enqueueKeyTask isTask with ⟨-, wasTask⟩ | ⟨-, rfl⟩
    · exact buffered.timeout wasTask isSet
    · exact absurd (noTimer.symm.trans isSet) Bool.false_ne_true
  unready isTask notReady := by
    rcases getElem?_enqueueKeyTask isTask with ⟨-, wasTask⟩ | ⟨rfl, rfl⟩
    · exact buffered.unready wasTask notReady
    · exact (waits notReady).imp_right Or.inr
  filled isTask := by
    rcases getElem?_enqueueKeyTask isTask with ⟨-, wasTask⟩ | ⟨-, rfl⟩
    · exact buffered.filled wasTask
    · exact filled

/-- A buffer that is opened when none is. -/
theorem Buffered.openBuffer (buffered : Buffered lane) {item : Item}
    (noBuffer : lane.buffer = none) :
    Buffered { InboundDebounce.enqueueKeyTask lane
        { items := [item], ready := false, timeout := true } with
      buffer := some lane.tasks.length } where
  buffer {place} isBuffer := by
    obtain rfl := Option.some.inj isBuffer
    exact ⟨(length_enqueueKeyTask _).symm, _, List.getElem?_concat_length, rfl, rfl, rfl⟩
  timeout isTask isSet := by
    rcases getElem?_enqueueKeyTask isTask with ⟨-, wasTask⟩ | ⟨rfl, -⟩
    · exact absurd (noBuffer.symm.trans (buffered.timeout wasTask isSet)) nofun
    · rfl
  unready isTask notReady := by
    rcases getElem?_enqueueKeyTask isTask with ⟨-, wasTask⟩ | ⟨-, rfl⟩
    · exact buffered.unready wasTask notReady
    · exact ⟨rfl, Or.inl rfl⟩
  filled isTask := by
    rcases getElem?_enqueueKeyTask isTask with ⟨-, wasTask⟩ | ⟨-, rfl⟩
    · exact buffered.filled wasTask
    · exact List.cons_ne_nil _ _

/-- A change of one task that leaves whether it is ready and what it waits for. -/
theorem Buffered.modify (buffered : Buffered lane) (isTask : lane.tasks[place]? = some task)
    (timeout : (change task).timeout = task.timeout) (behind : (change task).behind = task.behind)
    (ready : (change task).ready = task.ready ∨
      (change task).ready = true ∧ task.behind.isSome = true)
    (status : (change task).ready = false → (change task).status = .waiting)
    (filled : (change task).items ≠ []) : Buffered (lane.modify place change) where
  buffer {opened} isBuffer := by
    obtain ⟨whole, found, isFound, notReady, isSet, noPlace⟩ := buffered.buffer isBuffer
    refine ⟨by simpa [Lane.modify] using whole, ?_⟩
    by_cases here : place = opened
    · subst here
      obtain rfl := Option.some.inj (isTask.symm.trans isFound)
      refine ⟨change task, getElem?_modify_self change isTask, ?_, timeout.trans isSet,
        behind.trans noPlace⟩
      rcases ready with same | ⟨-, some_place⟩
      · exact same.trans notReady
      · rw [noPlace] at some_place
        exact absurd some_place Bool.false_ne_true
    · exact ⟨found, (List.getElem?_modify_ne _ _ here).trans isFound, notReady, isSet, noPlace⟩
  timeout {other found} isFound isSet := by
    obtain ⟨old, wasFound, ⟨rfl, rfl⟩ | ⟨-, rfl⟩⟩ := exists_of_modify isFound
    · obtain rfl := Option.some.inj (isTask.symm.trans wasFound)
      exact buffered.timeout wasFound (timeout ▸ isSet)
    · exact buffered.timeout wasFound isSet
  unready {other found} isFound notReady := by
    obtain ⟨old, wasFound, ⟨rfl, rfl⟩ | ⟨-, rfl⟩⟩ := exists_of_modify isFound
    · obtain rfl := Option.some.inj (isTask.symm.trans wasFound)
      rcases ready with same | ⟨isReady, -⟩
      · rw [timeout, behind]
        exact ⟨status notReady, (buffered.unready wasFound (same ▸ notReady)).2⟩
      · exact absurd (isReady.symm.trans notReady) nofun
    · exact buffered.unready wasFound notReady
  filled {other found} isFound := by
    obtain ⟨old, wasFound, ⟨rfl, rfl⟩ | ⟨-, rfl⟩⟩ := exists_of_modify isFound
    · obtain rfl := Option.some.inj (isTask.symm.trans wasFound)
      exact filled
    · exact buffered.filled wasFound

/-- Closing the open buffer. -/
theorem flushBuffer_of_open (isBuffer : lane.buffer = some place) :
    flushBuffer lane place = { lane.modify place fun task =>
      { task with timeout := false, ready := true } with buffer := none } := by
  unfold flushBuffer
  rw [if_pos isBuffer]

theorem Buffered.flushBuffer (buffered : Buffered lane)
    (isBuffer : lane.buffer = some place) : Buffered (flushBuffer lane place) := by
  rw [flushBuffer_of_open isBuffer]
  refine ⟨nofun, ?_, ?_, ?_⟩
  · intro other found isFound isSet
    obtain ⟨old, wasFound, ⟨rfl, rfl⟩ | ⟨apart, rfl⟩⟩ := exists_of_modify isFound
    · exact absurd isSet Bool.false_ne_true
    · exact absurd (Option.some.inj (isBuffer.symm.trans (buffered.timeout wasFound isSet))) apart
  · intro other found isFound notReady
    obtain ⟨old, wasFound, ⟨rfl, rfl⟩ | ⟨-, rfl⟩⟩ := exists_of_modify isFound
    · exact absurd notReady nofun
    · exact buffered.unready wasFound notReady
  · intro other found isFound
    obtain ⟨old, wasFound, ⟨-, rfl⟩ | ⟨-, rfl⟩⟩ := exists_of_modify isFound
    · have kept := buffered.filled wasFound
      exact kept
    · exact buffered.filled wasFound

theorem Chained.flushBuffer (chained : Chained lane)
    (isBuffer : lane.buffer = some place) : Chained (flushBuffer lane place) := by
  rw [flushBuffer_of_open isBuffer]
  obtain ⟨begun, previous, chain⟩ := chained.modify
    (@KeepsPlace.mk Item (fun task => { task with timeout := false, ready := true })
      (fun _ => rfl) fun _ => rfl) place
  exact ⟨begun, previous, chain⟩

/-- A place behind the buffer may as well be taken when the buffer is closed. -/
theorem flushKey_enqueueKeyTask (buffered : Buffered lane) (task : Task Item) :
    flushKey (enqueueKeyTask lane task) = enqueueKeyTask (flushKey lane) task := by
  unfold flushKey
  cases isBuffer : lane.buffer with
  | none =>
    unfold enqueueKeyTask
    dsimp only
    rw [isBuffer]
  | some place =>
    obtain ⟨whole, -⟩ := buffered.buffer isBuffer
    have still : (enqueueKeyTask lane task).buffer = some place := isBuffer
    rw [still]
    dsimp only
    rw [flushBuffer_of_open still, flushBuffer_of_open isBuffer]
    unfold enqueueKeyTask Lane.modify
    dsimp only
    rw [modify_append_left _ _ (by omega), List.length_modify]

/-! ### What each operation leaves pending -/

/-- What every lane keeps. -/
structure Kept (lane : Lane Item) : Prop where
  chained : Chained lane
  buffered : Buffered lane

theorem kept_empty : Kept ({} : Lane Item) where
  chained := ⟨fun _ isFirst => absurd isFirst nofun, fun isTask => absurd isTask nofun,
    Or.inr ⟨rfl, fun _ inside => absurd inside (Nat.not_lt_zero _)⟩⟩
  buffered := ⟨nofun, fun isTask => absurd isTask nofun, fun isTask => absurd isTask nofun,
    fun isTask => absurd isTask nofun⟩

theorem pendingOf_enqueueKeyTask (waiting : task.status = .waiting) :
    pendingOf (enqueueKeyTask lane task).tasks = pendingOf lane.tasks ++ task.items := by
  unfold enqueueKeyTask
  dsimp only
  rw [pendingOf_append]
  exact congrArg _ (pendingOf_singleton waiting)

theorem pendingOf_modify
    (isTask : lane.tasks[place]? = some task) (status : (change task).status = task.status)
    (items : (change task).items = task.items) :
    pendingOf (lane.modify place change).tasks = pendingOf lane.tasks := by
  obtain ⟨before, after, isSplit, -, changed⟩ := exists_split isTask
  have same : pendingOf [change task] = pendingOf [task] := by
    unfold pendingOf
    rw [List.filter_singleton, List.filter_singleton, status]
    cases decide (task.status = .waiting) with
    | true => exact (List.flatMap_singleton ..).trans (items.trans (List.flatMap_singleton ..).symm)
    | false => rfl
  unfold Lane.modify
  dsimp only
  rw [changed, isSplit, pendingOf_append, pendingOf_append, ← List.singleton_append,
    pendingOf_append, same, ← pendingOf_append, List.singleton_append]

theorem pendingOf_flushKey (buffered : Buffered lane) :
    pendingOf (flushKey lane).tasks = pendingOf lane.tasks := by
  unfold flushKey
  cases isBuffer : lane.buffer with
  | none => rfl
  | some place =>
    obtain ⟨-, task, isTask, -⟩ := buffered.buffer isBuffer
    dsimp only
    rw [flushBuffer_of_open isBuffer]
    exact pendingOf_modify isTask rfl rfl

theorem Kept.flushKey (kept : Kept lane) : Kept (flushKey lane) := by
  unfold InboundDebounce.flushKey
  cases isBuffer : lane.buffer with
  | none => exact kept
  | some place => exact ⟨kept.chained.flushBuffer isBuffer, kept.buffered.flushBuffer isBuffer⟩

theorem buffer_flushKey : (flushKey lane).buffer = none := by
  unfold flushKey
  cases isBuffer : lane.buffer with
  | none => exact isBuffer
  | some place =>
    dsimp only
    rw [flushBuffer_of_open isBuffer]

theorem length_flushKey : (flushKey lane).tasks.length = lane.tasks.length := by
  unfold flushKey
  cases isBuffer : lane.buffer with
  | none => rfl
  | some place =>
    dsimp only
    rw [flushBuffer_of_open isBuffer]
    exact List.length_modify ..

/-- When no chain is kept nothing is pending. -/
theorem pendingOf_of_keyChain_none (chained : Chained lane) (noChain : lane.keyChain = none) :
    pendingOf lane.tasks = [] := by
  refine pendingOf_eq_nil fun task member => ?_
  obtain ⟨place, inside, rfl⟩ := List.getElem_of_mem member
  rcases chained.chain with ⟨last, isLast, -⟩ | ⟨-, allDone⟩
  · exact absurd (noChain.symm.trans isLast) nofun
  · obtain ⟨found, isFound, done⟩ := isDone_iff.1 (allDone place inside)
    obtain rfl := Option.some.inj ((List.getElem?_eq_getElem inside).symm.trans isFound)
    rw [done]
    nofun

theorem enqueueImmediate_spec (kept : Kept lane) (item : Item) :
    Kept (enqueueImmediate lane item).1 ∧ pendingOf lane.tasks ++ [item] =
      (enqueueImmediate lane item).2.getD [] ++ pendingOf (enqueueImmediate lane item).1.tasks := by
  unfold enqueueImmediate
  cases isBuffer : lane.buffer with
  | some place =>
    dsimp only
    obtain ⟨whole, -⟩ := kept.buffered.buffer isBuffer
    rw [flushKey_enqueueKeyTask kept.buffered]
    refine ⟨⟨kept.flushKey.chained.enqueueKeyTask rfl, ?_⟩, ?_⟩
    · refine kept.flushKey.buffered.enqueueKeyTask buffer_flushKey (List.cons_ne_nil _ _) rfl
        fun _ => ⟨rfl, place, ?_, rfl⟩
      rw [length_flushKey]
      omega
    · rw [pendingOf_enqueueKeyTask rfl, pendingOf_flushKey kept.buffered]
      rfl
  | none =>
    dsimp only
    split
    · refine ⟨⟨kept.chained.enqueueKeyTask rfl, ?_⟩, ?_⟩
      · exact kept.buffered.enqueueKeyTask isBuffer (List.cons_ne_nil _ _) rfl nofun
      · rw [pendingOf_enqueueKeyTask rfl]
        rfl
    next noChain =>
      refine ⟨kept, ?_⟩
      rw [pendingOf_of_keyChain_none kept.chained (by simpa using noChain)]
      rfl

theorem enqueueDebounced_spec (kept : Kept lane) (item : Item) (canTrack : Bool) :
    Kept (enqueueDebounced lane item canTrack) ∧
      pendingOf (enqueueDebounced lane item canTrack).tasks = pendingOf lane.tasks ++ [item] := by
  unfold enqueueDebounced
  cases isBuffer : lane.buffer with
  | some place =>
    dsimp only
    obtain ⟨whole, task, isTask, notReady, isSet, -⟩ := kept.buffered.buffer isBuffer
    obtain ⟨waiting, -⟩ := kept.buffered.unready isTask notReady
    have keeps : KeepsPlace fun task : Task Item =>
        { task with items := task.items ++ [item], timeout := true } :=
      ⟨fun _ => rfl, fun _ => rfl⟩
    refine ⟨⟨kept.chained.modify keeps place, ?_⟩, ?_⟩
    · exact kept.buffered.modify isTask isSet.symm rfl (Or.inl rfl) (fun _ => waiting) (by simp)
    · obtain ⟨before, after, isSplit, isPlace, changed⟩ := exists_split isTask
      have isLast : after = [] := by
        rw [isSplit, List.length_append, List.length_cons] at whole
        exact List.length_eq_zero_iff.1 (by omega)
      subst isLast
      unfold Lane.modify
      dsimp only
      rw [changed, isSplit, pendingOf_append, pendingOf_append, pendingOf_singleton waiting,
        List.append_assoc]
      exact congrArg _ (pendingOf_singleton waiting)
  | none =>
    dsimp only
    split
    · obtain ⟨begun, previous, chain⟩ := @Chained.enqueueKeyTask _ lane kept.chained
        { items := [item], ready := false, timeout := true } rfl
      exact ⟨⟨⟨begun, previous, chain⟩, kept.buffered.openBuffer isBuffer⟩,
        pendingOf_enqueueKeyTask rfl⟩
    · refine ⟨⟨kept.chained.enqueueKeyTask rfl, ?_⟩, pendingOf_enqueueKeyTask rfl⟩
      exact kept.buffered.enqueueKeyTask isBuffer (List.cons_ne_nil _ _) rfl nofun

theorem fire_spec (kept : Kept lane) (fired : fire lane place = some next) :
    Kept next ∧ pendingOf next.tasks = pendingOf lane.tasks := by
  unfold fire at fired
  obtain ⟨isSet, isNext⟩ := Option.ite_none_right_eq_some.1 fired
  obtain rfl := Option.some.inj isNext
  obtain ⟨task, isTask, timeout⟩ := (Option.any_eq_true _ _).1 isSet
  have isOpen := kept.buffered.timeout isTask timeout
  have isFlush : flushBuffer lane place = flushKey lane := by
    unfold flushKey
    rw [isOpen]
  rw [isFlush]
  exact ⟨kept.flushKey, pendingOf_flushKey kept.buffered⟩

theorem release_spec (kept : Kept lane) (released : release lane place = some next) :
    Kept next ∧ pendingOf next.tasks = pendingOf lane.tasks := by
  unfold release at released
  split at released
  · exact absurd released nofun
  next task isTask =>
    obtain ⟨both, isNext⟩ := Option.ite_none_right_eq_some.1 released
    obtain rfl := Option.some.inj isNext
    obtain ⟨notReady, isDone⟩ := Bool.and_eq_true_iff.1 both
    have some_place : task.behind.isSome = true := by
      cases isBehind : task.behind with
      | none => rw [isBehind] at isDone; exact absurd isDone Bool.false_ne_true
      | some before => rfl
    have keeps : KeepsPlace fun task : Task Item => { task with ready := true } :=
      ⟨fun _ => rfl, fun _ => rfl⟩
    refine ⟨⟨kept.chained.modify keeps place, ?_⟩, pendingOf_modify isTask rfl rfl⟩
    have filled := kept.buffered.filled isTask
    exact kept.buffered.modify isTask rfl rfl (Or.inr ⟨rfl, some_place⟩) nofun filled

theorem finish_spec (kept : Kept lane) {outcome : FlushOutcome}
    (finished : finish lane place outcome = some next) :
    Kept next ∧ pendingOf next.tasks = pendingOf lane.tasks := by
  unfold finish at finished
  split at finished
  · exact absurd finished nofun
  next task isTask =>
    obtain ⟨running, isNext⟩ := Option.ite_none_right_eq_some.1 finished
    obtain rfl := Option.some.inj isNext
    have begun : task.status ≠ .waiting := by rw [running]; nofun
    have isReady : task.ready ≠ false := fun notReady =>
      begun (kept.buffered.unready isTask notReady).1
    refine ⟨⟨?_, ?_⟩, ?_⟩
    · exact kept.chained.proceed isTask (by rw [running]; nofun)
        (kept.chained.done_before isTask (Or.inr begun))
    · have filled := kept.buffered.filled isTask
      exact kept.buffered.modify isTask rfl rfl (Or.inl rfl)
        (fun notReady => absurd notReady isReady) filled
    · obtain ⟨before, after, isSplit, -, changed⟩ := exists_split isTask
      have isDone : ({ task with status := .done } : Task Item).status ≠ .waiting := nofun
      unfold Lane.modify
      dsimp only
      rw [changed, isSplit, pendingOf_append, pendingOf_append, pendingOf_cons_of_ne begun,
        pendingOf_cons_of_ne isDone]

theorem start_spec (kept : Kept lane) {call : Option (List Item)}
    (started : start lane place = some (next, call)) :
    Kept next ∧ pendingOf lane.tasks = call.getD [] ++ pendingOf next.tasks := by
  unfold start at started
  split at started
  · exact absurd started nofun
  next task isTask =>
    obtain ⟨turn, isNext⟩ := Option.ite_none_right_eq_some.1 started
    rw [Bool.and_eq_true, Bool.and_eq_true, decide_eq_true_eq] at turn
    obtain ⟨⟨waiting, isReady⟩, previous⟩ := turn
    have filled := kept.buffered.filled isTask
    rw [if_neg (by simpa using filled)] at isNext
    obtain ⟨rfl, rfl⟩ := Prod.mk.inj (Option.some.inj isNext)
    have done := kept.chained.done_before isTask (Or.inl previous)
    refine ⟨⟨?_, ?_⟩, ?_⟩
    · exact kept.chained.proceed isTask (by rw [waiting]; nofun) done
    · exact kept.buffered.modify isTask rfl rfl (Or.inl rfl)
        (fun notReady => absurd (isReady.symm.trans notReady) nofun) filled
    · obtain ⟨before, after, isSplit, isPlace, changed⟩ := exists_split isTask
      have before_begun : pendingOf before = [] := by
        refine pendingOf_eq_nil fun earlier member => ?_
        obtain ⟨index, inside, rfl⟩ := List.getElem_of_mem member
        obtain ⟨found, isFound, isDone⟩ := isDone_iff.1 (done index (isPlace ▸ inside))
        rw [isSplit, List.getElem?_append_left inside, List.getElem?_eq_getElem inside] at isFound
        rw [Option.some.inj isFound, isDone]
        nofun
      have isRunning : ({ task with status := .running } : Task Item).status ≠ .waiting := nofun
      unfold Lane.modify
      dsimp only
      rw [changed, isSplit, pendingOf_append, pendingOf_append, before_begun,
        pendingOf_cons_of_ne isRunning, pendingOf_cons waiting]
      rfl

theorem dropChain_spec (kept : Kept lane) (dropped : dropChain lane = some next) :
    Kept next ∧ pendingOf next.tasks = pendingOf lane.tasks := by
  have chained := kept.chained.dropChain dropped
  unfold dropChain at dropped
  obtain ⟨-, isNext⟩ := Option.ite_none_right_eq_some.1 dropped
  obtain rfl := Option.some.inj isNext
  obtain ⟨buffer, timeout, unready, filled⟩ := kept.buffered
  exact ⟨⟨chained, ⟨buffer, timeout, unready, filled⟩⟩, rfl⟩

end Chains

/-! ### Runs of the debouncer -/

section Runs

variable (params : InboundDebounceCreateParams Item)

/-- What has arrived for a key, in order. -/
def arrivedFor (state : Debouncer Item) (key : Option String) : List Item :=
  state.arrived.filter (keyOf params · = key)

/-- What has been handed on for a key, in the order of the calls. -/
def handedOn (state : Debouncer Item) (key : Option String) : List Item :=
  (state.calls.filter (·.1 = key)).flatMap Prod.snd

/-- What is pending for a key. Items without a key are handed on at once. -/
def pendingFor (state : Debouncer Item) : Option String → List Item
  | none => []
  | some key => pendingOf (state.lanes key).tasks

/-- What every state reached keeps. -/
structure Sound (state : Debouncer Item) : Prop where
  kept : ∀ key, Kept (state.lanes key)
  accounted : ∀ key, arrivedFor params state key = handedOn state key ++ pendingFor state key

variable {params} {state : Debouncer Item}

theorem handedOn_call (state : Debouncer Item) (key other : Option String)
    (call : Option (List Item)) :
    handedOn (state.call key call) other =
      handedOn state other ++ if key = other then call.getD [] else [] := by
  unfold handedOn Debouncer.call
  dsimp only
  rw [List.filter_append, List.flatMap_append]
  cases call with
  | none => split <;> rfl
  | some items =>
    rw [Option.map_some, Option.toList_some, List.filter_singleton]
    by_cases same : key = other
    · rw [if_pos same, decide_eq_true same]
      exact congrArg _ (List.flatMap_singleton ..)
    · rw [if_neg same, decide_eq_false same]
      rfl

def Debouncer.arrive (state : Debouncer Item) (items : List Item) : Debouncer Item :=
  { state with arrived := state.arrived ++ items }

theorem arrivedFor_arrive (state : Debouncer Item) {key : Option String} (other : Option String)
    {items : List Item} (isKey : ∀ item ∈ items, keyOf params item = key) :
    arrivedFor params (state.arrive items) other =
      arrivedFor params state other ++ if key = other then items else [] := by
  unfold arrivedFor Debouncer.arrive
  dsimp only
  rw [List.filter_append]
  refine congrArg _ ?_
  by_cases same : key = other
  · rw [if_pos same]
    exact List.filter_eq_self.2 fun item member => decide_eq_true ((isKey item member).trans same)
  · rw [if_neg same]
    refine List.filter_eq_nil_iff.2 fun item member isOther => same ?_
    exact (isKey item member).symm.trans (of_decide_eq_true isOther)

/-- A step on one lane keeps a state sound when what was pending, with what arrives, is what is
handed on with what is still pending. -/
theorem Sound.setLane {state : Debouncer Item} (sound : Sound params state) {key : String}
    {lane : Lane Item} {items : List Item} {call : Option (List Item)}
    (isKey : ∀ item ∈ items, keyOf params item = some key) (kept : Kept lane)
    (moved : pendingOf (state.lanes key).tasks ++ items =
      call.getD [] ++ pendingOf lane.tasks) :
    Sound params (((state.arrive items).setLane key lane).call (some key) call) where
  kept other := by
    change Kept (Function.update state.lanes key lane other)
    by_cases here : other = key
    · subst here
      rw [Function.update_self]
      exact kept
    · rw [Function.update_of_ne here]
      exact sound.kept other
  accounted other := by
    rw [handedOn_call]
    change arrivedFor params (state.arrive items) other = handedOn state other ++ _ ++ _
    rw [arrivedFor_arrive state other isKey, sound.accounted other, List.append_assoc,
      List.append_assoc]
    refine congrArg _ ?_
    cases other with
    | none => rfl
    | some other =>
      change pendingOf (state.lanes other).tasks ++ _ =
        _ ++ pendingOf (Function.update state.lanes key lane other).tasks
      by_cases here : other = key
      · subst here
        rw [if_pos rfl, if_pos rfl, Function.update_self]
        exact moved
      · have apart : some key ≠ some other := fun same => here (Option.some.inj same).symm
        rw [if_neg apart, if_neg apart, Function.update_of_ne here]
        exact List.append_nil _

theorem arrive_nil (state : Debouncer Item) : state.arrive [] = state := by
  unfold Debouncer.arrive
  rw [List.append_nil]

theorem call_none (state : Debouncer Item) (key : Option String) : state.call key none = state := by
  unfold Debouncer.call
  simp

theorem Sound.enqueue (sound : Sound params state) (item : Item) :
    Sound params (enqueue params state item) := by
  unfold InboundDebounce.enqueue
  dsimp only
  cases isKey : keyOf params item with
  | none =>
    change Sound params ((state.arrive [item]).call none (some [item]))
    refine ⟨sound.kept, fun other => ?_⟩
    have arrives : ∀ arrived ∈ [item], keyOf params arrived = none := by simpa using isKey
    rw [handedOn_call]
    change arrivedFor params (state.arrive [item]) other =
      handedOn state other ++ _ ++ pendingFor state other
    rw [arrivedFor_arrive state other arrives, sound.accounted other]
    cases other with
    | none => simp [pendingFor]
    | some key => simp
  | some key =>
    have arrives : ∀ arrived ∈ [item], keyOf params arrived = some key := by simpa using isKey
    dsimp only
    split
    · obtain ⟨kept, moved⟩ := enqueueDebounced_spec (sound.kept key) item
        (canTrackKey params state key)
      have onLane := @Sound.setLane _ _ state sound key _ [item] none arrives kept moved.symm
      rwa [call_none] at onLane
    · obtain ⟨kept, moved⟩ := enqueueImmediate_spec (sound.kept key) item
      exact sound.setLane arrives kept moved

theorem Sound.step {state next : Debouncer Item} (sound : Sound params state)
    {action : Action Item} (taken : step params state action = some next) :
    Sound params next := by
  have quiet : ∀ {key : String} {lane : Lane Item},
      (Kept lane ∧ pendingOf lane.tasks = pendingOf (state.lanes key).tasks) →
      Sound params (state.setLane key lane) := by
    rintro key lane ⟨kept, same⟩
    have onLane := @Sound.setLane _ _ state sound key lane [] none nofun kept
      ((List.append_nil _).trans same.symm)
    rwa [call_none, arrive_nil] at onLane
  cases action with
  | enqueue item => exact Option.some.inj taken ▸ sound.enqueue item
  | timer key place =>
    obtain ⟨lane, fired, rfl⟩ := Option.map_eq_some_iff.1 taken
    exact quiet (fire_spec (sound.kept key) fired)
  | flushKey key =>
    obtain rfl := Option.some.inj taken
    exact quiet ⟨(sound.kept key).flushKey, pendingOf_flushKey (sound.kept key).buffered⟩
  | release key place =>
    obtain ⟨lane, released, rfl⟩ := Option.map_eq_some_iff.1 taken
    exact quiet (release_spec (sound.kept key) released)
  | start key place =>
    obtain ⟨⟨lane, call⟩, started, rfl⟩ := Option.map_eq_some_iff.1 taken
    obtain ⟨kept, moved⟩ := start_spec (sound.kept key) started
    have onLane := @Sound.setLane _ _ state sound key lane [] call nofun kept
      ((List.append_nil _).trans moved)
    rwa [arrive_nil] at onLane
  | finish key place outcome =>
    obtain ⟨lane, finished, rfl⟩ := Option.map_eq_some_iff.1 taken
    exact quiet (finish_spec (sound.kept key) finished)
  | dropChain key =>
    obtain ⟨lane, dropped, rfl⟩ := Option.map_eq_some_iff.1 taken
    exact quiet (dropChain_spec (sound.kept key) dropped)

theorem sound_empty : Sound params {} where
  kept _ := kept_empty
  accounted key := by cases key <;> rfl

theorem sound_of_reachable (reached : Reachable (step params) {} state) : Sound params state := by
  obtain ⟨actions, run⟩ := reached
  exact run.invariant (fun _ _ _ sound _ taken => sound.step taken) sound_empty

/-! ### What an item waits for, and how long -/

/-- The first task that is not done can be taken further. -/
theorem advance {lane : Lane Item} (kept : Kept lane) {place : ℕ} {task : Task Item}
    (isTask : lane.tasks[place]? = some task) (waiting : task.status = .waiting)
    (done : ∀ early < place, isDone lane early = true) :
    task.timeout = true ∨ (∃ next, start lane place = some next) ∨
      ∃ next, release lane place = some next := by
  cases isReady : task.ready with
  | true =>
    refine Or.inr (Or.inl ?_)
    have previous : task.previous.all (isDone lane) = true := by
      rcases kept.chained.previous isTask with ⟨before, isBefore, rfl⟩ | ⟨none, -⟩
      · rw [isBefore, Option.all_some]
        exact done before (Nat.lt_succ_self before)
      · rw [none]
        rfl
    unfold start
    rw [isTask]
    dsimp only
    have filled := kept.buffered.filled isTask
    rw [waiting, isReady, previous]
    exact ⟨_, (if_pos rfl).trans (if_neg (by simpa using filled))⟩
  | false =>
    refine (kept.buffered.unready isTask isReady).2.imp_right fun ⟨before, earlier, isBehind⟩ => ?_
    refine Or.inr ?_
    unfold release
    rw [isTask]
    dsimp only
    rw [isReady, isBehind, Option.any_some, done before earlier]
    exact ⟨_, rfl⟩

theorem exists_undone {lane : Lane Item} {place : ℕ}
    (undone : ¬∀ early < place, isDone lane early = true) :
    ∃ early < place, isDone lane early = false := by
  by_contra none
  refine undone fun early earlier => ?_
  by_contra notDone
  exact none ⟨early, earlier, Bool.eq_false_of_not_eq_true notDone⟩

/-- The steps that a key takes when nothing more arrives for it: timers that fire, releases, tasks
that begin and calls that end. -/
inductive Internal (key : String) : Action Item → Prop
  | timer (place : ℕ) : Internal key (.timer key place)
  | release (place : ℕ) : Internal key (.release key place)
  | start (place : ℕ) : Internal key (.start key place)
  | finish (place : ℕ) (outcome : FlushOutcome) : Internal key (.finish key place outcome)

/-- How many such steps a task can be part of. -/
def Task.weight (task : Task Item) : ℕ :=
  (if task.ready then 0 else 1) + match task.status with
    | .waiting => 2
    | .running => 1
    | .done => 0

def Lane.weight (lane : Lane Item) : ℕ := (lane.tasks.map Task.weight).sum

theorem weight_modify {lane : Lane Item} {place : ℕ} {task : Task Item}
    {change : Task Item → Task Item} (isTask : lane.tasks[place]? = some task)
    (less : (change task).weight < task.weight) :
    (lane.modify place change).weight < lane.weight := by
  obtain ⟨before, after, isSplit, -, changed⟩ := exists_split isTask
  unfold Lane.weight Lane.modify
  dsimp only
  rw [changed, isSplit, List.map_append, List.map_append, List.map_cons, List.map_cons,
    List.sum_append, List.sum_append, List.sum_cons, List.sum_cons]
  omega

/-- An internal step takes one task of the key further. -/
theorem weight_step {state next : Debouncer Item} (sound : Sound params state) {key : String}
    {action : Action Item} (internal : Internal key action)
    (taken : step params state action = some next) :
    (next.lanes key).weight < (state.lanes key).weight := by
  have kept := sound.kept key
  have lighter : ∀ {lane : Lane Item}, lane.weight < (state.lanes key).weight →
      ((state.setLane key lane).lanes key).weight < (state.lanes key).weight := by
    intro lane less
    change (Function.update state.lanes key lane key).weight < _
    rwa [Function.update_self]
  cases internal with
  | timer place =>
    obtain ⟨lane, fired, rfl⟩ := Option.map_eq_some_iff.1 taken
    refine lighter ?_
    unfold fire at fired
    obtain ⟨isSet, isNext⟩ := Option.ite_none_right_eq_some.1 fired
    obtain rfl := Option.some.inj isNext
    obtain ⟨task, isTask, timeout⟩ := (Option.any_eq_true _ _).1 isSet
    have isOpen := kept.buffered.timeout isTask timeout
    obtain ⟨-, found, isFound, notReady, -⟩ := kept.buffered.buffer isOpen
    rw [flushBuffer_of_open isOpen]
    refine @weight_modify _ (state.lanes key) place found _ isFound ?_
    unfold Task.weight
    dsimp only
    rw [notReady]
    simp
  | release place =>
    obtain ⟨lane, released, rfl⟩ := Option.map_eq_some_iff.1 taken
    refine lighter ?_
    unfold release at released
    split at released
    · exact absurd released nofun
    next task isTask =>
      obtain ⟨both, isNext⟩ := Option.ite_none_right_eq_some.1 released
      obtain rfl := Option.some.inj isNext
      refine weight_modify isTask ?_
      have notReady : task.ready = false := by simpa using (Bool.and_eq_true_iff.1 both).1
      unfold Task.weight
      dsimp only
      rw [notReady]
      simp
  | start place =>
    obtain ⟨⟨lane, call⟩, started, rfl⟩ := Option.map_eq_some_iff.1 taken
    refine lighter ?_
    unfold start at started
    split at started
    · exact absurd started nofun
    next task isTask =>
      obtain ⟨turn, isNext⟩ := Option.ite_none_right_eq_some.1 started
      rw [Bool.and_eq_true, Bool.and_eq_true, decide_eq_true_eq] at turn
      obtain ⟨⟨waiting, isReady⟩, -⟩ := turn
      have filled := kept.buffered.filled isTask
      rw [if_neg (by simpa using filled)] at isNext
      obtain ⟨rfl, -⟩ := Prod.mk.inj (Option.some.inj isNext)
      refine weight_modify isTask ?_
      unfold Task.weight
      dsimp only
      rw [isReady, waiting]
      decide
  | finish place outcome =>
    obtain ⟨lane, finished, rfl⟩ := Option.map_eq_some_iff.1 taken
    refine lighter ?_
    unfold finish at finished
    split at finished
    · exact absurd finished nofun
    next task isTask =>
      obtain ⟨running, isNext⟩ := Option.ite_none_right_eq_some.1 finished
      obtain rfl := Option.some.inj isNext
      refine weight_modify isTask ?_
      unfold Task.weight
      dsimp only
      rw [running]
      simp

theorem internal_run {state final : Debouncer Item} {key : String} {actions : List (Action Item)}
    (run : Steps (step params) (fun _ action => Internal key action) state actions final)
    (sound : Sound params state) : Sound params final ∧
      actions.length + (final.lanes key).weight ≤ (state.lanes key).weight := by
  induction run with
  | nil state => exact ⟨sound, (Nat.zero_add _).le⟩
  | cons internal taken tail inductionHypothesis =>
    have lighter := weight_step sound internal taken
    obtain ⟨finalSound, short⟩ := inductionHypothesis (sound.step taken)
    refine ⟨finalSound, ?_⟩
    rw [List.length_cons]
    omega

/-- Where no internal step is left, nothing is pending. -/
theorem pendingFor_of_settled (sound : Sound params state) {key : String}
    (settled : ∀ action, Internal key action → step params state action = none) :
    pendingFor state (some key) = [] := by
  have kept := sound.kept key
  have allDone : ∀ place < (state.lanes key).tasks.length,
      isDone (state.lanes key) place = true := by
    intro place
    induction place using Nat.strong_induction_on with
    | _ place inductionHypothesis =>
      intro inside
      have done : ∀ early < place, isDone (state.lanes key) early = true := fun early earlier =>
        inductionHypothesis early earlier (earlier.trans inside)
      have isTask := List.getElem?_eq_getElem inside
      refine isDone_iff.2 ⟨_, isTask, ?_⟩
      generalize (state.lanes key).tasks[place] = task at isTask
      cases status : task.status with
      | done => rfl
      | running =>
        have ends := settled _ (.finish place .fulfilled)
        have finished : finish (state.lanes key) place .fulfilled = none :=
          Option.map_eq_none_iff.1 ends
        unfold finish at finished
        rw [isTask] at finished
        dsimp only at finished
        rw [if_pos status] at finished
        exact absurd finished nofun
      | waiting =>
        rcases advance kept isTask status done with isSet | ⟨next, started⟩ | ⟨next, released⟩
        · have silent : fire (state.lanes key) place = none :=
            Option.map_eq_none_iff.1 (settled _ (.timer place))
          unfold fire at silent
          rw [isTask, Option.any_some, if_pos isSet] at silent
          exact absurd silent nofun
        · have still : start (state.lanes key) place = none :=
            Option.map_eq_none_iff.1 (settled _ (.start place))
          exact absurd (still.symm.trans started) nofun
        · have still : release (state.lanes key) place = none :=
            Option.map_eq_none_iff.1 (settled _ (.release place))
          exact absurd (still.symm.trans released) nofun
  refine pendingOf_eq_nil fun task member => ?_
  obtain ⟨place, inside, rfl⟩ := List.getElem_of_mem member
  obtain ⟨found, isFound, done⟩ := isDone_iff.1 (allDone place inside)
  obtain rfl := Option.some.inj ((List.getElem?_eq_getElem inside).symm.trans isFound)
  rw [done]
  nofun

variable (params)

end Runs

/-- Numbers below ten are debounced, all of one chat. -/
def chatParams : InboundDebounceCreateParams ℕ where
  debounceMs := 500
  buildKey _ := some "chat"
  shouldDebounce := some (· < 10)

end OpenClaw.InboundDebounce
