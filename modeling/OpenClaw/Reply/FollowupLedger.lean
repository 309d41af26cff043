/-
This file proves when the follow-up queue loses nothing.

What the code takes from a queue it takes by position: a resolved run removes as many
items from the front as it was run for, whichever they are by then, and a run of the
summary alone removes one. What it takes from the map it takes by key: a drain that ends
on an empty queue removes the key, whichever queue that names by then. So the queue can
lose an item when the cap drops from the front while a run is awaited, when the summary
is run outside the collect mode, and when a drain of a cleared queue ends after a new
queue was created. `orderly` admits the steps that do none of these.

Under it each drain that awaits a run still finds the items of that run at the front of
its queue, or its queue has been cleared; each queue the map does not hold is empty. From
this the ledger accounts for every accepted item, in every state.
-/

import OpenClaw.Reply.FollowupQueue

namespace OpenClaw.Reply

open Text

variable {Context : Type}

/-! ### The ledger -/

namespace World

variable (world : World Context)

/-- An item that has left the queue: its prompt or its count was passed to a run, the cap dropped it
under the policy "old", or a clear removed it. -/
def Settled (serial : Nat) : Prop :=
  (∃ call ∈ world.runs, serial ∈ call.carried.map Item.serial ∨ serial ∈ call.summarized) ∨
    serial ∈ world.droppedOld ∨ serial ∈ world.cleared

/-- An item a queue answers for: it is queued, or counted for the next summary. -/
def Held (queue : FollowupQueueState Context) (serial : Nat) : Prop :=
  serial ∈ queue.items.map Item.serial ∨ serial ∈ queue.counted

/-- What may have become of an accepted item. -/
def Accounted (serial : Nat) : Prop :=
  world.Settled serial ∨ ∃ index, world.current = some index ∧ Held (world.queues index) serial

end World

/-! ### Frames -/

namespace World

variable (world : World Context)

@[simp] theorem queues_scheduleFollowupDrain :
    world.scheduleFollowupDrain.queues = world.queues := by
  rw [scheduleFollowupDrain]
  split
  · rfl
  split
  · rfl
  split <;> rfl

@[simp] theorem runs_scheduleFollowupDrain : world.scheduleFollowupDrain.runs = world.runs := by
  rw [scheduleFollowupDrain]
  split
  · rfl
  split
  · rfl
  split <;> rfl

@[simp] theorem queues_finishDrain (index : Nat) :
    (world.finishDrain index).queues = world.queues := by
  rw [finishDrain]
  split
  · exact queues_scheduleFollowupDrain _
  · rfl

@[simp] theorem runs_finishDrain (index : Nat) : (world.finishDrain index).runs = world.runs := by
  rw [finishDrain]
  split
  · exact runs_scheduleFollowupDrain _
  · rfl

@[simp] theorem queues_continueDrain (index : Nat) (force : Bool) :
    (world.continueDrain index force).queues = world.queues := by
  rw [continueDrain]
  split
  · rfl
  · exact queues_finishDrain world index

@[simp] theorem runs_continueDrain (index : Nat) (force : Bool) :
    (world.continueDrain index force).runs = world.runs := by
  rw [continueDrain]
  split
  · rfl
  · exact runs_finishDrain world index

end World

/-! ### The prompts that are passed -/

/-- A run call holds the prompt of each item it carries, but for white space at its end. -/
def RunCall.HoldsPrompts (call : RunCall Context) : Prop :=
  ∀ item ∈ call.carried,
    item.run.prompt.toList.rdropWhile isWhiteSpace <:+: call.run.prompt.toList

theorem rdropWhile_infix_append (blank : Char → Bool) (front back : List Char) :
    back.rdropWhile blank <:+: (front ++ back).rdropWhile blank := by
  rw [List.rdropWhile, List.rdropWhile, List.reverse_append, List.dropWhile_append,
    List.reverse_infix]
  split
  · rename_i blankBack
    rw [List.isEmpty_iff.1 blankBack]
    exact List.nil_infix
  · exact (List.prefix_append _ _).isInfix

theorem prompt_infix_renderItem (item : FollowupRun Context) (index : Nat) :
    item.prompt.toList.rdropWhile isWhiteSpace <:+: (renderItem item index).toList := by
  rw [renderItem, trim, trimWith, String.toList_ofList]
  have begins : ("---\nQueued #" ++ toString (index + 1) ++ "\n" ++ item.prompt).toList.dropWhile
      isWhiteSpace = ("---\nQueued #" ++ toString (index + 1) ++ "\n").toList ++
        item.prompt.toList := by
    rw [String.toList_append, String.toList_append, String.toList_append]
    rfl
  rw [begins]
  exact rdropWhile_infix_append _ _ _

theorem infix_intercalate (separator : String) {part : String} {parts : List String}
    (member : part ∈ parts) : part.toList <:+: (separator.intercalate parts).toList := by
  induction parts with
  | nil => exact absurd member List.not_mem_nil
  | cons first rest inductionHypothesis =>
    rcases eq_or_ne rest [] with rfl | more
    · rw [List.mem_singleton.1 member, String.intercalate_singleton]
    · rw [String.intercalate_cons_of_ne_nil more, String.toList_append, String.toList_append]
      rcases List.mem_cons.1 member with rfl | later
      · rw [List.append_assoc]
        exact (List.prefix_append _ _).isInfix
      · exact (inductionHypothesis later).trans (List.suffix_append _ _).isInfix

theorem holdsPrompts_itemCall (item : Item Context) : (World.itemCall item).HoldsPrompts := by
  intro carried member
  rw [List.mem_singleton.1 member]
  exact (List.rdropWhile_prefix _ _).isInfix

theorem holdsPrompts_collectCall (queue : FollowupQueueState Context) (run : Context) :
    (World.collectCall queue run).HoldsPrompts := by
  intro item member
  obtain ⟨index, bound, rfl⟩ := List.mem_iff_getElem.1 member
  refine (prompt_infix_renderItem _ index).trans (infix_intercalate _ (List.mem_append_right _ ?_))
  refine List.mem_map.2 ⟨(_, index), ?_, rfl⟩
  rw [List.mem_zipIdx_iff_getElem?, List.getElem?_map]
  exact congrArg (Option.map Item.run) (List.getElem?_eq_getElem bound)

/-- What a step passes, if anything, holds its prompts. -/
def Passes (world next : World Context) : Prop :=
  next.runs = world.runs ∨ ∃ call, call.HoldsPrompts ∧ next.runs = world.runs ++ [call]

theorem passes_runNextItem (world : World Context) (index : Nat) (force : Bool) (awaited : Awaited)
    {call : Item Context → RunCall Context} (holds : ∀ item, (call item).HoldsPrompts) :
    Passes world (world.runNextItem index force awaited call) := by
  rw [World.runNextItem]
  split
  · exact .inl rfl
  · exact .inr ⟨_, holds _, rfl⟩

theorem passes_drainBody (isRoutableChannel : Option String → Bool) (world : World Context)
    (index : Nat) (force : Bool) :
    Passes world (world.drainBody isRoutableChannel index force) := by
  rw [World.drainBody]
  dsimp only
  split
  · split
    · exact passes_runNextItem _ _ _ _ holdsPrompts_itemCall
    · exact .inl rfl
  split
  · split
    · exact .inl (World.runs_finishDrain world index)
    · exact passes_runNextItem _ _ _ _ fun _ => List.forall_mem_nil _
  · exact passes_runNextItem _ _ _ _ holdsPrompts_itemCall

theorem passes_collectItems (world : World Context) (index : Nat) (force : Bool) :
    Passes world (world.collectItems index force) := by
  rw [World.collectItems]
  split
  · exact .inl (World.runs_finishDrain world index)
  · exact .inr ⟨_, holdsPrompts_collectCall _ _, rfl⟩

theorem runs_enqueueFollowupRun (world : World Context) (run : FollowupRun Context)
    (settings : QueueSettings) (dedupeMode : QueueDedupeMode) (runFollowup restartIfIdle : Bool) :
    (world.enqueueFollowupRun run settings dedupeMode runFollowup restartIfIdle).2.runs =
      world.runs := by
  have got : (world.getFollowupQueue settings).2.runs = world.runs := by
    rw [World.getFollowupQueue]
    split <;> rfl
  rw [World.enqueueFollowupRun]
  dsimp only
  split
  · exact got
  rw [World.enqueueInto]
  dsimp only
  split
  · exact got
  split
  · exact (World.runs_scheduleFollowupDrain _).trans got
  · exact got

theorem passes_step (isRoutableChannel : Option String → Bool) {world next : World Context}
    {action : Action Context} (taken : step isRoutableChannel world action = some next) :
    Passes world next := by
  cases action with
  | enqueue run settings dedupeMode runFollowup restartIfIdle =>
    obtain rfl := Option.some.inj taken
    exact .inl (runs_enqueueFollowupRun world run settings dedupeMode runFollowup restartIfIdle)
  | clear =>
    obtain rfl := Option.some.inj taken
    rw [World.clearFollowupQueue]
    split <;> exact .inl rfl
  | forgetCallback =>
    obtain rfl := Option.some.inj taken
    exact .inl rfl
  | schedule =>
    obtain rfl := Option.some.inj taken
    exact .inl (World.runs_scheduleFollowupDrain world)
  | expire key =>
    obtain rfl := Option.some.inj taken
    exact .inl rfl
  | wake index =>
    rw [step, World.wake] at taken
    split at taken
    · exact absurd taken nofun
    split at taken
    · obtain rfl := Option.some.inj taken
      exact passes_drainBody isRoutableChannel world index _
    · obtain rfl := Option.some.inj taken
      exact passes_collectItems world index _
    · obtain rfl := Option.some.inj taken
      exact .inl (World.runs_finishDrain world index)
    · obtain rfl := Option.some.inj taken
      rw [Passes, World.runs_continueDrain]
      split <;> exact .inl rfl
    · obtain rfl := Option.some.inj taken
      exact .inl (World.runs_finishDrain world index)
    · exact absurd taken nofun
  | resolve index =>
    rw [step, World.resolveRun] at taken
    split at taken
    · exact absurd taken nofun
    split at taken
    · dsimp only at taken
      split at taken
      · obtain rfl := Option.some.inj taken
        exact .inl rfl
      · obtain rfl := Option.some.inj taken
        exact .inl rfl
      · obtain rfl := Option.some.inj taken
        exact .inl (World.runs_continueDrain _ index _)
    · exact absurd taken nofun
  | reject index =>
    rw [step, World.rejectRun] at taken
    split at taken
    · exact absurd taken nofun
    split at taken
    · obtain rfl := Option.some.inj taken
      exact .inl rfl
    · exact absurd taken nofun

/-! ### The condition -/

/-- Whether a drain awaits a run. -/
def Drain.awaitsRun (drain : Drain Context) : Bool :=
  match drain.phase with
  | .running .. => true
  | _ => false

namespace World

variable (world : World Context)

/-- Whether an enqueue makes the cap drop items. -/
def dropsItems (run : FollowupRun Context) (settings : QueueSettings)
    (dedupeMode : QueueDedupeMode) : Bool :=
  let (index, world) := world.getFollowupQueue settings
  !world.refusesDuplicate index run dedupeMode &&
    (world.queues index).dropPolicy ≠ .new && !(droppedByCap (world.queues index)).isEmpty

/-- Whether a drain that has waited for the debounce runs the summary in the place of an item. -/
def runsSummaryAlone (index : Nat) : Bool :=
  let queue := world.queues index
  queue.mode ≠ .collect && (previewQueueSummaryPrompt queue).isSome && queue.lastRun.isSome &&
    !queue.items.isEmpty

/-- Whether the map holds another queue than that of a drain. -/
def holdsAnother (index : Nat) : Bool :=
  match world.current with
  | some other => other ≠ index
  | none => false

end World

/-- The steps that keep to the positions and keys they were taken for: the cap drops nothing while a
run is awaited, no summary is run in the place of an item, and no drain of a cleared queue comes to
its end while a newer queue is there. -/
def orderly (world : World Context) : Action Context → Bool
  | .enqueue run settings dedupeMode _ _ =>
    !(world.dropsItems run settings dedupeMode &&
      (world.current.bind world.drains).any Drain.awaitsRun)
  | .wake index =>
    match (world.drains index).map Drain.phase with
    | some .debouncing => !world.runsSummaryAlone index
    | _ => !world.holdsAnother index
  | .resolve index =>
    match (world.drains index).map Drain.phase with
    | some (.running (.collect ..) _) => !world.holdsAnother index
    | _ => true
  | _ => true

/-! ### The invariant -/

/-- A drain that awaits a run finds the items of that run where it left them, if its queue is the
one in the map. -/
def Drain.Fits (isCurrent : Prop) (queue : FollowupQueueState Context)
    (runs : List (RunCall Context)) (drain : Drain Context) : Prop :=
  match drain.phase with
  | .running awaited call => call ∈ runs ∧
    match awaited with
    | .item => isCurrent → ∃ item rest, queue.items = item :: rest ∧ call.carried = [item]
    | .summary => False
    | .collect count summary => isCurrent → count ≤ queue.items.length ∧
      (∀ item ∈ queue.items.take count, item ∈ call.carried) ∧
      (summary = true → ∀ serial ∈ queue.counted, serial ∈ call.summarized)
  | .returned clearsSummary => clearsSummary = false
  | _ => True

theorem Drain.Fits.transfer {wasCurrent isCurrent : Prop} {queue next : FollowupQueueState Context}
    {runs more : List (RunCall Context)} {drain : Drain Context}
    (fits : drain.Fits wasCurrent queue runs) (passed : ∀ call ∈ runs, call ∈ more)
    (keeps : isCurrent → wasCurrent ∧ next = queue) : drain.Fits isCurrent next more := by
  rw [Drain.Fits] at fits ⊢
  cases phase : drain.phase with
  | running awaited call =>
    rw [phase] at fits
    refine ⟨passed call fits.1, ?_⟩
    cases awaited with
    | summary => exact fits.2
    | item =>
      intro held
      obtain ⟨before, rfl⟩ := keeps held
      exact fits.2 before
    | collect count summary =>
      intro held
      obtain ⟨before, rfl⟩ := keeps held
      exact fits.2 before
  | _ =>
    rw [phase] at fits
    exact fits

/-- What is enqueued goes to the end, where no drain has taken its items from. -/
theorem Drain.Fits.append {isCurrent : Prop} {queue next : FollowupQueueState Context}
    {runs : List (RunCall Context)} {drain : Drain Context}
    (fits : drain.Fits isCurrent queue runs)
    (grows : drain.awaitsRun = true → (∃ more, next.items = queue.items ++ more) ∧
      next.counted = queue.counted) : drain.Fits isCurrent next runs := by
  rw [Drain.Fits] at fits ⊢
  rw [Drain.awaitsRun] at grows
  cases phase : drain.phase with
  | running awaited call =>
    rw [phase] at fits grows
    obtain ⟨⟨more, items⟩, counted⟩ := grows rfl
    refine ⟨fits.1, ?_⟩
    cases awaited with
    | summary => exact fits.2
    | item =>
      intro held
      obtain ⟨item, rest, queued, carried⟩ := fits.2 held
      exact ⟨item, rest ++ more, by rw [items, queued, List.cons_append], carried⟩
    | collect count summary =>
      intro held
      obtain ⟨within, carried, reported⟩ := fits.2 held
      rw [items, counted, List.take_append_of_le_length within, List.length_append]
      exact ⟨Nat.le_add_right_of_le within, carried, reported⟩
  | _ =>
    rw [phase] at fits
    exact fits

structure Sound (world : World Context) : Prop where
  counted : ∀ index, (world.queues index).counted.length = (world.queues index).droppedCount
  others : ∀ index, world.current ≠ some index →
    (world.queues index).items = [] ∧ (world.queues index).counted = []
  known : ∀ index, world.current = some index → index < world.created
  drained : ∀ index drain, world.drains index = some drain → index < world.created ∧
    drain.Fits (world.current = some index) (world.queues index) world.runs
  ledger : ∀ serial < world.accepted, world.Accounted serial

theorem sound_start : Sound (World.start : World Context) where
  counted _ := rfl
  others _ _ := ⟨rfl, rfl⟩
  known _ held := absurd held nofun
  drained _ _ found := absurd found nofun
  ledger serial bound := absurd bound (Nat.not_lt_zero serial)

namespace Sound

variable {world : World Context} (sound : Sound world)

include sound

/-- Without work a queue holds nothing. -/
theorem idle {index : Nat} (empty : world.hasWork index = false) :
    (world.queues index).items = [] ∧ (world.queues index).counted = [] := by
  rw [World.hasWork, Bool.or_eq_false_iff] at empty
  obtain ⟨noItems, noCount⟩ := empty
  refine ⟨by simpa using noItems, List.length_eq_zero_iff.1 ?_⟩
  rw [sound.counted]
  simpa using noCount

/-- A queue that is not in the map gives a drain no work. -/
theorem current_of_hasWork {index : Nat} (work : world.hasWork index = true) :
    world.current = some index := by
  by_contra notCurrent
  obtain ⟨noItems, noCount⟩ := sound.others index notCurrent
  have zero : (world.queues index).droppedCount = 0 := by
    rw [← sound.counted, noCount, List.length_nil]
  rw [World.hasWork, noItems, zero] at work
  exact absurd work Bool.false_ne_true

/-- A queue changes, with the drain at work on it. -/
theorem change {index : Nat} (isKnown : index < world.created) {queue : FollowupQueueState Context}
    {drain : Option (Drain Context)} (counts : queue.counted.length = queue.droppedCount)
    (elsewhere : world.current ≠ some index → queue.items = [] ∧ queue.counted = [])
    (fits : ∀ next, drain = some next →
      next.Fits (world.current = some index) queue world.runs)
    (kept : world.current = some index → ∀ serial, World.Held (world.queues index) serial →
      world.Settled serial ∨ World.Held queue serial) :
    Sound ((world.setQueue index queue).setDrain index drain) where
  counted other := by
    show (Function.update world.queues index queue other).counted.length =
      (Function.update world.queues index queue other).droppedCount
    rcases eq_or_ne other index with rfl | apart
    · rw [Function.update_self]
      exact counts
    · rw [Function.update_of_ne apart]
      exact sound.counted other
  others other notCurrent := by
    show (Function.update world.queues index queue other).items = [] ∧
      (Function.update world.queues index queue other).counted = []
    rcases eq_or_ne other index with rfl | apart
    · rw [Function.update_self]
      exact elsewhere notCurrent
    · rw [Function.update_of_ne apart]
      exact sound.others other notCurrent
  known := sound.known
  drained other next found := by
    show other < world.created ∧ next.Fits (world.current = some other)
      (Function.update world.queues index queue other) world.runs
    change Function.update world.drains index drain other = some next at found
    rcases eq_or_ne other index with rfl | apart
    · rw [Function.update_self] at found ⊢
      exact ⟨isKnown, fits next found⟩
    · rw [Function.update_of_ne apart] at found ⊢
      exact sound.drained other next found
  ledger serial bound := by
    rcases sound.ledger serial bound with settled | ⟨other, isCurrent, held⟩
    · exact .inl settled
    · rcases eq_or_ne other index with rfl | apart
      · refine (kept isCurrent serial held).imp_right fun heldNow => ⟨other, isCurrent, ?_⟩
        show World.Held (Function.update world.queues other queue other) serial
        rwa [Function.update_self]
      · refine .inr ⟨other, isCurrent, ?_⟩
        show World.Held (Function.update world.queues index queue other) serial
        rwa [Function.update_of_ne apart]

theorem setDrain {index : Nat} (isKnown : index < world.created) (drain : Option (Drain Context))
    (fits : ∀ next, drain = some next →
      next.Fits (world.current = some index) (world.queues index) world.runs) :
    Sound (world.setDrain index drain) := by
  have same : world.setQueue index (world.queues index) = world := by
    rw [World.setQueue, Function.update_eq_self]
  rw [← same]
  exact sound.change isKnown (sound.counted index) (sound.others index) fits
    fun _ _ held => .inr held

/-- A run that is passed settles items and lets every drain go on as before. -/
theorem pass (call : RunCall Context) : Sound (world.pass call) where
  counted := sound.counted
  others := sound.others
  known := sound.known
  drained index drain found := by
    obtain ⟨isKnown, fits⟩ := sound.drained index drain found
    exact ⟨isKnown, fits.transfer (fun _ member => List.mem_append_left _ member)
      fun isCurrent => ⟨isCurrent, rfl⟩⟩
  ledger serial bound := (sound.ledger serial bound).imp_left fun settled =>
    settled.imp_left fun ⟨before, member, has⟩ => ⟨before, List.mem_append_left _ member, has⟩

/-- A drain that ends without work left may take the key away, if the map holds its queue or
none. -/
theorem endEmpty {index : Nat} (empty : world.hasWork index = false)
    (alone : world.holdsAnother index = false) : Sound (world.endEmpty index) where
  counted := sound.counted
  others other _ := by
    by_cases isCurrent : world.current = some other
    · rw [World.holdsAnother, isCurrent] at alone
      obtain rfl : other = index := by simpa using alone
      exact sound.idle empty
    · exact sound.others other isCurrent
  known _ held := absurd held nofun
  drained other drain found := by
    change Function.update world.drains index none other = some drain at found
    rcases eq_or_ne other index with rfl | apart
    · rw [Function.update_self] at found
      exact absurd found nofun
    · rw [Function.update_of_ne apart] at found
      obtain ⟨isKnown, fits⟩ := sound.drained other drain found
      exact ⟨isKnown, fits.transfer (fun _ => id) fun isCurrent => absurd isCurrent nofun⟩
  ledger serial bound := by
    rcases sound.ledger serial bound with settled | ⟨other, isCurrent, held⟩
    · exact .inl settled
    · rw [World.holdsAnother, isCurrent] at alone
      have same : other = index := by simpa using alone
      obtain ⟨noItems, noCount⟩ := sound.idle empty
      rw [World.Held, same, noItems, noCount] at held
      exact absurd held (by simp)

end Sound

namespace World

/-- What a drain does next does not depend on what it awaited. -/
theorem continueDrain_setDrain (world : World Context) (index : Nat)
    (drain : Option (Drain Context)) (force : Bool) :
    (world.setDrain index drain).continueDrain index force = world.continueDrain index force := by
  have again : ∀ next : Option (Drain Context),
      (world.setDrain index drain).setDrain index next = world.setDrain index next := by
    intro next
    show ({ world with
      drains := Function.update (Function.update world.drains index drain) index next }
        : World Context) = _
    rw [Function.update_idem]
    rfl
  rw [continueDrain, continueDrain, finishDrain, finishDrain, endEmpty, endEmpty, again, again]
  rfl

end World

namespace Sound

variable {world : World Context} (sound : Sound world) {index : Nat} {next : World Context}

include sound

/-! ### The drain -/

theorem scheduleFollowupDrain : Sound world.scheduleFollowupDrain := by
  rw [World.scheduleFollowupDrain]
  cases isCurrent : world.current with
  | none => exact sound
  | some index =>
    dsimp only
    split
    · exact sound
    split
    · have begun := sound.setDrain (sound.known index isCurrent)
        (some { phase := .debouncing }) fun next isNext => by
          obtain rfl := Option.some.inj isNext
          exact trivial
      exact ⟨begun.counted, begun.others, begun.known, begun.drained, begun.ledger⟩
    · rename_i noWork
      refine sound.endEmpty (Bool.eq_false_iff.2 noWork) ?_
      rw [World.holdsAnother, isCurrent]
      simp

theorem finishDrain (isKnown : index < world.created)
    (alone : world.holdsAnother index = false) : Sound (world.finishDrain index) := by
  rw [World.finishDrain]
  split
  · exact (sound.setDrain isKnown none fun _ isNext => absurd isNext nofun).scheduleFollowupDrain
  · rename_i noWork
    exact sound.endEmpty (Bool.eq_false_iff.2 noWork) alone

theorem continueDrain (isKnown : index < world.created)
    (alone : world.holdsAnother index = false) (force : Bool) :
    Sound (world.continueDrain index force) := by
  rw [World.continueDrain]
  split
  · refine sound.setDrain isKnown _ fun next isNext => ?_
    obtain rfl := Option.some.inj isNext
    exact trivial
  · exact sound.finishDrain isKnown alone

/-- A run for the first item leaves that item at the front. -/
theorem runNextItem (isKnown : index < world.created) (force : Bool) :
    Sound (world.runNextItem index force .item World.itemCall) := by
  rw [World.runNextItem]
  cases queued : (world.queues index).items with
  | nil =>
    refine sound.setDrain isKnown _ fun next isNext => ?_
    obtain rfl := Option.some.inj isNext
    exact trivial
  | cons item rest =>
    refine (sound.pass _).setDrain isKnown _ fun next isNext => ?_
    obtain rfl := Option.some.inj isNext
    exact ⟨List.mem_append_right _ (List.mem_singleton.2 rfl), fun _ => ⟨item, rest, queued, rfl⟩⟩

theorem drainBody (isRoutableChannel : Option String → Bool)
    (isKnown : index < world.created) (force : Bool)
    (noSummary : world.runsSummaryAlone index = false) :
    Sound (world.drainBody isRoutableChannel index force) := by
  rw [World.drainBody]
  dsimp only
  split
  · split
    · exact sound.runNextItem isKnown true
    · refine sound.setDrain isKnown _ fun next isNext => ?_
      obtain rfl := Option.some.inj isNext
      exact trivial
  rename_i mode
  cases preview : previewQueueSummaryPrompt (world.queues index) with
  | none => exact sound.runNextItem isKnown force
  | some summaryPrompt =>
    cases lastRun : (world.queues index).lastRun with
    | none =>
      -- A summary is only pending in the queue the map holds.
      have work : world.hasWork index = true := by
        rw [previewQueueSummaryPrompt] at preview
        split at preview
        · exact absurd preview nofun
        · rename_i pending
          rw [Bool.or_eq_true, not_or, decide_eq_true_iff, decide_eq_true_iff] at pending
          rw [World.hasWork, Bool.or_eq_true]
          exact .inr (decide_eq_true pending.2)
      refine sound.finishDrain isKnown ?_
      rw [World.holdsAnother, sound.current_of_hasWork work]
      simp
    | some run =>
      have noItems : (world.queues index).items = [] := by
        simpa [World.runsSummaryAlone, mode, preview, lastRun] using noSummary
      dsimp only
      rw [World.runNextItem, noItems]
      refine sound.setDrain isKnown _ fun next isNext => ?_
      obtain rfl := Option.some.inj isNext
      exact trivial

/-- A collect run carries all that is queued, and reports all that is counted if it reports any. -/
theorem collectItems (isKnown : index < world.created)
    (alone : world.holdsAnother index = false) (force : Bool) :
    Sound (world.collectItems index force) := by
  rw [World.collectItems]
  split
  · exact sound.finishDrain isKnown alone
  · refine (sound.pass _).setDrain isKnown _ fun next isNext => ?_
    obtain rfl := Option.some.inj isNext
    refine ⟨List.mem_append_right _ (List.mem_singleton.2 rfl), fun _ => ⟨le_refl _, ?_, ?_⟩⟩
    · exact fun item member => List.mem_of_mem_take member
    · intro reported serial member
      rw [World.collectCall, if_pos reported]
      exact member

theorem wake (isRoutableChannel : Option String → Bool)
    (admitted : orderly world (.wake index) = true)
    (woken : world.wake isRoutableChannel index = some next) : Sound next := by
  rw [World.wake] at woken
  rw [orderly] at admitted
  cases found : world.drains index with
  | none =>
    rw [found] at woken
    exact absurd woken nofun
  | some drain =>
    obtain ⟨isKnown, fits⟩ := sound.drained index drain found
    rw [Drain.Fits] at fits
    simp only [found, Option.map_some] at woken admitted
    cases phase : drain.phase with
    | debouncing =>
      simp only [phase] at woken admitted
      obtain rfl := Option.some.inj woken
      exact sound.drainBody isRoutableChannel isKnown _ (by simpa using admitted)
    | collecting =>
      simp only [phase] at woken admitted
      obtain rfl := Option.some.inj woken
      exact sound.collectItems isKnown (by simpa using admitted) _
    | emptied =>
      simp only [phase] at woken admitted
      obtain rfl := Option.some.inj woken
      exact sound.finishDrain isKnown (by simpa using admitted)
    | returned clearsSummary =>
      simp only [phase] at woken admitted fits
      subst fits
      obtain rfl := Option.some.inj woken
      exact sound.continueDrain isKnown (by simpa using admitted) _
    | failed =>
      simp only [phase] at woken admitted
      obtain rfl := Option.some.inj woken
      exact sound.finishDrain isKnown (by simpa using admitted)
    | running awaited call =>
      simp only [phase] at woken
      exact absurd woken nofun

theorem rejectRun (rejected : world.rejectRun index = some next) : Sound next := by
  rw [World.rejectRun] at rejected
  cases found : world.drains index with
  | none =>
    rw [found] at rejected
    exact absurd rejected nofun
  | some drain =>
    simp only [found] at rejected
    split at rejected
    · obtain rfl := Option.some.inj rejected
      refine sound.setDrain (sound.drained index drain found).1 _ fun next isNext => ?_
      obtain rfl := Option.some.inj isNext
      exact trivial
    · exact absurd rejected nofun

/-- A run that resolves takes from its queue what it has carried. -/
theorem resolveRun (admitted : orderly world (.resolve index) = true)
    (resolved : world.resolveRun index = some next) : Sound next := by
  rw [World.resolveRun] at resolved
  rw [orderly] at admitted
  cases found : world.drains index with
  | none =>
    rw [found] at resolved
    cases resolved
  | some drain =>
    obtain ⟨isKnown, fits⟩ := sound.drained index drain found
    rw [Drain.Fits] at fits
    simp only [found, Option.map_some] at resolved admitted
    cases phase : drain.phase with
    | running awaited call =>
      simp only [phase] at resolved admitted fits
      obtain ⟨passed, fits⟩ := fits
      have settles : ∀ item ∈ call.carried, world.Settled item.serial := fun item carried =>
        .inl ⟨call, passed, .inl (List.mem_map_of_mem carried)⟩
      cases awaited with
      | summary => exact fits.elim
      | item =>
        obtain rfl := Option.some.inj resolved
        refine sound.change isKnown (sound.counted index) (fun notCurrent => ?_)
          (fun next isNext => ?_)
          fun isCurrent serial held => ?_
        · obtain ⟨noItems, noCount⟩ := sound.others index notCurrent
          exact ⟨by rw [noItems]; rfl, noCount⟩
        · obtain rfl := Option.some.inj isNext
          exact rfl
        · obtain ⟨item, rest, queued, carried⟩ := fits isCurrent
          rcases held with listed | counted
          · rw [queued, List.map_cons, List.mem_cons] at listed
            rcases listed with rfl | later
            · exact .inl (settles item (by rw [carried]; exact List.mem_singleton.2 rfl))
            · refine .inr (.inl ?_)
              rw [queued]
              exact later
          · exact .inr (.inr counted)
      | collect count summary =>
        have alone : world.holdsAnother index = false := by simpa using admitted
        obtain rfl := Option.some.inj resolved
        rw [← World.continueDrain_setDrain _ index none]
        refine Sound.continueDrain (sound.change isKnown ?_ (fun notCurrent => ?_)
          (fun next (isNext : none = some next) => by cases isNext)
          fun isCurrent serial held => ?_) isKnown alone _
        · split
          · rfl
          · exact sound.counted index
        · obtain ⟨noItems, noCount⟩ := sound.others index notCurrent
          split
          · exact ⟨by simp [clearQueueSummaryState, noItems], rfl⟩
          · exact ⟨by simp [noItems], noCount⟩
        · obtain ⟨-, carried, reported⟩ := fits isCurrent
          rcases held with listed | counted
          · obtain ⟨item, member, rfl⟩ := List.mem_map.1 listed
            rw [← List.take_append_drop count (world.queues index).items, List.mem_append] at member
            rcases member with taken | left
            · exact .inl (settles item (carried item taken))
            · refine .inr (.inl ?_)
              split
              · exact List.mem_map_of_mem left
              · exact List.mem_map_of_mem left
          · split
            · rename_i summary
              exact .inl (.inl ⟨call, passed, .inr (reported summary serial counted)⟩)
            · exact .inr (.inr counted)
    | _ =>
      simp only [phase] at resolved
      cases resolved

/-! ### Enqueueing and clearing -/

theorem clearFollowupQueue : Sound world.clearFollowupQueue := by
  rw [World.clearFollowupQueue]
  cases isCurrent : world.current with
  | none => exact sound
  | some index =>
    constructor
    case counted =>
      intro other
      show (Function.update world.queues index _ other).counted.length =
        (Function.update world.queues index _ other).droppedCount
      rcases eq_or_ne other index with rfl | apart
      · rw [Function.update_self]
        rfl
      · rw [Function.update_of_ne apart]
        exact sound.counted other
    case others =>
      intro other _
      show (Function.update world.queues index _ other).items = [] ∧
        (Function.update world.queues index _ other).counted = []
      rcases eq_or_ne other index with rfl | apart
      · rw [Function.update_self]
        exact ⟨rfl, rfl⟩
      · rw [Function.update_of_ne apart]
        exact sound.others other (by
          rw [isCurrent]
          exact fun same => apart (Option.some.inj same).symm)
    case known => exact fun _ held => absurd held nofun
    case drained =>
      intro other drain found
      obtain ⟨isKnown, fits⟩ := sound.drained other drain found
      exact ⟨isKnown, fits.transfer (fun _ => id) fun isCurrent => absurd isCurrent nofun⟩
    case ledger =>
      intro serial bound
      refine .inl ?_
      rcases sound.ledger serial bound with settled | ⟨other, stillCurrent, held⟩
      · exact settled.imp_right (Or.imp_right fun before =>
          List.mem_append_left _ (List.mem_append_left _ before))
      · obtain rfl : index = other := Option.some.inj (isCurrent.symm.trans stillCurrent)
        refine .inr (.inr ?_)
        rcases held with listed | counted
        · exact List.mem_append_left _ (List.mem_append_right _ listed)
        · exact List.mem_append_right _ counted

/-- The queue in the map changes, and the drain at work on it goes on. -/
theorem setQueue (isCurrent : world.current = some index)
    (queue : FollowupQueueState Context) (counts : queue.counted.length = queue.droppedCount)
    (fits : ∀ drain, world.drains index = some drain →
      drain.Fits (world.current = some index) queue world.runs)
    (kept : ∀ serial, World.Held (world.queues index) serial →
      world.Settled serial ∨ World.Held queue serial) : Sound (world.setQueue index queue) := by
  have changed := sound.change (sound.known index isCurrent) counts
    (fun notCurrent => absurd isCurrent notCurrent) fits fun _ => kept
  rwa [World.setDrain, show (world.setQueue index queue).drains = world.drains from rfl,
    Function.update_eq_self] at changed

/-- The queue an enqueue works on is the one in the map, which may be new. -/
theorem getFollowupQueue (settings : QueueSettings) :
    Sound (world.getFollowupQueue settings).2 ∧
      (world.getFollowupQueue settings).2.current = some (world.getFollowupQueue settings).1 := by
  rw [World.getFollowupQueue]
  cases isCurrent : world.current with
  | some index =>
    exact ⟨sound.setQueue isCurrent _ (sound.counted index)
      (fun drain found => (sound.drained index drain found).2) fun _ held => .inr held, isCurrent⟩
  | none =>
    refine ⟨?_, rfl⟩
    constructor
    case counted =>
      intro other
      show (Function.update world.queues world.created _ other).counted.length =
        (Function.update world.queues world.created _ other).droppedCount
      rcases eq_or_ne other world.created with rfl | apart
      · rw [Function.update_self]
        rfl
      · rw [Function.update_of_ne apart]
        exact sound.counted other
    case others =>
      intro other notCurrent
      show (Function.update world.queues world.created _ other).items = [] ∧
        (Function.update world.queues world.created _ other).counted = []
      rw [Function.update_of_ne fun same => notCurrent (by rw [same])]
      exact sound.others other (by rw [isCurrent]; exact nofun)
    case known =>
      intro other held
      rw [← Option.some.inj held]
      exact Nat.lt_succ_self _
    case drained =>
      intro other drain found
      obtain ⟨isKnown, fits⟩ := sound.drained other drain found
      refine ⟨Nat.lt_succ_of_lt isKnown, fits.transfer (fun _ => id) fun held => ?_⟩
      exact absurd (Option.some.inj held) (Nat.ne_of_gt isKnown)
    case ledger =>
      intro serial bound
      rcases sound.ledger serial bound with settled | ⟨other, stillCurrent, -⟩
      · exact .inl settled
      · exact absurd (isCurrent.symm.trans stillCurrent) nofun

end Sound

/-! ### The cap -/

/-- The cap lets a queue keep what it answers for, but for what it drops under the policy "old". -/
theorem held_applyQueueDropPolicy (queue : FollowupQueueState Context) {serial : Nat}
    (held : World.Held queue serial) :
    World.Held (applyQueueDropPolicy queue).2 serial ∨
      (queue.dropPolicy = .old ∧ serial ∈ (droppedByCap queue).map Item.serial) := by
  rw [applyQueueDropPolicy, droppedByCap]
  split
  · exact .inl held
  rename_i capped
  have parted : ∀ serial ∈ queue.items.map Item.serial,
      serial ∈ (queue.items.take (queue.items.length - queue.cap + 1)).map Item.serial ∨
        serial ∈ (queue.items.drop (queue.items.length - queue.cap + 1)).map Item.serial := by
    intro serial listed
    rwa [← List.mem_append, ← List.map_append, List.take_append_drop]
  cases policy : queue.dropPolicy with
  | new => exact .inl held
  | old =>
    rcases held with listed | counted
    · rcases parted serial listed with dropped | left
      · exact .inr ⟨rfl, dropped⟩
      · exact .inl (.inl left)
    · exact .inl (.inr counted)
  | summarize =>
    rcases held with listed | counted
    · rcases parted serial listed with dropped | left
      · exact .inl (.inr (List.mem_append_right _ dropped))
      · exact .inl (.inl left)
    · exact .inl (.inr (List.mem_append_left _ counted))

theorem counted_applyQueueDropPolicy {queue : FollowupQueueState Context}
    (counts : queue.counted.length = queue.droppedCount) :
    (applyQueueDropPolicy queue).2.counted.length =
    (applyQueueDropPolicy queue).2.droppedCount := by
  rw [applyQueueDropPolicy]
  split
  · exact counts
  cases queue.dropPolicy with
  | summarize =>
    show (queue.counted ++ _).length = _
    rw [List.length_append, counts, List.length_map]
  | _ => exact counts

/-- When the cap drops nothing, the queue stays as it is. -/
theorem applyQueueDropPolicy_of_keeps {queue : FollowupQueueState Context}
    (keeps : queue.dropPolicy = .new ∨ droppedByCap queue = []) :
    (applyQueueDropPolicy queue).2 = queue := by
  rw [applyQueueDropPolicy]
  split
  · rfl
  rename_i capped
  rcases keeps with policy | nothing
  · rw [policy]
  · rw [droppedByCap, if_neg capped, List.take_eq_nil_iff] at nothing
    rw [Bool.or_eq_true, not_or, decide_eq_true_iff, decide_eq_true_iff] at capped
    rcases nothing with zero | empty
    · exact absurd zero (Nat.succ_ne_zero _)
    · rw [empty] at capped
      exact absurd (Nat.pos_of_ne_zero capped.1) capped.2

namespace Sound

variable {world : World Context} (sound : Sound world) {next : World Context}

include sound

/-- The ledger may grow, and what only decides what is refused or restarted may change. -/
theorem extend (dropped : List Nat) (recent : List (List String)) (callback : Bool) :
    Sound { world with
      droppedOld := world.droppedOld ++ dropped
      recentMessageIds := recent
      callback } where
  counted := sound.counted
  others := sound.others
  known := sound.known
  drained := sound.drained
  ledger serial bound := (sound.ledger serial bound).imp_left fun settled =>
    settled.imp_right (Or.imp_left fun before => List.mem_append_left _ before)

/-- An accepted item is in the queue the map holds. -/
theorem acceptOne {index : Nat} (isCurrent : world.current = some index)
    (queued : World.Held (world.queues index) world.accepted) :
    Sound { world with accepted := world.accepted + 1 } where
  counted := sound.counted
  others := sound.others
  known := sound.known
  drained := sound.drained
  ledger serial bound := by
    rcases Nat.lt_succ_iff_lt_or_eq.1 bound with earlier | rfl
    · exact sound.ledger serial earlier
    · exact .inr ⟨index, isCurrent, queued⟩

/-- The enqueue of a run, when the cap drops nothing under a run that is awaited. -/
theorem enqueueInto {index : Nat} (isCurrent : world.current = some index)
    {queue : FollowupQueueState Context} (items : queue.items = (world.queues index).items)
    (counted : queue.counted = (world.queues index).counted)
    (droppedCount : queue.droppedCount = (world.queues index).droppedCount)
    (undisturbed : ∀ drain, world.drains index = some drain → drain.awaitsRun = true →
      queue.dropPolicy = .new ∨ droppedByCap queue = [])
    (run : FollowupRun Context) (dedupeMode : QueueDedupeMode) (runFollowup restartIfIdle : Bool) :
    Sound (world.enqueueInto index queue run dedupeMode runFollowup restartIfIdle).2 := by
  have counts : (applyQueueDropPolicy queue).2.counted.length =
      (applyQueueDropPolicy queue).2.droppedCount :=
    counted_applyQueueDropPolicy (by rw [counted, droppedCount, sound.counted])
  have kept : ∀ serial, World.Held (world.queues index) serial →
      World.Held (applyQueueDropPolicy queue).2 serial ∨
        (queue.dropPolicy = .old ∧ serial ∈ (droppedByCap queue).map Item.serial) :=
    fun serial held => held_applyQueueDropPolicy queue (by rwa [World.Held, items, counted])
  -- A drain that awaits a run sees the queue grow only.
  have grows : ∀ drain, world.drains index = some drain → drain.awaitsRun = true →
      (applyQueueDropPolicy queue).2.items = (world.queues index).items ∧
        (applyQueueDropPolicy queue).2.counted = (world.queues index).counted := by
    intro drain isDrain awaits
    rw [applyQueueDropPolicy_of_keeps (undisturbed drain isDrain awaits)]
    exact ⟨items, counted⟩
  rw [World.enqueueInto]
  dsimp only
  split
  · rename_i refused
    refine sound.setQueue isCurrent _ counts (fun drain isDrain => ?_) fun serial held => ?_
    · exact (sound.drained index drain isDrain).2.append fun awaits =>
        ⟨⟨[], by rw [List.append_nil]; exact (grows drain isDrain awaits).1⟩,
          (grows drain isDrain awaits).2⟩
    · rcases kept serial held with still | ⟨policy, -⟩
      · exact .inr still
      · rw [applyQueueDropPolicy, policy] at refused
        split at refused <;> exact absurd refused Bool.false_ne_true
  · have accepting : Sound (world.acceptItem index queue run dedupeMode runFollowup) := by
      have extended := sound.extend
        (if queue.dropPolicy = .old then (droppedByCap queue).map Item.serial else [])
        (if dedupeMode = .none then world.recentMessageIds
          else (buildRecentMessageIdKey run).toList ++ world.recentMessageIds)
        (world.callback || runFollowup)
      obtain ⟨next, next_eq⟩ : ∃ next : FollowupQueueState Context,
          next = { (applyQueueDropPolicy queue).2 with
            items := (applyQueueDropPolicy queue).2.items ++ [⟨world.accepted, run⟩] } := ⟨_, rfl⟩
      have nextItems : next.items = (applyQueueDropPolicy queue).2.items ++
        [⟨world.accepted, run⟩] := by
        rw [next_eq]
      have nextCounted : next.counted = (applyQueueDropPolicy queue).2.counted := by rw [next_eq]
      have pushed := extended.setQueue isCurrent next (by rw [next_eq]; exact counts)
        (fun drain isDrain => (sound.drained index drain isDrain).2.append fun awaits =>
          ⟨⟨_, by rw [nextItems, (grows drain isDrain awaits).1]⟩,
            nextCounted.trans (grows drain isDrain awaits).2⟩)
        fun serial held => by
          rcases kept serial held with still | ⟨policy, gone⟩
          · refine .inr ?_
            rw [World.Held, nextItems, nextCounted, List.map_append, List.mem_append]
            exact still.imp_left .inl
          · refine .inl (.inr (.inl (List.mem_append_right _ ?_)))
            rw [if_pos policy]
            exact gone
      have accepted := pushed.acceptOne isCurrent (by
        refine .inl ?_
        show world.accepted ∈ (Function.update world.queues index next index).items.map Item.serial
        rw [Function.update_self, nextItems, List.map_append]
        exact List.mem_append_right _ (List.mem_singleton.2 rfl))
      rw [next_eq] at accepted
      exact accepted
    split
    · exact accepting.scheduleFollowupDrain
    · exact accepting

theorem enqueueFollowupRun (run : FollowupRun Context) (settings : QueueSettings)
    (dedupeMode : QueueDedupeMode) (runFollowup restartIfIdle : Bool)
    (admitted : orderly world (.enqueue run settings dedupeMode runFollowup restartIfIdle) = true) :
    Sound (world.enqueueFollowupRun run settings dedupeMode runFollowup restartIfIdle).2 := by
  obtain ⟨ready, isCurrent⟩ := sound.getFollowupQueue settings
  have undisturbed : world.dropsItems run settings dedupeMode = true → ∀ drain,
      (world.getFollowupQueue settings).2.drains (world.getFollowupQueue settings).1 = some drain →
      drain.awaitsRun = false := by
    intro drops drain found
    rw [orderly, drops, Bool.true_and] at admitted
    rw [World.getFollowupQueue] at found
    cases held : world.current with
    | some index =>
      rw [held] at found
      rw [held, Option.bind_some, show world.drains index = some drain from found] at admitted
      simpa using admitted
    | none =>
      rw [held] at found
      exact absurd (sound.drained world.created drain found).1 (Nat.lt_irrefl _)
  rw [World.dropsItems] at undisturbed
  rw [World.enqueueFollowupRun]
  generalize world.getFollowupQueue settings = got at ready isCurrent undisturbed ⊢
  obtain ⟨index, found⟩ := got
  dsimp only at ready isCurrent undisturbed ⊢
  split
  · exact ready
  rename_i fresh
  rw [Bool.not_eq_true] at fresh
  rw [fresh, Bool.not_false, Bool.true_and] at undisturbed
  refine ready.enqueueInto isCurrent (by rfl) (by rfl) (by rfl) (fun drain isDrain awaits => ?_) _
    _ _ _
  by_contra drops
  rw [not_or] at drops
  refine absurd (undisturbed ?_ drain isDrain) (by rw [awaits]; exact nofun)
  rw [Bool.and_eq_true, decide_eq_true_iff]
  exact ⟨drops.1, by simpa [droppedByCap] using drops.2⟩

/-! ### Steps and runs -/

theorem step (isRoutableChannel : Option String → Bool) {action : Action Context}
    (admitted : orderly world action = true)
    (taken : Reply.step isRoutableChannel world action = some next) : Sound next := by
  cases action with
  | enqueue run settings dedupeMode runFollowup restartIfIdle =>
    obtain rfl := Option.some.inj taken
    exact sound.enqueueFollowupRun run settings dedupeMode runFollowup restartIfIdle admitted
  | clear =>
    obtain rfl := Option.some.inj taken
    exact sound.clearFollowupQueue
  | forgetCallback =>
    obtain rfl := Option.some.inj taken
    exact ⟨sound.counted, sound.others, sound.known, sound.drained, sound.ledger⟩
  | schedule =>
    obtain rfl := Option.some.inj taken
    exact sound.scheduleFollowupDrain
  | expire key =>
    obtain rfl := Option.some.inj taken
    exact ⟨sound.counted, sound.others, sound.known, sound.drained, sound.ledger⟩
  | wake index => exact sound.wake isRoutableChannel admitted taken
  | resolve index => exact sound.resolveRun admitted taken
  | reject index => exact sound.rejectRun taken

/-- A resolved run takes no item from its queue but those it has carried. -/
theorem resolveRun_takes {index : Nat} (resolved : world.resolveRun index = some next) :
    ∃ drain awaited call, world.drains index = some drain ∧ drain.phase = .running awaited call ∧
      ∀ item ∈ (world.queues index).items, item ∉ (next.queues index).items →
        item ∈ call.carried := by
  rw [World.resolveRun] at resolved
  cases found : world.drains index with
  | none =>
    rw [found] at resolved
    cases resolved
  | some drain =>
    obtain ⟨isKnown, fits⟩ := sound.drained index drain found
    rw [Drain.Fits] at fits
    simp only [found] at resolved
    cases phase : drain.phase with
    | running awaited call =>
      refine ⟨drain, awaited, call, rfl, phase, fun item queued gone => ?_⟩
      simp only [phase] at resolved fits
      have isCurrent : world.current = some index := by
        by_contra notCurrent
        rw [(sound.others index notCurrent).1] at queued
        exact absurd queued List.not_mem_nil
      cases awaited with
      | summary => exact fits.2.elim
      | item =>
        obtain rfl := Option.some.inj resolved
        obtain ⟨first, rest, items, carried⟩ := fits.2 isCurrent
        change item ∉ (Function.update world.queues index _ index).items at gone
        rw [Function.update_self, items] at gone
        rw [items] at queued
        rw [carried, List.mem_singleton]
        exact (List.mem_cons.1 queued).resolve_right gone
      | collect count summary =>
        obtain rfl := Option.some.inj resolved
        obtain ⟨-, carried, -⟩ := fits.2 isCurrent
        rw [World.queues_continueDrain] at gone
        change item ∉ (Function.update world.queues index _ index).items at gone
        rw [Function.update_self] at gone
        rw [← List.take_append_drop count (world.queues index).items, List.mem_append] at queued
        refine carried item (queued.resolve_right fun left => gone ?_)
        split <;> exact left
    | _ =>
      simp only [phase] at resolved
      cases resolved

/-- On a queue without work the body of the loop passes nothing and waits. -/
theorem drainBody_idle (isRoutableChannel : Option String → Bool) {index : Nat}
    (notCurrent : world.current ≠ some index) (force : Bool) :
    ∃ drain, world.drainBody isRoutableChannel index force = world.setDrain index drain := by
  obtain ⟨noItems, noCount⟩ := sound.others index notCurrent
  have zero : (world.queues index).droppedCount = 0 := by
    rw [← sound.counted, noCount, List.length_nil]
  have noSummary : previewQueueSummaryPrompt (world.queues index) = none := by
    rw [previewQueueSummaryPrompt, zero]
    simp
  have waits : ∀ (force : Bool) (awaited : Awaited) (call : Item Context → RunCall Context),
      world.runNextItem index force awaited call =
        world.setDrain index (some { phase := .emptied, forceIndividualCollect := force }) := by
    intro force awaited call
    rw [World.runNextItem, noItems]
  rw [World.drainBody]
  dsimp only
  split
  · split
    · exact ⟨_, waits _ _ _⟩
    · exact ⟨_, rfl⟩
  · rw [noSummary]
    exact ⟨_, waits _ _ _⟩

/-- What a drain does while the map holds another queue than its own leaves that queue alone. -/
theorem aside (isRoutableChannel : Option String → Bool) {index other : Nat}
    (held : world.current = some other) (apart : other ≠ index) {action : Action Context}
    (acts : action = .wake index ∨ action = .resolve index ∨ action = .reject index)
    (admitted : orderly world action = true)
    (taken : Reply.step isRoutableChannel world action = some next) :
    next.current = some other ∧ next.queues other = world.queues other ∧
      next.drains other = world.drains other ∧ next.runs = world.runs := by
  have another : world.holdsAnother index = true := by
    rw [World.holdsAnother, held]
    exact decide_eq_true apart
  have notCurrent : world.current ≠ some index := by
    rw [held]
    exact fun same => apart (Option.some.inj same)
  have drained : ∀ drain, (world.setDrain index drain).drains other = world.drains other :=
    fun drain => Function.update_of_ne apart _ _
  rcases acts with rfl | rfl | rfl
  · rw [orderly] at admitted
    rw [Reply.step, World.wake] at taken
    cases found : world.drains index with
    | none =>
      rw [found] at taken
      exact absurd taken nofun
    | some drain =>
      simp only [found, Option.map_some] at taken admitted
      cases phase : drain.phase with
      | debouncing =>
        simp only [phase] at taken
        obtain ⟨waiting, body⟩ := sound.drainBody_idle isRoutableChannel notCurrent
          drain.forceIndividualCollect
        rw [body] at taken
        obtain rfl := Option.some.inj taken
        exact ⟨held, rfl, drained _, rfl⟩
      | _ =>
        simp only [phase, another] at admitted
        exact absurd admitted Bool.false_ne_true
  · rw [orderly] at admitted
    rw [Reply.step, World.resolveRun] at taken
    cases found : world.drains index with
    | none =>
      rw [found] at taken
      exact absurd taken nofun
    | some drain =>
      simp only [found, Option.map_some] at taken admitted
      cases phase : drain.phase with
      | running awaited call =>
        simp only [phase] at taken admitted
        cases awaited with
        | collect count summary =>
          rw [another] at admitted
          exact absurd admitted Bool.false_ne_true
        | _ =>
          obtain rfl := Option.some.inj taken
          exact ⟨held, Function.update_of_ne apart _ _, drained _, rfl⟩
      | _ =>
        simp only [phase] at taken
        exact absurd taken nofun
  · rw [Reply.step, World.rejectRun] at taken
    cases found : world.drains index with
    | none =>
      rw [found] at taken
      exact absurd taken nofun
    | some drain =>
      simp only [found] at taken
      split at taken
      · obtain rfl := Option.some.inj taken
        exact ⟨held, rfl, drained _, rfl⟩
      · exact absurd taken nofun

end Sound

/-- Every run that was passed holds the prompts it carries. -/
def World.HoldsPrompts (world : World Context) : Prop := ∀ call ∈ world.runs, call.HoldsPrompts

theorem Passes.holdsPrompts {world next : World Context} (passes : Passes world next)
    (holds : world.HoldsPrompts) : next.HoldsPrompts := by
  intro call member
  rcases passes with same | ⟨passed, holdsPassed, more⟩
  · exact holds call (same ▸ member)
  · rw [more, List.mem_append, List.mem_singleton] at member
    rcases member with earlier | rfl
    · exact holds call earlier
    · exact holdsPassed

theorem holdsPrompts_of_run (isRoutableChannel : Option String → Bool)
    {guard : World Context → Action Context → Prop} {actions : List (Action Context)}
    {world : World Context}
    (run : Machine.Steps (step isRoutableChannel) guard World.start actions world) :
    world.HoldsPrompts := by
  have initially : (World.start : World Context).HoldsPrompts := List.forall_mem_nil _
  exact run.invariant (fun _ _ _ holds _ taken => (passes_step isRoutableChannel taken).holdsPrompts
    holds) initially

def plainRun (prompt : String) : FollowupRun Unit := { prompt, run := () }

def enqueueOne (prompt : String) (cap : Nat) : Action Unit :=
  .enqueue (plainRun prompt) { mode := .followup, cap := some cap, dropPolicy := some .old } .none
    true true

/-- Two items, one dropped for a third, the other two run one after the other. -/
def quietActions : List (Action Unit) :=
  [enqueueOne "a" 2, enqueueOne "b" 2, enqueueOne "c" 2, .schedule, .wake 0, .resolve 0, .wake 0,
    .wake 0, .resolve 0, .wake 0]

/-- A third item arrives while the first is run: the cap drops the first, and when its run resolves
the second is taken in its place. Nobody has been given it. -/
def hastyActions : List (Action Unit) :=
  [enqueueOne "a" 2, .schedule, .wake 0, enqueueOne "b" 2, enqueueOne "c" 2, .resolve 0]

end OpenClaw.Reply
