/-
This file proves when the drain of the follow-up queue makes progress.

An activation of the drain begins when it is scheduled and ends in its `finally` block, which
either takes the queue out of the map or schedules the drain again. Outside the collect mode a
pass of the loop that finds no item breaks off, also when dropped items are still counted; the
`finally` block sees the count and schedules the drain again. Such a queue is `Stuck`: nothing but
an enqueue gets the drain to start a run.

A queue becomes stuck when the item that is taken from it behind a run is its last one while
dropped items are counted, or when its settings are changed while it has no items. As long as no
drain finds its queue stuck, each activation starts a run or leaves its queue out of the map.
-/

import OpenClaw.Reply.FollowupQueue

namespace OpenClaw.Reply

open Machine

variable {Context : Type} {queue : FollowupQueueState Context} {world : World Context}
variable {isRoutableChannel : Option String → Bool} {index : Nat} {drain : Drain Context}

/-! ### Activations -/

/-- No items are queued, and the count of the dropped ones is not reported without an item. -/
def Stuck (queue : FollowupQueueState Context) : Prop :=
  queue.mode ≠ .collect ∧ queue.items = [] ∧ queue.droppedCount ≠ 0

instance (queue : FollowupQueueState Context) : Decidable (Stuck queue) :=
  decidable_of_iff (queue.mode ≠ .collect ∧ queue.items.isEmpty = true ∧ queue.droppedCount ≠ 0)
    (by rw [List.isEmpty_iff]; rfl)

/-- What a collect run leaves of the queue when it resolves. -/
def FollowupQueueState.collected (queue : FollowupQueueState Context) (count : Nat)
    (summary : Bool) : FollowupQueueState Context :=
  let rest := { queue with items := queue.items.drop count }
  if summary then clearQueueSummaryState rest else rest

namespace World

variable (world : World Context)

/-- A pass outside the collect mode has a summary to run, and nothing to run it with. -/
def breaksOff (index : Nat) : Bool :=
  let queue := world.queues index
  queue.mode ≠ .collect && (previewQueueSummaryPrompt queue).isSome && queue.lastRun.isNone

/-- A collect pass has nothing to run its items with. -/
def cannotCollect (index : Nat) : Bool :=
  let queue := world.queues index
  ((queue.items.getLast?.map fun item => item.run.run).or queue.lastRun).isNone

/-- The queue as `finally` finds it, if the drain goes on from an await to its end. -/
def endOfWake (index : Nat) : Option (World Context) :=
  match world.drains index with
  | none => none
  | some drain =>
    match drain.phase with
    | .debouncing => if world.breaksOff index then some world else none
    | .collecting => if world.cannotCollect index then some world else none
    | .emptied => some world
    | .returned clearsSummary =>
      let world := if clearsSummary then
          world.setQueue index (clearQueueSummaryState (world.queues index))
        else world
      if world.hasWork index then none else some world
    | .failed => some world
    | .running .. => none

/-- The same for a drain that goes on behind a resolved run. -/
def endOfResolve (index : Nat) : Option (World Context) :=
  match world.drains index with
  | none => none
  | some drain =>
    match drain.phase with
    | .running (.collect count summary) _ =>
      let world := world.setQueue index ((world.queues index).collected count summary)
      if world.hasWork index then none else some world
    | _ => none

/-- The drain whose activation ends in a step, and the world in which its `finally` runs. -/
def endOf : Action Context → Option (Nat × World Context)
  | .wake index => (world.endOfWake index).map (index, ·)
  | .resolve index => (world.endOfResolve index).map (index, ·)
  | _ => none

end World

/-- A world, and of each drain whether its activation has started a run. -/
structure Watched (Context : Type) where
  world : World Context
  ran : Nat → Bool := fun _ => false

/-- Whether the activation at work has started a run, as of this step. -/
def ranAfter (watched : Watched Context) (next : World Context) (action : Action Context) :
    Nat → Bool :=
  match watched.world.endOf action with
  | some (index, _) => Function.update watched.ran index false
  | none =>
    match action with
    | .wake index => Function.update watched.ran index
        (watched.ran index || watched.world.runs.length < next.runs.length)
    | _ => watched.ran

def watch (isRoutableChannel : Option String → Bool) (watched : Watched Context)
    (action : Action Context) : Option (Watched Context) :=
  (step isRoutableChannel watched.world action).map fun next =>
    ⟨next, ranAfter watched next action⟩

/-- A drain that goes on from here needs an item for its first run, or ends. -/
def DrainPhase.needsItem (ran : Bool) : DrainPhase Context → Bool
  | .debouncing => !ran
  | .emptied | .failed => true
  | .collecting | .running .. | .returned _ => false

/-- No drain goes on to its first run or to its end with a queue in the map that is stuck. -/
def clear (watched : Watched Context) : Action Context → Bool
  | .wake index =>
    !((watched.world.drains index).any fun drain => drain.phase.needsItem (watched.ran index)) ||
      !(watched.world.current = some index && Stuck (watched.world.queues index))
  | _ => true

theorem needsItem_of_clear {watched : Watched Context}
    (isClear : clear watched (.wake index) = true)
    (found : watched.world.drains index = some drain) (held : watched.world.current = some index)
    (stuck : Stuck (watched.world.queues index)) :
    drain.phase.needsItem (watched.ran index) = false := by
  simpa [clear, found, held, stuck] using isClear

/-! ### What every drain keeps to -/

/-- The condition of the loop. -/
def FollowupQueueState.HasWork (queue : FollowupQueueState Context) : Prop :=
  queue.items ≠ [] ∨ queue.droppedCount ≠ 0

theorem hasWork_iff :
    world.hasWork index = true ↔ (world.queues index).HasWork := by
  rw [World.hasWork, Bool.or_eq_true, FollowupQueueState.HasWork, Bool.not_eq_true',
    ← Bool.not_eq_true, List.isEmpty_iff, decide_eq_true_eq]

/-- A drain on the way to a pass has work, if its queue is in the map; behind a pass it has started
a run. -/
def Drain.Moves (isCurrent : Prop) (queue : FollowupQueueState Context) (ran : Bool)
    (drain : Drain Context) : Prop :=
  (drain.forceIndividualCollect = true → ran = true) ∧
    match drain.phase with
    | .debouncing | .collecting => isCurrent → queue.HasWork
    | .emptied => isCurrent → ran = true
    | .running .. | .returned _ | .failed => ran = true

theorem Drain.Moves.transfer {wasCurrent isCurrent : Prop} {queue next : FollowupQueueState Context}
    {ran : Bool} (moves : drain.Moves wasCurrent queue ran)
    (still : isCurrent → wasCurrent) (keeps : isCurrent → queue.HasWork → next.HasWork) :
    drain.Moves isCurrent next ran := by
  rw [Drain.Moves] at moves ⊢
  refine ⟨moves.1, ?_⟩
  have behind := moves.2
  cases phase : drain.phase with
  | debouncing =>
    rw [phase] at behind
    exact fun held => keeps held (behind (still held))
  | collecting =>
    rw [phase] at behind
    exact fun held => keeps held (behind (still held))
  | emptied =>
    rw [phase] at behind
    exact fun held => behind (still held)
  | running awaited call =>
    rw [phase] at behind
    exact behind
  | returned clearsSummary =>
    rw [phase] at behind
    exact behind
  | failed =>
    rw [phase] at behind
    exact behind

structure Progressing (world : World Context) (ran : Nat → Bool) : Prop where
  /-- A queue with work knows what to run it with. -/
  lastRun : ∀ index, (world.queues index).lastRun = none → ¬(world.queues index).HasWork
  known : ∀ index, world.current = some index → index < world.created
  drained : ∀ index drain, world.drains index = some drain → index < world.created ∧
    drain.Moves (world.current = some index) (world.queues index) (ran index)

theorem not_hasWork_empty (noItems : queue.items = [])
    (noCount : queue.droppedCount = 0) : ¬queue.HasWork := by
  rintro (items | count)
  · exact items noItems
  · exact count noCount

theorem cleared_hasWork (work : (clearQueueSummaryState queue).HasWork) : queue.HasWork :=
  work.elim Or.inl fun count => absurd rfl count

theorem collected_lastRun {count : Nat} {summary : Bool} :
    (queue.collected count summary).lastRun = queue.lastRun := by
  cases summary <;> rfl

theorem drop_hasWork {count : Nat}
    (work : { queue with items := queue.items.drop count }.HasWork) : queue.HasWork :=
  work.imp_left fun left empty => left (by rw [empty, List.drop_nil])

theorem collected_hasWork {count : Nat} {summary : Bool}
    (work : (queue.collected count summary).HasWork) : queue.HasWork := by
  cases summary with
  | false => exact drop_hasWork work
  | true => exact drop_hasWork (cleared_hasWork work)

theorem tail_hasWork (work : { queue with items := queue.items.tail }.HasWork) : queue.HasWork :=
  work.imp_left fun left empty => left (by rw [empty, List.tail_nil])

theorem applyQueueDropPolicy_lastRun (queue : FollowupQueueState Context) :
    (applyQueueDropPolicy queue).2.lastRun = queue.lastRun := by
  rw [applyQueueDropPolicy]
  split
  · rfl
  · cases queue.dropPolicy <;> rfl

/-- An enqueue that the policy refuses drops nothing. -/
theorem refused_same
    (refused : (applyQueueDropPolicy queue).1 = false) : (applyQueueDropPolicy queue).2 = queue := by
  rw [applyQueueDropPolicy] at refused ⊢
  split at refused
  · cases refused
  next full =>
    rw [if_neg full]
    cases policy : queue.dropPolicy with
    | new => rfl
    | old | summarize =>
      rw [policy] at refused
      cases refused

theorem progressing_start : Progressing (World.start : World Context) fun _ => false where
  lastRun _ _ := not_hasWork_empty rfl rfl
  known _ held := absurd held nofun
  drained _ _ found := absurd found nofun

namespace Progressing

variable {ran : Nat → Bool} (progressing : Progressing world ran)

include progressing

/-- A queue changes, with the drain at work on it. -/
theorem change {index : Nat} (isKnown : index < world.created) {queue : FollowupQueueState Context}
    {drain : Option (Drain Context)} {value : Bool}
    (lastRun : queue.lastRun = none → ¬queue.HasWork)
    (moves : ∀ next, drain = some next → next.Moves (world.current = some index) queue value) :
    Progressing ((world.setQueue index queue).setDrain index drain)
      (Function.update ran index value) where
  lastRun other := by
    change (Function.update world.queues index queue other).lastRun = none →
      ¬(Function.update world.queues index queue other).HasWork
    rcases eq_or_ne other index with rfl | apart
    · rw [Function.update_self]
      exact lastRun
    · rw [Function.update_of_ne apart]
      exact progressing.lastRun other
  known := progressing.known
  drained other next found := by
    change Function.update world.drains index drain other = some next at found
    change other < world.created ∧ next.Moves (world.current = some other)
      (Function.update world.queues index queue other) (Function.update ran index value other)
    rcases eq_or_ne other index with rfl | apart
    · rw [Function.update_self] at found ⊢
      rw [Function.update_self]
      exact ⟨isKnown, moves next found⟩
    · rw [Function.update_of_ne apart] at found ⊢
      rw [Function.update_of_ne apart]
      exact progressing.drained other next found

theorem setDrain {index : Nat} (isKnown : index < world.created) {drain : Option (Drain Context)}
    {value : Bool} (moves : ∀ next, drain = some next →
      next.Moves (world.current = some index) (world.queues index) value) :
    Progressing (world.setDrain index drain) (Function.update ran index value) := by
  have changed := progressing.change isKnown (progressing.lastRun index) moves
  rwa [World.setQueue, Function.update_eq_self] at changed

theorem setQueue (isKnown : index < world.created)
    {queue : FollowupQueueState Context} (lastRun : queue.lastRun = none → ¬queue.HasWork)
    (moves : ∀ drain, world.drains index = some drain →
      drain.Moves (world.current = some index) queue (ran index)) :
    Progressing (world.setQueue index queue) ran := by
  have changed := @change _ world ran progressing index isKnown queue (world.drains index)
    (ran index) lastRun moves
  rwa [World.setDrain, show (world.setQueue index queue).drains = world.drains from rfl,
    Function.update_eq_self, Function.update_eq_self] at changed

/-- A queue loses items or its summary, under a drain that holds to it. -/
theorem shrink (isKnown : index < world.created) {drain : Drain Context}
    (found : world.drains index = some drain) {queue : FollowupQueueState Context}
    (sameRun : queue.lastRun = (world.queues index).lastRun)
    (less : queue.HasWork → (world.queues index).HasWork)
    (moves : drain.Moves (world.current = some index) queue (ran index)) :
    Progressing (world.setQueue index queue) ran := by
  refine progressing.setQueue isKnown (fun unknown work => ?_) fun next isNext => ?_
  · exact progressing.lastRun index (sameRun ▸ unknown) (less work)
  · rw [found] at isNext
    exact Option.some.inj isNext ▸ moves

/-- A queue leaves the map. -/
theorem leave : Progressing { world with current := none } ran where
  lastRun := progressing.lastRun
  known _ held := absurd held nofun
  drained index drain found := by
    obtain ⟨isKnown, moves⟩ := progressing.drained index drain found
    exact ⟨isKnown, moves.transfer (fun held => absurd held nofun) fun held => absurd held nofun⟩

theorem endEmpty (isKnown : index < world.created) (value : Bool) :
    Progressing (world.endEmpty index) (Function.update ran index value) := by
  have ended := @setDrain _ world ran progressing index isKnown none value nofun
  obtain ⟨lastRun, known, drained⟩ := ended.leave
  exact ⟨lastRun, known, drained⟩

/-- A drain that is scheduled begins on the way to a pass. -/
theorem scheduleFollowupDrain : Progressing world.scheduleFollowupDrain ran := by
  rw [World.scheduleFollowupDrain]
  cases held : world.current with
  | none => exact progressing
  | some index =>
    have isKnown := progressing.known index held
    by_cases draining : (world.drains index).isSome
    · simpa only [draining, if_true] using progressing
    by_cases work : world.hasWork index
    · have begun := @setDrain _ world ran progressing index isKnown (some { phase := .debouncing })
        (ran index) fun next isNext => by
          obtain rfl := Option.some.inj isNext
          exact ⟨nofun, fun _ => hasWork_iff.1 work⟩
      rw [Function.update_eq_self] at begun
      simp only [draining, work, if_true, Bool.false_eq_true, if_false]
      exact ⟨begun.lastRun, begun.known, begun.drained⟩
    · have ended := progressing.endEmpty isKnown (ran index)
      rw [Function.update_eq_self] at ended
      simpa only [draining, work, Bool.false_eq_true, if_false] using ended

theorem finishDrain (isKnown : index < world.created) :
    Progressing (world.finishDrain index) (Function.update ran index false) := by
  rw [World.finishDrain]
  split
  · exact (@setDrain _ world ran progressing index isKnown none false nofun).scheduleFollowupDrain
  · exact progressing.endEmpty isKnown false

/-- The next item is run, or there was a run before it. -/
theorem runNextItem (isKnown : index < world.created) {force : Bool}
    {awaited : Awaited} {call : Item Context → RunCall Context}
    (forced : force = true → (world.queues index).items = [] → ran index = true)
    (empty : world.current = some index → (world.queues index).items = [] → ran index = true) :
    Progressing (world.runNextItem index force awaited call) (Function.update ran index
      (ran index || world.runs.length < (world.runNextItem index force awaited call).runs.length)) := by
  rw [World.runNextItem]
  cases items : (world.queues index).items with
  | nil =>
    refine progressing.setDrain isKnown fun next isNext => ?_
    obtain rfl := Option.some.inj isNext
    exact ⟨fun isForced => Bool.or_eq_true_iff.2 (Or.inl (forced isForced items)),
      fun held => Bool.or_eq_true_iff.2 (Or.inl (empty held items))⟩
  | cons item rest =>
    have passed : Progressing (world.pass (call item)) ran :=
      ⟨progressing.lastRun, progressing.known, progressing.drained⟩
    have grown : decide (world.runs.length < (world.runs ++ [call item]).length) = true := by
      simp
    refine passed.setDrain isKnown fun next isNext => ?_
    obtain rfl := Option.some.inj isNext
    have hasRun := Bool.or_eq_true_iff.2 (@Or.inr (ran index = true) _ grown)
    exact ⟨fun _ => hasRun, hasRun⟩

end Progressing

/-! ### The steps of a drain -/

/-- A step that ends no activation keeps count of the runs a drain has started. -/
def ranWake (world next : World Context) (ran : Nat → Bool) (index : Nat) : Nat → Bool :=
  Function.update ran index (ran index || world.runs.length < next.runs.length)

theorem previewQueueSummaryPrompt_isSome {summary : String}
    (preview : previewQueueSummaryPrompt queue = some summary) : queue.droppedCount ≠ 0 := by
  intro none
  rw [previewQueueSummaryPrompt, if_pos (by simp [none])] at preview
  cases preview

namespace Progressing

variable {ran : Nat → Bool} (progressing : Progressing world ran)
variable {force : Bool} {next : World Context}

include progressing

theorem continueDrain (isKnown : index < world.created) (forced : force = true → ran index = true) :
    Progressing (world.continueDrain index force)
      (if world.hasWork index then ran else Function.update ran index false) := by
  rw [World.continueDrain]
  split
  next work =>
    have begun := @setDrain _ world ran progressing index isKnown
      (some { phase := .debouncing, forceIndividualCollect := force }) (ran index)
      fun next isNext => by
        obtain rfl := Option.some.inj isNext
        exact ⟨forced, fun _ => hasWork_iff.1 work⟩
    rwa [Function.update_eq_self] at begun
  · exact progressing.finishDrain isKnown

/-- A pass outside the collect mode has what its summary is run with. -/
theorem not_breaksOff (index : Nat) : world.breaksOff index = false := by
  rw [← Bool.not_eq_true, World.breaksOff]
  intro breaks
  rw [Bool.and_eq_true, Bool.and_eq_true, Option.isNone_iff_eq_none, Option.isSome_iff_exists]
    at breaks
  obtain ⟨⟨-, summary, preview⟩, unknown⟩ := breaks
  exact progressing.lastRun index unknown (Or.inr (previewQueueSummaryPrompt_isSome preview))

/-- A pass starts a run, or goes on to a helper on the way to one. -/
theorem drainBody (isRoutableChannel : Option String → Bool)
    (isKnown : index < world.created) (forced : force = true → ran index = true)
    (work : world.current = some index → (world.queues index).HasWork)
    (clear : world.current = some index → Stuck (world.queues index) → ran index = true) :
    Progressing (world.drainBody isRoutableChannel index force)
      (ranWake world (world.drainBody isRoutableChannel index force) ran index) := by
  rw [World.drainBody, ranWake]
  split
  next collects =>
    dsimp only
    split
    next single =>
      have alone : (world.queues index).items = [] → ran index = true := by
        intro empty
        rw [empty, List.map_nil, Bool.or_eq_true] at single
        exact single.elim forced fun cross => absurd cross (by decide)
      exact progressing.runNextItem isKnown (fun _ => alone) fun _ => alone
    next batch =>
      refine progressing.setDrain isKnown fun next isNext => ?_
      obtain rfl := Option.some.inj isNext
      exact ⟨fun isForced => Bool.or_eq_true_iff.2 (Or.inl (forced isForced)), work⟩
  next followup =>
    have empty (held : world.current = some index) (empty : (world.queues index).items = []) :
        ran index = true :=
      clear held ⟨followup, empty, (work held).resolve_left (absurd empty)⟩
    cases preview : previewQueueSummaryPrompt (world.queues index) with
    | some summaryPrompt =>
      cases lastRun : (world.queues index).lastRun with
      | none =>
        have breaks := progressing.not_breaksOff index
        simp [World.breaksOff, followup, preview, lastRun] at breaks
      | some run => exact progressing.runNextItem isKnown (fun isForced _ => forced isForced) empty
    | none => exact progressing.runNextItem isKnown (fun isForced _ => forced isForced) empty

/-- A collect pass with nothing to run its items with has none. -/
theorem collect_ends (can : world.cannotCollect index = true) :
    world.collectItems index force = world.finishDrain index ∧ world.hasWork index = false := by
  rw [World.cannotCollect, Option.isNone_iff_eq_none] at can
  refine ⟨by rw [World.collectItems, can], ?_⟩
  rw [Option.or_eq_none_iff] at can
  rw [← Bool.not_eq_true, hasWork_iff]
  exact progressing.lastRun index can.2

/-- A collect pass that has something to run its items with runs them. -/
theorem collectItems (isKnown : index < world.created) (can : world.cannotCollect index = false) :
    Progressing (world.collectItems index force)
      (ranWake world (world.collectItems index force) ran index) := by
  rw [World.collectItems, ranWake]
  rw [World.cannotCollect] at can
  cases known : ((world.queues index).items.getLast?.map fun item => item.run.run).or
      (world.queues index).lastRun with
  | none => simp [known] at can
  | some run =>
    have passed : Progressing (world.pass (World.collectCall (world.queues index) run)) ran :=
      ⟨progressing.lastRun, progressing.known, progressing.drained⟩
    refine passed.setDrain isKnown fun next isNext => ?_
    obtain rfl := Option.some.inj isNext
    have grown : (ran index || decide (world.runs.length <
        (world.runs ++ [World.collectCall (world.queues index) run]).length)) = true := by
      simp
    exact ⟨fun _ => grown, grown⟩

/-- A pass ends, and the loop goes on or the activation ends. -/
theorem passEnds (isKnown : index < world.created)
    (forced : force = true → ran index = true) {runs : List (RunCall Context)}
    (noRun : runs = world.runs) :
    Progressing (world.continueDrain index force)
      (match (if world.hasWork index then none else some world).map (index, ·) with
      | some (index, _) => Function.update ran index false
      | none => Function.update ran index
          (ran index || runs.length < (world.continueDrain index force).runs.length)) := by
  have continued := progressing.continueDrain isKnown forced
  subst noRun
  by_cases work : world.hasWork index
  · have same : (world.continueDrain index force).runs = world.runs := by
      rw [World.continueDrain, if_pos work]
      rfl
    rw [if_pos work] at continued ⊢
    simpa [same] using continued
  · rw [if_neg work] at continued ⊢
    exact continued

/-- The run a drain awaits resolves. -/
theorem resolveRun (stepped : world.resolveRun index = some next) :
    Progressing next (ranAfter ⟨world, ran⟩ next (.resolve index)) := by
  cases found : world.drains index with
  | none =>
    rw [World.resolveRun, found] at stepped
    cases stepped
  | some drain =>
    obtain ⟨isKnown, forced, moves⟩ := progressing.drained index drain found
    rw [World.resolveRun, found] at stepped
    change Progressing next (match (world.endOfResolve index).map (index, ·) with
      | some (index, _) => Function.update ran index false
      | none => ran)
    rw [World.endOfResolve, found]
    dsimp only at stepped ⊢
    cases phase : drain.phase with
    | debouncing | collecting | emptied | returned | failed =>
      rw [phase] at stepped
      cases stepped
    | running awaited call =>
      rw [phase] at stepped moves
      have behind (queue : FollowupQueueState Context) :
          drain.Moves (world.current = some index) queue (ran index) := by
        rw [Drain.Moves, phase]
        exact ⟨forced, moves⟩
      have shifted (clearsSummary : Bool) : Progressing ((world.setQueue index
          { world.queues index with items := (world.queues index).items.tail }).setDrain index
          (some { drain with phase := .returned clearsSummary })) ran := by
        have tail : Progressing (world.setQueue index
            { world.queues index with items := (world.queues index).items.tail }) ran :=
          progressing.shrink isKnown found rfl tail_hasWork (behind _)
        have returned := @setDrain _ _ ran tail index isKnown
          (some { drain with phase := .returned clearsSummary }) (ran index) fun next isNext => by
            obtain rfl := Option.some.inj isNext
            exact ⟨forced, moves⟩
        rwa [Function.update_eq_self] at returned
      cases awaited with
      | item =>
        obtain rfl := Option.some.inj stepped
        exact shifted false
      | summary =>
        obtain rfl := Option.some.inj stepped
        exact shifted true
      | collect count summary =>
        obtain rfl := Option.some.inj stepped
        have rest : Progressing
            (world.setQueue index ((world.queues index).collected count summary)) ran :=
          progressing.shrink isKnown found collected_lastRun collected_hasWork (behind _)
        have continued := rest.continueDrain isKnown forced
        by_cases work :
            (world.setQueue index ((world.queues index).collected count summary)).hasWork index
        · rw [if_pos work] at continued
          simp only [if_pos work]
          exact continued
        · rw [if_neg work] at continued
          simp only [if_neg work]
          exact continued

/-- A drain goes on, to the next await or to its end. -/
theorem wake {isRoutableChannel : Option String → Bool}
    (isClear : clear ⟨world, ran⟩ (.wake index) = true)
    (stepped : world.wake isRoutableChannel index = some next) :
    Progressing next (ranAfter ⟨world, ran⟩ next (.wake index)) := by
  cases found : world.drains index with
  | none =>
    rw [World.wake, found] at stepped
    cases stepped
  | some drain =>
    obtain ⟨isKnown, forced, moves⟩ := progressing.drained index drain found
    have guarded (held : world.current = some index) :=
      needsItem_of_clear isClear found held
    rw [World.wake, found] at stepped
    rw [ranAfter, World.endOf, World.endOfWake, found]
    dsimp only at stepped guarded ⊢
    cases phase : drain.phase with
    | debouncing =>
      rw [phase] at stepped moves guarded
      obtain rfl := Option.some.inj stepped
      rw [progressing.not_breaksOff index]
      exact progressing.drainBody isRoutableChannel isKnown forced moves fun held stuck =>
        by simpa [DrainPhase.needsItem] using guarded held stuck
    | collecting =>
      rw [phase] at stepped
      obtain rfl := Option.some.inj stepped
      cases can : world.cannotCollect index with
      | false => exact progressing.collectItems isKnown can
      | true =>
        rw [(progressing.collect_ends can).1]
        exact progressing.finishDrain isKnown
    | emptied =>
      rw [phase] at stepped
      obtain rfl := Option.some.inj stepped
      exact progressing.finishDrain isKnown
    | failed =>
      rw [phase] at stepped
      obtain rfl := Option.some.inj stepped
      exact progressing.finishDrain isKnown
    | running awaited call =>
      rw [phase] at stepped
      cases stepped
    | returned clearsSummary =>
      rw [phase] at stepped moves
      obtain rfl := Option.some.inj stepped
      cases clearsSummary with
      | false => exact progressing.passEnds isKnown forced rfl
      | true =>
        have cleared : Progressing
            (world.setQueue index (clearQueueSummaryState (world.queues index))) ran :=
          progressing.shrink isKnown found rfl cleared_hasWork (by
            rw [Drain.Moves, phase]
            exact ⟨forced, moves⟩)
        exact cleared.passEnds isKnown forced rfl

/-- The run a drain awaits rejects. -/
theorem rejectRun (stepped : world.rejectRun index = some next) : Progressing next ran := by
  cases found : world.drains index with
  | none =>
    rw [World.rejectRun, found] at stepped
    cases stepped
  | some drain =>
    obtain ⟨isKnown, forced, moves⟩ := progressing.drained index drain found
    rw [World.rejectRun, found] at stepped
    dsimp only at stepped
    cases phase : drain.phase with
    | debouncing | collecting | emptied | returned | failed =>
      rw [phase] at stepped
      cases stepped
    | running awaited call =>
      rw [phase] at stepped moves
      obtain rfl := Option.some.inj stepped
      have failed := @setDrain _ world ran progressing index isKnown
        (some { drain with phase := .failed }) (ran index) fun next isNext => by
          obtain rfl := Option.some.inj isNext
          exact ⟨forced, moves⟩
      rwa [Function.update_eq_self] at failed

/-! ### Enqueueing and clearing -/

/-- A queue in the map takes settings or an item. -/
theorem refill (isKnown : index < world.created) (lastRun : queue.lastRun = none → ¬queue.HasWork)
    (more : (world.queues index).HasWork → queue.HasWork) :
    Progressing (world.setQueue index queue) ran :=
  progressing.setQueue isKnown lastRun fun drain found =>
    (progressing.drained index drain found).2.transfer id fun _ => more

/-- The queue of an enqueue is in the map, and nothing is known of it but its settings. -/
theorem getFollowupQueue (settings : QueueSettings) :
    Progressing (world.getFollowupQueue settings).2 ran ∧
      (world.getFollowupQueue settings).1 < (world.getFollowupQueue settings).2.created := by
  rw [World.getFollowupQueue]
  cases held : world.current with
  | some index =>
    have isKnown := progressing.known index held
    exact ⟨progressing.refill isKnown (progressing.lastRun index) id, isKnown⟩
  | none =>
    refine ⟨⟨fun index => ?_, fun index isCurrent => ?_, fun index drain found => ?_⟩,
      Nat.lt_succ_self _⟩
    · change (Function.update world.queues world.created _ index).lastRun = none →
        ¬(Function.update world.queues world.created _ index).HasWork
      rcases eq_or_ne index world.created with rfl | apart
      · rw [Function.update_self]
        exact fun _ => not_hasWork_empty rfl rfl
      · rw [Function.update_of_ne apart]
        exact progressing.lastRun index
    · exact Option.some.inj isCurrent ▸ Nat.lt_succ_self _
    · obtain ⟨isKnown, moves⟩ := progressing.drained index drain found
      have apart : world.created ≠ index := (Nat.ne_of_lt isKnown).symm
      exact ⟨Nat.lt_succ_of_lt isKnown,
        moves.transfer (fun isCurrent => absurd (Option.some.inj isCurrent) apart)
          fun isCurrent => absurd (Option.some.inj isCurrent) apart⟩

theorem acceptItem (isKnown : index < world.created) (known : queue.lastRun ≠ none)
    (run : FollowupRun Context) (dedupeMode : QueueDedupeMode) (runFollowup : Bool) :
    Progressing (world.acceptItem index queue run dedupeMode runFollowup) ran := by
  have accepted (left : FollowupQueueState Context) (known : left.lastRun ≠ none) :
      Progressing (world.setQueue index
        { left with items := left.items ++ [⟨world.accepted, run⟩] }) ran :=
    progressing.refill isKnown (absurd · known) fun _ => Or.inl (by simp)
  obtain ⟨lastRun, known, drained⟩ := accepted (applyQueueDropPolicy queue).2 (by
    rwa [applyQueueDropPolicy_lastRun])
  exact ⟨lastRun, known, drained⟩

theorem enqueueInto (isKnown : index < world.created) (known : queue.lastRun ≠ none)
    (same : queue.HasWork ↔ (world.queues index).HasWork) (run : FollowupRun Context)
    (dedupeMode : QueueDedupeMode) (runFollowup restartIfIdle : Bool) :
    Progressing (world.enqueueInto index queue run dedupeMode runFollowup restartIfIdle).2 ran := by
  have accepting := progressing.acceptItem isKnown known run dedupeMode runFollowup
  rw [World.enqueueInto]
  dsimp only
  split
  next refused =>
    rw [refused_same (by simpa using refused)]
    exact progressing.refill isKnown (absurd · known) same.2
  next accepted =>
    split
    · exact accepting.scheduleFollowupDrain
    · exact accepting

theorem enqueueFollowupRun (run : FollowupRun Context) (settings : QueueSettings)
    (dedupeMode : QueueDedupeMode) (runFollowup restartIfIdle : Bool) :
    Progressing (world.enqueueFollowupRun run settings dedupeMode runFollowup restartIfIdle).2
      ran := by
  obtain ⟨found, isKnown⟩ := progressing.getFollowupQueue settings
  rw [World.enqueueFollowupRun]
  dsimp only
  split
  · exact found
  · refine found.enqueueInto isKnown ?_ ?_ run dedupeMode runFollowup restartIfIdle
    · exact Option.some_ne_none run.run
    · exact Iff.rfl

theorem clearFollowupQueue : Progressing world.clearFollowupQueue ran := by
  rw [World.clearFollowupQueue]
  cases held : world.current with
  | none => exact progressing
  | some index =>
    have isKnown := progressing.known index held
    have left : Progressing (({ world with current := none } : World Context).setQueue index
        { world.queues index with
          items := []
          droppedCount := 0
          summaryLines := []
          counted := []
          lastRun := none }) ran :=
      progressing.leave.setQueue isKnown (fun _ => not_hasWork_empty rfl rfl) fun drain found =>
        (progressing.drained index drain found).2.transfer nofun nofun
    exact ⟨left.lastRun, left.known, left.drained⟩

end Progressing

theorem progressing_step {watched next : Watched Context} {action : Action Context}
    (progressing : Progressing watched.world watched.ran) (isClear : clear watched action = true)
    (stepped : watch isRoutableChannel watched action = some next) :
    Progressing next.world next.ran := by
  obtain ⟨world, taken, rfl⟩ := Option.map_eq_some_iff.1 stepped
  cases action with
  | wake index => exact progressing.wake isClear taken
  | resolve index => exact progressing.resolveRun taken
  | reject index => exact progressing.rejectRun taken
  | enqueue run settings dedupeMode runFollowup restartIfIdle =>
    obtain rfl := Option.some.inj taken
    exact progressing.enqueueFollowupRun run settings dedupeMode runFollowup restartIfIdle
  | clear =>
    obtain rfl := Option.some.inj taken
    exact progressing.clearFollowupQueue
  | schedule =>
    obtain rfl := Option.some.inj taken
    exact progressing.scheduleFollowupDrain
  | forgetCallback | expire key =>
    obtain rfl := Option.some.inj taken
    exact ⟨progressing.lastRun, progressing.known, progressing.drained⟩

/-! ### The end of an activation -/

/-- The activation that is about to begin starts a run, when nothing comes between. -/
def StartsRun (isRoutableChannel : Option String → Bool) (world : World Context) (index : Nat) :
    Prop :=
  ∃ count ≤ 2, ∃ after,
    execute (step isRoutableChannel) world (List.replicate count (.wake index)) = some after ∧
      world.runs.length < after.runs.length

theorem runs_runNextItem {force : Bool} {awaited : Awaited}
    {call : Item Context → RunCall Context} (queued : (world.queues index).items ≠ []) :
    world.runs.length < (world.runNextItem index force awaited call).runs.length := by
  rw [World.runNextItem]
  cases items : (world.queues index).items with
  | nil => exact absurd items queued
  | cons item rest => simp [World.setDrain, World.pass]

theorem runs_collectItems {world : World Context} {index : Nat} {force : Bool}
    (known : (world.queues index).lastRun ≠ none) :
    world.runs.length < (world.collectItems index force).runs.length := by
  obtain ⟨run, isRun⟩ := Option.ne_none_iff_exists'.1 known
  rw [World.collectItems, isRun]
  cases (world.queues index).items.getLast? <;> simp [World.setDrain, World.pass]

theorem setDrain_self {drain : Option (Drain Context)} :
    (world.setDrain index drain).drains index = drain := by
  change Function.update world.drains index drain index = drain
  rw [Function.update_self]

/-- An activation that begins with work it is not stuck with starts a run. -/
theorem startsRun (drains : world.drains index = some { phase := .debouncing })
    (work : (world.queues index).HasWork) (known : (world.queues index).lastRun ≠ none)
    (clear : ¬Stuck (world.queues index)) : StartsRun isRoutableChannel world index := by
  obtain ⟨run, isRun⟩ := Option.ne_none_iff_exists'.1 known
  have woken : step isRoutableChannel world (.wake index) =
      some (world.drainBody isRoutableChannel index false) := by
    rw [step, World.wake, drains]
  have once (grows : world.runs.length <
      (world.drainBody isRoutableChannel index false).runs.length) :
      StartsRun isRoutableChannel world index :=
    ⟨1, by decide, _, by rw [List.replicate_one, execute, woken]; rfl, grows⟩
  by_cases collects : (world.queues index).mode = .collect
  · by_cases isCrossChannel : hasCrossChannelItems ((world.queues index).items.map fun item =>
        resolveCrossChannelKey isRoutableChannel item.run) = true
    · refine once ?_
      rw [World.drainBody, if_pos collects]
      dsimp only
      rw [isCrossChannel, Bool.or_true, if_pos rfl]
      refine runs_runNextItem fun empty => ?_
      rw [empty, List.map_nil] at isCrossChannel
      exact absurd isCrossChannel (by decide)
    · have collecting : world.drainBody isRoutableChannel index false =
          world.setDrain index (some { phase := .collecting }) := by
        rw [World.drainBody, if_pos collects]
        dsimp only
        rw [Bool.false_or, if_neg isCrossChannel]
      have again : step isRoutableChannel (world.setDrain index (some { phase := .collecting }))
          (.wake index) =
          some ((world.setDrain index (some { phase := .collecting })).collectItems index false) := by
        rw [step, World.wake, setDrain_self]
      refine ⟨2, le_refl 2, _, by
        rw [List.replicate_succ, List.replicate_one, execute, woken, collecting, Option.bind_some,
          execute, again]
        rfl, @runs_collectItems _ (world.setDrain index _) index false known⟩
  · have queued : (world.queues index).items ≠ [] := fun empty =>
      clear ⟨collects, empty, work.resolve_left (absurd empty)⟩
    refine once ?_
    rw [World.drainBody, if_neg collects]
    cases preview : previewQueueSummaryPrompt (world.queues index) with
    | some summaryPrompt =>
      rw [isRun]
      exact runs_runNextItem queued
    | none => exact runs_runNextItem queued

/-- Where an activation ends: with nothing left to do, or behind a pass that found no item or a run
that failed. -/
theorem endOf_cases {world next last : World Context} {ran : Nat → Bool} {action : Action Context}
    (progressing : Progressing world ran) (isClear : clear ⟨world, ran⟩ action = true)
    (stepped : step isRoutableChannel world action = some next)
    (ends : world.endOf action = some (index, last)) :
    next = last.finishDrain index ∧ (last.hasWork index = false ∨ last = world ∧
      (world.current = some index → ran index = true ∧ ¬Stuck (world.queues index))) := by
  cases action with
  | wake other =>
    obtain ⟨found, ended, isLast⟩ := Option.map_eq_some_iff.1 ends
    obtain ⟨rfl, rfl⟩ := Prod.mk.inj isLast
    cases isDrain : world.drains other with
    | none =>
      rw [World.endOfWake, isDrain] at ended
      cases ended
    | some drain =>
      obtain ⟨-, -, moves⟩ := progressing.drained other drain isDrain
      have guarded (held : world.current = some other) :=
        needsItem_of_clear isClear isDrain held
      rw [step, World.wake, isDrain] at stepped
      rw [World.endOfWake, isDrain] at ended
      dsimp only at stepped ended guarded
      cases phase : drain.phase with
      | debouncing =>
        rw [phase, progressing.not_breaksOff other] at ended
        cases ended
      | collecting =>
        rw [phase] at stepped ended
        obtain rfl := Option.some.inj stepped
        obtain ⟨can, isFound⟩ := Option.ite_none_right_eq_some.1 ended
        obtain rfl := Option.some.inj isFound
        exact (progressing.collect_ends can).imp_right Or.inl
      | emptied =>
        rw [phase] at stepped ended moves guarded
        obtain rfl := Option.some.inj stepped
        obtain rfl := Option.some.inj ended
        exact ⟨rfl, Or.inr ⟨rfl, fun held => ⟨moves held, fun stuck => nomatch guarded held stuck⟩⟩⟩
      | failed =>
        rw [phase] at stepped ended moves guarded
        obtain rfl := Option.some.inj stepped
        obtain rfl := Option.some.inj ended
        exact ⟨rfl, Or.inr ⟨rfl, fun held => ⟨moves, fun stuck => nomatch guarded held stuck⟩⟩⟩
      | running awaited call =>
        rw [phase] at ended
        cases ended
      | returned clearsSummary =>
        rw [phase] at stepped ended
        obtain rfl := Option.some.inj stepped
        obtain ⟨done, isFound⟩ := Option.ite_none_left_eq_some.1 ended
        obtain rfl := Option.some.inj isFound
        exact ⟨if_neg done, Or.inl (Bool.not_eq_true _ ▸ done)⟩
  | resolve other =>
    obtain ⟨found, ended, isLast⟩ := Option.map_eq_some_iff.1 ends
    obtain ⟨rfl, rfl⟩ := Prod.mk.inj isLast
    cases isDrain : world.drains other with
    | none =>
      rw [World.endOfResolve, isDrain] at ended
      cases ended
    | some drain =>
      rw [step, World.resolveRun, isDrain] at stepped
      rw [World.endOfResolve, isDrain] at ended
      dsimp only at stepped ended
      cases phase : drain.phase with
      | debouncing | collecting | emptied | returned | failed =>
        rw [phase] at ended
        cases ended
      | running awaited call =>
        rw [phase] at stepped ended
        cases awaited with
        | item | summary => cases ended
        | collect count summary =>
          obtain rfl := Option.some.inj stepped
          obtain ⟨done, isFound⟩ := Option.ite_none_left_eq_some.1 ended
          obtain rfl := Option.some.inj isFound
          exact ⟨if_neg done, Or.inl (Bool.not_eq_true _ ▸ done)⟩
  | enqueue | clear | forgetCallback | schedule | expire | reject => cases ends

/-! ### No other end -/

/-- A drain at work stays at work. -/
def StillDraining (index : Nat) (world next : World Context) : Prop :=
  (world.drains index).isSome = true → (next.drains index).isSome = true

namespace StillDraining

variable {other : Nat}
variable {next : World Context} {force : Bool}

theorem setDrain {drain : Option (Drain Context)} (kept : other ≠ index ∨ drain.isSome = true) :
    StillDraining index world (world.setDrain other drain) := by
  intro draining
  change (Function.update world.drains other drain index).isSome = true
  rcases eq_or_ne index other with rfl | apart
  · rw [Function.update_self]
    exact kept.resolve_left fun apart => apart rfl
  · rwa [Function.update_of_ne apart]

theorem scheduleFollowupDrain : StillDraining index world world.scheduleFollowupDrain := by
  rw [World.scheduleFollowupDrain]
  cases held : world.current with
  | none => exact id
  | some other =>
    dsimp only
    split
    · exact id
    next idle =>
      have apart (draining : (world.drains index).isSome = true) : other ≠ index :=
        fun same => idle (same ▸ draining)
      split
      · exact fun draining => @setDrain _ world index other _ (Or.inr rfl) draining
      · exact fun draining => @setDrain _ world index other none (Or.inl (apart draining)) draining

theorem finishDrain (apart : other ≠ index) :
    StillDraining index world (world.finishDrain other) := by
  intro draining
  have ended : StillDraining index world (world.setDrain other none) := setDrain (Or.inl apart)
  rw [World.finishDrain]
  split
  · exact scheduleFollowupDrain (ended draining)
  · exact ended draining

theorem runNextItem {awaited : Awaited} {call : Item Context → RunCall Context} :
    StillDraining index world (world.runNextItem other force awaited call) := by
  rw [World.runNextItem]
  split
  · exact setDrain (Or.inr rfl)
  · exact @setDrain _ (world.pass (call _)) _ _ _ (Or.inr rfl)

theorem drainBody (goesOn : other ≠ index ∨ world.breaksOff other = false) :
    StillDraining index world (world.drainBody isRoutableChannel other force) := by
  rw [World.drainBody]
  split
  · dsimp only
    split
    · exact runNextItem
    · exact setDrain (Or.inr rfl)
  next followup =>
    cases preview : previewQueueSummaryPrompt (world.queues other) with
    | some summaryPrompt =>
      cases lastRun : (world.queues other).lastRun with
      | none =>
        have breaks : world.breaksOff other = true := by
          simp [World.breaksOff, followup, preview, lastRun]
        exact finishDrain (goesOn.resolve_right (by rw [breaks]; exact nofun))
      | some run => exact runNextItem
    | none => exact runNextItem

theorem collectItems (goesOn : other ≠ index ∨ world.cannotCollect other = false) :
    StillDraining index world (world.collectItems other force) := by
  rw [World.collectItems]
  cases known : ((world.queues other).items.getLast?.map fun item => item.run.run).or
      (world.queues other).lastRun with
  | none =>
    have ends : world.cannotCollect other = true := by simp [World.cannotCollect, known]
    exact finishDrain (goesOn.resolve_right (by rw [ends]; exact nofun))
  | some run => exact @setDrain _ (world.pass _) _ _ _ (Or.inr rfl)

theorem continueDrain (goesOn : other ≠ index ∨ world.hasWork other = true) :
    StillDraining index world (world.continueDrain other force) := by
  rw [World.continueDrain]
  split
  · exact setDrain (Or.inr rfl)
  next ends => exact finishDrain (goesOn.resolve_right ends)

theorem enqueueFollowupRun (run : FollowupRun Context) (settings : QueueSettings)
    (dedupeMode : QueueDedupeMode) (runFollowup restartIfIdle : Bool) :
    StillDraining index world
      (world.enqueueFollowupRun run settings dedupeMode runFollowup restartIfIdle).2 := by
  have found : (world.getFollowupQueue settings).2.drains = world.drains := by
    rw [World.getFollowupQueue]
    split <;> rfl
  intro draining
  rw [← found] at draining
  rw [World.enqueueFollowupRun]
  dsimp only
  split
  · exact draining
  · rw [World.enqueueInto]
    dsimp only
    split
    · exact draining
    · split
      · exact scheduleFollowupDrain draining
      · exact draining

theorem wake (noEnd : other ≠ index ∨ world.endOfWake other = none)
    (stepped : world.wake isRoutableChannel other = some next) :
    StillDraining index world next := by
  cases isDrain : world.drains other with
  | none =>
    rw [World.wake, isDrain] at stepped
    cases stepped
  | some drain =>
    rw [World.wake, isDrain] at stepped
    rw [World.endOfWake, isDrain] at noEnd
    dsimp only at stepped noEnd
    cases phase : drain.phase with
    | debouncing =>
      rw [phase] at stepped noEnd
      obtain rfl := Option.some.inj stepped
      exact drainBody (noEnd.imp_right fun goesOn => by simpa using goesOn)
    | collecting =>
      rw [phase] at stepped noEnd
      obtain rfl := Option.some.inj stepped
      exact collectItems (noEnd.imp_right fun goesOn => by simpa using goesOn)
    | emptied | failed =>
      rw [phase] at stepped noEnd
      obtain rfl := Option.some.inj stepped
      exact finishDrain (noEnd.resolve_right nofun)
    | running awaited call =>
      rw [phase] at stepped
      cases stepped
    | returned clearsSummary =>
      rw [phase] at stepped noEnd
      obtain rfl := Option.some.inj stepped
      have same : (if clearsSummary then
          world.setQueue other (clearQueueSummaryState (world.queues other)) else world).drains =
          world.drains := by
        cases clearsSummary <;> rfl
      intro draining
      rw [← same] at draining
      exact continueDrain (noEnd.imp_right fun goesOn => by simpa using goesOn) draining

theorem resolveRun (noEnd : other ≠ index ∨ world.endOfResolve other = none)
    (stepped : world.resolveRun other = some next) : StillDraining index world next := by
  cases isDrain : world.drains other with
  | none =>
    rw [World.resolveRun, isDrain] at stepped
    cases stepped
  | some drain =>
    rw [World.resolveRun, isDrain] at stepped
    rw [World.endOfResolve, isDrain] at noEnd
    dsimp only at stepped noEnd
    cases phase : drain.phase with
    | debouncing | collecting | emptied | returned | failed =>
      rw [phase] at stepped
      cases stepped
    | running awaited call =>
      rw [phase] at stepped noEnd
      cases awaited with
      | item | summary =>
        obtain rfl := Option.some.inj stepped
        exact @setDrain _ (world.setQueue other _) _ _ _ (Or.inr rfl)
      | collect count summary =>
        obtain rfl := Option.some.inj stepped
        have goesOn : other ≠ index ∨
            (world.setQueue other ((world.queues other).collected count summary)).hasWork other =
              true :=
          noEnd.imp_right fun goesOn => by simpa using goesOn
        exact fun draining => continueDrain goesOn draining

/-- Only where it ends an activation leaves a queue without a drain. -/
theorem step {action : Action Context} (noEnd : ∀ last, world.endOf action ≠ some (index, last))
    (stepped : Reply.step isRoutableChannel world action = some next) :
    StillDraining index world next := by
  cases action with
  | wake other =>
    refine wake ?_ stepped
    cases ended : world.endOfWake other with
    | none => exact Or.inr rfl
    | some last =>
      refine Or.inl fun same => noEnd last ?_
      rw [World.endOf, ended, same, Option.map_some]
  | resolve other =>
    refine resolveRun ?_ stepped
    cases ended : world.endOfResolve other with
    | none => exact Or.inr rfl
    | some last =>
      refine Or.inl fun same => noEnd last ?_
      rw [World.endOf, ended, same, Option.map_some]
  | reject other =>
    rw [Reply.step, World.rejectRun] at stepped
    split at stepped
    · cases stepped
    · split at stepped
      · obtain rfl := Option.some.inj stepped
        exact setDrain (Or.inr rfl)
      · cases stepped
  | enqueue run settings dedupeMode runFollowup restartIfIdle =>
    obtain rfl := Option.some.inj stepped
    exact enqueueFollowupRun run settings dedupeMode runFollowup restartIfIdle
  | clear =>
    obtain rfl := Option.some.inj stepped
    intro draining
    rw [World.clearFollowupQueue]
    split <;> exact draining
  | schedule =>
    obtain rfl := Option.some.inj stepped
    exact scheduleFollowupDrain
  | forgetCallback | expire key =>
    obtain rfl := Option.some.inj stepped
    exact id

end StillDraining

/-! ### Behind an end -/

/-- A drain that ends with work left in the map is scheduled again. -/
theorem finishDrain_again {world : World Context} {index : Nat}
    (held : world.current = some index) (work : world.hasWork index = true) :
    world.finishDrain index =
      { world.setDrain index (some { phase := .debouncing }) with callback := true } := by
  have idle : ((world.setDrain index none).drains index).isSome = false := by
    rw [setDrain_self]
    rfl
  rw [World.finishDrain, if_pos work, World.scheduleFollowupDrain,
    show (world.setDrain index none).current = some index from held]
  dsimp only
  rw [idle, show (world.setDrain index none).hasWork index = true from work]
  simp [World.setDrain]

theorem finishDrain_done (done : world.hasWork index = false) :
    (world.finishDrain index).current = none := by
  rw [World.finishDrain, done]
  rfl

theorem finishDrain_current {index other : Nat}
    (held : (world.finishDrain index).current = some other) : world.current = some other := by
  rw [World.finishDrain] at held
  split at held
  · rw [World.scheduleFollowupDrain] at held
    split at held
    · exact held
    · split at held
      · exact held
      · split at held
        · exact held
        · cases held
  · cases held

/-! ### A stuck drain -/

/-- The two wakes of an activation that finds its queue stuck: it finds no item, and schedules the
drain again. -/
theorem stuck_spins {isRoutableChannel : Option String → Bool} {world : World Context} {index : Nat}
    (held : world.current = some index) (remembered : world.callback = true)
    (drains : world.drains index = some { phase := .debouncing })
    (known : (world.queues index).lastRun ≠ none) (stuck : Stuck (world.queues index)) :
    step isRoutableChannel world (.wake index) =
        some (world.setDrain index (some { phase := .emptied })) ∧
      step isRoutableChannel (world.setDrain index (some { phase := .emptied })) (.wake index) =
        some world := by
  obtain ⟨followup, empty, count⟩ := stuck
  obtain ⟨run, isRun⟩ := Option.ne_none_iff_exists'.1 known
  have noItem (awaited : Awaited) (call : Item Context → RunCall Context) :
      world.runNextItem index false awaited call =
        world.setDrain index (some { phase := .emptied }) := by
    rw [World.runNextItem, empty]
  constructor
  · rw [step, World.wake, drains]
    dsimp only
    rw [World.drainBody, if_neg followup]
    cases previewQueueSummaryPrompt (world.queues index) with
    | some summaryPrompt =>
      rw [isRun]
      exact congrArg some (noItem .summary _)
    | none => exact congrArg some (noItem .item _)
  · have work : world.hasWork index = true := hasWork_iff.2 (Or.inr count)
    have again : (world.setDrain index (some { phase := .emptied })).finishDrain index = world := by
      rw [@finishDrain_again _ (world.setDrain index (some { phase := .emptied })) index held work,
        World.setDrain, World.setDrain]
      dsimp only
      rw [Function.update_idem, ← drains, Function.update_eq_self, ← remembered]
    rw [step, World.wake, setDrain_self]
    exact congrArg some again

/-- So the activation starts no run, and neither does any behind it. -/
theorem not_startsRun_of_stuck
    (held : world.current = some index) (remembered : world.callback = true)
    (drains : world.drains index = some { phase := .debouncing })
    (known : (world.queues index).lastRun ≠ none) (stuck : Stuck (world.queues index)) :
    ¬StartsRun isRoutableChannel world index := by
  obtain ⟨first, second⟩ :=
    @stuck_spins _ isRoutableChannel world index held remembered drains known stuck
  rintro ⟨count, few, after, ran, more⟩
  match count, few with
  | 0, _ =>
    obtain rfl := Option.some.inj ran
    exact Nat.lt_irrefl _ more
  | 1, _ =>
    rw [List.replicate_one, execute, first] at ran
    obtain rfl := Option.some.inj ran
    exact Nat.lt_irrefl _ more
  | 2, _ =>
    rw [List.replicate_succ, List.replicate_one, execute, first, Option.bind_some, execute,
      second] at ran
    obtain rfl := Option.some.inj ran
    exact Nat.lt_irrefl _ more

/-- In every run in which no drain finds its queue stuck, an activation that ends has started a run
or leaves its queue out of the map, and one that is scheduled behind it starts a run. Nothing else
ends an activation. -/
theorem drain_makes_progress (isRoutableChannel : Option String → Bool)
    {actions : List (Action Context)} {watched : Watched Context}
    (run : Steps (watch isRoutableChannel) (clear · · = true) ⟨World.start, fun _ => false⟩ actions watched)
    {action : Action Context} {next : Watched Context} (isClear : clear watched action = true)
    (stepped : watch isRoutableChannel watched action = some next) :
    (∀ index last, watched.world.endOf action = some (index, last) →
      next.world = last.finishDrain index ∧
        (watched.ran index = true ∨ next.world.current ≠ some index) ∧
        (next.world.current = some index → StartsRun isRoutableChannel next.world index)) ∧
      ∀ index, (∀ last, watched.world.endOf action ≠ some (index, last)) →
        StillDraining index watched.world next.world := by
  have progressing : Progressing watched.world watched.ran :=
    run.invariant (fun _ _ _ progressing isClear stepped =>
      progressing_step progressing isClear stepped) progressing_start
  obtain ⟨world, taken, rfl⟩ := Option.map_eq_some_iff.1 stepped
  refine ⟨fun index last ends => ?_, fun index noEnd => StillDraining.step noEnd taken⟩
  obtain ⟨rfl, behind⟩ := endOf_cases progressing isClear taken ends
  refine ⟨rfl, ?_⟩
  cases work : last.hasWork index with
  | false =>
    have left := finishDrain_done work
    exact ⟨Or.inr (by rw [left]; exact nofun), fun held => by rw [left] at held; cases held⟩
  | true =>
    obtain ⟨rfl, inMap⟩ := behind.resolve_left (by rw [work]; exact nofun)
    by_cases held : watched.world.current = some index
    · obtain ⟨ran, apart⟩ := inMap held
      refine ⟨Or.inl ran, fun _ => ?_⟩
      rw [finishDrain_again held work]
      exact startsRun setDrain_self (hasWork_iff.1 work)
        (fun unknown => progressing.lastRun index unknown (hasWork_iff.1 work)) apart
    · exact ⟨Or.inr fun still => held (finishDrain_current still),
        fun still => absurd (finishDrain_current still) held⟩

/-! ### A drain that makes progress, and one that spins -/

def enqueueCapped (prompt : String) (cap : Nat) : Action Unit :=
  .enqueue { prompt, run := () } { mode := .followup, cap := some cap, dropPolicy := some .summarize }
    .none true true

/-- Two items are run one after the other; the drain is about to find nothing left. -/
def keptUp : List (Action Unit) :=
  [enqueueCapped "a" 2, .wake 0, enqueueCapped "b" 2, .resolve 0, .wake 0, .wake 0, .resolve 0]

theorem keptUp_makes_progress :
    ∃ watched next : Watched Unit,
      Steps (watch fun _ => false) (clear · · = true) ⟨World.start, fun _ => false⟩ keptUp watched ∧
        watch (fun _ => false) watched (.wake 0) = some next ∧ watched.ran 0 = true ∧
      (∀ index last, watched.world.endOf (.wake 0) = some (index, last) →
        next.world = last.finishDrain index ∧
          (watched.ran index = true ∨ next.world.current ≠ some index) ∧
          (next.world.current = some index → StartsRun (fun _ => false) next.world index)) ∧
        ∀ index, (∀ last, watched.world.endOf (.wake 0) ≠ some (index, last)) →
          StillDraining index watched.world next.world := by
  have evaluated : (executeUnder (watch fun _ => false) clear
      (⟨World.start, fun _ => false⟩ : Watched Unit) keptUp).any (fun watched =>
        clear watched (.wake 0) && watched.ran 0 &&
          (watch (fun _ => false) watched (.wake 0)).isSome) = true := by
    decide +kernel
  obtain ⟨watched, ran, shows⟩ := (Option.any_eq_true _ _).1 evaluated
  rw [Bool.and_eq_true, Bool.and_eq_true, Option.isSome_iff_exists] at shows
  obtain ⟨⟨isClear, started⟩, next, stepped⟩ := shows
  have run := steps_of_executeUnder ran
  exact ⟨watched, next, run, stepped, started,
    drain_makes_progress (fun _ => false) run isClear stepped⟩

/-- A drain that has just been scheduled. -/
def Drain.begins (drain : Drain Context) : Bool :=
  !drain.forceIndividualCollect && drain.phase matches .debouncing

theorem Drain.eq_of_begins (begins : drain.begins = true) :
    drain = { phase := .debouncing } := by
  obtain ⟨phase, force⟩ := drain
  cases phase <;> cases force <;> first | rfl | cases begins

/-- The second item comes while the first is run, and drops it. When the run resolves, the second
item is shifted in its place; an activation ends, and the next one has found no item. -/
def overrun : List (Action Unit) :=
  [enqueueCapped "a" 1, .wake 0, enqueueCapped "b" 1, .resolve 0, .wake 0, .wake 0, .wake 0, .wake 0]

theorem overrun_spins :
    ∃ watched next : Watched Unit, ∃ last,
      Reachable (watch fun _ => false) ⟨World.start, fun _ => false⟩ watched ∧
        watch (fun _ => false) watched (.wake 0) = some next ∧
        watched.world.endOf (.wake 0) = some (0, last) ∧ watched.ran 0 = false ∧
        next.world.current = some 0 ∧ ¬StartsRun (fun _ => false) next.world 0 := by
  have evaluated : (execute (watch fun _ => false)
      (⟨World.start, fun _ => false⟩ : Watched Unit) overrun).any (fun watched =>
        watched.ran 0 = false &&
          ((watched.world.endOf (.wake 0)).any fun (index, _) => index = 0) &&
          (watch (fun _ => false) watched (.wake 0)).any fun next =>
            next.world.current = some 0 && next.world.callback &&
              (next.world.drains 0).any Drain.begins && (next.world.queues 0).lastRun.isSome && Stuck (next.world.queues 0)) = true := by
    decide +kernel
  obtain ⟨watched, ran, shows⟩ := (Option.any_eq_true _ _).1 evaluated
  rw [Bool.and_eq_true, Bool.and_eq_true, decide_eq_true_eq] at shows
  obtain ⟨⟨noRun, ends⟩, again⟩ := shows
  obtain ⟨⟨index, last⟩, isEnd, isZero⟩ := (Option.any_eq_true _ _).1 ends
  obtain rfl : index = 0 := of_decide_eq_true isZero
  obtain ⟨next, stepped, begins⟩ := (Option.any_eq_true _ _).1 again
  simp only [Bool.and_eq_true, decide_eq_true_eq] at begins
  obtain ⟨⟨⟨⟨held, remembered⟩, draining⟩, known⟩, stuck⟩ := begins
  obtain ⟨drain, found, isNew⟩ := (Option.any_eq_true _ _).1 draining
  rw [Drain.eq_of_begins isNew] at found
  exact ⟨watched, next, last, reachable_of_execute ran, stepped, isEnd, noRun, held,
    not_startsRun_of_stuck held remembered found (Option.isSome_iff_ne_none.1 known) stuck⟩

end OpenClaw.Reply
