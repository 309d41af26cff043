/-
This file is the follow-up queue of one key: `queue/enqueue.ts`, `queue/state.ts`,
`queue/drain.ts` and the helpers of `utils/queue-helpers.ts` they use.

A queue is an object that the map of queues points to until it is cleared or has been
drained; whoever holds the object goes on using it after that. The world therefore keeps
every queue object, which of them the map holds, and the drain at work on each. A drain
sets `draining` as it begins and takes it back as it ends, so the flag of a queue is
whether there is a drain for it.

A drain is cut where it awaits: for the debounce, for the result of a helper, for a run.
What the map and the queues hold may change at each of these points. How long a debounce
takes and whether a run resolves is up to the actions. A ledger, which the code does not
have, says what has become of each accepted item; `counted` is the part of it that goes
with the queue.
-/

import OpenClaw.Base.Steps
import OpenClaw.Shared.Text

namespace OpenClaw.Reply

open Text

/-! ### Runs and items -/

inductive ThreadId
  | number (value : Int)
  | text (value : String)
  deriving DecidableEq, Repr

/-- `FollowupRun`. What the agent run needs beside the prompt is opaque. -/
structure FollowupRun (Context : Type) where
  prompt : String
  messageId : Option String := none
  summaryLine : Option String := none
  originatingChannel : Option String := none
  originatingTo : Option String := none
  originatingAccountId : Option String := none
  originatingThreadId : Option ThreadId := none
  run : Context
  deriving DecidableEq, Repr

/-- An accepted run, with the number it was accepted under. -/
structure Item (Context : Type) where
  serial : Nat
  run : FollowupRun Context
  deriving DecidableEq, Repr

inductive QueueMode
  | steer
  | followup
  | collect
  | steerBacklog
  | interrupt
  | queue
  deriving DecidableEq, Repr

inductive QueueDropPolicy
  | old
  | new
  | summarize
  deriving DecidableEq, Repr

/-- `QueueSettings`. A cap above zero is given by its floor, any other counts as missing. -/
structure QueueSettings where
  mode : QueueMode
  cap : Option Nat := none
  dropPolicy : Option QueueDropPolicy := none
  deriving DecidableEq, Repr

/-- `FollowupQueueState`, without the times that only lengthen the debounce. -/
structure FollowupQueueState (Context : Type) where
  items : List (Item Context) := []
  mode : QueueMode
  cap : Nat := 20
  dropPolicy : QueueDropPolicy := .summarize
  droppedCount : Nat := 0
  summaryLines : List String := []
  lastRun : Option Context := none
  /-- Which items `droppedCount` counts. -/
  counted : List Nat := []

variable {Context : Type}

/-! ### The helpers -/

def applyQueueRuntimeSettings (target : FollowupQueueState Context) (settings : QueueSettings) :
    FollowupQueueState Context :=
  { target with
    mode := settings.mode
    cap := settings.cap.getD target.cap
    dropPolicy := settings.dropPolicy.getD target.dropPolicy }

def clearQueueSummaryState (state : FollowupQueueState Context) : FollowupQueueState Context :=
  { state with droppedCount := 0, summaryLines := [], counted := [] }

/-- `text.length`, in UTF-16 code units. -/
def codeUnits (characters : List Char) : Nat :=
  (characters.map fun character => if character.toNat < 0x10000 then 1 else 2).sum

/-- As many characters as fit in so many code units. -/
def takeUnits : Nat → List Char → List Char
  | _, [] => []
  | limit, character :: rest =>
    let units := if character.toNat < 0x10000 then 1 else 2
    if units ≤ limit then character :: takeUnits (limit - units) rest else []

def elideQueueText (text : String) (limit : Nat) : String :=
  if codeUnits text.toList ≤ limit then text
  else String.ofList ((takeUnits (limit - 1) text.toList).rdropWhile isWhiteSpace ++ ['…'])

def buildQueueSummaryLine (text : String) : String :=
  elideQueueText (trim (collapseWhiteSpace text)) 160

def summarize (item : FollowupRun Context) : String :=
  (normalizeOptionalString item.summaryLine).getD (trim item.prompt)

/-- The items the cap drops from the front when one more is enqueued. -/
def droppedByCap (queue : FollowupQueueState Context) : List (Item Context) :=
  if queue.cap = 0 || queue.items.length < queue.cap then []
  else queue.items.take (queue.items.length - queue.cap + 1)

def applyQueueDropPolicy (queue : FollowupQueueState Context) :
    Bool × FollowupQueueState Context :=
  if queue.cap = 0 || queue.items.length < queue.cap then (true, queue)
  else
    let dropped := droppedByCap queue
    let items := queue.items.drop (queue.items.length - queue.cap + 1)
    match queue.dropPolicy with
    | .new => (false, queue)
    | .old => (true, { queue with items })
    | .summarize =>
      let summaryLines := queue.summaryLines ++
        dropped.map fun item => buildQueueSummaryLine (summarize item.run)
      (true, { queue with
        items
        droppedCount := queue.droppedCount + dropped.length
        counted := queue.counted ++ dropped.map Item.serial
        summaryLines := summaryLines.drop (summaryLines.length - queue.cap) })

/-- `previewQueueSummaryPrompt`, with the noun "message". -/
def previewQueueSummaryPrompt (state : FollowupQueueState Context) : Option String :=
  if state.dropPolicy ≠ .summarize || state.droppedCount = 0 then none
  else
    let title := "[Queue overflow] Dropped " ++ toString state.droppedCount ++ " message" ++
      (if state.droppedCount = 1 then "" else "s") ++ " due to cap."
    some ("\n".intercalate (title ::
      if state.summaryLines.isEmpty then []
      else "Summary:" :: state.summaryLines.map ("- " ++ ·)))

/-- `renderItem` of the collect prompt. -/
def renderItem (item : FollowupRun Context) (index : Nat) : String :=
  trim ("---\nQueued #" ++ toString (index + 1) ++ "\n" ++ item.prompt)

def buildCollectPrompt (items : List (FollowupRun Context)) (summary : Option String) : String :=
  "\n\n".intercalate (["[Queued messages while agent was busy]"] ++
    (nonEmpty summary).toList ++ items.zipIdx.map fun (item, index) => renderItem item index)

/-! ### Routing -/

def ThreadId.render : ThreadId → String
  | .number value => toString value
  | .text value => value

/-- A thread id that is there and not empty. -/
def presentThreadId (threadId : Option ThreadId) : Option ThreadId :=
  threadId.filter (· ≠ .text "")

/-- `resolveOriginRoutingMetadata`, on the run it is spread into. -/
def withOriginRouting (items : List (FollowupRun Context)) (run : FollowupRun Context) :
    FollowupRun Context :=
  { run with
    originatingChannel := items.findSome? fun item => nonEmpty item.originatingChannel
    originatingTo := items.findSome? fun item => nonEmpty item.originatingTo
    originatingAccountId := items.findSome? fun item => nonEmpty item.originatingAccountId
    originatingThreadId := items.findSome? fun item => presentThreadId item.originatingThreadId }

inductive CrossChannelKey
  | unkeyed
  | cross
  | keyed (key : String)
  deriving DecidableEq, Repr

def resolveCrossChannelKey (isRoutableChannel : Option String → Bool)
    (item : FollowupRun Context) : CrossChannelKey :=
  let channel := nonEmpty item.originatingChannel
  let recipient := nonEmpty item.originatingTo
  let accountId := nonEmpty item.originatingAccountId
  let threadId := presentThreadId item.originatingThreadId
  if channel.isNone && recipient.isNone && accountId.isNone && threadId.isNone then .unkeyed
  else if !isRoutableChannel item.originatingChannel || recipient.isNone then .cross
  else .keyed ("|".intercalate [item.originatingChannel.getD "", recipient.getD "",
    accountId.getD "", (threadId.map ThreadId.render).getD ""])

def hasCrossChannelItems (keys : List CrossChannelKey) : Bool :=
  if keys.contains .cross then true
  else
    let keyed := (keys.filter (· ≠ .unkeyed)).eraseDups
    if keyed.isEmpty then false
    else if keys.contains .unkeyed then true
    else 1 < keyed.length

/-! ### Deduplication -/

inductive QueueDedupeMode
  | messageId
  | prompt
  | none
  deriving DecidableEq, Repr

/-- `buildRecentMessageIdKey`, as the tuple it serialises. -/
def buildRecentMessageIdKey (run : FollowupRun Context) : Option (List String) :=
  (normalizeOptionalString run.messageId).map fun messageId =>
    [run.originatingChannel.getD "", run.originatingTo.getD "", run.originatingAccountId.getD "",
      (run.originatingThreadId.map ThreadId.render).getD "", messageId]

def hasSameRouting (item run : FollowupRun Context) : Bool :=
  item.originatingChannel = run.originatingChannel && item.originatingTo = run.originatingTo &&
    item.originatingAccountId = run.originatingAccountId &&
    item.originatingThreadId = run.originatingThreadId

def isRunAlreadyQueued (run : FollowupRun Context) (items : List (FollowupRun Context))
    (allowPromptFallback : Bool) : Bool :=
  match normalizeOptionalString run.messageId with
  | some messageId => items.any fun item =>
      normalizeOptionalString item.messageId = some messageId && hasSameRouting item run
  | none =>
    if allowPromptFallback then
      items.any fun item => item.prompt = run.prompt && hasSameRouting item run
    else false

/-! ### Worlds -/

/-- A call of the run callback: what it is given, the items whose prompts that holds and the
dropped items whose count it reports. -/
structure RunCall (Context : Type) where
  run : FollowupRun Context
  carried : List (Item Context)
  summarized : List Nat

/-- What a drain does when the run it awaits resolves. -/
inductive Awaited
  /-- `items.shift()`, in `drainNextQueueItem`. -/
  | item
  /-- The same, in the branch that runs the summary and then forgets it. -/
  | summary
  /-- `items.splice(0, count)`, and the summary forgotten when there was one. -/
  | collect (count : Nat) (summary : Bool)
  deriving DecidableEq, Repr

inductive DrainPhase (Context : Type)
  | debouncing
  /-- `drainCollectQueueStep` has returned "skipped". -/
  | collecting
  /-- There was no next item. -/
  | emptied
  | running (awaited : Awaited) (call : RunCall Context)
  /-- `drainNextQueueItem` has shifted its item. -/
  | returned (clearsSummary : Bool)
  | failed

structure Drain (Context : Type) where
  phase : DrainPhase Context
  forceIndividualCollect : Bool := false

structure World (Context : Type) where
  queues : Nat → FollowupQueueState Context
  created : Nat := 0
  /-- The queue the map holds under the key. -/
  current : Option Nat := none
  drains : Nat → Option (Drain Context) := fun _ => none
  /-- Whether a run callback is remembered. -/
  callback : Bool := false
  recentMessageIds : List (List String) := []
  accepted : Nat := 0
  runs : List (RunCall Context) := []
  droppedOld : List Nat := []
  cleared : List Nat := []

def World.start : World Context where
  queues _ := { mode := .followup }

namespace World

variable (world : World Context)

def setQueue (index : Nat) (queue : FollowupQueueState Context) : World Context :=
  { world with queues := Function.update world.queues index queue }

def setDrain (index : Nat) (drain : Option (Drain Context)) : World Context :=
  { world with drains := Function.update world.drains index drain }

def pass (call : RunCall Context) : World Context := { world with runs := world.runs ++ [call] }

/-! ### Draining -/

/-- The condition of the drain's loop. -/
def hasWork (index : Nat) : Bool :=
  !(world.queues index).items.isEmpty || (world.queues index).droppedCount ≠ 0

/-- The end of a drain that leaves its queue empty: the key leaves the map, whatever it holds. -/
def endEmpty (index : Nat) : World Context :=
  { world.setDrain index none with current := none, callback := false }

/-- `scheduleFollowupDrain`, up to the first await of the drain it begins. -/
def scheduleFollowupDrain : World Context :=
  match world.current with
  | none => world
  | some index =>
    if (world.drains index).isSome then world
    else if world.hasWork index then
      { world.setDrain index (some { phase := .debouncing }) with callback := true }
    else world.endEmpty index

/-- The `finally` block of a drain. -/
def finishDrain (index : Nat) : World Context :=
  if world.hasWork index then (world.setDrain index none).scheduleFollowupDrain
  else world.endEmpty index

/-- The head of the loop: on to the debounce, or out. -/
def continueDrain (index : Nat) (forceIndividualCollect : Bool) : World Context :=
  if world.hasWork index then
    world.setDrain index (some { phase := .debouncing, forceIndividualCollect })
  else world.finishDrain index

/-- `drainNextQueueItem`, up to its await: a run for the first item, if there is one. -/
def runNextItem (index : Nat) (forceIndividualCollect : Bool) (awaited : Awaited)
    (call : Item Context → RunCall Context) : World Context :=
  match (world.queues index).items with
  | [] => world.setDrain index (some { phase := .emptied, forceIndividualCollect })
  | item :: _ =>
    (world.pass (call item)).setDrain index
      (some { phase := .running awaited (call item), forceIndividualCollect })

/-- A run of the item itself. -/
def itemCall (item : Item Context) : RunCall Context :=
  { run := item.run, carried := [item], summarized := [] }

/-- A run of the summary, routed like the item it is run for. -/
def summaryCall (queue : FollowupQueueState Context) (summaryPrompt : String) (run : Context)
    (item : Item Context) : RunCall Context where
  run := { item.run with prompt := summaryPrompt, run, messageId := none, summaryLine := none }
  carried := []
  summarized := queue.counted

/-- A run of everything that is queued. -/
def collectCall (queue : FollowupQueueState Context) (run : Context) : RunCall Context where
  run := withOriginRouting (queue.items.map Item.run) {
    prompt := buildCollectPrompt (queue.items.map Item.run) (previewQueueSummaryPrompt queue)
    run }
  carried := queue.items
  summarized := if (previewQueueSummaryPrompt queue).isSome then queue.counted else []

/-- The body of the loop, after the debounce and up to the next await. -/
def drainBody (isRoutableChannel : Option String → Bool) (index : Nat)
    (forceIndividualCollect : Bool) : World Context :=
  let queue := world.queues index
  if queue.mode = .collect then
    let isCrossChannel := hasCrossChannelItems
      (queue.items.map fun item => resolveCrossChannelKey isRoutableChannel item.run)
    if forceIndividualCollect || isCrossChannel then
      world.runNextItem index true .item itemCall
    else world.setDrain index (some { phase := .collecting, forceIndividualCollect })
  else match previewQueueSummaryPrompt queue with
    | some summaryPrompt =>
      match queue.lastRun with
      | none => world.finishDrain index
      | some run =>
        world.runNextItem index forceIndividualCollect .summary
          (summaryCall queue summaryPrompt run)
    | none => world.runNextItem index forceIndividualCollect .item itemCall

/-- The collect branch, from the slice of the items on. -/
def collectItems (index : Nat) (forceIndividualCollect : Bool) : World Context :=
  let queue := world.queues index
  match (queue.items.getLast?.map fun item => item.run.run).or queue.lastRun with
  | none => world.finishDrain index
  | some run =>
    (world.pass (collectCall queue run)).setDrain index (some {
      phase := .running (.collect queue.items.length (previewQueueSummaryPrompt queue).isSome)
        (collectCall queue run)
      forceIndividualCollect })

/-- A drain goes on from an await of the debounce or of a helper. -/
def wake (isRoutableChannel : Option String → Bool) (index : Nat) : Option (World Context) :=
  match world.drains index with
  | none => none
  | some drain =>
    match drain.phase with
    | .debouncing => some (world.drainBody isRoutableChannel index drain.forceIndividualCollect)
    | .collecting => some (world.collectItems index drain.forceIndividualCollect)
    | .emptied => some (world.finishDrain index)
    | .returned clearsSummary =>
      let world := if clearsSummary then
          world.setQueue index (clearQueueSummaryState (world.queues index))
        else world
      some (world.continueDrain index drain.forceIndividualCollect)
    | .failed => some (world.finishDrain index)
    | .running .. => none

/-- The run a drain awaits resolves. -/
def resolveRun (index : Nat) : Option (World Context) :=
  match world.drains index with
  | none => none
  | some drain =>
    match drain.phase with
    | .running awaited _ =>
      let queue := world.queues index
      match awaited with
      | .item =>
        some ((world.setQueue index { queue with items := queue.items.tail }).setDrain index
          (some { drain with phase := .returned false }))
      | .summary =>
        some ((world.setQueue index { queue with items := queue.items.tail }).setDrain index
          (some { drain with phase := .returned true }))
      | .collect count summary =>
        let rest := { queue with items := queue.items.drop count }
        some ((world.setQueue index
          (if summary then clearQueueSummaryState rest else rest)).continueDrain
          index drain.forceIndividualCollect)
    | _ => none

/-- The run a drain awaits rejects: the error goes up to the drain's `catch`. -/
def rejectRun (index : Nat) : Option (World Context) :=
  match world.drains index with
  | none => none
  | some drain =>
    match drain.phase with
    | .running .. => some (world.setDrain index (some { drain with phase := .failed }))
    | _ => none

/-! ### Enqueueing and clearing -/

/-- `getFollowupQueue`: the queue in the map, with the settings applied. -/
def getFollowupQueue (settings : QueueSettings) : Nat × World Context :=
  match world.current with
  | some index =>
    (index, world.setQueue index (applyQueueRuntimeSettings (world.queues index) settings))
  | none =>
    (world.created, { world.setQueue world.created
        (applyQueueRuntimeSettings { mode := settings.mode } settings) with
      created := world.created + 1
      current := some world.created })

/-- Whether an enqueue is refused as a duplicate. -/
def refusesDuplicate (index : Nat) (run : FollowupRun Context) (dedupeMode : QueueDedupeMode) :
    Bool :=
  dedupeMode ≠ .none &&
    ((buildRecentMessageIdKey run).any world.recentMessageIds.contains ||
      isRunAlreadyQueued run ((world.queues index).items.map Item.run) (dedupeMode = .prompt))

/-- The run is pushed behind what the cap has left of the queue. -/
def acceptItem (index : Nat) (queue : FollowupQueueState Context) (run : FollowupRun Context)
    (dedupeMode : QueueDedupeMode) (runFollowup : Bool) : World Context :=
  let left := (applyQueueDropPolicy queue).2
  { world.setQueue index { left with items := left.items ++ [⟨world.accepted, run⟩] } with
    accepted := world.accepted + 1
    droppedOld := world.droppedOld ++
      if queue.dropPolicy = .old then (droppedByCap queue).map Item.serial else []
    recentMessageIds := if dedupeMode = .none then world.recentMessageIds
      else (buildRecentMessageIdKey run).toList ++ world.recentMessageIds
    callback := world.callback || runFollowup }

/-- The end of `enqueueFollowupRun`, for a run that is not refused as a duplicate. -/
def enqueueInto (index : Nat) (queue : FollowupQueueState Context) (run : FollowupRun Context)
    (dedupeMode : QueueDedupeMode) (runFollowup restartIfIdle : Bool) : Bool × World Context :=
  let (shouldEnqueue, left) := applyQueueDropPolicy queue
  if !shouldEnqueue then (false, world.setQueue index left)
  else
    let accepting := world.acceptItem index queue run dedupeMode runFollowup
    (true, if restartIfIdle && (accepting.drains index).isNone && accepting.callback then
        accepting.scheduleFollowupDrain
      else accepting)

/-- `enqueueFollowupRun`. -/
def enqueueFollowupRun (run : FollowupRun Context) (settings : QueueSettings)
    (dedupeMode : QueueDedupeMode) (runFollowup restartIfIdle : Bool) : Bool × World Context :=
  let (index, world) := world.getFollowupQueue settings
  if world.refusesDuplicate index run dedupeMode then (false, world)
  else
    world.enqueueInto index { world.queues index with lastRun := some run.run } run dedupeMode
      runFollowup restartIfIdle

/-- `clearFollowupQueue`. -/
def clearFollowupQueue : World Context :=
  match world.current with
  | none => world
  | some index =>
    let queue := world.queues index
    { world.setQueue index { queue with
        items := []
        droppedCount := 0
        summaryLines := []
        counted := []
        lastRun := none } with
      current := none
      cleared := world.cleared ++ queue.items.map Item.serial ++ queue.counted }

end World

/-! ### The machine -/

inductive Action (Context : Type)
  | enqueue (run : FollowupRun Context) (settings : QueueSettings) (dedupeMode : QueueDedupeMode)
      (runFollowup restartIfIdle : Bool)
  | clear
  /-- `clearFollowupDrainCallback`. -/
  | forgetCallback
  | schedule
  /-- A recent message id expires. -/
  | expire (key : List String)
  | wake (index : Nat)
  | resolve (index : Nat)
  | reject (index : Nat)

def step (isRoutableChannel : Option String → Bool) (world : World Context) :
    Action Context → Option (World Context)
  | .enqueue run settings dedupeMode runFollowup restartIfIdle =>
    some (world.enqueueFollowupRun run settings dedupeMode runFollowup restartIfIdle).2
  | .clear => some world.clearFollowupQueue
  | .forgetCallback => some { world with callback := false }
  | .schedule => some world.scheduleFollowupDrain
  | .expire key => some { world with recentMessageIds := world.recentMessageIds.erase key }
  | .wake index => world.wake isRoutableChannel index
  | .resolve index => world.resolveRun index
  | .reject index => world.rejectRun index

end OpenClaw.Reply
