/-
This file is the state the two registries run in.

`task-registry.ts` and `task-flow-registry.ts` keep their data in module-level
maps and call each other, so there is one state for both: the task map with its
delivery states, the four lookup indexes and the set of tasks whose delivery is
pending, and the flow map. Beside them stand the sends that are awaiting and
the part of the host a synchronous section talks to: whether each of its next
calls into a store or an event queue throws, what the clock reads, and what has
been handed to a channel or a session so far.
-/

import OpenClaw.Base.Sync
import OpenClaw.Base.KeyedIndex
import OpenClaw.Tasks.Types

namespace OpenClaw.Tasks

open Text

/-- The functions the registries call that depend on the registered channel plugins and on
the text sanitiser of the agents. -/
structure Env where
  normalizeMessageChannel : String → Option String
  normalizeAccountId : Option String → Option String
  isDeliverableMessageChannel : String → Bool
  sanitizeTaskStatusText : Option String → Bool → String
  formatTaskStatusTitleText : String → String

/-- The environment of a host with the Telegram plugin alone. -/
def telegramEnv : Env where
  normalizeMessageChannel raw := normalizeOptionalString (some raw)
  normalizeAccountId := normalizeOptionalString
  isDeliverableMessageChannel channel := channel = "telegram"
  sanitizeTaskStatusText text _ := (normalizeOptionalString text).getD ""
  formatTaskStatusTitleText := trim

/-! ### Errors -/

inductive ParentFlowLinkErrorCode
  | scopeKindNotSession | parentFlowNotFound | ownerKeyMismatch | cancelRequested | terminal
  deriving DecidableEq, Repr

inductive TaskError
  /-- A call into a store or an event queue threw. -/
  | host
  /-- `new Error(message)`. -/
  | plain (message : String)
  /-- `ParentFlowLinkError`. -/
  | parentFlowLink (code : ParentFlowLinkErrorCode) (message : String) (flowId : String)
      (status : Option TaskFlowStatus)
  deriving DecidableEq, Repr

/-! ### Deliveries -/

/-- `TaskDeliveryOwner`. -/
structure TaskDeliveryOwner where
  sessionKey : Option String := none
  requesterOrigin : Option DeliveryContext := none
  flowId : Option String := none
  deriving DecidableEq, Repr

/-- What a delivery reports: the end of a task or one event of it. -/
inductive DeliveryKind
  | terminal
  | stateChange (event : TaskEventRecord) (deliveryState : Option TaskDeliveryState)
  deriving DecidableEq, Repr

/-- Where an awaiting delivery stands: before or after `sendMessage` was called. -/
inductive DeliveryStage
  | loading | sending
  deriving DecidableEq, Repr

/-- A delivery that has reached an await, with the values it captured before it. -/
structure Delivery where
  taskId : String
  task : TaskRecord
  kind : DeliveryKind
  owner : TaskDeliveryOwner
  eventText : String
  stage : DeliveryStage
  deriving DecidableEq, Repr

/-- What left the registry: a message handed to a channel, or an event queued for a session. -/
inductive HandOff
  | channel (taskId : String) (idempotencyKey : String) (content : String)
  | session (taskId : String) (sessionKey : String) (contextKey : String) (content : String)
  deriving DecidableEq, Repr

/-! ### The state -/

/-- The host as one synchronous section sees it. An exhausted list of failures means the
remaining calls succeed. -/
structure Host where
  failures : List Bool := []
  clock : List Int := []
  handOffs : List HandOff := []
  deriving DecidableEq, Repr

structure World where
  tasks : OrderedMap String TaskRecord := ∅
  taskDeliveryStates : OrderedMap String TaskDeliveryState := ∅
  taskIdsByRunId : KeyedIndex String String := ∅
  taskIdsByOwnerKey : KeyedIndex String String := ∅
  taskIdsByParentFlowId : KeyedIndex String String := ∅
  taskIdsByRelatedSessionKey : KeyedIndex String String := ∅
  tasksWithPendingDelivery : List String := []
  flows : OrderedMap String TaskFlowRecord := ∅
  inFlight : List Delivery := []
  host : Host := {}

/-- A synchronous section of the registries' code. -/
abbrev Section (Value : Type) : Type := Sync World TaskError Value

/-! ### Talking to the host -/

/-- A call into a store or an event queue. -/
def hostCall : Section Unit := fun world =>
  (if world.host.failures.head? = some true then .error .host else .ok (),
    { world with host := { world.host with failures := world.host.failures.tail } })

/-- `Date.now()`. -/
def dateNow : Section Int := fun world =>
  (.ok (world.host.clock.headD 0),
    { world with host := { world.host with clock := world.host.clock.tail } })

/-- `given ?? Date.now()`. -/
def orNow (given : Option Int) : Section Int :=
  match given with
  | some time => pure time
  | none => dateNow

/-- Records what is handed to a channel or to a session. -/
def handOff (item : HandOff) : Section Unit :=
  Sync.modify fun world =>
    { world with host := { world.host with handOffs := world.host.handOffs ++ [item] } }

/-! ### Delivery contexts -/

/-- `normalizeDeliveryContext`. -/
def normalizeDeliveryContext (env : Env) (context : Option DeliveryContext) :
    Option DeliveryContext :=
  context.bind fun context =>
    let channel := context.channel.map fun raw => (env.normalizeMessageChannel raw).getD (trim raw)
    let recipient := normalizeOptionalString context.to'
    let accountId := env.normalizeAccountId context.accountId
    let threadId := match context.threadId with
      | some (.number number) => some (ThreadId.number number)
      | some (.text text) => (normalizeOptionalString (some text)).map ThreadId.text
      | none => none
    if (nonEmpty channel).isNone && recipient.isNone && (nonEmpty accountId).isNone && threadId.isNone then
      none
    else
      some
        { channel := nonEmpty channel, to' := recipient, accountId := accountId,
          threadId := threadId }

end OpenClaw.Tasks
