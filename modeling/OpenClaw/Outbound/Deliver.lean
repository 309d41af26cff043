/-
This file is `deliver.ts` and the `drainQueuedEntry` of `delivery-queue-recovery.ts`:
the channel sends of a queue entry, and what becomes of the entry after them.

The outside world answers one question after the other: whether the delivery has
been aborted, what a hook makes of a payload, how a channel send ends. `Outside` is
a table of these answers by the number of questions asked before, so that every
course of the sends is one `Outside`. File calls succeed here; what happens to them
in between is the subject of the queue's own machine.
-/

import OpenClaw.Base.Sync
import OpenClaw.Outbound.QueueRecovery

namespace OpenClaw.Outbound

open Text

/-! ### The outside world -/

/-- A thrown error. `isAbort` says whether its name is `AbortError`. -/
structure DeliveryError where
  message : String
  isAbort : Bool := false
  deriving DecidableEq, Repr

/-- What `throwIfAborted` throws. -/
def abortError : DeliveryError := { message := "Operation aborted", isAbort := true }

/-- What a `message_sending` hook makes of a payload. A hook that throws leaves it as it is. -/
inductive HookAnswer
  | keep
  | cancel
  | replace (content : String)
  deriving DecidableEq, Repr

/-- The calls of a channel's outbound adapter that send one message. -/
inductive SendCall
  | payload (payload : ReplyPayload)
  | text (text : String)
  | formattedMedia (caption mediaUrl : String)
  | media (caption mediaUrl : String)
  deriving DecidableEq, Repr

inductive ChunkMode
  | length
  | newline
  deriving DecidableEq, Repr

/-- What `createChannelHandler` returns, with the text limit and the chunk mode of its channel.
`blockChunks` cuts a text at its paragraphs, `normalizePayloads` is
`normalizePayloadsForChannelDelivery`. -/
structure ChannelHandler where
  chunker : Option (String → Nat → List String) := none
  textLimit : Option Nat := none
  chunkMode : ChunkMode := .length
  blockChunks : String → Nat → List String := fun text _ => [text]
  normalizePayloads : List ReplyPayload → List ReplyPayload := id
  supportsMedia : Bool := true
  sendPayload : Bool := false
  sendFormattedText : Bool := false
  sendFormattedMedia : Bool := false

structure Outside where
  /-- The outcome of `createChannelHandler`. -/
  handler : Except DeliveryError ChannelHandler
  aborted : Nat → Bool
  hook : Nat → ReplyPayload → HookAnswer
  /-- The error the `onPayload` callback throws. -/
  onPayload : Nat → Option DeliveryError
  send : Nat → SendCall → Except DeliveryError String
  sendFormattedText : Nat → String → Except DeliveryError (List String)
  /-- The error the `onError` callback throws. -/
  onError : Nat → Option DeliveryError
  /-- The error `appendAssistantMessageToSessionTranscript` throws. -/
  append : Nat → Option DeliveryError

/-! ### The sends of a delivery -/

/-- What has come of a payload whose turn threw nothing. `sent` is the `success` of its
`message_sent` event. -/
inductive PayloadOutcome
  | cancelled
  | delivered (sent : Bool)
  deriving DecidableEq, Repr

/-- What a delivery has done so far. -/
structure Sends where
  /-- The questions asked of the outside world. -/
  asked : Nat := 0
  /-- The message ids of `results`. -/
  results : List String := []
  /-- The outcomes of the payloads that have had their turn. -/
  outcomes : List (Except DeliveryError PayloadOutcome) := []
  hadPartialFailure : Bool := false

def Sends.note (sends : Sends) (outcome : Except DeliveryError PayloadOutcome) : Sends :=
  { sends with outcomes := sends.outcomes ++ [outcome] }

abbrev Sending := Sync Sends DeliveryError

structure DeliverOutboundPayloadsParams extends QueuedDeliveryPayload where
  /-- Whether the caller supplies `onError`. -/
  onError : Bool := false
  skipQueue : Bool := false

section Sending

variable (outside : Outside)

/-- Numbers the next question to the outside world. -/
def ask : Sending Nat := do
  let sends ← Sync.read
  Sync.modify fun sends => { sends with asked := sends.asked + 1 }
  return sends.asked

def orThrow : Option DeliveryError → Sending Unit
  | some error => Sync.throw error
  | none => return ()

def throwIfAborted : Sending Unit := do
  let turn ← ask
  orThrow (if outside.aborted turn then some abortError else none)

def addResults (messageIds : List String) : Sending Unit :=
  Sync.modify fun sends => { sends with results := sends.results ++ messageIds }

/-- A channel send of one message. -/
def send (call : SendCall) : Sending Unit := do
  let turn ← ask
  match outside.send turn call with
  | .ok messageId => addResults [messageId]
  | .error error => Sync.throw error

def sendFormattedText (text : String) : Sending Unit := do
  let turn ← ask
  match outside.sendFormattedText turn text with
  | .ok messageIds => addResults messageIds
  | .error error => Sync.throw error

/-- The chunks of a text, when the channel cuts texts. -/
def ChannelHandler.chunks (handler : ChannelHandler) (text : String) : Option (List String) :=
  match handler.chunker, handler.textLimit with
  | some chunker, some textLimit =>
    some (match handler.chunkMode with
      | .length => chunker text textLimit
      | .newline =>
        let blocks := handler.blockChunks text textLimit
        (if blocks = [] ∧ text ≠ "" then [text] else blocks).flatMap fun block =>
          let chunks := chunker block textLimit
          if chunks = [] ∧ block ≠ "" then [block] else chunks)
  | _, _ => none

def sendTextChunks (handler : ChannelHandler) (text : String) : Sending Unit := do
  throwIfAborted outside
  match handler.chunks text with
  | none => send outside (.text text)
  | some chunks => Sync.forEach (fun chunk => do
      throwIfAborted outside
      send outside (.text chunk)) chunks

/-- The `send` of `sendMediaWithLeadingCaption`: only the first item carries the caption. -/
def sendMedia (handler : ChannelHandler) (caption mediaUrl : String) : Sending Unit := do
  throwIfAborted outside
  send outside (if handler.sendFormattedMedia then .formattedMedia caption mediaUrl
    else .media caption mediaUrl)

def sendMediaWithLeadingCaption (handler : ChannelHandler) (caption : String) :
    List String → Sending Unit
  | [] => return ()
  | mediaUrl :: rest => do
    sendMedia outside handler caption mediaUrl
    Sync.forEach (sendMedia outside handler "") rest

/-- Text sends, with whether they have added a result. -/
def reportSent (sendsText : Sending Unit) : Sending PayloadOutcome := do
  let before ← Sync.reads fun sends => sends.results.length
  sendsText
  let after ← Sync.reads fun sends => sends.results.length
  return .delivered (decide (before < after))

/-- The sends of a payload that no hook has cancelled. -/
def sendPayload (handler : ChannelHandler) (payload : ReplyPayload) : Sending PayloadOutcome := do
  let turn ← ask
  orThrow (outside.onPayload turn)
  if handler.sendPayload && payload.rich then
    send outside (.payload payload)
    return .delivered true
  else if payload.mediaUrls = [] then
    reportSent (if handler.sendFormattedText then sendFormattedText outside payload.text
      else sendTextChunks outside handler payload.text)
  else if !handler.supportsMedia then
    let fallbackText := trim payload.text
    if fallbackText = "" then
      Sync.throw { message := "Plugin outbound adapter does not implement sendMedia and no text " ++
        "fallback is available for media payload" }
    else reportSent (sendTextChunks outside handler fallbackText)
  else
    sendMediaWithLeadingCaption outside handler payload.text payload.mediaUrls
    return .delivered true

/-- The body of the loop over the payloads, inside its `try`. -/
def attemptPayload (handler : ChannelHandler) (payload : ReplyPayload) : Sending PayloadOutcome :=
    do
  throwIfAborted outside
  let turn ← ask
  match outside.hook turn payload with
  | .cancel => return .cancelled
  | .keep => sendPayload outside handler payload
  | .replace content => sendPayload outside handler { payload with text := content }

/-- The wrapped `onError` notes the failure before it calls the caller's. -/
def reportError : Sending Unit := do
  Sync.modify fun sends => { sends with hadPartialFailure := true }
  let turn ← Sync.reads Sends.asked
  orThrow (outside.onError turn)

def deliverPayload (params : DeliverOutboundPayloadsParams) (handler : ChannelHandler)
    (payload : ReplyPayload) : Sending Unit :=
  Sync.attempt (do
      let outcome ← attemptPayload outside handler payload
      Sync.modify fun sends => sends.note (.ok outcome))
    fun error => do
      Sync.modify fun sends => sends.note (.error error)
      if !params.bestEffort then Sync.throw error
      else if params.onError then reportError outside
      else return ()

/-- Whether `resolveMirroredTranscriptText` finds a text. -/
def OutboundMirror.hasText (mirror : OutboundMirror) : Bool :=
  mirror.mediaUrls.any (fun url => trim url ≠ "") || trim (mirror.text.getD "") ≠ ""

/-- The error of the transcript mirror after the sends. -/
def mirrorError (params : DeliverOutboundPayloadsParams) (sends : Sends) : Option DeliveryError :=
  if params.mirror.any OutboundMirror.hasText && sends.results ≠ [] then outside.append sends.asked
  else none

def mirrorDelivery (params : DeliverOutboundPayloadsParams) : Sending Unit := do
  let sends ← Sync.read
  orThrow (mirrorError outside params sends)

def deliverOutboundPayloadsCore (params : DeliverOutboundPayloadsParams) : Sending Unit :=
  match outside.handler with
  | .error error => Sync.throw error
  | .ok handler => do
    Sync.forEach (deliverPayload outside params handler) (handler.normalizePayloads params.payloads)
    mirrorDelivery outside params

end Sending

/-! ### The entry after the sends -/

/-- A storage operation of process `pid`, with its file calls one after the other. -/
def FileOperation.run (pid : Nat) (now : Int) : Nat → FileOperation → Disk → Disk
  | 0, _, disk => disk
  | calls + 1, operation, disk =>
    match operation.step pid now false disk with
    | (next, .continues operation) => operation.run pid now calls next
    | (next, .returned _) => next

/-- No operation on one entry makes more calls. -/
def maxCalls : Nat := 3

def sendOutcome : Except DeliveryError Unit × Sends → SendOutcome
  | (.ok _, sends) => if sends.hadPartialFailure then .partialFailure else .resolved
  | (.error error, _) => if error.isAbort then .aborted else .rejected error.message

/-- `deliverOutboundPayloads`, with the id that `enqueueDelivery` draws: the directory it leaves
and the outcome of the sends. -/
def deliverOutboundPayloads (outside : Outside) (params : DeliverOutboundPayloadsParams)
    (id : String)
    (pid : Nat) (now : Int) (disk : Disk) : Disk × Except DeliveryError Unit × Sends :=
  let ran := deliverOutboundPayloadsCore outside params {}
  if params.skipQueue then (disk, ran)
  else
    let enqueued := (FileOperation.write id (newEntry id now params.toQueuedDeliveryPayload)
      .enqueue).run
      pid now maxCalls disk
    (((sendOutcome ran).settle id).run pid now maxCalls enqueued, ran)

/-- `buildRecoveryDeliverParams`: no caller listens to the errors of a replay. -/
def buildRecoveryDeliverParams (entry : QueuedDelivery) : DeliverOutboundPayloadsParams :=
  { entry.toQueuedDeliveryPayload with skipQueue := true }

def drainQueuedEntry (outside : Outside) (entry : QueuedDelivery) (pid : Nat) (now : Int)
    (disk : Disk) :
    Disk × Except DeliveryError Unit × Sends :=
  let (delivered, ran) :=
    deliverOutboundPayloads outside (buildRecoveryDeliverParams entry) entry.id pid now disk
  match ran.1 with
  | .ok _ => ((FileOperation.ackRename entry.id).run pid now maxCalls delivered, ran)
  | .error error => ((failureOperation entry.id error.message).run pid now maxCalls delivered, ran)

/-- A claimed entry in the loop of a recovery path. An entry that has used up its retries is not
sent again, and one whose backoff has not elapsed is left for later. -/
def recoverEntry (outside : Outside) (entry : QueuedDelivery) (bypassBackoff : Bool) (pid : Nat)
    (now : Int)
    (disk : Disk) : Disk × Except DeliveryError Unit × Sends :=
  if maxRetries ≤ entry.retryCount then
    ((FileOperation.moveRename entry.id).run pid now maxCalls disk, .ok (), {})
  else if !bypassBackoff && !isEntryEligibleForRecoveryRetry entry now then (disk, .ok (), {})
  else drainQueuedEntry outside entry pid now disk

end OpenClaw.Outbound
