/-
This file is `gateway/node-registry.ts`: the nodes that are connected to the gateway and
the invokes that wait for their answer.

A session is kept under the id of its node, and the node id under the id of the
connection; a pending invoke knows its node but not the connection it was sent on. The
world adds what the callers see of it: the registrations, the connections that have been
unregistered, the invokes that were sent, and what their promises were settled with.

Connection ids and request ids are drawn with `randomUUID`, a socket registers once, and
the handshake admits no empty node id.
-/

import OpenClaw.Base.OrderedMap
import OpenClaw.Base.Steps

namespace OpenClaw.Gateway

/-! ### Clients -/

/-- The `client` of the connect parameters, as far as a session keeps it. -/
structure ClientInfo where
  id : String
  mode : String
  displayName : Option String := none
  platform : String
  version : String
  deviceFamily : Option String := none
  modelIdentifier : Option String := none
  deriving DecidableEq, Repr

structure ConnectParams where
  client : ClientInfo
  deviceId : Option String := none
  coreVersion : Option String := none
  uiVersion : Option String := none
  caps : Option (List String) := none
  commands : Option (List String) := none
  permissions : Option (List (String × Bool)) := none
  pathEnv : Option String := none
  deriving DecidableEq, Repr

/-- `GatewayWsClient`. -/
structure WsClient where
  connId : String
  connect : ConnectParams
  deriving DecidableEq, Repr

structure NodeSession where
  nodeId : String
  connId : String
  client : WsClient
  clientId : String
  clientMode : String
  displayName : Option String
  platform : String
  version : String
  coreVersion : Option String
  uiVersion : Option String
  deviceFamily : Option String
  modelIdentifier : Option String
  remoteIp : Option String
  caps : List String
  commands : List String
  permissions : Option (List (String × Bool))
  pathEnv : Option String
  connectedAtMs : Nat
  deriving DecidableEq, Repr

/-- The session `register` makes for a client. -/
def sessionOf (client : WsClient) (remoteIp : Option String) (now : Nat) : NodeSession where
  nodeId := client.connect.deviceId.getD client.connect.client.id
  connId := client.connId
  client := client
  clientId := client.connect.client.id
  clientMode := client.connect.client.mode
  displayName := client.connect.client.displayName
  platform := client.connect.client.platform
  version := client.connect.client.version
  coreVersion := client.connect.coreVersion
  uiVersion := client.connect.uiVersion
  deviceFamily := client.connect.client.deviceFamily
  modelIdentifier := client.connect.client.modelIdentifier
  remoteIp := remoteIp
  caps := client.connect.caps.getD []
  commands := client.connect.commands.getD []
  permissions := client.connect.permissions
  pathEnv := client.connect.pathEnv
  connectedAtMs := now

/-! ### Invokes -/

structure InvokeError where
  code : Option String := none
  message : Option String := none
  deriving DecidableEq, Repr

structure NodeInvokeResult (Payload : Type) where
  ok : Bool
  payload : Option Payload := none
  payloadJSON : Option String := none
  error : Option InvokeError := none
  deriving DecidableEq, Repr

def notConnected {Payload : Type} : NodeInvokeResult Payload :=
  { ok := false, error := some ⟨some "NOT_CONNECTED", some "node not connected"⟩ }

def unavailable {Payload : Type} : NodeInvokeResult Payload :=
  { ok := false, error := some ⟨some "UNAVAILABLE", some "failed to send invoke to node"⟩ }

def timedOut {Payload : Type} : NodeInvokeResult Payload :=
  { ok := false, error := some ⟨some "TIMEOUT", some "node invoke timed out"⟩ }

/-- A pending invoke. Its `resolve` and `reject` are those of the promise of its request. -/
structure PendingInvoke where
  nodeId : String
  command : String
  deriving DecidableEq, Repr

/-- The parameters of `handleInvokeResult`. -/
structure InvokeReport (Payload : Type) where
  id : String
  nodeId : String
  ok : Bool
  payload : Option Payload := none
  payloadJSON : Option String := none
  error : Option InvokeError := none
  deriving DecidableEq, Repr

/-- How the promise of an invoke is settled, and by whom. -/
inductive Outcome (Payload : Type)
  | reported (nodeId : String) (result : NodeInvokeResult Payload)
  | timeout (result : NodeInvokeResult Payload)
  | disconnected (connId error : String)
  deriving DecidableEq, Repr

/-- An invoke that has been sent on a connection. -/
structure SentInvoke where
  requestId : String
  nodeId : String
  connId : String
  deriving DecidableEq, Repr

structure Settlement (Payload : Type) where
  requestId : String
  outcome : Outcome Payload
  deriving DecidableEq, Repr

/-! ### The registry -/

/-- The registry and its armed timers, and the history of its callers, each newest first. -/
structure RegistryWorld (Payload : Type) where
  nodesById : OrderedMap String NodeSession := ∅
  nodesByConn : OrderedMap String String := ∅
  pendingInvokes : OrderedMap String PendingInvoke := ∅
  timers : List String := []
  registered : List NodeSession := []
  unregistered : List String := []
  sent : List SentInvoke := []
  settled : List (Settlement Payload) := []

variable {Payload : Type}

namespace RegistryWorld

def register (world : RegistryWorld Payload) (client : WsClient) (remoteIp : Option String)
    (now : Nat) : RegistryWorld Payload :=
  let session := sessionOf client remoteIp now
  { world with
    nodesById := world.nodesById.set session.nodeId session
    nodesByConn := world.nodesByConn.set client.connId session.nodeId
    registered := session :: world.registered }

/-- The pending invokes of a node, as `unregister` goes through them. -/
def pendingOf (world : RegistryWorld Payload) (nodeId : String) : List (String × PendingInvoke) :=
  world.pendingInvokes.entries.filter fun entry => entry.2.nodeId = nodeId

def unregister (world : RegistryWorld Payload) (connId : String) : RegistryWorld Payload :=
  match (world.nodesByConn.get connId).filter (· ≠ "") with
  | none => world
  | some nodeId =>
    { world with
      nodesByConn := world.nodesByConn.delete connId
      nodesById := world.nodesById.delete nodeId
      pendingInvokes := (world.pendingOf nodeId).foldl
        (fun pending entry => pending.delete entry.1) world.pendingInvokes
      timers := world.timers.filter fun requestId =>
        (world.pendingOf nodeId).all fun entry => entry.1 ≠ requestId
      settled := ((world.pendingOf nodeId).map fun entry =>
        ⟨entry.1, .disconnected connId s!"node disconnected ({entry.2.command})"⟩).reverse ++
          world.settled
      unregistered := connId :: world.unregistered }

def get (world : RegistryWorld Payload) (nodeId : String) : Option NodeSession :=
  world.nodesById.get nodeId

/-- The synchronous part of `invoke`, with what it returns at once if nothing is sent. `delivered`
says whether the socket takes the message. -/
def invoke (world : RegistryWorld Payload) (nodeId command requestId : String) (delivered : Bool) :
    RegistryWorld Payload × Option (NodeInvokeResult Payload) :=
  match world.nodesById.get nodeId with
  | none => (world, some notConnected)
  | some node =>
    if !delivered then (world, some unavailable)
    else
      ({ world with
        timers := requestId :: world.timers
        pendingInvokes := world.pendingInvokes.set requestId ⟨nodeId, command⟩
        sent := ⟨requestId, nodeId, node.connId⟩ :: world.sent }, none)

/-- The timer of an invoke fires. -/
def fireTimer (world : RegistryWorld Payload) (requestId : String) : RegistryWorld Payload :=
  { world with
    timers := world.timers.filter (· ≠ requestId)
    pendingInvokes := world.pendingInvokes.delete requestId
    settled := ⟨requestId, .timeout timedOut⟩ :: world.settled }

def handleInvokeResult (world : RegistryWorld Payload) (params : InvokeReport Payload) :
    RegistryWorld Payload × Bool :=
  match world.pendingInvokes.get params.id with
  | none => (world, false)
  | some pending =>
    if pending.nodeId ≠ params.nodeId then (world, false)
    else
      ({ world with
        timers := world.timers.filter (· ≠ params.id)
        pendingInvokes := world.pendingInvokes.delete params.id
        settled := ⟨params.id, .reported params.nodeId
          ⟨params.ok, params.payload, params.payloadJSON, params.error⟩⟩ :: world.settled }, true)

end RegistryWorld

/-! ### Steps -/

inductive RegistryAction (Payload : Type)
  | register (client : WsClient) (remoteIp : Option String) (now : Nat)
  | unregister (connId : String)
  | invoke (nodeId command requestId : String) (delivered : Bool)
  | handleInvokeResult (params : InvokeReport Payload)
  | timeout (requestId : String)

/-- A socket registers once and under a node id, a request id is new, and only an armed timer
fires. -/
def registryStep (world : RegistryWorld Payload) :
    RegistryAction Payload → Option (RegistryWorld Payload)
  | .register client remoteIp now =>
    if (world.registered.all fun session => session.connId ≠ client.connId) &&
        (sessionOf client remoteIp now).nodeId ≠ "" then
      some (world.register client remoteIp now)
    else none
  | .unregister connId => some (world.unregister connId)
  | .invoke nodeId command requestId delivered =>
    if world.sent.all fun other => other.requestId ≠ requestId then
      some (world.invoke nodeId command requestId delivered).1
    else none
  | .handleInvokeResult params => some (world.handleInvokeResult params).1
  | .timeout requestId =>
    if requestId ∈ world.timers then some (world.fireTimer requestId) else none

end OpenClaw.Gateway
