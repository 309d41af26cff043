/-
This file is `node-pending-work.ts`: the work that waits for a node until it connects, kept by
the node's id, with a revision that goes up whenever the kept items change.

Every call is given the clock it reads. An identifier of `randomUUID` is not the fixed one of
the status item, and is not in use at the node; the order that `localeCompare` puts identifiers
into is a parameter.
-/

import OpenClaw.Base.Steps
import OpenClaw.Shared.Text

namespace OpenClaw.PendingWork

open Text

/-! ### Items -/

inductive NodePendingWorkType
  | statusRequest
  | locationRequest
  deriving DecidableEq, Repr

inductive NodePendingWorkPriority
  | default
  | normal
  | high
  deriving DecidableEq, Repr

def priorityRank : NodePendingWorkPriority → ℕ
  | .high => 3
  | .normal => 2
  | .default => 1

structure NodePendingWorkItem where
  id : String
  type : NodePendingWorkType
  priority : NodePendingWorkPriority
  createdAtMs : ℕ
  expiresAtMs : Option ℕ
  deriving DecidableEq, Repr

def NodePendingWorkItem.Expired (item : NodePendingWorkItem) (nowMs : ℕ) : Prop :=
  ∃ expiresAtMs ∈ item.expiresAtMs, expiresAtMs ≤ nowMs

instance (item : NodePendingWorkItem) (nowMs : ℕ) : Decidable (item.Expired nowMs) :=
  inferInstanceAs (Decidable (∃ expiresAtMs ∈ item.expiresAtMs, expiresAtMs ≤ nowMs))

def defaultStatusItemId : String := "baseline-status"

def defaultMaxItems : ℤ := 4

def maxItemsLimit : ℤ := 10

/-- How identifiers compare, the first before the second or level with it. -/
structure IdOrder where
  le : String → String → Bool
  trans : ∀ first second third, le first second → le second third → le first third
  total : ∀ first second, le first second || le second first

/-! ### The items of a node -/

/-- The items stand in the order in which they were inserted, as in a `Map`. -/
structure NodePendingWorkState where
  revision : ℕ
  items : List NodePendingWorkItem
  deriving DecidableEq, Repr

def getOrCreateState (state : Option NodePendingWorkState) : NodePendingWorkState :=
  state.getD ⟨0, []⟩

def pruneExpired (state : NodePendingWorkState) (nowMs : ℕ) : NodePendingWorkState :=
  if state.items.any (·.Expired nowMs) then
    ⟨state.revision + 1, state.items.filter (!·.Expired nowMs)⟩
  else state

def pruneStateIfEmpty (state : NodePendingWorkState) : Option NodePendingWorkState :=
  if state.items.isEmpty then none else some state

/-- The order of `sortedItems`. -/
def before (order : IdOrder) (first second : NodePendingWorkItem) : Bool :=
  if priorityRank first.priority ≠ priorityRank second.priority then
    priorityRank second.priority < priorityRank first.priority
  else if first.createdAtMs ≠ second.createdAtMs then first.createdAtMs < second.createdAtMs
  else order.le first.id second.id

def sortedItems (order : IdOrder) (state : NodePendingWorkState) : List NodePendingWorkItem :=
  state.items.mergeSort (before order)

def makeBaselineStatusItem (nowMs : ℕ) : NodePendingWorkItem :=
  ⟨defaultStatusItemId, .statusRequest, .default, nowMs, none⟩

/-! ### Calls -/

structure EnqueueParams where
  nodeId : String
  type : NodePendingWorkType
  priority : Option NodePendingWorkPriority := none
  expiresInMs : Option ℤ := none
  deriving DecidableEq

structure EnqueueResult where
  revision : ℕ
  item : NodePendingWorkItem
  deduped : Bool
  deriving DecidableEq

def newItem (params : EnqueueParams) (id : String) (nowMs : ℕ) : NodePendingWorkItem where
  id := id
  type := params.type
  priority := params.priority.getD .normal
  createdAtMs := nowMs
  expiresAtMs := params.expiresInMs.map fun expiresInMs => nowMs + (max 1000 expiresInMs).toNat

/-- On the state of the node, which need not be there yet. -/
def enqueueNodePendingWork (params : EnqueueParams) (id : String) (nowMs : ℕ)
    (state : Option NodePendingWorkState) : EnqueueResult × NodePendingWorkState :=
  let state := pruneExpired (getOrCreateState state) nowMs
  match state.items.find? (·.type = params.type) with
  | some existing => (⟨state.revision, existing, true⟩, state)
  | none =>
    let item := newItem params id nowMs
    (⟨state.revision + 1, item, false⟩, ⟨state.revision + 1, state.items ++ [item]⟩)

structure DrainOptions where
  maxItems : Option ℤ := none
  includeDefaultStatus : Bool := true
  deriving DecidableEq

/-- How many items are asked for at most. -/
def DrainOptions.limit (opts : DrainOptions) : ℕ :=
  (min maxItemsLimit (max 1 (opts.maxItems.getD defaultMaxItems))).toNat

structure DrainResult where
  revision : ℕ
  items : List NodePendingWorkItem
  hasMore : Bool
  deriving DecidableEq

def drainNodePendingWork (order : IdOrder) (opts : DrainOptions) (nowMs : ℕ)
    (state : Option NodePendingWorkState) : DrainResult × Option NodePendingWorkState :=
  let revision := (getOrCreateState state).revision
  let pruned := state.map (pruneExpired · nowMs)
  let explicitItems := (pruned.map (sortedItems order)).getD []
  let taken := explicitItems.take opts.limit
  let hasExplicitStatus := explicitItems.any (·.type = .statusRequest)
  let includeBaseline := opts.includeDefaultStatus && !hasExplicitStatus
  let items :=
    if includeBaseline ∧ taken.length < opts.limit then taken ++ [makeBaselineStatusItem nowMs]
    else taken
  let explicitReturnedCount := (items.filter (·.id ≠ defaultStatusItemId)).length
  let baselineIncluded := items.any (·.id = defaultStatusItemId)
  (⟨revision, items, decide (explicitReturnedCount < explicitItems.length) ||
    (includeBaseline && !baselineIncluded)⟩, pruned.bind pruneStateIfEmpty)

/-- The loop over the listed identifiers: what is left, and what was removed. -/
def removeListed : List String → List NodePendingWorkItem → List NodePendingWorkItem × List String
  | [], items => (items, [])
  | itemId :: rest, items =>
    let trimmedId := trim itemId
    if trimmedId = "" ∨ trimmedId = defaultStatusItemId then removeListed rest items
    else if items.any (·.id = trimmedId) then
      let (left, removed) := removeListed rest (items.filter (·.id ≠ trimmedId))
      (left, trimmedId :: removed)
    else removeListed rest items

structure AcknowledgeResult where
  revision : ℕ
  removedItemIds : List String
  deriving DecidableEq

def acknowledgeNodePendingWork (itemIds : List String) :
    Option NodePendingWorkState → AcknowledgeResult × Option NodePendingWorkState
  | none => (⟨0, []⟩, none)
  | some state =>
    let (items, removedItemIds) := removeListed itemIds state.items
    let revision := if removedItemIds.isEmpty then state.revision else state.revision + 1
    (⟨revision, removedItemIds⟩, pruneStateIfEmpty ⟨revision, items⟩)

/-! ### All nodes, over time -/

inductive Call
  /-- With the identifier that `randomUUID` comes up with. -/
  | enqueue (params : EnqueueParams) (id : String)
  | drain (nodeId : String) (opts : DrainOptions)
  | acknowledge (nodeId : String) (itemIds : List String)
  deriving DecidableEq

def Call.nodeId : Call → String
  | .enqueue params _ => trim params.nodeId
  | .drain nodeId _ => trim nodeId
  | .acknowledge nodeId _ => trim nodeId

/-- A revision that was reported for a node, and the items of the node that had not expired. -/
structure Report where
  nodeId : String
  revision : ℕ
  unexpired : List NodePendingWorkItem
  deriving DecidableEq

structure Registry where
  stateByNodeId : String → Option NodePendingWorkState := fun _ => none
  /-- The clock of the last call. -/
  nowMs : ℕ := 0
  /-- What the calls have returned so far, the last one at the end. -/
  reports : List Report := []

def itemsOf (state : Option NodePendingWorkState) : List NodePendingWorkItem :=
  (getOrCreateState state).items

/-- The revision that a call returns, and the state of the node behind it. -/
def answer (order : IdOrder) (nowMs : ℕ) (state : Option NodePendingWorkState) :
    Call → ℕ × Option NodePendingWorkState
  | .enqueue params id =>
    let (result, next) := enqueueNodePendingWork params id nowMs state
    (result.revision, some next)
  | .drain _ opts =>
    let (result, next) := drainNodePendingWork order opts nowMs state
    (result.revision, next)
  | .acknowledge _ itemIds =>
    let (result, next) := acknowledgeNodePendingWork itemIds state
    (result.revision, next)

/-- The identifier of a new item is no other item's. -/
def Call.Sound (state : Option NodePendingWorkState) : Call → Prop
  | .enqueue _ id => id ≠ defaultStatusItemId ∧ ∀ item ∈ itemsOf state, item.id ≠ id
  | _ => True

instance (state : Option NodePendingWorkState) (call : Call) : Decidable (call.Sound state) := by
  cases call
  · exact inferInstanceAs (Decidable (_ ∧ _))
  · exact inferInstanceAs (Decidable True)
  · exact inferInstanceAs (Decidable True)

/-- A call at a time. One without a node changes nothing: it throws, or returns nothing. -/
def step (order : IdOrder) (registry : Registry) (action : ℕ × Call) : Option Registry :=
  let (nowMs, call) := action
  let state := registry.stateByNodeId call.nodeId
  if nowMs < registry.nowMs ∨ ¬call.Sound state then none
  else if call.nodeId = "" then some { registry with nowMs := nowMs }
  else
    let (revision, next) := answer order nowMs state call
    some {
      stateByNodeId := Function.update registry.stateByNodeId call.nodeId next
      nowMs := nowMs
      reports := registry.reports ++
        [⟨call.nodeId, revision, (itemsOf next).filter (!·.Expired nowMs)⟩] }

end OpenClaw.PendingWork
