/-
This file is about processes that update one session store.

A step is one access to the file or one move of an update between two of them. A load is
synchronous: while it looks at the file, reads it and looks again, nothing else happens in
its process, but other processes go on. The write lock is exclusive, so at most one update is
between its acquisition and its release; loads that hold no lock come in between anywhere.
The modification time of a written file is part of the step, so it may repeat.
-/

import OpenClaw.Base.Steps
import OpenClaw.Session.SavedStores

namespace OpenClaw.Session

variable {Process Entry Text : Type*}

/-- Where a load is: before it looks at the file for the cache, before its own first look, before
it reads, before it looks again. -/
inductive LoadPhase (Text : Type*)
  | checking
  | statting
  | reading (before : Option FileStat)
  | restatting (before : Option FileStat) (raw : Option Text)

/-- The first phase of a load. -/
def LoadPhase.first (usesCache : Bool) : LoadPhase Text :=
  if usesCache then .checking else .statting

/-- What a step of a load leads to: its next phase, or the store and whether the cache had it. -/
inductive LoadOutcome (Entry Text : Type*)
  | goesOn (phase : LoadPhase Text)
  | returns (store : OrderedMap String Entry) (fromCache : Bool)

/-- One step of `loadSessionStore`. -/
def LoadPhase.advance (format : StoreFormat Entry Text) (usesCache expired : Bool)
    (file : Option (StoreFile Text)) (caches : StoreCaches Entry Text) :
    LoadPhase Text → LoadOutcome Entry Text × StoreCaches Entry Text
  | .checking =>
    let looked := readSessionStoreCache caches expired (fileStatSnapshot format file)
    match looked.1 with
    | some store => (.returns store true, looked.2)
    | none => (.goesOn .statting, looked.2)
  | .statting => (.goesOn (.reading (fileStatSnapshot format file)), caches)
  | .reading before => (.goesOn (.restatting before (file.map StoreFile.text)), caches)
  | .restatting before raw =>
    (.returns (storeOf format raw) false,
      rememberLoad format caches usesCache raw before (fileStatSnapshot format file))

/-- A load that holds no lock. -/
structure LoadRun (Text : Type*) where
  usesCache : Bool
  phase : LoadPhase Text

/-- Where the update that holds the lock is. -/
inductive UpdatePhase (Entry Text : Type*)
  | loading (phase : LoadPhase Text)
  /-- The mutator, or the patch, is awaited. -/
  | mutating (store : OrderedMap String Entry) (fromCache : Bool)
  /-- The store is about to be written; `rotated` when its file has been renamed away. -/
  | saving (store : OrderedMap String Entry) (fromCache rotated : Bool)
  /-- The file has been replaced, and the caches are not up to date yet. -/
  | finishing (store : OrderedMap String Entry)

/-- The update that holds the lock. -/
structure LockHolder (Process Entry Text : Type*) where
  process : Process
  change : StoreUpdate Entry
  phase : UpdatePhase Entry Text

structure UpdateWorld (Process Entry Text : Type*) where
  file : Option (StoreFile Text)
  caches : Process → StoreCaches Entry Text
  loads : Process → Option (LoadRun Text)
  holder : Option (LockHolder Process Entry Text)
  /-- The updates that have returned, in the order of their locks. -/
  completed : List (StoreUpdate Entry)

namespace UpdateWorld

inductive Event (Process Entry : Type*)
  | startLoad (process : Process) (usesCache : Bool)
  | load (process : Process) (expired : Bool)
  | acquire (process : Process) (change : StoreUpdate Entry)
  | loadLocked (expired : Bool)
  /-- The mutator throws. -/
  | throws
  /-- The mutator returns, and the save begins. -/
  | mutated
  | rotate
  /-- The text is compared, and the file replaced unless the write is skipped. -/
  | write (mtimeMs : Nat)
  | finish

variable (format : StoreFormat Entry Text) (cacheEnabled : Bool)

/-- The locked update has returned. -/
def complete (world : UpdateWorld Process Entry Text)
    (holder : LockHolder Process Entry Text) : UpdateWorld Process Entry Text :=
  { world with holder := none, completed := world.completed ++ [holder.change] }

variable [DecidableEq Process]

/-- A synchronous load is under way in the process. -/
def isLoading (world : UpdateWorld Process Entry Text) (process : Process) : Bool :=
  (world.loads process).isSome || world.holder.any fun holder =>
    decide (holder.process = process) && match holder.phase with
      | .loading _ => true
      | _ => false

def setCaches (world : UpdateWorld Process Entry Text) (process : Process)
    (caches : StoreCaches Entry Text) : UpdateWorld Process Entry Text :=
  { world with caches := Function.update world.caches process caches }

def setLoad (world : UpdateWorld Process Entry Text) (process : Process)
    (load : Option (LoadRun Text)) : UpdateWorld Process Entry Text :=
  { world with loads := Function.update world.loads process load }

section Fields

variable (world : UpdateWorld Process Entry Text) (process : Process)
  (caches : StoreCaches Entry Text) (load : Option (LoadRun Text))

@[simp] theorem loads_setCaches : (world.setCaches process caches).loads = world.loads := rfl

@[simp] theorem caches_setCaches_self : (world.setCaches process caches).caches process = caches := by
  simp [setCaches]

@[simp] theorem caches_setCaches_of_ne {other : Process} (different : other ≠ process) :
    (world.setCaches process caches).caches other = world.caches other := by
  simp [setCaches, different]

@[simp] theorem loads_setLoad_self : (world.setLoad process load).loads process = load := by
  simp [setLoad]

@[simp] theorem loads_setLoad_of_ne {other : Process} (different : other ≠ process) :
    (world.setLoad process load).loads other = world.loads other := by
  simp [setLoad, different]

end Fields

/-- The caches of the holder's process after a save, which looks at the file. -/
def rememberSave (world : UpdateWorld Process Entry Text) (process : Process)
    (store : OrderedMap String Entry) : UpdateWorld Process Entry Text :=
  world.setCaches process (updateSessionStoreWriteCaches cacheEnabled store
    (format.serialize store) (fileStatSnapshot format world.file))

variable [DecidableEq Text]

/-- One step of the update that holds the lock. -/
def proceed (world : UpdateWorld Process Entry Text) (holder : LockHolder Process Entry Text)
    (event : Event Process Entry) : Option (UpdateWorld Process Entry Text) :=
  match holder.phase, event with
  | .loading phase, .loadLocked expired =>
    let advanced := phase.advance format (holder.change.usesCache && cacheEnabled) expired world.file
      (world.caches holder.process)
    let next := match advanced.1 with
      | .goesOn phase => UpdatePhase.loading phase
      | .returns store fromCache => .mutating store fromCache
    some { world.setCaches holder.process advanced.2 with
      holder := some { holder with phase := next } }
  | .mutating _ _, .throws => some { world with holder := none }
  | .mutating store fromCache, .mutated =>
    match holder.change.next format store with
    | none => some (world.complete holder)
    | some (next, _) => some { world with
        holder := some { holder with
          phase := .saving (normalizeSessionStore format next) fromCache false } }
  | .saving store fromCache false, .rotate => some { world with
      file := none
      holder := some { holder with phase := .saving store fromCache true } }
  | .saving store _ _, .write mtimeMs =>
    if (world.caches holder.process).serialized = some (format.serialize store)
    then some ((world.rememberSave format cacheEnabled holder.process store).complete holder)
    else some { world with
      file := some ⟨format.serialize store, mtimeMs⟩
      holder := some { holder with phase := .finishing store } }
  | .finishing store, .finish =>
    some ((world.rememberSave format cacheEnabled holder.process store).complete holder)
  | _, _ => none

/-- One step of a load that holds no lock. -/
def advanceLoad (world : UpdateWorld Process Entry Text) (process : Process) (expired : Bool)
    (run : LoadRun Text) : UpdateWorld Process Entry Text :=
  let advanced := run.phase.advance format run.usesCache expired world.file (world.caches process)
  let next := match advanced.1 with
    | .goesOn phase => some { run with phase := phase }
    | .returns _ _ => none
  (world.setCaches process advanced.2).setLoad process next

def step (world : UpdateWorld Process Entry Text) (event : Event Process Entry) :
    Option (UpdateWorld Process Entry Text) :=
  match event with
  | .startLoad process usesCache =>
    if world.isLoading process then none
    else some (world.setLoad process
      (some ⟨usesCache && cacheEnabled, .first (usesCache && cacheEnabled)⟩))
  | .load process expired => (world.loads process).map (world.advanceLoad format process expired)
  | .acquire process change =>
    if world.holder.isSome || world.isLoading process then none
    else some { world with
      holder := some ⟨process, change, .loading (.first (change.usesCache && cacheEnabled))⟩ }
  | event => world.holder.bind fun holder =>
    if (world.loads holder.process).isSome then none
    else world.proceed format cacheEnabled holder event

end UpdateWorld

end OpenClaw.Session
