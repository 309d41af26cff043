/-
This file says when the updates of a session store are serial.

Applying one update to a text means to load it, to change the store and to serialize it
again. Under the lock the file is what the completed updates make of the first text, one
after another, and an update that reads it carries on from there. Two things break this. The
last route is updated from the object cache, which answers for any file of the same time and
size, and a load that holds no lock may have put old content there under the stat of a newer
file. And a save may be skipped although the file does not hold its text: the remembered text
is old when the store came from the cache, and the file is gone when it has been rotated.
-/

import OpenClaw.Session.StoreUpdates

namespace OpenClaw.Session

open Machine UpdateWorld

variable {Process Entry Text : Type*} (format : StoreFormat Entry Text)

/-! ### The property -/

/-- What an update makes of the text of the store, when it runs on its own. -/
def StoreUpdate.apply (raw : Option Text) (change : StoreUpdate Entry) : Option Text :=
  match change.next format (storeOf format raw) with
  | none => raw
  | some (next, _) => some (format.serialize (normalizeSessionStore format next))

/-- The updates one after another. -/
def applyAll (raw : Option Text) (changes : List (StoreUpdate Entry)) : Option Text :=
  changes.foldl (StoreUpdate.apply format) raw

/-- The text on disk. -/
def UpdateWorld.text (world : UpdateWorld Process Entry Text) : Option Text :=
  world.file.map StoreFile.text

/-- A save is under way. -/
def UpdateWorld.isSaving (world : UpdateWorld Process Entry Text) : Bool :=
  world.holder.any fun holder => match holder.phase with
    | .saving _ _ _ | .finishing _ => true
    | _ => false

/-- No update is lost: the file holds what the completed updates make of the first text, and what
one of them has done to an entry stays unless a later one changes that entry. -/
structure UpdatesKept (start world : UpdateWorld Process Entry Text) : Prop where
  serial : world.text = applyAll format start.text world.completed
  kept : ∀ (before after : List (StoreUpdate Entry)) (change : StoreUpdate Entry) (key : String),
    world.completed = before ++ change :: after →
    (∀ later ∈ after, ∀ raw, (storeOf format (later.apply format raw)).get key =
      (storeOf format raw).get key) →
    (storeOf format world.text).get key =
      (storeOf format (change.apply format (applyAll format start.text before))).get key

/-! ### The condition -/

/-- The condition on a step of the locked update: the cache answers with the store the file holds,
and a write is skipped after a cache hit or a rotation only if the file holds the text. -/
def UpdateWorld.careful [DecidableEq Entry] [DecidableEq Text] (world : UpdateWorld Process Entry Text) :
    Event Process Entry → Bool
  | .loadLocked expired => world.holder.all fun holder => match holder.phase with
    | .loading .checking =>
      (readSessionStoreCache (world.caches holder.process) expired
        (fileStatSnapshot format world.file)).1.all fun store => store = storeOf format world.text
    | _ => true
  | .write _ => world.holder.all fun holder => match holder.phase with
    | .saving store fromCache rotated =>
      !(fromCache || rotated) || (world.caches holder.process).serialized ≠
        some (format.serialize store) || world.text = some (format.serialize store)
    | _ => true
  | _ => true

/-! ### The invariant -/

/-- The remembered text, if any, is the one on disk. -/
def Remembers (caches : StoreCaches Entry Text) (text : Option Text) : Prop :=
  ∀ remembered, caches.serialized = some remembered → text = some remembered

/-- What a load in progress has read is what the file holds. -/
def LoadPhase.Reads (text : Option Text) : LoadPhase Text → Prop
  | .restatting _ raw => raw = text
  | _ => True

/-- What is the case while an update holds the lock, where `expected` is what the completed updates
have made of the first text. -/
def UpdatePhase.Fits (change : StoreUpdate Entry) (expected text : Option Text)
    (caches : StoreCaches Entry Text) : UpdatePhase Entry Text → Prop
  | .loading phase => text = expected ∧ phase.Reads text
  | .mutating store fromCache => text = expected ∧ store = storeOf format expected ∧
      (fromCache = false → Remembers caches text)
  | .saving store fromCache rotated => change.apply format expected = some (format.serialize store) ∧
      (rotated = false → text = expected) ∧
      (fromCache = false → rotated = false → Remembers caches text)
  | .finishing store => change.apply format expected = some (format.serialize store) ∧
      text = some (format.serialize store)

/-- The invariant of the machine. -/
structure Serial (first : Option Text) (world : UpdateWorld Process Entry Text) : Prop where
  free : world.holder = none → world.text = applyAll format first world.completed
  held : ∀ holder, world.holder = some holder → holder.phase.Fits format holder.change
    (applyAll format first world.completed) world.text (world.caches holder.process)
  reads : ∀ holder, world.holder = some holder → ∀ run, world.loads holder.process = some run →
    run.phase.Reads world.text

/-! ### Steps of a load -/

variable {format}

theorem remembers_readSessionStoreCache {caches : StoreCaches Entry Text} {text : Option Text}
    (remembers : Remembers caches text) (expired : Bool) (stat : Option FileStat) :
    Remembers (readSessionStoreCache caches expired stat).2 text := by
  unfold readSessionStoreCache
  split
  · exact remembers
  · split_ifs
    · exact remembers
    · exact nofun
    · exact remembers

theorem remembers_rememberLoad (format : StoreFormat Entry Text) (caches : StoreCaches Entry Text) (usesCache : Bool)
    (text : Option Text) (before after : Option FileStat) :
    Remembers (rememberLoad format caches usesCache text before after) text :=
  fun _ remembered => (Option.filter_eq_some_iff.1 remembered).1

/-- What a step of a load leads to, when nobody writes. -/
structure LoadPhase.Advanced (format : StoreFormat Entry Text) (file : Option (StoreFile Text))
    (caches : StoreCaches Entry Text) (expired : Bool) (phase : LoadPhase Text)
    (advanced : LoadOutcome Entry Text × StoreCaches Entry Text) : Prop where
  remembers : Remembers caches (file.map StoreFile.text) →
    Remembers advanced.2 (file.map StoreFile.text)
  goesOn : ∀ next, advanced.1 = .goesOn next → next.Reads (file.map StoreFile.text)
  fromFile : ∀ store, advanced.1 = .returns store false →
    store = storeOf format (file.map StoreFile.text) ∧
      Remembers advanced.2 (file.map StoreFile.text)
  fromCache : ∀ store, advanced.1 = .returns store true → phase = .checking ∧
    (readSessionStoreCache caches expired (fileStatSnapshot format file)).1 = some store

theorem LoadPhase.advanced (format : StoreFormat Entry Text) (usesCache expired : Bool) (file : Option (StoreFile Text))
    (caches : StoreCaches Entry Text) {phase : LoadPhase Text}
    (reads : phase.Reads (file.map StoreFile.text)) :
    phase.Advanced format file caches expired
      (phase.advance format usesCache expired file caches) := by
  cases phase with
  | checking =>
    cases looked : (readSessionStoreCache caches expired (fileStatSnapshot format file)).1 with
    | none =>
      simp only [LoadPhase.advance, looked]
      exact ⟨fun remembers => remembers_readSessionStoreCache remembers _ _,
        fun _ same => LoadOutcome.goesOn.inj same ▸ trivial, nofun, nofun⟩
    | some found =>
      simp only [LoadPhase.advance, looked]
      exact ⟨fun remembers => remembers_readSessionStoreCache remembers _ _, nofun,
        fun _ same => absurd (LoadOutcome.returns.inj same).2 Bool.noConfusion,
        fun _ same => ⟨rfl, (LoadOutcome.returns.inj same).1 ▸ looked⟩⟩
  | statting =>
    exact ⟨id, fun _ same => LoadOutcome.goesOn.inj same ▸ trivial, nofun, nofun⟩
  | reading before =>
    exact ⟨id, fun _ same => LoadOutcome.goesOn.inj same ▸ rfl, nofun, nofun⟩
  | restatting before raw =>
    obtain rfl : raw = file.map StoreFile.text := reads
    have remembers := remembers_rememberLoad format caches usesCache
      (file.map StoreFile.text) before (fileStatSnapshot format file)
    exact ⟨fun _ => remembers, nofun,
      fun _ same => ⟨(LoadOutcome.returns.inj same).1.symm, remembers⟩,
      fun _ same => absurd (LoadOutcome.returns.inj same).2 Bool.noConfusion⟩

theorem LoadPhase.reads_first (usesCache : Bool) (text : Option Text) :
    (LoadPhase.first usesCache).Reads text := by
  unfold LoadPhase.first
  split <;> exact trivial

/-! ### Steps of the machine -/

variable {first : Option Text} {world : UpdateWorld Process Entry Text}
variable {holder : LockHolder Process Entry Text}

/-- The phase of an update asks of the caches only that they remember the text on disk. -/
theorem UpdatePhase.Fits.weaken {change : StoreUpdate Entry} {expected text : Option Text}
    {caches others : StoreCaches Entry Text} {phase : UpdatePhase Entry Text}
    (fits : phase.Fits format change expected text caches)
    (remembers : Remembers caches text → Remembers others text) :
    phase.Fits format change expected text others := by
  cases phase with
  | loading phase => exact fits
  | mutating store fromCache =>
    exact ⟨fits.1, fits.2.1, fun missed => remembers (fits.2.2 missed)⟩
  | saving store fromCache rotated =>
    exact ⟨fits.1, fits.2.1, fun missed stays => remembers (fits.2.2 missed stays)⟩
  | finishing store => exact fits

theorem Serial.acquire (serial : Serial format first world) (free : world.holder = none)
    {process : Process} (idle : world.loads process = none) (change : StoreUpdate Entry)
    (usesCache : Bool) :
    Serial format first
      { world with holder := some ⟨process, change, .loading (.first usesCache)⟩ } where
  free := nofun
  held holder holds := by
    obtain rfl := Option.some.inj holds
    exact ⟨serial.free free, LoadPhase.reads_first usesCache _⟩
  reads holder holds run loading := by
    obtain rfl := Option.some.inj holds
    exact absurd (idle.symm.trans loading) nofun

/-- Completing an update whose effect is on disk. -/
theorem Serial.complete (world : UpdateWorld Process Entry Text)
    (done : world.text = holder.change.apply format (applyAll format first world.completed)) :
    Serial format first (world.complete holder) where
  free _ := by
    show world.text = applyAll format first (world.completed ++ [holder.change])
    rw [done, applyAll, applyAll, List.foldl_append]
    rfl
  held := nofun
  reads := nofun

/-- The holder goes on to another phase, which fits, while no load of its process is under way. -/
theorem Serial.goOn (world : UpdateWorld Process Entry Text) {phase : UpdatePhase Entry Text}
    (idle : world.loads holder.process = none)
    (fits : phase.Fits format holder.change (applyAll format first world.completed) world.text
      (world.caches holder.process)) :
    Serial format first { world with holder := some { holder with phase := phase } } where
  free := nofun
  held later holds := by
    obtain rfl := Option.some.inj holds
    exact fits
  reads later holds run loading := by
    obtain rfl := Option.some.inj holds
    exact absurd (idle.symm.trans loading) nofun

variable [DecidableEq Process]

theorem Serial.startLoad (serial : Serial format first world) (process : Process)
    (usesCache : Bool) :
    Serial format first (world.setLoad process (some ⟨usesCache, .first usesCache⟩)) where
  free := serial.free
  held := serial.held
  reads holder holds run loading := by
    by_cases same : holder.process = process
    · rw [same, loads_setLoad_self] at loading
      exact Option.some.inj loading ▸ LoadPhase.reads_first usesCache _
    · rw [loads_setLoad_of_ne _ _ _ same] at loading
      exact serial.reads holder holds run loading

theorem Serial.advanceLoad (serial : Serial format first world) {process : Process}
    (expired : Bool) {run : LoadRun Text} (loading : world.loads process = some run) :
    Serial format first (world.advanceLoad format process expired run) where
  free := serial.free
  held holder holds := by
    have fits := serial.held holder holds
    by_cases same : holder.process = process
    · subst same
      have advanced := LoadPhase.advanced format run.usesCache expired world.file
        (world.caches holder.process) (serial.reads holder holds run loading)
      have moved : (world.advanceLoad format holder.process expired run).caches holder.process =
          (run.phase.advance format run.usesCache expired world.file
            (world.caches holder.process)).2 := caches_setCaches_self _ _ _
      exact moved.symm ▸ fits.weaken advanced.remembers
    · have kept : (world.advanceLoad format process expired run).caches holder.process =
          world.caches holder.process := caches_setCaches_of_ne _ _ _ same
      exact kept.symm ▸ fits
  reads holder holds later laterLoading := by
    by_cases same : holder.process = process
    · subst same
      have advanced := LoadPhase.advanced format run.usesCache expired world.file
        (world.caches holder.process) (serial.reads holder holds run loading)
      simp only [UpdateWorld.advanceLoad, loads_setLoad_self] at laterLoading
      split at laterLoading
      next phase outcome =>
        obtain rfl := Option.some.inj laterLoading
        exact advanced.goesOn phase outcome
      next => exact nomatch laterLoading
    · simp only [UpdateWorld.advanceLoad, loads_setLoad_of_ne _ _ _ same, loads_setCaches]
        at laterLoading
      exact serial.reads holder holds later laterLoading

/-- A step of the load of the locked update. -/
theorem Serial.loadLocked {phase : LoadPhase Text}
    (usesCache expired : Bool) (idle : world.loads holder.process = none)
    (current : world.text = applyAll format first world.completed)
    (reads : phase.Reads world.text)
    (answers : ∀ store, phase = .checking →
      (readSessionStoreCache (world.caches holder.process) expired
        (fileStatSnapshot format world.file)).1 = some store → store = storeOf format world.text)
    {advanced : LoadOutcome Entry Text × StoreCaches Entry Text}
    (step : phase.advance format usesCache expired world.file (world.caches holder.process) =
      advanced) :
    Serial format first { world.setCaches holder.process advanced.2 with
      holder := some { holder with phase := match advanced.1 with
        | .goesOn phase => .loading phase
        | .returns store fromCache => .mutating store fromCache } } := by
  have leads := LoadPhase.advanced format usesCache expired world.file
    (world.caches holder.process) reads
  rw [step] at leads
  refine Serial.goOn (world.setCaches holder.process advanced.2) idle ?_
  rw [caches_setCaches_self]
  split
  next next outcome => exact ⟨current, leads.goesOn next outcome⟩
  next store fromCache outcome =>
    cases fromCache with
    | false =>
      obtain ⟨loaded, remembers⟩ := leads.fromFile store outcome
      exact ⟨current, loaded.trans (congrArg (storeOf format) current), fun _ => remembers⟩
    | true =>
      obtain ⟨checks, found⟩ := leads.fromCache store outcome
      have loaded := answers store checks found
      exact ⟨current, loaded.trans (congrArg (storeOf format) current), nofun⟩

variable [DecidableEq Entry] [DecidableEq Text]

omit [DecidableEq Process] in
/-- A write the condition lets an update skip is one the file holds already. -/
theorem Serial.skipped {store : OrderedMap String Entry}
    {fromCache rotated : Bool} {mtimeMs : Nat} (holds : world.holder = some holder)
    (current : holder.phase = .saving store fromCache rotated)
    (careful : world.careful format (.write mtimeMs) = true)
    (remembers : fromCache = false → rotated = false →
      Remembers (world.caches holder.process) world.text)
    (same : (world.caches holder.process).serialized = some (format.serialize store)) :
    world.text = some (format.serialize store) := by
  simp only [UpdateWorld.careful, holds, current, same, Option.all_some,
    ne_eq, not_true_eq_false, decide_false, Bool.or_false, Bool.or_eq_true, Bool.not_eq_true',
    Bool.or_eq_false_iff, decide_eq_true_eq] at careful
  rcases careful with fresh | found
  · exact remembers fresh.1 fresh.2 _ same
  · exact found

variable {cacheEnabled : Bool} {next : UpdateWorld Process Entry Text}

/-- A step of the locked update. -/
theorem Serial.proceed (serial : Serial format first world)
    (holds : world.holder = some holder)
    (idle : world.loads holder.process = none) {event : Event Process Entry}
    (careful : world.careful format event = true)
    (taken : world.proceed format cacheEnabled holder event = some next) :
    Serial format first next := by
  have fits := serial.held holder holds
  unfold UpdateWorld.proceed at taken
  split at taken
  next phase expired current =>
    rw [current] at fits
    obtain rfl := Option.some.inj taken
    refine Serial.loadLocked _ _ idle fits.1 fits.2 (fun store checks found => ?_) rfl
    simpa [UpdateWorld.careful, holds, current, checks, found] using careful
  next store fromCache current =>
    -- the mutator throws, and nothing has been written
    rw [current] at fits
    obtain rfl := Option.some.inj taken
    exact ⟨fun _ => fits.1, nofun, nofun⟩
  next store fromCache current =>
    rw [current] at fits
    obtain ⟨unwritten, loaded, remembers⟩ := fits
    split at taken
    next unchanged =>
      obtain rfl := Option.some.inj taken
      refine Serial.complete world (unwritten.trans ?_)
      rw [StoreUpdate.apply, ← loaded, unchanged]
    next changed options saves =>
      obtain rfl := Option.some.inj taken
      refine Serial.goOn world idle ⟨?_, fun _ => unwritten, fun missed _ => remembers missed⟩
      rw [StoreUpdate.apply, ← loaded, saves]
  next store fromCache current =>
    rw [current] at fits
    obtain rfl := Option.some.inj taken
    exact Serial.goOn { world with file := none } idle
      ⟨fits.1, fun stays => absurd stays Bool.noConfusion,
        fun _ stays => absurd stays Bool.noConfusion⟩
  next store fromCache rotated mtimeMs current =>
    rw [current] at fits
    obtain ⟨applied, unwritten, remembers⟩ := fits
    split at taken
    next same =>
      obtain rfl := Option.some.inj taken
      have found := Serial.skipped holds current careful remembers same
      exact Serial.complete (world.rememberSave format cacheEnabled holder.process store)
        (found.trans applied.symm)
    next differs =>
      obtain rfl := Option.some.inj taken
      exact Serial.goOn { world with file := some ⟨format.serialize store, mtimeMs⟩ }
        idle ⟨applied, rfl⟩
  next store current =>
    rw [current] at fits
    obtain rfl := Option.some.inj taken
    exact Serial.complete (world.rememberSave format cacheEnabled holder.process store)
      (fits.2.trans fits.1.symm)
  next => exact nomatch taken

theorem Serial.step (serial : Serial format first world) {event : Event Process Entry}
    (careful : world.careful format event = true)
    (taken : world.step format cacheEnabled event = some next) : Serial format first next := by
  unfold UpdateWorld.step at taken
  split at taken
  next process usesCache =>
    split at taken
    next => exact nomatch taken
    next => exact Option.some.inj taken ▸ serial.startLoad process _
  next process expired =>
    obtain ⟨run, loading, rfl⟩ := Option.map_eq_some_iff.1 taken
    exact serial.advanceLoad expired loading
  next process change =>
    split at taken
    next => exact nomatch taken
    next free =>
      simp only [Bool.or_eq_true, not_or, Bool.not_eq_true, Option.isSome_eq_false_iff,
        Option.isNone_iff_eq_none, isLoading] at free
      exact Option.some.inj taken ▸ serial.acquire free.1 free.2.1 change _
  next =>
    obtain ⟨holder, holds, proceeds⟩ := Option.bind_eq_some_iff.1 taken
    split at proceeds
    next => exact nomatch proceeds
    next idle => exact serial.proceed holds (by simpa using idle) careful proceeds

/-! ### The theorem -/

omit [DecidableEq Process] [DecidableEq Entry] [DecidableEq Text] in
/-- What one update has done to an entry stays when no later one changes it. -/
theorem get_applyAll {key : String} {after : List (StoreUpdate Entry)}
    (leave : ∀ later ∈ after, ∀ raw, (storeOf format (later.apply format raw)).get key =
      (storeOf format raw).get key) (raw : Option Text) :
    (storeOf format (applyAll format raw after)).get key = (storeOf format raw).get key := by
  induction after generalizing raw with
  | nil => rfl
  | cons change rest inductionHypothesis =>
    have tail := inductionHypothesis (fun later member => leave later (List.mem_cons_of_mem _ member))
      (change.apply format raw)
    exact tail.trans (leave change List.mem_cons_self raw)

omit [DecidableEq Process] [DecidableEq Entry] [DecidableEq Text] in
theorem updatesKept_of_text {start : UpdateWorld Process Entry Text}
    (serial : world.text = applyAll format start.text world.completed) :
    UpdatesKept format start world where
  serial := serial
  kept before after change key split leave := by
    rw [serial, split, applyAll, List.foldl_append, List.foldl_cons]
    exact get_applyAll leave _

/-- No update is lost in a run whose cache hits are current and whose skipped writes find their
text on disk. -/
theorem no_update_is_lost {start : UpdateWorld Process Entry Text} (free : start.holder = none)
    (fresh : start.completed = []) {events : List (Event Process Entry)}
    (run : Steps (UpdateWorld.step format cacheEnabled)
      (fun world event => world.careful format event = true) start events world)
    (settled : world.isSaving = false) : UpdatesKept format start world := by
  have initially : Serial format start.text start :=
    ⟨fun _ => by rw [fresh]; rfl, fun holder holds => absurd (free.symm.trans holds) nofun,
      fun holder holds => absurd (free.symm.trans holds) nofun⟩
  have serial := run.invariant (fun _ _ _ serial careful taken => serial.step careful taken)
    initially
  refine updatesKept_of_text ?_
  cases holds : world.holder with
  | none => exact serial.free holds
  | some holder =>
    have fits := serial.held holder holds
    cases current : holder.phase with
    | loading phase => rw [current] at fits; exact fits.1
    | mutating store fromCache => rw [current] at fits; exact fits.1
    | saving store fromCache rotated => simp [isSaving, holds, current] at settled
    | finishing store => simp [isSaving, holds, current] at settled

/-! ### An update that is lost -/

/-- An update of the session `cron`. -/
def updateCron : StoreUpdate Nat := .updateSessionStoreEntry "cron" fun _ => some 700

/-- A new last route of the session `main`. -/
def routeMain : StoreUpdate Nat := .updateLastRoute "main" fun _ => 800

/-- Two sessions on disk, and processes that remember nothing. -/
def idleProcesses : UpdateWorld Nat Nat (List (String × Nat)) where
  file := twoSessions.file
  caches _ := ⟨none, none⟩
  loads _ := none
  holder := none
  completed := []

/-- The first update goes to the file and writes it, the second is answered from the cache. -/
def updatesOfOne : List (Event Nat Nat) :=
  [.acquire 1 updateCron, .loadLocked false, .loadLocked false, .loadLocked false, .mutated,
    .write 600, .finish, .acquire 1 routeMain, .loadLocked false, .mutated, .write 601,
    .finish]

/-- One process makes both updates. -/
theorem no_update_is_lost_of_one :
    ∃ world, world.completed.length = 2 ∧ UpdatesKept rowFormat idleProcesses world := by
  have evaluates : (executeUnder (UpdateWorld.step rowFormat true)
      (fun world event => world.careful rowFormat event) idleProcesses updatesOfOne).any
        (fun world => !world.isSaving && world.completed.length = 2) = true := by
    decide +kernel
  obtain ⟨world, is, ends⟩ := (Option.any_eq_true _ _).1 evaluates
  simp only [Bool.and_eq_true, Bool.not_eq_true', decide_eq_true_eq] at ends
  exact ⟨world, ends.2, no_update_is_lost rfl rfl (steps_of_executeUnder is) ends.1⟩

/-- A load of process 0 reads the file before process 1 updates `cron`, and records the stat of the
file after it; then the cache of process 0 answers for `main`. -/
def updatesOfTwo : List (Event Nat Nat) :=
  [.startLoad 0 true, .load 0 false, .load 0 false, .load 0 false,
    .acquire 1 updateCron, .loadLocked false, .loadLocked false, .loadLocked false, .mutated,
    .write 600, .finish, .load 0 false,
    .acquire 0 routeMain, .loadLocked false, .mutated, .write 601, .finish]

/-- The new last route of `main` undoes the update of `cron`. -/
theorem cron_update_is_lost : ¬ ∀ (events : List (Event Nat Nat))
    (world : UpdateWorld Nat Nat (List (String × Nat))),
    Steps (UpdateWorld.step rowFormat true) Unguarded idleProcesses events world →
      world.isSaving = false → UpdatesKept rowFormat idleProcesses world := by
  intro keeps
  have evaluates : (execute (UpdateWorld.step rowFormat true) idleProcesses updatesOfTwo).any
      (fun world => !world.isSaving && decide (world.text ≠
        applyAll rowFormat idleProcesses.text world.completed)) = true := by
    decide +kernel
  obtain ⟨world, is, ends⟩ := (Option.any_eq_true _ _).1 evaluates
  simp only [Bool.and_eq_true, Bool.not_eq_true', decide_eq_true_eq] at ends
  exact ends.2 (keeps updatesOfTwo world (steps_of_execute is) ends.1).serial

end OpenClaw.Session
