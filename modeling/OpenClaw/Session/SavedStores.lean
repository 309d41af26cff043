/-
This file says when a save of the session store leaves the store on disk.

A save that writes replaces the file, whatever maintenance did to it before. A save whose
text equals the remembered one writes nothing, so it relies on the file being there and
holding that text. An update that reads the file again under the lock knows what it holds,
but maintenance may have renamed the file away in between: the rotation of a file above its
size, or the removal of a file an entry names. A save that does not read the file again
relies on what its process read or wrote last, which need not be what the file holds.
-/

import OpenClaw.Session.StoreMaintenance

namespace OpenClaw.Session

open Text

variable {Entry Text : Type*} (format : StoreFormat Entry Text)

/-! ### Saving -/

/-- The store file and the caches of the process that works on it. -/
structure StoreWorld (Entry Text : Type*) where
  file : Option (StoreFile Text)
  caches : StoreCaches Entry Text

/-- `SaveSessionStoreOptions`. -/
structure SaveOptions where
  skipMaintenance : Bool
  activeSessionKey : Option String
  allowDropAcpMetaSessionKeys : List String

/-- The store a save writes, and the file as it stands before the write. -/
def prepareSave (around : Surroundings Entry) (options : SaveOptions)
    (store : OrderedMap String Entry) (file : Option (StoreFile Text)) : Maintained Entry Text :=
  let normalized := normalizeSessionStore format store
  if options.skipMaintenance then ⟨normalized, file⟩
  else maintain format around options.activeSessionKey normalized file

theorem prepareSave_file (around : Surroundings Entry) (options : SaveOptions)
    (store : OrderedMap String Entry) (file : Option (StoreFile Text)) :
    (prepareSave format around options store file).file = none ∨
      (prepareSave format around options store file).file = file := by
  unfold prepareSave
  dsimp only
  split
  · exact .inr rfl
  · exact maintain_file format around _ _ file

variable [DecidableEq Text]

def saveSessionStoreUnlocked (around : Surroundings Entry) (options : SaveOptions)
    (world : StoreWorld Entry Text) (store : OrderedMap String Entry) : StoreWorld Entry Text :=
  let maintained := prepareSave format around options store world.file
  let json := format.serialize maintained.store
  let file := if world.caches.serialized = some json then maintained.file
    else some ⟨json, around.writtenAt⟩
  { file := file
    caches := updateSessionStoreWriteCaches around.cacheEnabled maintained.store json
      (fileStatSnapshot format file) }

/-! ### The updates -/

/-- The calls that load the store, change it and save it. The patch of an entry is given together
with its merge into the entry. -/
inductive StoreUpdate (Entry : Type*)
  | updateSessionStore (mutator : OrderedMap String Entry → OrderedMap String Entry)
      (options : SaveOptions)
  | updateSessionStoreEntry (sessionKey : String) (update : Entry → Option Entry)
  | updateLastRoute (sessionKey : String) (route : Option Entry → Entry)

/-- Only the last route is updated from a store the cache may answer with. -/
def StoreUpdate.usesCache : StoreUpdate Entry → Bool
  | .updateLastRoute _ _ => true
  | _ => false

/-- `persistResolvedSessionEntry`, up to the save. -/
def persistResolvedSessionEntry (store : OrderedMap String Entry) (resolved : ResolvedEntry Entry)
    (next : Entry) : OrderedMap String Entry × SaveOptions :=
  (resolved.legacyKeys.foldl OrderedMap.delete (store.set resolved.normalizedKey next),
    ⟨false, some resolved.normalizedKey, []⟩)

/-- What an update makes of the store it has loaded, or nothing when it does not save. -/
def StoreUpdate.next (store : OrderedMap String Entry) :
    StoreUpdate Entry → Option (OrderedMap String Entry × SaveOptions)
  | .updateSessionStore mutator options =>
    some (preserveExistingAcpMetadata format store (mutator store)
      options.allowDropAcpMetaSessionKeys, options)
  | .updateSessionStoreEntry sessionKey update =>
    let resolved := resolveSessionStoreEntry format store sessionKey
    (resolved.existing.bind update).map (persistResolvedSessionEntry store resolved)
  | .updateLastRoute sessionKey route =>
    let resolved := resolveSessionStoreEntry format store sessionKey
    some (persistResolvedSessionEntry store resolved (route resolved.existing))

/-- The calls that save. -/
inductive SaveCall (Entry : Type*)
  | saveSessionStore (store : OrderedMap String Entry) (options : SaveOptions)
  | update (change : StoreUpdate Entry)

/-- The call up to its save: the caches after its load, and the store it saves. -/
def SaveCall.load (around : Surroundings Entry) (world : StoreWorld Entry Text) :
    SaveCall Entry → StoreWorld Entry Text × Option (OrderedMap String Entry × SaveOptions)
  | .saveSessionStore store options => (world, some (store, options))
  | .update change =>
    let loaded := loadSessionStore format world.caches (change.usesCache && around.cacheEnabled)
      around.cacheExpired world.file
    ({ world with caches := loaded.2 }, change.next format loaded.1)

/-- A call: the world it leaves, and the store it has computed. -/
def SaveCall.run (around : Surroundings Entry) (world : StoreWorld Entry Text)
    (call : SaveCall Entry) : StoreWorld Entry Text × Option (OrderedMap String Entry) :=
  let loaded := call.load format around world
  match loaded.2 with
  | none => (loaded.1, none)
  | some (store, options) =>
    (saveSessionStoreUnlocked format around options loaded.1 store,
      some (prepareSave format around options store loaded.1.file).store)

/-! ### The property and the condition -/

/-- What the call saves is on disk when the call is over. -/
def SaveCall.LeavesStore (around : Surroundings Entry) (world : StoreWorld Entry Text)
    (call : SaveCall Entry) : Prop :=
  ∀ store, (call.run format around world).2 = some store →
    Keeps format (call.run format around world).1.file store

/-- The call reads the file under the lock. -/
def SaveCall.rereads : SaveCall Entry → Bool
  | .saveSessionStore _ _ => false
  | .update change => !change.usesCache

/-- The condition: when the text to write is the remembered one, maintenance has left the file in
its place, and unless the call has read the file again it holds that store. -/
def SaveCall.SkipsSafely (around : Surroundings Entry) (world : StoreWorld Entry Text)
    (call : SaveCall Entry) : Prop :=
  ∀ store options, (call.load format around world).2 = some (store, options) →
    let maintained := prepareSave format around options store world.file
    (call.load format around world).1.caches.serialized = some (format.serialize maintained.store) →
      maintained.file.isSome ∧ (call.rereads ∨ Keeps format world.file maintained.store)

/-! ### The theorem -/

@[simp] theorem load_file (around : Surroundings Entry) (world : StoreWorld Entry Text)
    (call : SaveCall Entry) : (call.load format around world).1.file = world.file := by
  cases call <;> rfl

variable {world : StoreWorld Entry Text} {around : Surroundings Entry} {call : SaveCall Entry}

/-- After a reading call has loaded, the text its process remembers is the file's. -/
theorem serialized_of_rereads (rereads : call.rereads = true) {text : Text}
    (remembered : (call.load format around world).1.caches.serialized = some text) :
    world.file.map StoreFile.text = some text := by
  cases call with
  | saveSessionStore store options => exact absurd rereads Bool.false_ne_true
  | update change =>
    have goesToFile : change.usesCache = false := by simpa [SaveCall.rereads] using rereads
    simp only [SaveCall.load, goesToFile, Bool.false_and] at remembered
    exact serialized_of_load_without_cache format _ _ _ remembered

/-- The file after a save: the one maintenance has left, or the new one. -/
theorem keeps_save_iff (around : Surroundings Entry) (options : SaveOptions)
    (world : StoreWorld Entry Text) (store : OrderedMap String Entry) :
    Keeps format (saveSessionStoreUnlocked format around options world store).file
        (prepareSave format around options store world.file).store ↔
      (world.caches.serialized =
          some (format.serialize (prepareSave format around options store world.file).store) →
        Keeps format (prepareSave format around options store world.file).file
          (prepareSave format around options store world.file).store) := by
  unfold saveSessionStoreUnlocked
  dsimp only
  split
  next skipped => exact ⟨fun keeps _ => keeps, fun keeps => keeps skipped⟩
  next written =>
    refine ⟨fun _ skipped => absurd skipped written, fun _ => ?_⟩
    exact keeps_of_text format rfl

theorem run_of_saves {store : OrderedMap String Entry} {options : SaveOptions}
    (saves : (call.load format around world).2 = some (store, options)) :
    call.run format around world =
      (saveSessionStoreUnlocked format around options (call.load format around world).1 store,
        some (prepareSave format around options store world.file).store) := by
  unfold SaveCall.run
  dsimp only
  rw [saves, load_file]

theorem run_of_not_saves (saves : (call.load format around world).2 = none) :
    call.run format around world = ((call.load format around world).1, none) := by
  unfold SaveCall.run
  dsimp only
  rw [saves]

/-- What a skipped write needs of the file that maintenance has left. -/
theorem keeps_prepared_iff {store : OrderedMap String Entry} {options : SaveOptions}
    (skipped : (call.load format around world).1.caches.serialized =
      some (format.serialize (prepareSave format around options store world.file).store)) :
    Keeps format (prepareSave format around options store world.file).file
        (prepareSave format around options store world.file).store ↔
      (prepareSave format around options store world.file).file.isSome ∧
        (call.rereads ∨
          Keeps format world.file (prepareSave format around options store world.file).store) := by
  have left := prepareSave_file format around options store world.file
  generalize prepareSave format around options store world.file = maintained at left skipped ⊢
  constructor
  · intro keeps
    have present := isSome_of_keeps format keeps
    refine ⟨present, .inr ?_⟩
    rcases left with gone | stays
    · rw [gone] at present
      exact absurd present Bool.false_ne_true
    · exact stays ▸ keeps
  · rintro ⟨present, knows⟩
    have stays : maintained.file = world.file := by
      refine left.resolve_left fun gone => ?_
      rw [gone] at present
      exact absurd present Bool.false_ne_true
    rw [stays]
    rcases knows with rereads | keeps
    · exact keeps_of_text format (serialized_of_rereads format rereads skipped)
    · exact keeps

/-- Stores as lists of rows with a number each. -/
def rowFormat : StoreFormat Nat (List (String × Nat)) where
  parse text := if distinct : (text.map Prod.fst).Nodup then .record ⟨text, distinct⟩ else .malformed
  serialize store := store.entries
  parse_serialize store := dif_pos store.distinct
  byteLength text := 32 * text.length + 2
  chunkBytes _ _ := 32
  toLowerCase key := key
  migrate entry := entry
  normalize entry := entry
  updatedAt entry := some entry
  sessionId _ := none
  sessionFile _ := none
  hasAcp _ := false
  withAcp _ nextEntry := nextEntry

/-- An installation that enforces its limits and rotates a store file above 40 bytes. -/
def rotating : Surroundings Nat where
  config := ⟨true, 1000, 500, 40, none, none⟩
  now := 600
  storePath := "sessions.json"
  storeRemovable := false
  storeTranscript := false
  files := []
  archiveCandidates _ _ := []
  transcriptPath _ := none
  cacheEnabled := true
  cacheExpired := false
  writtenAt := 600

/-- Two sessions on disk, and nothing remembered. -/
def twoSessions : StoreWorld Nat (List (String × Nat)) where
  file := some ⟨[("main", 500), ("cron", 400)], 500⟩
  caches := ⟨none, none⟩

end OpenClaw.Session
