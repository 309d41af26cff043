/-
This file is about the session store, one JSON file with an entry for every session.

A process keeps two things of the file beside it: the store it parsed or wrote last, under
the modification time and size the file had then, and the text it read or wrote last. A load
may answer from the first. A save writes nothing when its text equals the second.

JSON itself, the normalisation of a single entry and the resolution of transcript paths are
parameters.
-/

import OpenClaw.Base.OrderedMap
import OpenClaw.Shared.Text

namespace OpenClaw.Session

open Text

/-- What `JSON.parse` makes of a text: an exception, a value that is not an object, or a store. -/
inductive Parsed (Entry : Type*)
  | malformed
  | other
  | record (store : OrderedMap String Entry)

/-- The entries of a store, as far as the store looks into them, and their JSON texts. -/
structure StoreFormat (Entry Text : Type*) where
  parse : Text → Parsed Entry
  serialize : OrderedMap String Entry → Text
  parse_serialize : ∀ store, parse (serialize store) = .record store
  byteLength : Text → Nat
  /-- `measureStoreEntryChunkBytes`. -/
  chunkBytes : String → Entry → Nat
  toLowerCase : String → String
  /-- `applySessionStoreMigrations`, on one entry. -/
  migrate : Entry → Entry
  /-- `normalizeSessionEntryDelivery` after `normalizeSessionRuntimeModelFields`. -/
  normalize : Entry → Entry
  updatedAt : Entry → Option Int
  sessionId : Entry → Option String
  sessionFile : Entry → Option String
  hasAcp : Entry → Bool
  /-- `{ ...nextEntry, acp: previousAcp }`. -/
  withAcp : (previous nextEntry : Entry) → Entry

variable {Entry Text : Type*} (format : StoreFormat Entry Text)

/-! ### Keys -/

def normalizeStoreSessionKey (sessionKey : String) : String :=
  format.toLowerCase (trim sessionKey)

/-- The entry of a session, also when it stands under an older spelling of its key. -/
structure ResolvedEntry (Entry : Type*) where
  normalizedKey : String
  existing : Option Entry
  legacyKeys : List String

/-- One round of the loop of `resolveSessionStoreEntry` over the entries. -/
def considerCandidate (resolved : ResolvedEntry Entry) (candidate : String × Entry) :
    ResolvedEntry Entry :=
  if candidate.1 = resolved.normalizedKey then resolved
  else if normalizeStoreSessionKey format candidate.1 ≠ resolved.normalizedKey then resolved
  else
    let updatedAt := fun entry => (format.updatedAt entry).getD 0
    let newer := resolved.existing.all fun existing =>
      decide (updatedAt existing < updatedAt candidate.2)
    { resolved with
      existing := if newer then some candidate.2 else resolved.existing
      legacyKeys := if candidate.1 ∈ resolved.legacyKeys then resolved.legacyKeys
        else resolved.legacyKeys ++ [candidate.1] }

def resolveSessionStoreEntry (store : OrderedMap String Entry) (sessionKey : String) :
    ResolvedEntry Entry :=
  let trimmedKey := trim sessionKey
  let normalizedKey := normalizeStoreSessionKey format trimmedKey
  let legacyKeys :=
    if trimmedKey ≠ normalizedKey ∧ store.has trimmedKey then [trimmedKey] else []
  let existing := (store.get normalizedKey).or
    (if legacyKeys.isEmpty then none else store.get trimmedKey)
  store.entries.foldl (considerCandidate format) ⟨normalizedKey, existing, legacyKeys⟩

def resolveMutableSessionStoreKey (store : OrderedMap String Entry) (sessionKey : String) :
    Option String :=
  let trimmed := trim sessionKey
  let normalized := normalizeStoreSessionKey format trimmed
  if trimmed = "" then none
  else if store.has trimmed then some trimmed
  else if store.has normalized then some normalized
  else store.keys.find? fun key => normalizeStoreSessionKey format key = normalized

/-- The ACP metadata of every entry that had some and lost it, put back. -/
def preserveExistingAcpMetadata (previous nextStore : OrderedMap String Entry)
    (allowDropSessionKeys : List String) : OrderedMap String Entry :=
  let allowDrop := allowDropSessionKeys.map (normalizeStoreSessionKey format)
  (previous.entries.filter fun entry => format.hasAcp entry.2).foldl (fun nextStore entry =>
    if normalizeStoreSessionKey format entry.1 ∈ allowDrop then nextStore
    else match resolveMutableSessionStoreKey format nextStore entry.1 with
      | none => nextStore
      | some nextKey => match nextStore.get nextKey with
        | none => nextStore
        | some nextEntry =>
          if format.hasAcp nextEntry then nextStore
          else nextStore.set nextKey (format.withAcp entry.2 nextEntry)) nextStore

/-! ### The file and what a process remembers of it -/

structure FileStat where
  mtimeMs : Nat
  sizeBytes : Nat
  deriving DecidableEq

structure StoreFile (Text : Type*) where
  text : Text
  mtimeMs : Nat
  deriving DecidableEq

structure CachedStore (Entry : Type*) where
  store : OrderedMap String Entry
  stat : Option FileStat

/-- The object cache and the serialized cache, at the path of the store. -/
structure StoreCaches (Entry Text : Type*) where
  cached : Option (CachedStore Entry)
  serialized : Option Text

/-- `getFileStatSnapshot`. -/
def fileStatSnapshot (file : Option (StoreFile Text)) : Option FileStat :=
  file.map fun file => ⟨file.mtimeMs, format.byteLength file.text⟩

/-- What the object cache answers for a file with the given stat; `expired` is the time to live. A
mismatch drops both caches. -/
def readSessionStoreCache (caches : StoreCaches Entry Text) (expired : Bool)
    (stat : Option FileStat) : Option (OrderedMap String Entry) × StoreCaches Entry Text :=
  match caches.cached with
  | none => (none, caches)
  | some cached =>
    if expired then (none, { caches with cached := none })
    else if stat ≠ cached.stat then (none, ⟨none, none⟩)
    else (some cached.store, caches)

/-- The caches after a save whose file has the given stat. -/
def updateSessionStoreWriteCaches (cacheEnabled : Bool) (store : OrderedMap String Entry)
    (serialized : Text) (stat : Option FileStat) : StoreCaches Entry Text where
  cached := if cacheEnabled then some ⟨store, stat⟩ else none
  serialized := some serialized

/-! ### Loading -/

def applySessionStoreMigrations (store : OrderedMap String Entry) : OrderedMap String Entry :=
  store.mapValues fun _ => format.migrate

def normalizeSessionStore (store : OrderedMap String Entry) : OrderedMap String Entry :=
  store.mapValues fun _ => format.normalize

/-- The store a text holds. -/
def recordOf (text : Text) : Option (OrderedMap String Entry) :=
  match format.parse text with
  | .record store => some store
  | _ => none

@[simp] theorem recordOf_serialize (store : OrderedMap String Entry) :
    recordOf format (format.serialize store) = some store := by
  unfold recordOf
  rw [format.parse_serialize]

/-- The store a load makes of what it has read. -/
def storeOf (raw : Option Text) : OrderedMap String Entry :=
  normalizeSessionStore format
    (applySessionStoreMigrations format ((raw.bind (recordOf format)).getD ∅))

/-- The text a load remembers: what it has read, when that holds a store. -/
def serializedFromDisk (raw : Option Text) : Option Text :=
  raw.filter fun text => (recordOf format text).isSome

/-- The stat a load records. The file is looked at before and after the reading, and the second
stat counts unless it fails or the text has not been parsed. -/
def recordedStat (raw : Option Text) (before after : Option FileStat) : Option FileStat :=
  match raw.map format.parse with
  | none | some .malformed => before
  | some _ => after.or before

/-- The end of a load that has gone to the file. -/
def rememberLoad (caches : StoreCaches Entry Text) (usesCache : Bool) (raw : Option Text)
    (before after : Option FileStat) : StoreCaches Entry Text where
  cached := if usesCache then some ⟨storeOf format raw, recordedStat format raw before after⟩
    else caches.cached
  serialized := serializedFromDisk format raw

/-- `loadSessionStore`, while the file stays as it is. -/
def loadSessionStore (caches : StoreCaches Entry Text) (usesCache expired : Bool)
    (file : Option (StoreFile Text)) : OrderedMap String Entry × StoreCaches Entry Text :=
  let stat := fileStatSnapshot format file
  let raw := file.map StoreFile.text
  let looked := if usesCache then readSessionStoreCache caches expired stat else (none, caches)
  match looked.1 with
  | some store => (store, looked.2)
  | none => (storeOf format raw, rememberLoad format looked.2 usesCache raw stat stat)

/-- A load that goes to the file remembers the text the file holds, if any. -/
theorem serialized_of_load_without_cache (caches : StoreCaches Entry Text) (expired : Bool)
    (file : Option (StoreFile Text)) {text : Text}
    (remembered : (loadSessionStore format caches false expired file).2.serialized = some text) :
    file.map StoreFile.text = some text := by
  have stored : serializedFromDisk format (file.map StoreFile.text) = some text := remembered
  exact (Option.filter_eq_some_iff.1 stored).1

/-! ### What the file holds -/

/-- The file is there and parses to the store. -/
def Keeps (file : Option (StoreFile Text)) (store : OrderedMap String Entry) : Prop :=
  (file.bind fun file => recordOf format file.text) = some store

theorem keeps_of_text {file : Option (StoreFile Text)} {store : OrderedMap String Entry}
    (holds : file.map StoreFile.text = some (format.serialize store)) :
    Keeps format file store := by
  obtain ⟨found, rfl, same⟩ := Option.map_eq_some_iff.1 holds
  show recordOf format found.text = some store
  rw [same, recordOf_serialize]

theorem isSome_of_keeps {file : Option (StoreFile Text)} {store : OrderedMap String Entry}
    (keeps : Keeps format file store) : file.isSome := by
  cases file with
  | none => exact nomatch keeps
  | some file => rfl

end OpenClaw.Session
