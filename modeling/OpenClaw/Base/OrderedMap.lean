/-
This file is a finite map that keeps its keys in the order they were first
inserted, which is what a JavaScript `Map` does: overwriting a key leaves it
where it stands, deleting and inserting again moves it to the end.

The map carries the distinctness of its keys as a field, so no later file ever
re-proves it. Everything else is stated through `get` and through membership in
`entries`, and the two readings are connected once by `get_eq_some_iff`.
-/

import Mathlib

/-- A finite map whose entries stand in insertion order. -/
structure OrderedMap (Key Value : Type*) where
  entries : List (Key × Value)
  distinct : (entries.map Prod.fst).Nodup

namespace OrderedMap

variable {Key Value Other : Type*}

instance : EmptyCollection (OrderedMap Key Value) := ⟨⟨[], List.nodup_nil⟩⟩

instance : Inhabited (OrderedMap Key Value) := ⟨∅⟩

instance [DecidableEq Key] [DecidableEq Value] : DecidableEq (OrderedMap Key Value) :=
  fun left right => decidable_of_iff (left.entries = right.entries)
    ⟨fun same => by cases left; cases right; simpa using same, fun same => same ▸ rfl⟩

@[simp] theorem entries_empty : (∅ : OrderedMap Key Value).entries = [] := rfl

@[ext] theorem ext {left right : OrderedMap Key Value} (same : left.entries = right.entries) :
    left = right := by
  cases left
  cases right
  simpa using same

/-- The keys in insertion order. -/
def keys (map : OrderedMap Key Value) : List Key := map.entries.map Prod.fst

/-- The values in insertion order. -/
def values (map : OrderedMap Key Value) : List Value := map.entries.map Prod.snd

theorem nodup_keys (map : OrderedMap Key Value) : map.keys.Nodup := map.distinct

/-- Two entries under one key are the same entry. -/
theorem unique (map : OrderedMap Key Value) {key : Key} {first second : Value}
    (left : (key, first) ∈ map.entries) (right : (key, second) ∈ map.entries) :
    first = second := by
  have same := List.inj_on_of_nodup_map map.distinct left right rfl
  exact congrArg Prod.snd same

/-- Replacing every value by one computed from its key and itself. -/
def mapValues (transform : Key → Value → Other) (map : OrderedMap Key Value) :
    OrderedMap Key Other where
  entries := map.entries.map fun entry => (entry.1, transform entry.1 entry.2)
  distinct := by simpa [List.map_map, Function.comp_def] using map.distinct

section Lookup

variable [DecidableEq Key] {map : OrderedMap Key Value} {key : Key}

/-- The value stored under a key. -/
def get (map : OrderedMap Key Value) (key : Key) : Option Value :=
  (map.entries.find? fun entry => entry.1 = key).map Prod.snd

/-- Whether a key is present. -/
def has (map : OrderedMap Key Value) (key : Key) : Bool := (map.get key).isSome

/-- Overwrites the value of a present key in place, or appends a new entry. -/
def set (map : OrderedMap Key Value) (key : Key) (value : Value) : OrderedMap Key Value :=
  if present : key ∈ map.keys then
    { entries := map.entries.map fun entry => if entry.1 = key then (key, value) else entry
      distinct := by
        have sameKeys : (map.entries.map fun entry =>
            if entry.1 = key then (key, value) else entry).map Prod.fst =
            map.entries.map Prod.fst := by
          rw [List.map_map]
          refine List.map_congr_left fun entry _ => ?_
          by_cases same : entry.1 = key <;> simp [same]
        rw [sameKeys]
        exact map.distinct }
  else
    { entries := map.entries ++ [(key, value)]
      distinct := by
        rw [List.map_append, List.nodup_append]
        refine ⟨map.distinct, by simp, ?_⟩
        intro earlier member last memberLast
        simp only [List.map_cons, List.map_nil, List.mem_singleton] at memberLast
        rintro rfl
        exact present (memberLast ▸ member) }

/-- Removes a key and its value. -/
def delete (map : OrderedMap Key Value) (key : Key) : OrderedMap Key Value where
  entries := map.entries.filter fun entry => entry.1 ≠ key
  distinct := map.distinct.sublist (List.filter_sublist.map Prod.fst)

/-! ### Reading through membership -/

theorem get_eq_some_iff (map : OrderedMap Key Value) (key : Key) (value : Value) :
    map.get key = some value ↔ (key, value) ∈ map.entries := by
  constructor
  · intro found
    simp only [get, Option.map_eq_some_iff] at found
    obtain ⟨entry, located, rfl⟩ := found
    have matched : entry.1 = key := by simpa using List.find?_some located
    exact matched ▸ List.mem_of_find?_eq_some located
  · intro member
    have located : ∃ entry, map.entries.find? (fun entry => entry.1 = key) = some entry := by
      rw [← Option.isSome_iff_exists, List.find?_isSome]
      exact ⟨_, member, by simp⟩
    obtain ⟨⟨foundKey, foundValue⟩, located⟩ := located
    have matched : foundKey = key := by simpa using List.find?_some located
    subst matched
    have same := map.unique (List.mem_of_find?_eq_some located) member
    rw [get, located, ← same]
    rfl

theorem get_eq_none_iff (map : OrderedMap Key Value) (key : Key) :
    map.get key = none ↔ ∀ value, (key, value) ∉ map.entries := by
  rw [← not_iff_not, ← Ne, Option.ne_none_iff_exists']
  simp only [get_eq_some_iff, not_forall, not_not]

theorem mem_keys_iff (map : OrderedMap Key Value) (key : Key) :
    key ∈ map.keys ↔ ∃ value, map.get key = some value := by
  simp only [keys, List.mem_map, Prod.exists, exists_and_right, exists_eq_right, get_eq_some_iff]

theorem get_eq_none_of_not_mem_keys (unlisted : key ∉ map.keys) : map.get key = none := by
  rw [mem_keys_iff] at unlisted
  exact Option.eq_none_iff_forall_ne_some.2 fun value stored => unlisted ⟨value, stored⟩

theorem entries_set_of_mem (value : Value)
    (present : key ∈ map.keys) : (map.set key value).entries =
      map.entries.map fun entry => if entry.1 = key then (key, value) else entry := by
  rw [set, dif_pos present]

theorem entries_set_of_not_mem (value : Value)
    (absent : key ∉ map.keys) : (map.set key value).entries = map.entries ++ [(key, value)] := by
  rw [set, dif_neg absent]

theorem mem_entries_set (map : OrderedMap Key Value) (key : Key) (value : Value)
    (entry : Key × Value) :
    entry ∈ (map.set key value).entries ↔
      entry = (key, value) ∨ entry.1 ≠ key ∧ entry ∈ map.entries := by
  by_cases present : key ∈ map.keys
  · rw [entries_set_of_mem value present, List.mem_map]
    constructor
    · rintro ⟨former, member, rfl⟩
      by_cases same : former.1 = key <;> simp [same, member]
    · rintro (rfl | ⟨different, member⟩)
      · obtain ⟨former, member, same⟩ := List.mem_map.1 present
        exact ⟨former, member, by simp [same]⟩
      · exact ⟨entry, member, by simp [different]⟩
  · have otherKey : entry ∈ map.entries → entry.1 ≠ key := fun member same =>
      present (List.mem_map.2 ⟨entry, member, same⟩)
    rw [entries_set_of_not_mem value present, List.mem_append, List.mem_singleton]
    tauto

@[simp] theorem get_empty (key : Key) : (∅ : OrderedMap Key Value).get key = none := rfl

@[simp] theorem get_set_self (map : OrderedMap Key Value) (key : Key) (value : Value) :
    (map.set key value).get key = some value := by
  rw [get_eq_some_iff, mem_entries_set]
  exact Or.inl rfl

theorem get_set_of_ne (map : OrderedMap Key Value) {key other : Key} (value : Value)
    (different : other ≠ key) : (map.set key value).get other = map.get other := by
  refine Option.ext fun result => ?_
  rw [get_eq_some_iff, get_eq_some_iff, mem_entries_set]
  simp [different]

theorem get_set (map : OrderedMap Key Value) (key other : Key) (value : Value) :
    (map.set key value).get other = if other = key then some value else map.get other := by
  by_cases same : other = key
  · rw [if_pos same, same, get_set_self]
  · rw [if_neg same, get_set_of_ne map value same]

/-- Storing what is there already changes nothing. -/
theorem set_eq_self (map : OrderedMap Key Value) {value : Value}
    (stored : map.get key = some value) : map.set key value = map := by
  have member := (map.get_eq_some_iff key value).1 stored
  refine ext ?_
  rw [entries_set_of_mem value (List.mem_map.2 ⟨_, member, rfl⟩)]
  refine (List.map_congr_left fun entry isEntry => ?_).trans (List.map_id _)
  split
  next same =>
    have own : (key, entry.2) ∈ map.entries := (show entry = (key, entry.2) from
      Prod.ext same rfl) ▸ isEntry
    exact Prod.ext same.symm (map.unique member own)
  next => rfl

/-- Setting a key puts its new value in the place of what was there. -/
theorem perm_entries_set (map : OrderedMap Key Value) (key : Key) (value : Value) :
    (map.set key value).entries.Perm ((key, value) :: map.entries.filter (·.1 ≠ key)) := by
  refine (List.perm_ext_iff_of_nodup (map.set key value).distinct.of_map (List.nodup_cons.2
    ⟨by simp, map.distinct.of_map.filter _⟩)).2 fun entry => ?_
  rw [mem_entries_set, List.mem_cons, List.mem_filter, decide_eq_true_eq, and_comm]

theorem perm_entries (map : OrderedMap Key Value) (key : Key) :
    map.entries.Perm (((map.get key).map (key, ·)).toList ++ map.entries.filter (·.1 ≠ key)) := by
  cases stored : map.get key with
  | some old =>
    have same := map.perm_entries_set key old
    rwa [map.set_eq_self stored] at same
  | none =>
    refine .of_eq (List.filter_eq_self.2 fun entry member => decide_eq_true ?_).symm
    rintro rfl
    exact (map.get_eq_none_iff _).1 stored entry.2 member

theorem get_delete (map : OrderedMap Key Value) (key other : Key) :
    (map.delete key).get other = if other = key then none else map.get other := by
  refine Option.ext fun result => ?_
  by_cases same : other = key <;>
    simp [get_eq_some_iff, delete, same]

@[simp] theorem get_delete_self (map : OrderedMap Key Value) (key : Key) :
    (map.delete key).get key = none := by simp [get_delete]

theorem get_delete_of_ne (map : OrderedMap Key Value) {key other : Key}
    (different : other ≠ key) : (map.delete key).get other = map.get other := by
  rw [get_delete, if_neg different]

/-- Deleting the keys of a list of entries one after the other. -/
theorem get_foldl_delete (entries : List (Key × Other)) (map : OrderedMap Key Value) (key : Key) :
    (entries.foldl (fun map entry => map.delete entry.1) map).get key =
      if key ∈ entries.map Prod.fst then none else map.get key := by
  induction entries generalizing map with
  | nil => rfl
  | cons entry rest inductionHypothesis =>
    rw [List.foldl_cons, inductionHypothesis, List.map_cons, get_delete]
    by_cases same : key = entry.1
    · rw [if_pos same, ite_self, if_pos (same ▸ List.mem_cons_self)]
    · rw [if_neg same]
      exact if_congr ⟨List.mem_cons_of_mem _, (List.mem_cons.1 · |>.resolve_left same)⟩ rfl rfl

@[simp] theorem keys_empty : (∅ : OrderedMap Key Value).keys = [] := rfl

theorem mem_keys_set (map : OrderedMap Key Value) (key other : Key) (value : Value) :
    other ∈ (map.set key value).keys ↔ other = key ∨ other ∈ map.keys := by
  rw [mem_keys_iff, mem_keys_iff, get_set]
  by_cases same : other = key <;> simp [same]

theorem mem_keys_delete (map : OrderedMap Key Value) (key other : Key) :
    other ∈ (map.delete key).keys ↔ other ∈ map.keys ∧ other ≠ key := by
  rw [mem_keys_iff, mem_keys_iff, get_delete]
  by_cases same : other = key <;> simp [same]

@[simp] theorem get_mapValues (transform : Key → Value → Other) (map : OrderedMap Key Value)
    (key : Key) : (map.mapValues transform).get key = (map.get key).map (transform key) := by
  refine Option.ext fun result => ?_
  simp only [get_eq_some_iff, mapValues, List.mem_map, Prod.mk.injEq, Prod.exists,
    Option.map_eq_some_iff]
  constructor
  · rintro ⟨former, value, member, rfl, rfl⟩
    exact ⟨value, member, rfl⟩
  · rintro ⟨value, member, rfl⟩
    exact ⟨key, value, member, rfl, rfl⟩

theorem mem_values_iff (map : OrderedMap Key Value) (value : Value) :
    value ∈ map.values ↔ ∃ key, map.get key = some value := by
  simp only [values, List.mem_map, Prod.exists, exists_eq_right, get_eq_some_iff]

/-- A map has entries exactly when some key has a value. -/
theorem isEmpty_entries_eq_false_iff (map : OrderedMap Key Value) :
    map.entries.isEmpty = false ↔ ∃ key, (map.get key).isSome := by
  constructor
  · intro filled
    obtain ⟨entry, member⟩ := List.exists_mem_of_ne_nil map.entries (by simpa using filled)
    exact ⟨entry.1, by rw [(map.get_eq_some_iff _ _).2 member]; rfl⟩
  · rintro ⟨key, found⟩
    obtain ⟨value, stored⟩ := Option.isSome_iff_exists.1 found
    exact List.isEmpty_eq_false_iff.2 (List.ne_nil_of_mem ((map.get_eq_some_iff _ _).1 stored))

/-! ### Maps keyed by their values -/

/-- Every value is stored under its own key. -/
def KeyedBy (keyOf : Value → Key) (map : OrderedMap Key Value) : Prop :=
  ∀ key value, map.get key = some value → keyOf value = key

theorem keyedBy_empty (keyOf : Value → Key) : KeyedBy keyOf (∅ : OrderedMap Key Value) := by
  intro key value stored
  simp at stored

theorem KeyedBy.set {keyOf : Value → Key} (keyed : KeyedBy keyOf map)
    {value : Value} (own : keyOf value = key) : KeyedBy keyOf (map.set key value) := by
  intro other stored found
  rw [get_set] at found
  by_cases same : other = key
  · rw [if_pos same, Option.some.injEq] at found
    rw [← found, own, same]
  · rw [if_neg same] at found
    exact keyed other stored found

theorem KeyedBy.delete {keyOf : Value → Key}
    (keyed : KeyedBy keyOf map) (key : Key) : KeyedBy keyOf (map.delete key) := by
  intro other stored found
  rw [get_delete] at found
  by_cases same : other = key
  · simp [same] at found
  · rw [if_neg same] at found
    exact keyed other stored found

end Lookup

end OrderedMap
