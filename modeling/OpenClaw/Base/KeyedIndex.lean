/-
This file is the theory of a lookup index kept beside a table: for every key,
the set of the ids whose value carries that key. A value may carry no key, one
or several.

The purpose of such an index is `Exact`: an id is found under exactly the keys
of its value, an id that is not in the table is found nowhere, and a key that
nobody carries has no set at all. The lemmas say how the three ways a program
maintains an index keep it exact: adding the keys of a fresh entry, exchanging
the keys of an entry that is overwritten, and rebuilding from the table. They
also say that exactness is the same thing as agreeing with the rebuilt index.
-/

import OpenClaw.Base.OrderedMap

/-! ### Sets in insertion order -/

/-- A finite set whose elements stand in insertion order, as in a JavaScript `Set`. -/
structure OrderedSet (Element : Type*) where
  elements : List Element
  nodup : elements.Nodup

namespace OrderedSet

variable {Element : Type*}

instance : EmptyCollection (OrderedSet Element) := ⟨⟨[], List.nodup_nil⟩⟩

instance : Membership Element (OrderedSet Element) := ⟨fun set element => element ∈ set.elements⟩

@[simp] theorem mem_mk {elements : List Element} (nodup : elements.Nodup) (element : Element) :
    element ∈ (⟨elements, nodup⟩ : OrderedSet Element) ↔ element ∈ elements := Iff.rfl

@[simp] theorem not_mem_empty (element : Element) : element ∉ (∅ : OrderedSet Element) :=
  List.not_mem_nil

theorem eq_empty_iff (set : OrderedSet Element) : set = ∅ ↔ set.elements = [] := by
  constructor
  · rintro rfl
    rfl
  · intro empty
    cases set
    simp only at empty
    subst empty
    rfl

theorem exists_mem_of_ne_empty {set : OrderedSet Element} (nonempty : set ≠ ∅) :
    ∃ element, element ∈ set :=
  List.exists_mem_of_ne_nil _ fun empty => nonempty ((eq_empty_iff set).2 empty)

theorem ne_empty_of_mem {set : OrderedSet Element} {element : Element} (member : element ∈ set) :
    set ≠ ∅ := by
  rintro rfl
  exact not_mem_empty element member

variable [DecidableEq Element]

instance (element : Element) (set : OrderedSet Element) : Decidable (element ∈ set) :=
  inferInstanceAs (Decidable (element ∈ set.elements))

/-- Adds an element at the end when it is new. -/
def add (set : OrderedSet Element) (element : Element) : OrderedSet Element :=
  if known : element ∈ set then set
  else
    { elements := set.elements ++ [element]
      nodup := by
        rw [List.nodup_append]
        refine ⟨set.nodup, by simp, ?_⟩
        intro earlier member last memberLast
        rw [List.mem_singleton] at memberLast
        rintro rfl
        exact known (memberLast ▸ member) }

/-- Removes an element. -/
def delete (set : OrderedSet Element) (element : Element) : OrderedSet Element where
  elements := set.elements.filter (· ≠ element)
  nodup := set.nodup.filter _

theorem mem_add (set : OrderedSet Element) (element member : Element) :
    member ∈ set.add element ↔ member ∈ set ∨ member = element := by
  by_cases known : element ∈ set
  · rw [add, dif_pos known]
    constructor
    · exact Or.inl
    · rintro (present | rfl)
      · exact present
      · exact known
  · rw [add, dif_neg known, mem_mk, List.mem_append, List.mem_singleton]
    exact Iff.rfl

theorem mem_delete (set : OrderedSet Element) (element member : Element) :
    member ∈ set.delete element ↔ member ∈ set ∧ member ≠ element := by
  rw [delete, mem_mk, List.mem_filter, decide_eq_true_iff]
  exact Iff.rfl

/-- The elements as a finite set. -/
def toFinset (set : OrderedSet Element) : Finset Element := set.elements.toFinset

@[simp] theorem mem_toFinset (set : OrderedSet Element) (element : Element) :
    element ∈ set.toFinset ↔ element ∈ set := List.mem_toFinset

end OrderedSet

/-! ### Indexes -/

/-- Sets of ids by key. -/
abbrev KeyedIndex (Key Id : Type*) := OrderedMap Key (OrderedSet Id)

namespace KeyedIndex

variable {Key Id Value : Type*} [DecidableEq Key] [DecidableEq Id] {index : KeyedIndex Key Id}

/-- The ids found under a key. -/
def lookup (index : KeyedIndex Key Id) (key : Key) : OrderedSet Id := (index.get key).getD ∅

/-- Adds an id under a key, creating the set when there is none. -/
def add (index : KeyedIndex Key Id) (key : Key) (id : Id) : KeyedIndex Key Id :=
  index.set key ((index.lookup key).add id)

/-- Removes an id from under a key, dropping the set when it becomes empty. -/
def remove (index : KeyedIndex Key Id) (key : Key) (id : Id) : KeyedIndex Key Id :=
  match index.get key with
  | none => index
  | some ids =>
    if (ids.delete id).elements = [] then index.delete key else index.set key (ids.delete id)

/-- Adds an id under every key of a list. -/
def addAll (keys : List Key) (id : Id) (index : KeyedIndex Key Id) : KeyedIndex Key Id :=
  keys.foldl (fun current key => add current key id) index

/-- Removes an id from under every key of a list. -/
def removeAll (keys : List Key) (id : Id) (index : KeyedIndex Key Id) : KeyedIndex Key Id :=
  keys.foldl (fun current key => remove current key id) index

/-- The index computed afresh from a table. -/
def rebuild (keysOf : Value → List Key) (table : OrderedMap Id Value) : KeyedIndex Key Id :=
  table.entries.foldl (fun index entry => addAll (keysOf entry.2) entry.1 index) ∅

/-- The index tells exactly which entries of the table carry which key. -/
structure Exact (keysOf : Value → List Key) (table : OrderedMap Id Value)
    (index : KeyedIndex Key Id) : Prop where
  found : ∀ key id, id ∈ index.lookup key ↔ ∃ value, table.get id = some value ∧ key ∈ keysOf value
  inhabited : ∀ key, index.get key ≠ some ∅

/-- What the index finds is right, though it may miss entries. -/
def Sound (keysOf : Value → List Key) (table : OrderedMap Id Value)
    (index : KeyedIndex Key Id) : Prop :=
  ∀ key id, id ∈ index.lookup key → ∃ value, table.get id = some value ∧ key ∈ keysOf value

/-- Two indexes have the same keys and the same set of ids under each. -/
def Equivalent (left right : KeyedIndex Key Id) : Prop :=
  ∀ key, (left.get key).map OrderedSet.toFinset = (right.get key).map OrderedSet.toFinset

/-! ### Adding and removing under one key -/

omit [DecidableEq Id] in
theorem lookup_of_get {key : Key} {ids : OrderedSet Id}
    (stored : index.get key = some ids) : index.lookup key = ids := by
  rw [lookup, stored, Option.getD_some]

theorem mem_lookup_add (index : KeyedIndex Key Id) (key other : Key) (id member : Id) :
    member ∈ (index.add key id).lookup other ↔
      member ∈ index.lookup other ∨ other = key ∧ member = id := by
  by_cases same : other = key
  · subst same
    rw [add, lookup, OrderedMap.get_set_self, Option.getD_some, OrderedSet.mem_add]
    simp
  · rw [add, lookup, OrderedMap.get_set_of_ne _ _ same]
    simp [same, lookup]

theorem get_add_ne_empty (inhabited : ∀ key, index.get key ≠ some ∅)
    (key : Key) (id : Id) (other : Key) : (index.add key id).get other ≠ some ∅ := by
  by_cases same : other = key
  · subst same
    rw [add, OrderedMap.get_set_self]
    have member : id ∈ (index.lookup other).add id := (OrderedSet.mem_add _ _ _).2 (Or.inr rfl)
    exact fun empty => OrderedSet.ne_empty_of_mem member (Option.some.inj empty)
  · rw [add, OrderedMap.get_set_of_ne _ _ same]
    exact inhabited other

theorem mem_lookup_remove (index : KeyedIndex Key Id) (key other : Key) (id member : Id) :
    member ∈ (index.remove key id).lookup other ↔
      member ∈ index.lookup other ∧ ¬ (other = key ∧ member = id) := by
  unfold remove
  cases stored : index.get key with
  | none =>
    have empty : index.lookup key = ∅ := by rw [lookup, stored, Option.getD_none]
    constructor
    · intro present
      refine ⟨present, ?_⟩
      rintro ⟨rfl, -⟩
      exact OrderedSet.not_mem_empty _ (empty ▸ present)
    · exact fun present => present.1
  | some ids =>
    have known := lookup_of_get stored
    by_cases same : other = key
    · subst same
      have kept : member ∈ (index.lookup other).delete id ↔
          member ∈ index.lookup other ∧ ¬ (other = other ∧ member = id) := by
        rw [OrderedSet.mem_delete]
        simp
      rw [← kept, known]
      by_cases last : (ids.delete id).elements = []
      · simp only [if_pos last]
        rw [lookup, OrderedMap.get_delete_self, Option.getD_none,
          (OrderedSet.eq_empty_iff _).2 last]
      · simp only [if_neg last]
        rw [lookup, OrderedMap.get_set_self, Option.getD_some]
    · by_cases last : (ids.delete id).elements = []
      · simp only [if_pos last]
        rw [lookup, OrderedMap.get_delete_of_ne _ same]
        simp [same, lookup]
      · simp only [if_neg last]
        rw [lookup, OrderedMap.get_set_of_ne _ _ same]
        simp [same, lookup]

theorem get_remove_ne_empty
    (inhabited : ∀ key, index.get key ≠ some ∅) (key : Key) (id : Id) (other : Key) :
    (index.remove key id).get other ≠ some ∅ := by
  unfold remove
  cases stored : index.get key with
  | none => exact inhabited other
  | some ids =>
    by_cases last : (ids.delete id).elements = []
    · simp only [if_pos last]
      rw [OrderedMap.get_delete]
      by_cases same : other = key
      · simp [same]
      · rw [if_neg same]
        exact inhabited other
    · simp only [if_neg last]
      rw [OrderedMap.get_set]
      by_cases same : other = key
      · rw [if_pos same]
        exact fun empty => last ((OrderedSet.eq_empty_iff _).1 (Option.some.inj empty))
      · rw [if_neg same]
        exact inhabited other

/-! ### Adding and removing under several keys -/

theorem mem_lookup_addAll (keys : List Key) (id : Id) (index : KeyedIndex Key Id) (other : Key)
    (member : Id) : member ∈ lookup (addAll keys id index) other ↔
      member ∈ index.lookup other ∨ other ∈ keys ∧ member = id := by
  induction keys generalizing index with
  | nil => simp [addAll]
  | cons key rest inductionHypothesis =>
    have unfolded : addAll (key :: rest) id index = addAll rest id (add index key id) := rfl
    rw [unfolded, inductionHypothesis, mem_lookup_add, List.mem_cons]
    tauto

theorem get_addAll_ne_empty (keys : List Key) (id : Id)
    (inhabited : ∀ key, index.get key ≠ some ∅) (other : Key) :
    (addAll keys id index).get other ≠ some ∅ := by
  induction keys generalizing index with
  | nil => exact inhabited other
  | cons key rest inductionHypothesis =>
    exact inductionHypothesis (get_add_ne_empty inhabited key id)

theorem mem_lookup_removeAll (keys : List Key) (id : Id) (index : KeyedIndex Key Id) (other : Key)
    (member : Id) : member ∈ lookup (removeAll keys id index) other ↔
      member ∈ index.lookup other ∧ ¬ (other ∈ keys ∧ member = id) := by
  induction keys generalizing index with
  | nil => simp [removeAll]
  | cons key rest inductionHypothesis =>
    have unfolded : removeAll (key :: rest) id index = removeAll rest id (remove index key id) := rfl
    rw [unfolded, inductionHypothesis, mem_lookup_remove, List.mem_cons]
    tauto

theorem get_removeAll_ne_empty (keys : List Key) (id : Id)
    (inhabited : ∀ key, index.get key ≠ some ∅) (other : Key) :
    (removeAll keys id index).get other ≠ some ∅ := by
  induction keys generalizing index with
  | nil => exact inhabited other
  | cons key rest inductionHypothesis =>
    exact inductionHypothesis (get_remove_ne_empty inhabited key id)

/-! ### Keeping an index exact -/

section Exact

variable {keysOf : Value → List Key} {table : OrderedMap Id Value}
variable {id : Id} {former : Value}

theorem exact_empty (keysOf : Value → List Key) :
    Exact keysOf (∅ : OrderedMap Id Value) (∅ : KeyedIndex Key Id) where
  found := by simp [lookup]
  inhabited := by simp

/-- A fresh entry is indexed by adding its keys. -/
theorem Exact.insert (exact : Exact keysOf table index) (fresh : table.get id = none)
    (value : Value) : Exact keysOf (table.set id value) (addAll (keysOf value) id index) where
  found key member := by
    rw [mem_lookup_addAll, exact.found]
    by_cases same : member = id
    · subst same
      simp [fresh]
    · simp [OrderedMap.get_set_of_ne table value same, same]
  inhabited := get_addAll_ne_empty _ _ exact.inhabited

/-- Overwriting an entry exchanges its keys. -/
theorem Exact.exchange (exact : Exact keysOf table index)
    (stored : table.get id = some former) (value : Value) :
    Exact keysOf (table.set id value)
      (addAll (keysOf value) id (removeAll (keysOf former) id index)) where
  found key member := by
    rw [mem_lookup_addAll, mem_lookup_removeAll, exact.found]
    by_cases same : member = id
    · subst same
      simp [stored]
    · simp [OrderedMap.get_set_of_ne table value same, same]
  inhabited := get_addAll_ne_empty _ _ (get_removeAll_ne_empty _ _ exact.inhabited)

/-- Overwriting an entry by one with the same keys needs no index write. -/
theorem Exact.overwrite (exact : Exact keysOf table index) {former value : Value}
    (stored : table.get id = some former) (sameKeys : keysOf value = keysOf former) :
    Exact keysOf (table.set id value) index where
  found key member := by
    rw [exact.found]
    by_cases same : member = id
    · subst same
      simp [stored, sameKeys]
    · rw [OrderedMap.get_set_of_ne table value same]
  inhabited := exact.inhabited

/-- Deleting an entry removes its keys. -/
theorem Exact.erase (exact : Exact keysOf table index) (stored : table.get id = some former) :
    Exact keysOf (table.delete id) (removeAll (keysOf former) id index) where
  found key member := by
    rw [mem_lookup_removeAll, exact.found]
    by_cases same : member = id
    · subst same
      simp [stored]
    · simp [OrderedMap.get_delete_of_ne table same, same]
  inhabited := get_removeAll_ne_empty _ _ exact.inhabited

/-! ### Keeping an index sound -/

theorem Exact.sound (exact : Exact keysOf table index) : Sound keysOf table index :=
  fun key id member => (exact.found key id).1 member

/-- A fresh entry may be left out of the index. -/
theorem Sound.extend (sound : Sound keysOf table index) (fresh : table.get id = none)
    (value : Value) : Sound keysOf (table.set id value) index := by
  intro key member listed
  obtain ⟨found, stored, carries⟩ := sound key member listed
  have different : member ≠ id := by
    rintro rfl
    rw [fresh] at stored
    simp at stored
  exact ⟨found, by rw [OrderedMap.get_set_of_ne table value different, stored], carries⟩

/-- A fresh entry may be indexed under its keys. -/
theorem Sound.insert (sound : Sound keysOf table index) (fresh : table.get id = none)
    (value : Value) : Sound keysOf (table.set id value) (addAll (keysOf value) id index) := by
  intro key member listed
  rw [mem_lookup_addAll] at listed
  rcases listed with former | ⟨carries, rfl⟩
  · exact sound.extend fresh value key member former
  · exact ⟨value, OrderedMap.get_set_self _ _ _, carries⟩

/-- Overwriting an entry exchanges its keys. -/
theorem Sound.exchange (sound : Sound keysOf table index)
    (stored : table.get id = some former) (value : Value) :
    Sound keysOf (table.set id value)
      (addAll (keysOf value) id (removeAll (keysOf former) id index)) := by
  intro key member listed
  rw [mem_lookup_addAll, mem_lookup_removeAll] at listed
  by_cases same : member = id
  · subst same
    rcases listed with ⟨indexed, removed⟩ | ⟨carries, -⟩
    · obtain ⟨found, again, carries⟩ := sound key member indexed
      rw [stored, Option.some.injEq] at again
      exact absurd ⟨again ▸ carries, rfl⟩ removed
    · exact ⟨value, OrderedMap.get_set_self _ _ _, carries⟩
  · obtain ⟨found, again, carries⟩ :=
      sound key member (listed.resolve_right fun both => same both.2).1
    exact ⟨found, by rw [OrderedMap.get_set_of_ne table value same, again], carries⟩

/-- Overwriting an entry by one with the same keys needs no index write. -/
theorem Sound.overwrite (sound : Sound keysOf table index) {former value : Value}
    (stored : table.get id = some former) (sameKeys : keysOf value = keysOf former) :
    Sound keysOf (table.set id value) index := by
  intro key member listed
  obtain ⟨found, again, carries⟩ := sound key member listed
  by_cases same : member = id
  · subst same
    rw [stored, Option.some.injEq] at again
    exact ⟨value, OrderedMap.get_set_self _ _ _, by rw [sameKeys, again]; exact carries⟩
  · exact ⟨found, by rw [OrderedMap.get_set_of_ne table value same, again], carries⟩

/-- Deleting an entry removes its keys. -/
theorem Sound.erase (sound : Sound keysOf table index) (stored : table.get id = some former) :
    Sound keysOf (table.delete id) (removeAll (keysOf former) id index) := by
  intro key member listed
  rw [mem_lookup_removeAll] at listed
  obtain ⟨found, again, carries⟩ := sound key member listed.1
  have different : member ≠ id := by
    rintro rfl
    rw [stored, Option.some.injEq] at again
    exact listed.2 ⟨again ▸ carries, rfl⟩
  exact ⟨found, by rw [OrderedMap.get_delete_of_ne table different, again], carries⟩

/-! ### Rebuilding an index -/

theorem mem_lookup_foldl (keysOf : Value → List Key) (entries : List (Id × Value))
    (index : KeyedIndex Key Id) (key : Key) (id : Id) :
    id ∈ lookup (entries.foldl (fun current entry =>
        addAll (keysOf entry.2) entry.1 current) index) key ↔
      id ∈ index.lookup key ∨ ∃ value, (id, value) ∈ entries ∧ key ∈ keysOf value := by
  induction entries generalizing index with
  | nil => simp
  | cons entry rest inductionHypothesis =>
    rw [List.foldl_cons, inductionHypothesis, mem_lookup_addAll]
    simp only [List.mem_cons]
    constructor
    · rintro ((known | ⟨carried, rfl⟩) | ⟨value, member, carried⟩)
      · exact Or.inl known
      · exact Or.inr ⟨entry.2, Or.inl rfl, carried⟩
      · exact Or.inr ⟨value, Or.inr member, carried⟩
    · rintro (known | ⟨value, rfl | member, carried⟩)
      · exact Or.inl (Or.inl known)
      · exact Or.inl (Or.inr ⟨carried, rfl⟩)
      · exact Or.inr ⟨value, member, carried⟩

theorem get_foldl_ne_empty (keysOf : Value → List Key) (entries : List (Id × Value))
    {index : KeyedIndex Key Id} (inhabited : ∀ key, index.get key ≠ some ∅) (key : Key) :
    OrderedMap.get (entries.foldl (fun current entry =>
      addAll (keysOf entry.2) entry.1 current) index) key ≠ some ∅ := by
  induction entries generalizing index with
  | nil => exact inhabited key
  | cons entry rest inductionHypothesis =>
    exact inductionHypothesis (get_addAll_ne_empty _ _ inhabited)

/-- The rebuilt index is exact, whatever the index was before. -/
theorem exact_rebuild (keysOf : Value → List Key) (table : OrderedMap Id Value) :
    Exact keysOf table (rebuild keysOf table) where
  found key id := by
    rw [rebuild, mem_lookup_foldl]
    simp [lookup, OrderedMap.get_eq_some_iff]
  inhabited := get_foldl_ne_empty keysOf _ fun key => by simp

omit [DecidableEq Id] in
theorem get_eq_some_of_lookup_ne_empty {key : Key} (present : index.lookup key ≠ ∅) :
    index.get key = some (index.lookup key) := by
  cases stored : index.get key with
  | none => exact absurd (by rw [lookup, stored, Option.getD_none]) present
  | some ids => rw [lookup_of_get stored]

/-- Being exact is agreeing, key by key, with the index recomputed from the table. -/
theorem exact_iff_equivalent_rebuild :
    Exact keysOf table index ↔ Equivalent index (rebuild keysOf table) := by
  have rebuilt := exact_rebuild keysOf table
  constructor
  · intro exact key
    have sameIds : ∀ id, id ∈ index.lookup key ↔ id ∈ lookup (rebuild keysOf table) key :=
      fun id => (exact.found key id).trans (rebuilt.found key id).symm
    cases left : index.get key with
    | none =>
      cases right : (rebuild keysOf table).get key with
      | none => rfl
      | some ids =>
        obtain ⟨id, member⟩ := OrderedSet.exists_mem_of_ne_empty
          fun empty => rebuilt.inhabited key (empty ▸ right)
        have ghost := (sameIds id).2 (by rw [lookup_of_get right]; exact member)
        rw [lookup, left, Option.getD_none] at ghost
        exact absurd ghost (OrderedSet.not_mem_empty id)
    | some ids =>
      obtain ⟨id, member⟩ := OrderedSet.exists_mem_of_ne_empty
        fun empty => exact.inhabited key (empty ▸ left)
      have present : lookup (rebuild keysOf table) key ≠ ∅ :=
        OrderedSet.ne_empty_of_mem ((sameIds id).1 (by rw [lookup_of_get left]; exact member))
      rw [get_eq_some_of_lookup_ne_empty present, Option.map_some, Option.map_some]
      refine congrArg some (Finset.ext fun other => ?_)
      rw [OrderedSet.mem_toFinset, OrderedSet.mem_toFinset, ← sameIds other, lookup_of_get left]
  · intro equivalent
    refine ⟨fun key id => ?_, fun key empty => ?_⟩
    · rw [← rebuilt.found]
      have same := equivalent key
      cases left : index.get key <;> cases right : (rebuild keysOf table).get key <;>
        rw [left, right] at same
      · simp [lookup, left, right]
      · simp at same
      · simp at same
      · rw [Option.map_some, Option.map_some] at same
        rw [lookup_of_get left, lookup_of_get right, ← OrderedSet.mem_toFinset,
          Option.some.inj same, OrderedSet.mem_toFinset]
    · have same := equivalent key
      rw [empty, Option.map_some] at same
      cases right : (rebuild keysOf table).get key with
      | none => simp [right] at same
      | some ids =>
        rw [right, Option.map_some] at same
        obtain ⟨id, member⟩ := OrderedSet.exists_mem_of_ne_empty
          fun noIds => rebuilt.inhabited key (noIds ▸ right)
        rw [← OrderedSet.mem_toFinset, ← Option.some.inj same, OrderedSet.mem_toFinset] at member
        exact OrderedSet.not_mem_empty id member

end Exact

end KeyedIndex
