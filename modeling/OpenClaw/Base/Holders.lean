/-
This file is about resources held by the members of a list, at most one each: a
resource is held exclusively when no two positions of the list hold it.

A member that changes, joins or leaves keeps exclusivity as long as what it comes
to hold is not held by another member.
-/

import Mathlib

namespace Holders

variable {Member Resource : Type*}

/-- No two members hold the same resource. -/
def Exclusive (holds : Member → Option Resource) (members : List Member) : Prop :=
  ∀ (first second : Nat) (left right : Member) (resource : Resource), members[first]? = some left →
    members[second]? = some right → holds left = some resource → holds right = some resource →
    first = second

variable {holds : Member → Option Resource} {members : List Member}

theorem exclusive_nil : Exclusive holds [] := fun _ _ _ _ _ listed => by simp at listed

theorem Exclusive.set (exclusive : Exclusive holds members) {index : Nat} {old new : Member}
    (stored : members[index]? = some old)
    (free : ∀ resource, holds new = some resource → holds old = some resource ∨
      ∀ position member, position ≠ index → members[position]? = some member →
        holds member ≠ some resource) : Exclusive holds (members.set index new) := by
  have apart : ∀ position other resource, position ≠ index → members[position]? = some other →
      holds other = some resource → holds new ≠ some resource :=
    fun position other resource elsewhere listed held holdsNew =>
      (free resource holdsNew).elim
        (fun holdsOld => elsewhere (exclusive _ _ _ _ _ listed stored held holdsOld))
        (fun others => others position other elsewhere listed held)
  have bound : index < members.length := (List.getElem?_eq_some_iff.1 stored).1
  intro first second left right resource atFirst atSecond holdsLeft holdsRight
  by_cases firstHere : index = first
  · by_cases secondHere : index = second
    · exact firstHere.symm.trans secondHere
    · subst firstHere
      rw [List.getElem?_set_self bound, Option.some.injEq] at atFirst
      rw [List.getElem?_set_ne secondHere] at atSecond
      exact absurd (atFirst ▸ holdsLeft) (apart _ _ _ (Ne.symm secondHere) atSecond holdsRight)
  · rw [List.getElem?_set_ne firstHere] at atFirst
    by_cases secondHere : index = second
    · subst secondHere
      rw [List.getElem?_set_self bound, Option.some.injEq] at atSecond
      exact absurd (atSecond ▸ holdsRight) (apart _ _ _ (Ne.symm firstHere) atFirst holdsLeft)
    · rw [List.getElem?_set_ne secondHere] at atSecond
      exact exclusive _ _ _ _ _ atFirst atSecond holdsLeft holdsRight

theorem Exclusive.append (exclusive : Exclusive holds members) {new : Member}
    (free : ∀ resource, holds new = some resource → ∀ member ∈ members, holds member ≠ some resource) :
    Exclusive holds (members ++ [new]) := by
  have position : ∀ (index : Nat) (member : Member), (members ++ [new])[index]? = some member →
      members[index]? = some member ∨ index = members.length ∧ member = new := by
    intro index member listed
    rw [List.getElem?_append] at listed
    split at listed
    · exact Or.inl listed
    · rename_i beyond
      rw [List.getElem?_singleton] at listed
      split at listed
      · exact Or.inr ⟨by omega, (Option.some.inj listed).symm⟩
      · cases listed
  intro first second left right resource atFirst atSecond holdsLeft holdsRight
  rcases position first left atFirst with inFirst | ⟨rfl, rfl⟩
  · rcases position second right atSecond with inSecond | ⟨rfl, rfl⟩
    · exact exclusive _ _ _ _ _ inFirst inSecond holdsLeft holdsRight
    · exact absurd holdsLeft (free resource holdsRight left (List.mem_of_getElem? inFirst))
  · rcases position second right atSecond with inSecond | ⟨rfl, rfl⟩
    · exact absurd holdsRight (free resource holdsLeft right (List.mem_of_getElem? inSecond))
    · rfl

/-- Members that give something up. -/
theorem Exclusive.map (exclusive : Exclusive holds members) {change : Member → Member}
    (fewer : ∀ member resource, holds (change member) = some resource → holds member = some resource) :
    Exclusive holds (members.map change) := by
  intro first second left right resource atFirst atSecond holdsLeft holdsRight
  rw [List.getElem?_map, Option.map_eq_some_iff] at atFirst atSecond
  obtain ⟨formerLeft, inFirst, rfl⟩ := atFirst
  obtain ⟨formerRight, inSecond, rfl⟩ := atSecond
  exact exclusive _ _ _ _ _ inFirst inSecond (fewer _ _ holdsLeft) (fewer _ _ holdsRight)

end Holders
