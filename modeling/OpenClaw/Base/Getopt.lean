/-
This file is how a program reads its arguments: long options by any prefix that is unique, short
options in clusters, values in the same word or in the next one, and operands anywhere up to the
end of the options, where every word is an operand.

A table says which options there are, spelled out, and which of them take a value. What the table
does not have is read as an unknown option without a value.
-/

import Mathlib

namespace Getopt

structure Table where
  options : List String
  takesValue : String → Bool

/-- The use of an option. A value is missing where the arguments end. -/
inductive Use
  | known (option : String) (value : Option String)
  | unknown (spelling : String)
  deriving DecidableEq

structure Reading where
  uses : List Use
  operands : List String
  deriving DecidableEq

namespace Reading

def withUses (uses : List Use) (reading : Reading) : Reading :=
  { reading with uses := uses ++ reading.uses }

def withOperand (operand : String) (reading : Reading) : Reading :=
  { reading with operands := operand :: reading.operands }

@[simp] theorem uses_withUses (uses : List Use) (reading : Reading) :
    (reading.withUses uses).uses = uses ++ reading.uses := rfl

@[simp] theorem operands_withOperand (operand : String) (reading : Reading) :
    (reading.withOperand operand).operands = operand :: reading.operands := rfl

end Reading

def shortOption (letter : Char) : String := String.ofList ['-', letter]

variable (table : Table)

/-- The option that a name stands for: the one that it spells out, or the only one that it begins. -/
def resolveLong (name : String) : Option String :=
  if name ∈ table.options then some name
  else match (table.options.filter fun option => name.toList.isPrefixOf option.toList).dedup with
    | [option] => some option
    | _ => none

/-- The uses in a cluster, and the option at its end that takes the next word. -/
def readCluster : List Char → List Use × Option String
  | [] => ([], none)
  | letter :: rest =>
    if shortOption letter ∈ table.options then
      if table.takesValue (shortOption letter) then
        if rest = [] then ([], some (shortOption letter))
        else ([.known (shortOption letter) (some (String.ofList rest))], none)
      else (.known (shortOption letter) none :: (readCluster rest).1, (readCluster rest).2)
    else (.unknown (shortOption letter) :: (readCluster rest).1, (readCluster rest).2)

/-- The name and the value of a long option. -/
def splitInline (word : String) : String × Option String :=
  (String.ofList (word.toList.takeWhile (· ≠ '=')),
    if '=' ∈ word.toList then some (String.ofList (word.toList.dropWhile (· ≠ '=')).tail) else none)

def read : List String → Reading
  | [] => ⟨[], []⟩
  | word :: rest =>
    if word = "--" then ⟨[], rest⟩
    else if "--".toList.isPrefixOf word.toList then
      match resolveLong table (splitInline word).1 with
      | none => (read rest).withUses [.unknown (splitInline word).1]
      | some option =>
        if table.takesValue option && (splitInline word).2.isNone then
          match rest with
          | [] => ⟨[.known option none], []⟩
          | value :: rest => (read rest).withUses [.known option (some value)]
        else (read rest).withUses [.known option (splitInline word).2]
    else if "-".toList.isPrefixOf word.toList && word ≠ "-" then
      match (readCluster table word.toList.tail).2 with
      | none => (read rest).withUses (readCluster table word.toList.tail).1
      | some option =>
        match rest with
        | [] => ⟨(readCluster table word.toList.tail).1 ++ [.known option none], []⟩
        | value :: rest => (read rest).withUses
            ((readCluster table word.toList.tail).1 ++ [.known option (some value)])
    else (read rest).withOperand word

/-! ### Names -/

/-- A name that begins one option and no other stands for it. -/
theorem resolveLong_of_unique {name option : String}
    (isOption : option ∈ table.options) (begins : name.toList.isPrefixOf option.toList = true)
    (unique : ∀ other ∈ table.options, name.toList.isPrefixOf other.toList = true → other = option) :
    resolveLong table name = some option := by
  unfold resolveLong
  split
  next exact =>
    exact congrArg some (unique name exact (List.isPrefixOf_iff_prefix.2 (List.prefix_refl _)))
  · have isOnly : (table.options.filter fun option =>
        name.toList.isPrefixOf option.toList).dedup = [option] := by
      refine List.perm_singleton.1 ((List.perm_ext_iff_of_nodup (List.nodup_dedup _)
        (List.nodup_singleton _)).2 fun other => ?_)
      rw [List.mem_dedup, List.mem_filter, List.mem_singleton]
      exact ⟨fun ⟨isOther, beginsOther⟩ => unique other isOther beginsOther,
        fun same => same ▸ ⟨isOption, begins⟩⟩
    rw [isOnly]

theorem resolveLong_of_mem {name : String} (exact : name ∈ table.options) :
    resolveLong table name = some name := by
  unfold resolveLong
  rw [if_pos exact]

theorem mem_options_of_resolveLong {table : Table} {name option : String}
    (resolves : resolveLong table name = some option) : option ∈ table.options := by
  unfold resolveLong at resolves
  split at resolves
  next exact =>
    obtain rfl := Option.some.inj resolves
    exact exact
  · split at resolves
    next other isOnly =>
      obtain rfl := Option.some.inj resolves
      have isOther : other ∈ (table.options.filter fun option =>
          name.toList.isPrefixOf option.toList).dedup := isOnly ▸ List.mem_singleton.2 rfl
      exact (List.mem_filter.1 (List.mem_dedup.1 isOther)).1
    · nomatch resolves

end Getopt
