/-
This file is about fields joined with a separator.

What has been joined determines the fields as far as they are free of the separator:
one field can be peeled off the front, whatever stands behind it, and if all but the
last field are free then so many fields are determined altogether. A field that holds
the separator is where two different lists of fields meet.
-/

import Mathlib

namespace Delimited

/-! ### Lists -/

section Lists

variable {Symbol : Type*} (separator : Symbol)

/-- The fields with the separator between them. -/
def join : List (List Symbol) → List Symbol
  | [] => []
  | [field] => field
  | field :: next :: rest => field ++ separator :: join (next :: rest)

variable {separator} {fields others : List (List Symbol)}

theorem join_cons {field : List Symbol} {rest : List (List Symbol)} (more : rest ≠ []) :
    join separator (field :: rest) = field ++ separator :: join separator rest := by
  obtain ⟨next, others, rfl⟩ := List.exists_cons_of_ne_nil more
  rfl

/-- What stands before the first separator is determined, and what stands behind it. -/
theorem append_separator_inj {first second back other : List Symbol} (free : separator ∉ first)
    (otherFree : separator ∉ second) :
    first ++ separator :: back = second ++ separator :: other ↔ first = second ∧ back = other := by
  refine ⟨fun same => ?_, fun ⟨same, rest⟩ => by rw [same, rest]⟩
  induction first generalizing second with
  | nil =>
    cases second with
    | nil => exact ⟨rfl, (List.cons.inj same).2⟩
    | cons symbol second => exact absurd ((List.cons.inj same).1 ▸ List.mem_cons_self) otherFree
  | cons symbol first inductionHypothesis =>
    cases second with
    | nil => exact absurd ((List.cons.inj same).1 ▸ List.mem_cons_self) free
    | cons head second =>
      obtain ⟨rfl, tail⟩ := List.cons.inj same
      obtain ⟨rfl, rest⟩ := inductionHypothesis (fun member => free (List.mem_cons_of_mem _ member))
        (fun member => otherFree (List.mem_cons_of_mem _ member)) tail
      exact ⟨rfl, rest⟩

/-- The same from the back: what stands behind the last separator. -/
theorem append_separator_inj_last {first second back other : List Symbol} (free : separator ∉ back)
    (otherFree : separator ∉ other) :
    first ++ separator :: back = second ++ separator :: other ↔ first = second ∧ back = other := by
  rw [← List.reverse_inj, List.reverse_append, List.reverse_append, List.reverse_cons,
    List.reverse_cons, List.append_assoc, List.append_assoc, List.singleton_append,
    List.singleton_append, append_separator_inj (by simpa using free) (by simpa using otherFree),
    List.reverse_inj, List.reverse_inj, and_comm]

theorem join_cons_inj {field other : List Symbol} {rest others : List (List Symbol)}
    (more : rest ≠ []) (otherMore : others ≠ []) (free : separator ∉ field)
    (otherFree : separator ∉ other) :
    join separator (field :: rest) = join separator (other :: others) ↔
      field = other ∧ join separator rest = join separator others := by
  rw [join_cons more, join_cons otherMore]
  exact append_separator_inj free otherFree

/-- A field that is free of the separator is not several fields. -/
theorem join_singleton_ne {field other : List Symbol} {others : List (List Symbol)}
    (more : others ≠ []) (free : separator ∉ field) :
    join separator [field] ≠ join separator (other :: others) := fun same => by
  rw [join_cons more] at same
  exact free (show separator ∈ join separator [field] from same ▸ by simp)

/-- So many fields are determined if all but the last are free of the separator. -/
theorem join_inj (sameLength : fields.length = others.length)
    (free : ∀ field ∈ fields.dropLast, separator ∉ field)
    (otherFree : ∀ field ∈ others.dropLast, separator ∉ field) :
    join separator fields = join separator others ↔ fields = others := by
  refine ⟨fun same => ?_, fun same => by rw [same]⟩
  induction fields generalizing others with
  | nil => exact (List.length_eq_zero_iff.1 sameLength.symm).symm
  | cons field rest inductionHypothesis =>
    cases others with
    | nil => exact absurd sameLength (Nat.succ_ne_zero _)
    | cons other others =>
      have sameRest := Nat.succ.inj sameLength
      cases rest with
      | nil =>
        rw [List.length_eq_zero_iff.1 sameRest.symm] at same ⊢
        exact congrArg (· :: []) same
      | cons next rest =>
        cases others with
        | nil => exact absurd sameRest (Nat.succ_ne_zero _)
        | cons second others =>
          obtain ⟨rfl, tail⟩ := (join_cons_inj (List.cons_ne_nil _ _) (List.cons_ne_nil _ _)
            (free field List.mem_cons_self) (otherFree other List.mem_cons_self)).1 same
          rw [inductionHypothesis sameRest
            (fun later member => free later (List.mem_cons_of_mem _ member))
            (fun later member => otherFree later (List.mem_cons_of_mem _ member)) tail]

/-- Any two lists of fields that are free of the separator are told apart. -/
theorem eq_of_join_eq (filled : fields ≠ [])
    (otherFilled : others ≠ []) (free : ∀ field ∈ fields, separator ∉ field)
    (otherFree : ∀ field ∈ others, separator ∉ field)
    (same : join separator fields = join separator others) : fields = others := by
  induction fields generalizing others with
  | nil => exact absurd rfl filled
  | cons field rest inductionHypothesis =>
    obtain ⟨other, others, rfl⟩ := List.exists_cons_of_ne_nil otherFilled
    have fieldFree := free field List.mem_cons_self
    have otherFieldFree := otherFree other List.mem_cons_self
    by_cases more : rest = []
    · subst more
      by_cases otherMore : others = []
      · subst otherMore
        exact congrArg (· :: []) same
      · exact absurd same (join_singleton_ne otherMore fieldFree)
    · by_cases otherMore : others = []
      · subst otherMore
        exact absurd same.symm (join_singleton_ne more otherFieldFree)
      · obtain ⟨rfl, tail⟩ := (join_cons_inj more otherMore fieldFree otherFieldFree).1 same
        rw [inductionHypothesis more otherMore
          (fun later member => free later (List.mem_cons_of_mem _ member))
          (fun later member => otherFree later (List.mem_cons_of_mem _ member)) tail]

/-- What is joined is made of the fields and the separator. -/
theorem mem_join {symbol : Symbol} {fields : List (List Symbol)}
    (member : symbol ∈ join separator fields) :
    symbol = separator ∨ ∃ field ∈ fields, symbol ∈ field := by
  induction fields with
  | nil => exact absurd member List.not_mem_nil
  | cons field rest inductionHypothesis =>
    by_cases more : rest = []
    · subst more
      exact .inr ⟨field, List.mem_cons_self, member⟩
    · rw [join_cons more] at member
      rcases List.mem_append.1 member with inField | behind
      · exact .inr ⟨field, List.mem_cons_self, inField⟩
      · rcases List.mem_cons.1 behind with same | later
        · exact .inl same
        · exact (inductionHypothesis later).imp_right fun ⟨other, isOther, inOther⟩ =>
            ⟨other, List.mem_cons_of_mem _ isOther, inOther⟩

/-- What is replaced symbol by symbol may be replaced before it is joined. -/
theorem flatMap_join {replace : Symbol → List Symbol} (kept : replace separator = [separator])
    (fields : List (List Symbol)) :
    (join separator fields).flatMap replace = join separator (fields.map (List.flatMap replace)) := by
  induction fields with
  | nil => rfl
  | cons field rest inductionHypothesis =>
    by_cases more : rest = []
    · subst more
      rfl
    · rw [join_cons more, List.flatMap_append, List.flatMap_cons, kept, List.singleton_append,
        inductionHypothesis, List.map_cons, join_cons (by simpa using more)]

theorem map_join {change : Symbol → Symbol} (kept : change separator = separator)
    (fields : List (List Symbol)) :
    (join separator fields).map change = join separator (fields.map (List.map change)) := by
  have asReplacement : List.map change = List.flatMap fun symbol => [change symbol] :=
    funext fun symbols => (List.flatMap_pure_eq_map change symbols).symm
  rw [asReplacement]
  exact flatMap_join (congrArg (fun symbol => [symbol]) kept) fields

/-! #### Pieces -/

variable [DecidableEq Symbol]

/-- What has been joined is split again into the pieces of its fields. -/
theorem splitOn_join {fields : List (List Symbol)} (filled : fields ≠ []) :
    (join separator fields).splitOn separator = fields.flatMap (List.splitOn separator) := by
  induction fields with
  | nil => exact absurd rfl filled
  | cons field rest inductionHypothesis =>
    by_cases more : rest = []
    · subst more
      exact (List.append_nil _).symm
    · rw [join_cons more, List.splitOn_append_cons_self, inductionHypothesis more,
        List.flatMap_cons]

theorem splitOn_injective : Function.Injective (List.splitOn separator : List Symbol → _) := by
  intro first second same
  have rejoined : [separator].intercalate (first.splitOn separator) = first :=
    List.intercalate_splitOn separator
  rw [← rejoined, same, List.intercalate_splitOn]

/-- Whatever the fields hold, what has been joined tells their pieces and nothing else. -/
theorem join_eq_iff (filled : fields ≠ []) (otherFilled : others ≠ []) :
    join separator fields = join separator others ↔
      fields.flatMap (List.splitOn separator) = others.flatMap (List.splitOn separator) := by
  rw [← splitOn_join filled, ← splitOn_join otherFilled]
  exact splitOn_injective.eq_iff.symm

end Lists

/-! ### Texts -/

/-- The texts with the separator between them. -/
def joinText (separator : Char) (fields : List String) : String :=
  String.ofList (join separator (fields.map String.toList))

/-- A text without the separator. -/
def Free (separator : Char) (text : String) : Prop := separator ∉ text.toList

instance (separator : Char) (text : String) : Decidable (Free separator text) :=
  inferInstanceAs (Decidable (separator ∉ text.toList))

variable {separator : Char} {fields others : List String}

theorem joinText_eq_iff :
    joinText separator fields = joinText separator others ↔
      join separator (fields.map String.toList) = join separator (others.map String.toList) :=
  String.ofList_inj

theorem joinText_singleton (field : String) : joinText separator [field] = field :=
  String.ofList_toList

theorem joinText_cons_inj {field other : String} {rest others : List String} (more : rest ≠ [])
    (otherMore : others ≠ []) (free : Free separator field) (otherFree : Free separator other) :
    joinText separator (field :: rest) = joinText separator (other :: others) ↔
      field = other ∧ joinText separator rest = joinText separator others := by
  rw [joinText_eq_iff, joinText_eq_iff, List.map_cons, List.map_cons,
    join_cons_inj (by simpa using more) (by simpa using otherMore) free otherFree, String.toList_inj]

theorem joinText_singleton_ne {field other : String} {others : List String} (more : others ≠ [])
    (free : Free separator field) : field ≠ joinText separator (other :: others) := fun same =>
  join_singleton_ne (by simpa using more) free
    (joinText_eq_iff.1 ((joinText_singleton field).trans same))

theorem joinText_inj (sameLength : fields.length = others.length)
    (free : ∀ field ∈ fields.dropLast, Free separator field)
    (otherFree : ∀ field ∈ others.dropLast, Free separator field) :
    joinText separator fields = joinText separator others ↔ fields = others := by
  have each : ∀ texts : List String, (∀ field ∈ texts.dropLast, Free separator field) →
      ∀ field ∈ (texts.map String.toList).dropLast, separator ∉ field := by
    intro texts free field member
    rw [← List.map_dropLast] at member
    obtain ⟨text, isText, rfl⟩ := List.mem_map.1 member
    exact free text isText
  rw [joinText_eq_iff, join_inj (by simpa using sameLength) (each fields free)
    (each others otherFree)]
  exact (List.map_injective_iff.2 fun _ _ => String.toList_inj.1).eq_iff

theorem eq_of_joinText_eq (filled : fields ≠ [])
    (otherFilled : others ≠ []) (free : ∀ field ∈ fields, Free separator field)
    (otherFree : ∀ field ∈ others, Free separator field)
    (same : joinText separator fields = joinText separator others) : fields = others := by
  have each : ∀ texts : List String, (∀ field ∈ texts, Free separator field) →
      ∀ field ∈ texts.map String.toList, separator ∉ field := by
    intro texts free field member
    obtain ⟨text, isText, rfl⟩ := List.mem_map.1 member
    exact free text isText
  exact List.map_injective_iff.2 (fun _ _ => String.toList_inj.1) (eq_of_join_eq
    (by simpa using filled) (by simpa using otherFilled) (each fields free) (each others otherFree)
      (joinText_eq_iff.1 same))

theorem free_joinText {other : Char} {fields : List String} (different : other ≠ separator)
    (free : ∀ field ∈ fields, Free other field) : Free other (joinText separator fields) := by
  intro member
  rw [joinText, String.toList_ofList] at member
  rcases mem_join member with same | ⟨field, isField, inField⟩
  · exact different same
  · obtain ⟨text, isText, rfl⟩ := List.mem_map.1 isField
    exact free text isText inField

end Delimited
