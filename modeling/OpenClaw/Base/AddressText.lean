/-
This file is the textual form of internet addresses: four decimal octets with dots between them,
or eight groups of hexadecimal digits with colons between them, where one run of zero groups may
be left out, the last two groups may be written as octets, and a zone may follow.

A text is related to the address it denotes by the way it is put together. It denotes one address
at most, every address has a text, and nothing is lost when letters change their case or when the
octets at the end are written in hexadecimal.
-/

import OpenClaw.Base.Delimited

namespace AddressText

open Delimited

/-- An address of four octets. -/
abbrev Ipv4 := Fin 4 → BitVec 8

/-- An address of eight groups. -/
abbrev Ipv6 := Fin 8 → BitVec 16

scoped instance neZero_four : NeZero 4 := ⟨by decide⟩

scoped instance neZero_eight : NeZero 8 := ⟨by decide⟩

/-! ### Hexadecimal numbers -/

def hexDigit (character : Char) : Option ℕ :=
  let code := character.toNat
  if 48 ≤ code ∧ code ≤ 57 then some (code - 48)
  else if 97 ≤ code ∧ code ≤ 102 then some (code - 87)
  else if 65 ≤ code ∧ code ≤ 70 then some (code - 55)
  else none

/-- A number read on from what the digits before it give. -/
def hexNumberFrom (start : ℕ) (digits : List Char) : Option ℕ :=
  digits.foldlM (fun value digit => (hexDigit digit).map (16 * value + ·)) start

def hexNumber (digits : List Char) : Option ℕ := hexNumberFrom 0 digits

/-- The digits of a number, the letters in lower case. -/
def hexText (number : ℕ) : List Char := Nat.toDigits 16 number

theorem hexNumberFrom_cons (start : ℕ) (digit : Char) (rest : List Char) :
    hexNumberFrom start (digit :: rest) =
      (hexDigit digit).bind fun value => hexNumberFrom (16 * start + value) rest := by
  unfold hexNumberFrom
  rw [List.foldlM_cons]
  cases hexDigit digit <;> rfl

theorem hexNumber_concat (digits : List Char) (digit : Char) :
    hexNumber (digits ++ [digit]) =
      (hexNumber digits).bind fun value => (hexDigit digit).map (16 * value + ·) := by
  unfold hexNumber hexNumberFrom
  rw [List.foldlM_append]
  simp

theorem hexDigit_digitChar : ∀ digit : Fin 16, hexDigit (Nat.digitChar digit) = some digit.val := by
  decide

theorem hexNumber_hexText (number : ℕ) : hexNumber (hexText number) = some number := by
  induction number using Nat.strong_induction_on with
  | _ number inductionHypothesis =>
    unfold hexText
    rw [Nat.toDigits_eq_if (by decide)]
    split
    next small =>
      have digit := hexDigit_digitChar ⟨number, small⟩
      dsimp only at digit
      simp [hexNumber, hexNumberFrom, digit]
    next large =>
      have digit := hexDigit_digitChar ⟨number % 16, Nat.mod_lt _ (by decide)⟩
      have front := inductionHypothesis (number / 16) (by omega)
      unfold hexText at front
      rw [hexNumber_concat, front, digit, Option.bind_some, Option.map_some, Nat.div_add_mod]

theorem isSome_hexDigit_of_mem {start number : ℕ} {digits : List Char}
    (reads : hexNumberFrom start digits = some number) :
    ∀ digit ∈ digits, (hexDigit digit).isSome := by
  induction digits generalizing start with
  | nil => exact fun _ none => absurd none List.not_mem_nil
  | cons first rest inductionHypothesis =>
    rw [hexNumberFrom_cons, Option.bind_eq_some_iff] at reads
    obtain ⟨value, isValue, tail⟩ := reads
    rintro digit (_ | ⟨_, member⟩)
    · exact Option.isSome_of_eq_some isValue
    · exact inductionHypothesis tail digit member

/-! ### The parts of a text -/

/-- One to four hexadecimal digits. -/
structure Group (text : List Char) (word : BitVec 16) : Prop where
  filled : text ≠ []
  short : text.length ≤ 4
  reads : hexNumber text = some word.toNat

/-- Four decimal numbers without needless zeros, dots between them. -/
def dottedText (octets : Ipv4) : List Char :=
  join '.' (List.ofFn fun place => Nat.toDigits 10 (octets place).toNat)

/-- Groups with colons between them; where dots are admitted, octets may stand for the last two. -/
inductive Words : Bool → List Char → List (BitVec 16) → Prop
  | group {dots : Bool} {text : List Char} {word : BitVec 16} (group : Group text word) :
      Words dots text [word]
  | dotted (octets : Ipv4) :
      Words true (dottedText octets) [octets 0 ++ octets 1, octets 2 ++ octets 3]
  | cons {dots : Bool} {text rest : List Char} {word : BitVec 16} {words : List (BitVec 16)}
      (group : Group text word) (tail : Words dots rest words) :
      Words dots (text ++ ':' :: rest) (word :: words)

/-- What stands on one side of the zeros that are left out. -/
inductive Side (dots : Bool) : List Char → List (BitVec 16) → Prop
  | empty : Side dots [] []
  | words {text : List Char} {words : List (BitVec 16)} (whole : Words dots text words) :
      Side dots text words

inductive Body (dots : Bool) : List Char → Ipv6 → Prop
  | full {text : List Char} {address : Ipv6} (words : Words dots text (List.ofFn address)) :
      Body dots text address
  | compressed {front back : List Char} {fronts backs : List (BitVec 16)} {zeros : ℕ}
      {address : Ipv6} (left : Side false front fronts) (right : Side dots back backs)
      (some_zeros : 0 < zeros)
      (whole : List.ofFn address = fronts ++ List.replicate zeros 0 ++ backs) :
      Body dots (front ++ ':' :: ':' :: back) address

def Zone (zone : List Char) : Prop :=
  zone = [] ∨ ∃ name, name ≠ [] ∧ (∀ character ∈ name, character.isAlphanum = true) ∧
    zone = '%' :: name

/-- The text denotes the address. -/
def Denotes (dots : Bool) (text : List Char) (address : Ipv6) : Prop :=
  ∃ body zone, text = body ++ zone ∧ Body dots body address ∧ Zone zone

variable {text : List Char} {words : List (BitVec 16)} {dots : Bool}

/-- Where no octets are needed, they may be admitted. -/
theorem Words.weaken (whole : Words dots text words) : Words true text words := by
  induction whole with
  | group group => exact .group group
  | dotted octets => exact .dotted octets
  | cons group tail inductionHypothesis => exact .cons group inductionHypothesis

variable {address : Ipv6} {others : Bool} {character : Char}

theorem Denotes.weaken (denotes : Denotes dots text address) : Denotes true text address := by
  obtain ⟨body, zone, isText, isBody, isZone⟩ := denotes
  refine ⟨body, zone, isText, ?_, isZone⟩
  cases isBody with
  | full words => exact .full words.weaken
  | compressed left right some_zeros whole =>
    cases right with
    | empty => exact .compressed left .empty some_zeros whole
    | words words => exact .compressed left (.words words.weaken) some_zeros whole

/-! ### Every address has a text -/

theorem group_hexText (word : BitVec 16) : Group (hexText word.toNat) word where
  filled := Nat.toDigits_ne_nil
  short := (Nat.length_toDigits_le_iff (by decide) (by decide)).2 word.isLt
  reads := hexNumber_hexText word.toNat

theorem words_join (some_words : words ≠ []) :
    Words false (join ':' (words.map fun word => hexText word.toNat)) words := by
  induction words with
  | nil => exact absurd rfl some_words
  | cons word rest inductionHypothesis =>
    by_cases more : rest = []
    · subst more
      exact .group (group_hexText word)
    · rw [List.map_cons, join_cons (mt List.map_eq_nil_iff.1 more)]
      exact .cons (group_hexText word) (inductionHypothesis more)

/-- All eight groups, with nothing left out. -/
def fullText (address : Ipv6) : List Char :=
  join ':' ((List.ofFn address).map fun word => hexText word.toNat)

theorem denotes_fullText (address : Ipv6) : Denotes false (fullText address) address :=
  ⟨fullText address, [], (List.append_nil _).symm,
    .full (words_join (List.ne_nil_of_length_pos (by simp))), Or.inl rfl⟩

/-! ### The characters of a text -/

/-- The characters that groups, octets and colons are made of. -/
def IsAddressCharacter (character : Char) : Prop :=
  (hexDigit character).isSome ∨ character = ':' ∨ character = '.'

theorem hexDigit_of_isDigit (digit : character.isDigit = true) : (hexDigit character).isSome := by
  have range : 48 ≤ character.toNat ∧ character.toNat ≤ 57 := by
    simpa [Char.isDigit, Char.le_def, UInt32.le_iff_toNat_le] using digit
  unfold hexDigit
  dsimp only
  rw [if_pos range]
  rfl

theorem isDigit_of_mem_decimal {number : ℕ}
    (member : character ∈ Nat.toDigits 10 number) : character.isDigit = true :=
  Nat.isDigit_of_mem_toDigits (by decide) (by decide) member

theorem mem_dottedText {octets : Ipv4}
    (member : character ∈ dottedText octets) : character = '.' ∨ character.isDigit = true := by
  refine (mem_join member).imp_right ?_
  rintro ⟨field, isField, inField⟩
  obtain ⟨place, rfl⟩ := (List.mem_ofFn' _ _).1 isField
  exact isDigit_of_mem_decimal inField

theorem Group.hexadecimal {word : BitVec 16} (group : Group text word) :
    ∀ character ∈ text, (hexDigit character).isSome := isSome_hexDigit_of_mem group.reads

theorem Group.free {word : BitVec 16} (group : Group text word)
    (other : hexDigit character = none) : character ∉ text := by
  intro member
  have digit := group.hexadecimal character member
  rw [other] at digit
  exact absurd digit Bool.false_ne_true

theorem colon_free {octets : Ipv4} : ':' ∉ dottedText octets := by
  intro member
  rcases mem_dottedText member with isDot | isDigit
  · exact absurd isDot (by decide)
  · exact absurd isDigit (by decide)

theorem dot_mem (octets : Ipv4) : '.' ∈ dottedText octets := by
  unfold dottedText
  rw [List.ofFn_succ, join_cons (by simp)]
  exact List.mem_append_right _ List.mem_cons_self

theorem Words.characters
    (whole : Words dots text words) : ∀ character ∈ text, IsAddressCharacter character := by
  induction whole with
  | group group => exact fun character member => Or.inl (group.hexadecimal character member)
  | dotted octets =>
    intro character member
    rcases mem_dottedText member with isDot | isDigit
    · exact Or.inr (Or.inr isDot)
    · exact Or.inl (hexDigit_of_isDigit isDigit)
  | @cons _ text rest _ _ group tail inductionHypothesis =>
    intro character member
    rcases List.mem_append.1 member with inGroup | behind
    · exact Or.inl (group.hexadecimal character inGroup)
    · rcases List.mem_cons.1 behind with isColon | inRest
      · exact Or.inr (Or.inl isColon)
      · exact inductionHypothesis character inRest

theorem Side.characters
    (side : Side dots text words) : ∀ character ∈ text, IsAddressCharacter character := by
  cases side with
  | empty => exact fun _ none => absurd none List.not_mem_nil
  | words whole => exact whole.characters

theorem Body.characters
    (body : Body dots text address) : ∀ character ∈ text, IsAddressCharacter character := by
  cases body with
  | full whole => exact whole.characters
  | compressed left right some_zeros whole =>
    intro character member
    rcases List.mem_append.1 member with inFront | behind
    · exact left.characters character inFront
    · rcases List.mem_cons.1 behind with isColon | behind
      · exact Or.inr (Or.inl isColon)
      · rcases List.mem_cons.1 behind with isColon | inBack
        · exact Or.inr (Or.inl isColon)
        · exact right.characters character inBack

/-- More than two words stand in a text with a colon. -/
theorem Words.colon_mem (whole : Words dots text words) (many : 2 < words.length) : ':' ∈ text := by
  cases whole with
  | group group => exact absurd many (by simp)
  | dotted octets => exact absurd many (by simp)
  | cons group tail => exact List.mem_append_right _ List.mem_cons_self

theorem Body.colon_mem (body : Body dots text address) : ':' ∈ text := by
  cases body with
  | full whole => exact whole.colon_mem (by simp)
  | compressed left right some_zeros whole => exact List.mem_append_right _ List.mem_cons_self

/-! ### A text denotes one address at most -/

theorem Group.unique {first second : BitVec 16} (group : Group text first)
    (other : Group text second) : first = second :=
  BitVec.eq_of_toNat_eq (Option.some.inj (group.reads.symm.trans other.reads))

theorem dottedText_injective : Function.Injective dottedText := by
  intro first second same
  have free : ∀ octets : Ipv4, ∀ field ∈ List.ofFn fun place => Nat.toDigits 10
      (octets place).toNat, '.' ∉ field := by
    intro octets field isField member
    obtain ⟨place, rfl⟩ := (List.mem_ofFn' _ _).1 isField
    exact absurd (isDigit_of_mem_decimal member) (by decide)
  have sameFields := eq_of_join_eq (by simp) (by simp) (free first) (free second) same
  funext place
  have sameDigits := congrFun (List.ofFn_injective sameFields) place
  have sameNumber := congrArg (Nat.ofDigitChars 10 · 0) sameDigits
  rw [Nat.ofDigitChars_ten_toDigits, Nat.ofDigitChars_ten_toDigits] at sameNumber
  exact BitVec.eq_of_toNat_eq sameNumber

theorem Words.unique {first second : List (BitVec 16)}
    (whole : Words dots text first) (other : Words others text second) : first = second := by
  induction whole generalizing second with
  | group group =>
    cases other with
    | group otherGroup => rw [group.unique otherGroup]
    | dotted octets => exact absurd (dot_mem octets) (group.free (by decide))
    | cons => exact absurd (List.mem_append_right _ List.mem_cons_self) (group.free (by decide))
  | dotted octets =>
    generalize isText : dottedText octets = text at other
    cases other with
    | group otherGroup =>
      subst isText
      exact absurd (dot_mem octets) (otherGroup.free (by decide))
    | dotted otherOctets => rw [dottedText_injective isText]
    | cons =>
      have member : ':' ∈ dottedText octets :=
        isText ▸ List.mem_append_right _ List.mem_cons_self
      exact absurd member colon_free
  | @cons _ text rest _ _ group tail inductionHypothesis =>
    generalize isText : text ++ ':' :: rest = whole at other
    cases other with
    | group otherGroup =>
      have member : ':' ∈ whole := isText ▸ List.mem_append_right _ List.mem_cons_self
      exact absurd member (otherGroup.free (by decide))
    | dotted octets =>
      have member : ':' ∈ dottedText octets :=
        isText ▸ List.mem_append_right _ List.mem_cons_self
      exact absurd member colon_free
    | cons otherGroup otherTail =>
      obtain ⟨rfl, rfl⟩ := (append_separator_inj (group.free (by decide))
        (otherGroup.free (by decide))).1 isText
      rw [group.unique otherGroup, inductionHypothesis otherTail]

/-- Behind each colon stands something else. -/
def Spaced (text : List Char) : Prop :=
  ∀ front back, text = front ++ ':' :: back → ∃ next rest, back = next :: rest ∧ next ≠ ':'

theorem Words.head
    (whole : Words dots text words) : ∃ next rest, text = next :: rest ∧ next ≠ ':' := by
  have first : ∀ {text : List Char}, text ≠ [] → ':' ∉ text →
      ∃ next rest, text = next :: rest ∧ next ≠ ':' := by
    intro text filled free
    obtain ⟨next, rest, rfl⟩ := List.exists_cons_of_ne_nil filled
    exact ⟨next, rest, rfl, fun isColon => free (isColon ▸ List.mem_cons_self)⟩
  cases whole with
  | group group => exact first group.filled (group.free (by decide))
  | dotted octets => exact first (List.ne_nil_of_mem (dot_mem octets)) colon_free
  | cons group tail =>
    obtain ⟨next, rest, rfl, other⟩ := first group.filled (group.free (by decide))
    exact ⟨next, _, rfl, other⟩

theorem spaced_of_free (free : ':' ∉ text) : Spaced text := by
  intro front back split
  exact absurd (split ▸ List.mem_append_right _ List.mem_cons_self) free

theorem Words.spaced (whole : Words dots text words) : Spaced text := by
  induction whole with
  | group group => exact spaced_of_free (group.free (by decide))
  | dotted octets => exact spaced_of_free colon_free
  | @cons _ text rest _ _ group tail inductionHypothesis =>
    intro front back split
    rcases List.append_eq_append_iff.1 split with ⟨middle, rfl, behind⟩ | ⟨middle, isText, behind⟩
    · cases middle with
      | nil =>
        obtain ⟨-, rfl⟩ := List.cons.inj behind
        exact tail.head
      | cons character middle =>
        obtain ⟨-, isRest⟩ := List.cons.inj behind
        exact inductionHypothesis middle back isRest
    · cases middle with
      | nil =>
        obtain ⟨-, rfl⟩ := List.cons.inj behind
        exact tail.head
      | cons character middle =>
        obtain ⟨rfl, -⟩ := List.cons.inj behind
        exact absurd (isText ▸ List.mem_append_right _ List.mem_cons_self)
          (group.free (by decide))

theorem Side.spaced (side : Side dots text words) : Spaced text := by
  cases side with
  | empty => exact spaced_of_free List.not_mem_nil
  | words whole => exact whole.spaced

/-- Where two colons stand together is determined when there are no others. -/
theorem eq_of_spaced {front back other rest : List Char} (spaced : Spaced front)
    (otherSpaced : Spaced other)
    (same : front ++ ':' :: ':' :: back = other ++ ':' :: ':' :: rest) :
    front = other ∧ back = rest := by
  have shorter : ∀ {front middle back rest : List Char}, Spaced (front ++ middle) →
      ':' :: ':' :: back = middle ++ ':' :: ':' :: rest → middle = [] := by
    intro front middle back rest longer split
    cases middle with
    | nil => rfl
    | cons character middle =>
      obtain ⟨rfl, behind⟩ := List.cons.inj split
      obtain ⟨next, tail, rfl, isOther⟩ := longer front middle rfl
      exact absurd (List.cons.inj behind).1.symm isOther
  rcases List.append_eq_append_iff.1 same with ⟨middle, rfl, split⟩ | ⟨middle, rfl, split⟩
  · obtain rfl := shorter otherSpaced split
    exact ⟨(List.append_nil _).symm, (List.cons.inj (List.cons.inj split).2).2⟩
  · obtain rfl := shorter spaced split
    exact ⟨List.append_nil _, (List.cons.inj (List.cons.inj split).2).2.symm⟩

theorem Side.unique {first second : List (BitVec 16)}
    (side : Side dots text first) (other : Side others text second) : first = second := by
  cases side with
  | empty =>
    cases other with
    | empty => rfl
    | words whole =>
      obtain ⟨next, rest, filled, -⟩ := whole.head
      exact absurd filled nofun
  | words whole =>
    cases other with
    | empty =>
      obtain ⟨next, rest, filled, -⟩ := whole.head
      exact absurd filled nofun
    | words otherWhole => exact whole.unique otherWhole

theorem Body.unique {first second : Ipv6}
    (body : Body dots text first) (other : Body others text second) : first = second := by
  have apart : ∀ {front back : List Char}, ¬Spaced (front ++ ':' :: ':' :: back) := by
    intro front back spaced
    obtain ⟨next, rest, isBack, isOther⟩ := spaced front _ rfl
    exact isOther (List.cons.inj isBack).1.symm
  generalize isText : text = whole at other
  cases body with
  | full words =>
    cases other with
    | full otherWords =>
      subst isText
      exact List.ofFn_injective (words.unique otherWords)
    | compressed => exact absurd (isText ▸ words.spaced) apart
  | compressed left right some_zeros isWhole =>
    cases other with
    | full otherWords => exact absurd (isText ▸ otherWords.spaced) apart
    | compressed otherLeft otherRight _ otherIsWhole =>
      obtain ⟨rfl, rfl⟩ := eq_of_spaced left.spaced otherLeft.spaced isText
      obtain rfl := left.unique otherLeft
      obtain rfl := right.unique otherRight
      have long := congrArg List.length isWhole
      have otherLong := congrArg List.length otherIsWhole
      simp only [List.length_ofFn, List.length_append, List.length_replicate] at long otherLong
      refine List.ofFn_injective (isWhole.trans ?_)
      rw [otherIsWhole]
      congr 3
      omega

theorem percent_free
    (characters : ∀ character ∈ text, IsAddressCharacter character) : '%' ∉ text := by
  intro member
  rcases characters '%' member with isDigit | isColon | isDot
  · exact absurd isDigit (by decide)
  · exact absurd isColon (by decide)
  · exact absurd isDot (by decide)

theorem Denotes.unique {first second : Ipv6}
    (denotes : Denotes dots text first) (other : Denotes others text second) : first = second := by
  obtain ⟨body, zone, rfl, isBody, isZone⟩ := denotes
  obtain ⟨otherBody, otherZone, same, otherIsBody, otherIsZone⟩ := other
  have free := percent_free isBody.characters
  have otherFree := percent_free otherIsBody.characters
  suffices isSame : body = otherBody by
    subst isSame
    exact isBody.unique otherIsBody
  rcases isZone with rfl | ⟨name, -, -, rfl⟩
  · rw [List.append_nil] at same
    rcases otherIsZone with rfl | ⟨name, -, -, rfl⟩
    · exact same.trans (List.append_nil _)
    · exact absurd (same ▸ List.mem_append_right _ List.mem_cons_self) free
  · rcases otherIsZone with rfl | ⟨otherName, -, -, rfl⟩
    · rw [List.append_nil] at same
      exact absurd (same ▸ List.mem_append_right _ List.mem_cons_self) otherFree
    · exact ((append_separator_inj free otherFree).1 same).1

/-! ### Other texts of the same address -/

/-- A change of characters that leaves what they stand for. -/
structure Keeps (change : Char → Char) : Prop where
  hexadecimal : ∀ character, (hexDigit character).isSome →
    hexDigit (change character) = hexDigit character
  alphanumeric : ∀ character, character.isAlphanum = true →
    (change character).isAlphanum = true
  decimal : ∀ character, character.isDigit = true → change character = character
  colon : change ':' = ':'
  dot : change '.' = '.'
  percent : change '%' = '%'

section Changes

variable {change : Char → Char}

theorem Group.map {word : BitVec 16} (keeps : Keeps change)
    (group : Group text word) : Group (text.map change) word where
  filled := mt List.map_eq_nil_iff.1 group.filled
  short := (List.length_map change).trans_le group.short
  reads := by
    have same : ∀ (digits : List Char) (start : ℕ), (∀ digit ∈ digits, (hexDigit digit).isSome) →
        hexNumberFrom start (digits.map change) = hexNumberFrom start digits := by
      intro digits
      induction digits with
      | nil => exact fun _ _ => rfl
      | cons digit rest inductionHypothesis =>
        intro start hexadecimal
        rw [List.map_cons, hexNumberFrom_cons, hexNumberFrom_cons,
          keeps.hexadecimal digit (hexadecimal digit List.mem_cons_self)]
        refine congrArg (Option.bind _) (funext fun value => ?_)
        exact inductionHypothesis _ fun later member =>
          hexadecimal later (List.mem_cons_of_mem _ member)
    exact (same text 0 group.hexadecimal).trans group.reads

theorem map_dottedText (keeps : Keeps change) (octets : Ipv4) :
    (dottedText octets).map change = dottedText octets := by
  refine (List.map_congr_left fun character member => ?_).trans (List.map_id _)
  rcases mem_dottedText member with rfl | isDigit
  · exact keeps.dot
  · exact keeps.decimal character isDigit

theorem Words.map {dots : Bool} {words : List (BitVec 16)}
    (keeps : Keeps change) (whole : Words dots text words) :
    Words dots (text.map change) words := by
  induction whole with
  | group group => exact .group (group.map keeps)
  | dotted octets =>
    rw [map_dottedText keeps]
    exact .dotted octets
  | cons group tail inductionHypothesis =>
    rw [List.map_append, List.map_cons, keeps.colon]
    exact .cons (group.map keeps) inductionHypothesis

theorem Side.map {dots : Bool} {words : List (BitVec 16)}
    (keeps : Keeps change) (side : Side dots text words) :
    Side dots (text.map change) words := by
  cases side with
  | empty => exact .empty
  | words whole => exact .words (whole.map keeps)

theorem Denotes.map {dots : Bool} {address : Ipv6} (keeps : Keeps change)
    (denotes : Denotes dots text address) : Denotes dots (text.map change) address := by
  obtain ⟨body, zone, rfl, isBody, isZone⟩ := denotes
  refine ⟨body.map change, zone.map change, List.map_append, ?_, ?_⟩
  · cases isBody with
    | full words => exact .full (words.map keeps)
    | compressed left right some_zeros whole =>
      rw [List.map_append, List.map_cons, List.map_cons, keeps.colon]
      exact .compressed (left.map keeps) (right.map keeps) some_zeros whole
  · rcases isZone with rfl | ⟨name, filled, alphanumeric, rfl⟩
    · exact Or.inl rfl
    · refine Or.inr ⟨name.map change, mt List.map_eq_nil_iff.1 filled, ?_, ?_⟩
      · intro character member
        obtain ⟨before, inName, rfl⟩ := List.mem_map.1 member
        exact keeps.alphanumeric before (alphanumeric before inName)
      · rw [List.map_cons, keeps.percent]

end Changes

/-- The two groups that four octets make, in hexadecimal. -/
def hexPair (octets : Ipv4) : List Char :=
  hexText (octets 0 ++ octets 1).toNat ++ ':' :: hexText (octets 2 ++ octets 3).toNat

theorem words_hexPair (octets : Ipv4) :
    Words false (hexPair octets) [octets 0 ++ octets 1, octets 2 ++ octets 3] :=
  .cons (group_hexText _) (.group (group_hexText _))

/-- Octets stand at the end only, alone or behind a colon. -/
theorem Words.undotted (whole : Words dots text words) :
    Words false text words ∨
      (∃ octets, text = dottedText octets ∧ words = [octets 0 ++ octets 1, octets 2 ++ octets 3]) ∨
      ∃ front octets, text = front ++ ':' :: dottedText octets ∧
        Words false (front ++ ':' :: hexPair octets) words := by
  induction whole with
  | group group => exact Or.inl (.group group)
  | dotted octets => exact Or.inr (Or.inl ⟨octets, rfl, rfl⟩)
  | @cons _ text _ _ _ group _ inductionHypothesis =>
    rcases inductionHypothesis with plain | ⟨octets, rfl, rfl⟩ | ⟨front, octets, rfl, undotted⟩
    · exact Or.inl (.cons group plain)
    · exact Or.inr (Or.inr ⟨text, octets, rfl, .cons group (words_hexPair octets)⟩)
    · refine Or.inr (Or.inr ⟨text ++ ':' :: front, octets, by simp, ?_⟩)
      rw [List.append_assoc, List.cons_append]
      exact .cons group undotted

theorem Body.undotted (body : Body dots text address) :
    Body false text address ∨ ∃ front octets, text = front ++ ':' :: dottedText octets ∧
      Body false (front ++ ':' :: hexPair octets) address := by
  cases body with
  | full words =>
    rcases words.undotted with plain | ⟨octets, -, isWords⟩ | ⟨front, octets, rfl, undotted⟩
    · exact Or.inl (.full plain)
    · exact absurd (congrArg List.length isWords) (by simp)
    · exact Or.inr ⟨front, octets, rfl, .full undotted⟩
  | @compressed front _ _ _ _ _ left right some_zeros whole =>
    cases right with
    | empty => exact Or.inl (.compressed left .empty some_zeros whole)
    | words words =>
      rcases words.undotted with plain | ⟨octets, rfl, rfl⟩ | ⟨inner, octets, rfl, undotted⟩
      · exact Or.inl (.compressed left (.words plain) some_zeros whole)
      · refine Or.inr ⟨front ++ [':'], octets, by simp, ?_⟩
        rw [List.append_assoc, List.singleton_append]
        exact .compressed left (.words (words_hexPair octets)) some_zeros whole
      · refine Or.inr ⟨front ++ ':' :: ':' :: inner, octets, by simp, ?_⟩
        rw [List.append_assoc, List.cons_append, List.cons_append]
        exact .compressed left (.words undotted) some_zeros whole

/-! ### The ends of a text -/

theorem exists_last (filled : text ≠ []) :
    ∃ front last, text = front ++ [last] :=
  ⟨text.dropLast, text.getLast filled, (List.dropLast_append_getLast filled).symm⟩

theorem dottedText_eq (octets : Ipv4) : ∃ front,
    dottedText octets = front ++ Nat.toDigits 10 (octets 3).toNat :=
  ⟨Nat.toDigits 10 (octets 0).toNat ++ '.' :: Nat.toDigits 10 (octets 1).toNat ++
      '.' :: Nat.toDigits 10 (octets 2).toNat ++ ['.'], by
    simp [dottedText, List.ofFn_succ, join]⟩

theorem Words.last (whole : Words dots text words) : ∃ front digit, text = front ++ [digit] ∧
      (hexDigit digit).isSome := by
  induction whole with
  | group group =>
    obtain ⟨front, digit, rfl⟩ := exists_last group.filled
    exact ⟨front, digit, rfl, group.hexadecimal digit (by simp)⟩
  | dotted octets =>
    obtain ⟨before, isDotted⟩ := dottedText_eq octets
    obtain ⟨front, digit, isLast⟩ := exists_last
      (@Nat.toDigits_ne_nil (octets 3).toNat 10)
    refine ⟨before ++ front, digit, by rw [isDotted, isLast, List.append_assoc], ?_⟩
    have member : digit ∈ Nat.toDigits 10 (octets 3).toNat := by
      rw [isLast]
      exact List.mem_append_right _ List.mem_cons_self
    exact hexDigit_of_isDigit (isDigit_of_mem_decimal member)
  | @cons _ text rest _ _ group tail inductionHypothesis =>
    obtain ⟨front, digit, rfl, hexadecimal⟩ := inductionHypothesis
    exact ⟨text ++ ':' :: front, digit, by simp, hexadecimal⟩

theorem Body.last
    (body : Body dots text address) : ∃ front last, text = front ++ [last] ∧ last ≠ '.' := by
  have other : ∀ {digit : Char}, (hexDigit digit).isSome → digit ≠ '.' := by
    rintro digit hexadecimal rfl
    exact absurd hexadecimal (by decide)
  cases body with
  | full words =>
    obtain ⟨front, digit, rfl, hexadecimal⟩ := words.last
    exact ⟨front, digit, rfl, other hexadecimal⟩
  | @compressed front _ _ _ _ _ left right some_zeros whole =>
    cases right with
    | empty => exact ⟨front ++ [':'], ':', by simp, by decide⟩
    | words words =>
      obtain ⟨inner, digit, rfl, hexadecimal⟩ := words.last
      exact ⟨front ++ ':' :: ':' :: inner, digit, by simp, other hexadecimal⟩

/-- A text does not end in a dot. -/
theorem Denotes.last
    (denotes : Denotes dots text address) : ∃ front last, text = front ++ [last] ∧ last ≠ '.' := by
  obtain ⟨body, zone, rfl, isBody, rfl | ⟨name, filled, alphanumeric, rfl⟩⟩ := denotes
  · rw [List.append_nil]
    exact isBody.last
  · obtain ⟨front, last, rfl⟩ := exists_last filled
    refine ⟨body ++ '%' :: front, last, by simp, ?_⟩
    rintro rfl
    exact absurd (alphanumeric '.' (by simp)) (by decide)

/-- The characters of a text with its zone. -/
theorem Denotes.characters (denotes : Denotes dots text address) : ∀ character ∈ text,
      IsAddressCharacter character ∨ character = '%' ∨ character.isAlphanum = true := by
  obtain ⟨body, zone, rfl, isBody, isZone⟩ := denotes
  intro character member
  rcases List.mem_append.1 member with inBody | inZone
  · exact Or.inl (isBody.characters character inBody)
  · rcases isZone with rfl | ⟨name, -, alphanumeric, rfl⟩
    · exact absurd inZone List.not_mem_nil
    · exact Or.inr ((List.mem_cons.1 inZone).imp_right (alphanumeric character))

theorem Denotes.colon_mem (denotes : Denotes dots text address) : ':' ∈ text := by
  obtain ⟨body, zone, rfl, isBody, -⟩ := denotes
  exact List.mem_append_left _ isBody.colon_mem

end AddressText
