/-
This file is about IPv6 addresses that embed an IPv4 address, and about texts that are meant as
addresses and are none.

What is asked of the address library is that it reads the texts of addresses and tells the ranges
of the three translated prefixes. A text that it does not read because of the octets at its end is
read by the code, which writes the octets in hexadecimal. From there on only the address counts,
and of the rules by which an IPv4 address may be embedded in it only the first that matches.

The rules exclude each other, except that an address under `2002::/16` or `2001::/32` may have
the interface identifier of ISATAP as well.
-/

import OpenClaw.Net.IpAddresses

namespace OpenClaw.Net

open Text AddressText

/-! ### Characters -/

/-- What is so of the characters below 128 is checked one by one. -/
theorem forall_ascii {property : Char → Prop}
    (holds : ∀ code : Fin 128, property (Char.ofNat code)) {character : Char}
    (ascii : character.toNat < 128) : property character := by
  have same := holds ⟨character.toNat, ascii⟩
  rwa [Char.ofNat_toNat] at same

variable {character : Char}

theorem ascii_of_hexDigit (digit : (hexDigit character).isSome) :
    character.toNat < 128 := by
  unfold hexDigit at digit
  dsimp only at digit
  split at digit
  · omega
  · split at digit
    · omega
    · split at digit
      · omega
      · exact absurd digit Bool.false_ne_true

theorem ascii_of_isAlphanum (alphanumeric : character.isAlphanum = true) :
    character.toNat < 128 := by
  simp only [Char.isAlphanum, Char.isAlpha, Char.isUpper, Char.isLower, Char.isDigit,
    Bool.or_eq_true, Bool.and_eq_true, decide_eq_true_eq, ge_iff_le, UInt32.le_iff_toNat_le]
    at alphanumeric
  change character.val.toNat < 128
  rcases alphanumeric with (upper | lower) | digit
  · exact lt_of_le_of_lt upper.2 (by decide)
  · exact lt_of_le_of_lt lower.2 (by decide)
  · exact lt_of_le_of_lt digit.2 (by decide)

/-- The characters that the texts of addresses are made of. -/
theorem ascii_of_text (inText : IsAddressCharacter character ∨
    character = '%' ∨ character.isAlphanum = true) : character.toNat < 128 := by
  rcases inText with (digit | rfl | rfl) | rfl | alphanumeric
  · exact ascii_of_hexDigit digit
  · decide
  · decide
  · decide
  · exact ascii_of_isAlphanum alphanumeric

theorem keeps_lowerCharacter : Keeps lowerCharacter where
  hexadecimal character digit := by
    refine @forall_ascii (fun character => (hexDigit character).isSome →
      hexDigit (lowerCharacter character) = hexDigit character) ?_ character
        (ascii_of_hexDigit digit) digit
    decide
  alphanumeric character alphanumeric := by
    refine @forall_ascii (fun character => character.isAlphanum = true →
      (lowerCharacter character).isAlphanum = true) ?_ character
        (ascii_of_isAlphanum alphanumeric) alphanumeric
    decide
  decimal character digit := by
    refine @forall_ascii (fun character => character.isDigit = true →
      lowerCharacter character = character) ?_ character
        (ascii_of_hexDigit (hexDigit_of_isDigit digit)) digit
    decide
  colon := by decide
  dot := by decide
  percent := by decide

theorem plain_of_text (inText : IsAddressCharacter character ∨
    character = '%' ∨ character.isAlphanum = true) :
    isWhiteSpace character = false ∧ isLineTerminator character = false ∧ character ≠ '[' ∧
      character ≠ ']' := by
  refine @forall_ascii (fun character => (((hexDigit character).isSome = true ∨ character = ':' ∨
    character = '.') ∨ character = '%' ∨ character.isAlphanum = true) →
    isWhiteSpace character = false ∧ isLineTerminator character = false ∧ character ≠ '[' ∧
      character ≠ ']') ?_ character (ascii_of_text inText) inText
  decide

/-! ### Texts on the way to the parser -/

variable {text : String}

theorem trim_eq_self (plain : ∀ character ∈ text.toList,
    isWhiteSpace character = false) : trim text = text := by
  have kept : ∀ characters : List Char, (∀ character ∈ characters,
      isWhiteSpace character = false) → characters.dropWhile isWhiteSpace = characters := by
    intro characters plain
    cases characters with
    | nil => rfl
    | cons first rest => exact List.dropWhile_cons_of_neg (by simp [plain first List.mem_cons_self])
  unfold trim trimWith
  rw [kept _ plain, List.rdropWhile, kept _ (by simpa using plain), List.reverse_reverse,
    String.ofList_toList]

theorem stripBrackets_eq_self {text : List Char} (plain : '[' ∉ text) :
    stripBrackets text = text := by
  refine if_neg fun both => plain ?_
  exact List.mem_of_mem_head? (Option.mem_def.2 both.1)

theorem stripBrackets_bracketed (inner : List Char) :
    stripBrackets ('[' :: inner ++ [']']) = inner := by
  have both : ('[' :: inner ++ [']']).head? = some '[' ∧
      ('[' :: inner ++ [']']).getLast? = some ']' := ⟨rfl, List.getLast?_concat⟩
  rw [stripBrackets, if_pos both]
  simp

theorem dropDot_of_last {front : List Char} {last : Char} (other : last ≠ '.') :
    dropDot (front ++ [last]) = front ++ [last] := by
  refine if_neg ?_
  rw [List.getLast?_concat]
  exact fun same => other (Option.some.inj same)

/-- A text of the address: plain or in brackets, with letters of either case, with a zone or
without, with octets at the end or without. -/
inductive TextualForm (text : String) (address : Ipv6) : Prop
  | plain (denotes : Denotes true text.toList address)
  | bracketed (inner : List Char) (denotes : Denotes true inner address)
      (isText : text.toList = '[' :: inner ++ [']'])

theorem normalizeLowercase_eq (filled : text ≠ "")
    (plain : ∀ character ∈ text.toList, isWhiteSpace character = false) :
    normalizeLowercaseStringOrEmpty (some text) =
      String.ofList (text.toList.map lowerCharacter) := by
  have isText : normalizeOptionalString (some text) = some text :=
    (normalizeOptionalString_eq_some_iff _ _).2
      ⟨congrArg some (trim_eq_self plain), filled⟩
  unfold normalizeLowercaseStringOrEmpty
  rw [isText]

/-- A text of an address comes to the parser without brackets and in lower case. -/
theorem normalizeHostname_of_form {address : Ipv6} (form : TextualForm text address) :
    ∃ inner, normalizeHostname text = String.ofList inner ∧ Denotes true inner address := by
  cases form with
  | plain denotes =>
    have lowered := denotes.map keeps_lowerCharacter
    refine ⟨text.toList.map lowerCharacter, ?_, lowered⟩
    obtain ⟨front, last, isLast, other⟩ := lowered.last
    have filled : text ≠ "" := by
      rintro rfl
      exact absurd denotes.colon_mem (by simp)
    unfold normalizeHostname
    rw [normalizeLowercase_eq filled fun character member =>
        (plain_of_text (denotes.characters character member)).1, String.toList_ofList, isLast,
      dropDot_of_last other, ← isLast]
    rw [stripBrackets_eq_self fun member =>
      (plain_of_text (lowered.characters _ member)).2.2.1 rfl]
  | bracketed inner denotes isText =>
    have lowered := denotes.map keeps_lowerCharacter
    refine ⟨inner.map lowerCharacter, ?_, lowered⟩
    have filled : text ≠ "" := by
      rintro rfl
      exact absurd isText nofun
    have plain : ∀ character ∈ text.toList, isWhiteSpace character = false := by
      intro character member
      rw [isText] at member
      rcases List.mem_append.1 member with inFront | isEnd
      · rcases List.mem_cons.1 inFront with rfl | inInner
        · decide
        · exact (plain_of_text (denotes.characters character inInner)).1
      · obtain rfl := List.mem_singleton.1 isEnd
        decide
    unfold normalizeHostname
    have loweredText : text.toList.map lowerCharacter =
        '[' :: inner.map lowerCharacter ++ [']'] := by
      rw [isText, List.map_append, List.map_cons]
      rfl
    rw [normalizeLowercase_eq filled plain, String.toList_ofList, loweredText,
      dropDot_of_last (by decide), stripBrackets_bracketed]

/-- A text of plain characters comes to the functions on addresses as it is. -/
theorem normalizeIpParseInput_of_plain (filled : text ≠ "") (plain : ∀ character ∈ text.toList,
      IsAddressCharacter character ∨ character = '%' ∨ character.isAlphanum = true) :
    nonEmpty (normalizeIpParseInput text) = some text := by
  have isText : normalizeOptionalString (some text) = some text :=
    (normalizeOptionalString_eq_some_iff _ _).2 ⟨congrArg some (trim_eq_self fun character
      member => (plain_of_text (plain character member)).1), filled⟩
  rw [normalizeIpParseInput, isText, Option.map_some, stripIpv6Brackets,
    stripBrackets_eq_self fun member => (plain_of_text (plain '[' member)).2.2.1 rfl,
    String.ofList_toList]
  exact (nonEmpty_eq_some_iff _ _).2 ⟨rfl, filled⟩

/-! ### The library, and the texts it leaves to the code -/

/-- The mapped address of an address of the form `::w.x.y.z`. -/
def toMapped (address : Ipv6) : Ipv6 := Function.update address 5 0xffff

/-- What is relied on of `ipaddr.js`. It may refuse a text that ends in octets, and may read one
of the form `::w.x.y.z` as the mapped address. -/
structure IpaddrJs.ReadsAddresses (ipaddr : IpaddrJs) : Prop where
  ipv4_plain : ∀ text, ':' ∈ text.toList → ipaddr.parseIpv4 text = none
  ipv6_colon : ∀ text, ':' ∉ text.toList → ipaddr.parseIpv6 text = none
  fourPart_iff : ∀ text, ipaddr.isValidFourPartDecimal text = true ↔
    ∃ octets, text.toList = dottedText octets
  accepts : ∀ text address, Denotes false text.toList address →
    ∃ parsed, ipaddr.parseIpv6 text = some parsed
  reads : ∀ dots text address parsed, Denotes dots text.toList address →
    ipaddr.parseIpv6 text = some parsed →
      parsed = address ∨ ipv4CompatibleRule.isMatch address = true ∧ parsed = toMapped address
  ipv4Mapped_iff : ∀ address, ipaddr.rangeOfIpv6 address = .ipv4Mapped ↔
    address 0 = 0 ∧ address 1 = 0 ∧ address 2 = 0 ∧ address 3 = 0 ∧ address 4 = 0 ∧
      address 5 = 0xffff
  rfc6145_iff : ∀ address, ipaddr.rangeOfIpv6 address = .rfc6145 ↔
    address 0 = 0 ∧ address 1 = 0 ∧ address 2 = 0 ∧ address 3 = 0 ∧ address 4 = 0xffff ∧
      address 5 = 0
  rfc6052_iff : ∀ address, ipaddr.rangeOfIpv6 address = .rfc6052 ↔
    address 0 = 0x64 ∧ address 1 = 0xff9b ∧ address 2 = 0 ∧ address 3 = 0 ∧ address 4 = 0 ∧
      address 5 = 0

/-- An address that the parser may give for a text of the address. -/
def ParsedAs (address parsed : Ipv6) : Prop :=
  parsed = address ∨ ipv4CompatibleRule.isMatch address = true ∧ parsed = toMapped address

section Parsing

theorem hasDottedParts_append {dots : ℕ} {part rest : List Char} (filled : part ≠ [])
    (free : '.' ∉ part) :
    hasDottedParts (dots + 1) (part ++ '.' :: rest) = hasDottedParts dots rest := by
  obtain ⟨first, others, rfl⟩ := List.exists_cons_of_ne_nil filled
  have others_free : ∀ character ∈ others, decide (character ≠ '.') = true := by
    intro character member
    refine decide_eq_true fun isDot => free ?_
    exact isDot ▸ List.mem_cons_of_mem _ member
  rw [List.cons_append, hasDottedParts, List.dropWhile_append_of_pos others_free,
    List.dropWhile_cons_of_neg (by simp)]

theorem dottedText_parts (octets : Ipv4) : dottedText octets =
    Nat.toDigits 10 (octets 0).toNat ++ '.' :: (Nat.toDigits 10 (octets 1).toNat ++
      '.' :: (Nat.toDigits 10 (octets 2).toNat ++ '.' :: Nat.toDigits 10 (octets 3).toNat)) := by
  simp [dottedText, List.ofFn_succ, Delimited.join]

theorem dot_free (number : ℕ) : '.' ∉ Nat.toDigits 10 number := fun member =>
  absurd (isDigit_of_mem_decimal member) (by decide)

theorem hasDottedParts_dottedText (octets : Ipv4) : hasDottedParts 3 (dottedText octets) := by
  rw [dottedText_parts, hasDottedParts_append Nat.toDigits_ne_nil (dot_free _),
    hasDottedParts_append Nat.toDigits_ne_nil (dot_free _),
    hasDottedParts_append Nat.toDigits_ne_nil (dot_free _)]
  exact decide_eq_true Nat.toDigits_ne_nil

theorem octetNumbers_dottedText (octets : Ipv4) :
    octetNumbers (dottedText octets) =
      [(octets 0).toNat, (octets 1).toNat, (octets 2).toNat, (octets 3).toNat] := by
  rw [octetNumbers, dottedText_parts]
  simp only [List.splitOn_append_cons_self, List.splitOn_eq_singleton (dot_free _),
    List.map_append, List.map_cons, List.map_nil, Nat.ofDigitChars_ten_toDigits]
  rfl

/-- The regular expression takes a text with octets at its end apart. -/
theorem embeddedIpv4Groups_eq {front zone : List Char} {octets : Ipv4} (isZone : Zone zone)
    (plain : ∀ character ∈ front, isLineTerminator character = false) :
    embeddedIpv4Groups (front ++ ':' :: dottedText octets ++ zone) =
      some (front ++ [':'], dottedText octets, zone) := by
  have zone_free : ':' ∉ zone := by
    rcases isZone with rfl | ⟨name, -, alphanumeric, rfl⟩
    · exact List.not_mem_nil
    · intro member
      rcases List.mem_cons.1 member with isPercent | inName
      · exact absurd isPercent (by decide)
      · exact absurd (alphanumeric ':' inName) (by decide)
  have behind_free : ∀ character ∈ (dottedText octets ++ zone).reverse,
      decide (character ≠ ':') = true := by
    intro character member
    refine decide_eq_true ?_
    rintro rfl
    exact (List.mem_append.1 (List.mem_reverse.1 member)).elim colon_free zone_free
  have reversed : (front ++ ':' :: dottedText octets ++ zone).reverse =
      (dottedText octets ++ zone).reverse ++ ':' :: front.reverse := by simp
  have isFront : (front ++ ':' :: dottedText octets ++ zone).rdropWhile (· ≠ ':') =
      front ++ [':'] := by
    rw [List.rdropWhile, reversed, List.dropWhile_append_of_pos behind_free,
      List.dropWhile_cons_of_neg (by simp)]
    simp
  have isBehind : (front ++ ':' :: dottedText octets ++ zone).rtakeWhile (· ≠ ':') =
      dottedText octets ++ zone := by
    rw [List.rtakeWhile, reversed, List.takeWhile_append_of_pos behind_free,
      List.takeWhile_cons_of_neg (by simp), List.append_nil, List.reverse_reverse]
  have dotted_free : ∀ character ∈ dottedText octets, decide (character ≠ '%') = true := by
    intro character member
    refine decide_eq_true ?_
    rintro rfl
    rcases mem_dottedText member with isDot | isDigit
    · exact absurd isDot (by decide)
    · exact absurd isDigit (by decide)
  have zone_first : zone.takeWhile (· ≠ '%') = [] ∧ zone.dropWhile (· ≠ '%') = zone := by
    rcases isZone with rfl | ⟨name, -, -, rfl⟩
    · exact ⟨rfl, rfl⟩
    · exact ⟨List.takeWhile_cons_of_neg (by simp), List.dropWhile_cons_of_neg (by simp)⟩
  unfold embeddedIpv4Groups
  dsimp only
  rw [isFront, isBehind, List.takeWhile_append_of_pos dotted_free,
    List.dropWhile_append_of_pos dotted_free, zone_first.1, zone_first.2, List.append_nil,
    if_pos]
  refine ⟨by simp, ?_, hasDottedParts_dottedText octets, ?_⟩
  · refine List.all_eq_true.2 fun character member => ?_
    rcases List.mem_append.1 member with inFront | isColon
    · simp [plain character inFront]
    · obtain rfl := List.mem_singleton.1 isColon
      decide
  · rcases isZone with rfl | ⟨name, filled, alphanumeric, rfl⟩
    · exact Or.inl rfl
    · exact Or.inr ⟨filled, List.all_eq_true.2 alphanumeric⟩

variable {ipaddr : IpaddrJs}

/-- What the code makes of a text with octets at its end is a text of the same address. -/
theorem parseIpv6WithEmbeddedIpv4_eq (reads : ipaddr.ReadsAddresses) {front zone : List Char}
    {octets : Ipv4} (isZone : Zone zone)
    (plain : ∀ character ∈ front, isLineTerminator character = false) :
    parseIpv6WithEmbeddedIpv4 ipaddr
        (String.ofList (front ++ ':' :: dottedText octets ++ zone)) =
      ipaddr.parseIpv6 (String.ofList (front ++ ':' :: hexPair octets ++ zone)) := by
  have both : ¬(':' ∉ front ++ ':' :: dottedText octets ++ zone ∨
      '.' ∉ front ++ ':' :: dottedText octets ++ zone) := by
    have isDot := dot_mem octets
    simp [isDot]
  unfold parseIpv6WithEmbeddedIpv4
  rw [String.toList_ofList, if_neg both, embeddedIpv4Groups_eq isZone plain]
  have fourPart := (reads.fourPart_iff (String.ofList (dottedText octets))).2
    ⟨octets, String.toList_ofList⟩
  dsimp only
  rw [fourPart, octetNumbers_dottedText]
  have words : hexText ((octets 0).toNat <<< 8 ||| (octets 1).toNat) ++
      ':' :: hexText ((octets 2).toNat <<< 8 ||| (octets 3).toNat) = hexPair octets := by
    rw [hexPair, BitVec.toNat_append, BitVec.toNat_append]
  simp only [List.getD_cons_zero, List.getD_cons_succ, Bool.not_true, Bool.false_eq_true, if_false]
  rw [words]
  simp

/-- A text of an address is read as the address, or as its mapped form. -/
theorem parse_of_denotes (reads : ipaddr.ReadsAddresses) {dots : Bool} {text : List Char}
    {address : Ipv6} (denotes : Denotes dots text address) :
    ∃ parsed, parseCanonicalIpAddress ipaddr (String.ofList text) = some (.ipv6 parsed) ∧
      ParsedAs address parsed := by
  have plain := fun character member => plain_of_text (denotes.characters character member)
  have filled : String.ofList text ≠ "" := by
    intro blank
    have none := congrArg String.toList blank
    rw [String.toList_ofList] at none
    exact absurd denotes.colon_mem (by simp [none])
  have isInput : nonEmpty (normalizeIpParseInput (String.ofList text)) =
      some (String.ofList text) := by
    refine normalizeIpParseInput_of_plain filled ?_
    rw [String.toList_ofList]
    exact denotes.characters
  have noIpv4 := reads.ipv4_plain (String.ofList text)
    (String.toList_ofList ▸ denotes.colon_mem)
  unfold parseCanonicalIpAddress
  rw [isInput]
  dsimp only
  rw [noIpv4]
  dsimp only
  cases parses : ipaddr.parseIpv6 (String.ofList text) with
  | some parsed =>
    refine ⟨parsed, rfl, reads.reads dots _ address parsed ?_ parses⟩
    rwa [String.toList_ofList]
  | none =>
    obtain ⟨body, zone, rfl, isBody, isZone⟩ := denotes
    rcases isBody.undotted with undotted | ⟨front, octets, rfl, undotted⟩
    · obtain ⟨parsed, accepted⟩ := reads.accepts (String.ofList (body ++ zone)) address
        (String.toList_ofList ▸ ⟨body, zone, rfl, undotted, isZone⟩)
      rw [accepted] at parses
      exact absurd parses nofun
    · have denotesHex : Denotes false (String.ofList
          (front ++ ':' :: hexPair octets ++ zone)).toList address :=
        String.toList_ofList ▸ ⟨_, zone, rfl, undotted, isZone⟩
      obtain ⟨parsed, accepted⟩ := reads.accepts _ address denotesHex
      refine ⟨parsed, ?_, reads.reads false _ address parsed denotesHex accepted⟩
      dsimp only
      rw [parseIpv6WithEmbeddedIpv4_eq reads isZone fun character member =>
        (plain character (by simp [member])).2.1, accepted, Option.map_some]

end Parsing

/-! ### The rules -/

section Rules

variable (ipaddr : IpaddrJs)

/-- `::ffff:w.x.y.z`. -/
def ipv4MappedRule : EmbeddingRule where
  isMatch := isIPv4MappedAddress ipaddr
  toHextets parts := (parts 6, parts 7)

/-- `::ffff:0:w.x.y.z`. -/
def ipv4TranslatedRule : EmbeddingRule where
  isMatch parts := ipaddr.rangeOfIpv6 parts = .rfc6145
  toHextets parts := (parts 6, parts 7)

/-- `64:ff9b::/96`. -/
def nat64WellKnownRule : EmbeddingRule where
  isMatch parts := ipaddr.rangeOfIpv6 parts = .rfc6052
  toHextets parts := (parts 6, parts 7)

/-- The rules in the order in which they are tried. -/
def embeddingRules : List EmbeddingRule :=
  [ipv4MappedRule ipaddr, ipv4TranslatedRule ipaddr, nat64WellKnownRule ipaddr] ++
    embeddedIpv4SentinelRules

/-- The first rule that matches decides. -/
theorem extractEmbeddedIpv4FromIpv6_eq (address : Ipv6) :
    extractEmbeddedIpv4FromIpv6 ipaddr address =
      ((embeddingRules ipaddr).find? (·.isMatch address)).map (·.embedded address) := by
  have mapped : (ipv4MappedRule ipaddr).isMatch address = isIPv4MappedAddress ipaddr address := rfl
  have translated : (ipv4TranslatedRule ipaddr).isMatch address =
      decide (ipaddr.rangeOfIpv6 address = .rfc6145) := rfl
  have wellKnown : (nat64WellKnownRule ipaddr).isMatch address =
      decide (ipaddr.rangeOfIpv6 address = .rfc6052) := rfl
  unfold extractEmbeddedIpv4FromIpv6 embeddingRules
  simp only [List.cons_append, List.nil_append, List.find?_cons, mapped, translated, wellKnown]
  split
  next isMapped =>
    rw [isMapped]
    rfl
  next notMapped =>
    rw [Bool.eq_false_of_not_eq_true notMapped]
    split
    next isTranslated =>
      rw [decide_eq_true isTranslated]
      rfl
    next notTranslated =>
      rw [decide_eq_false notTranslated]
      split
      next isWellKnown =>
        rw [decide_eq_true isWellKnown]
        rfl
      next notWellKnown => rw [decide_eq_false notWellKnown]

/-- What the guard says of an IPv6 address. -/
def blocksIpv6 (address : Ipv6) (benchmark : Bool) : Bool :=
  isBlockedSpecialUseIpv6Address ipaddr address ||
    ((embeddingRules ipaddr).find? (·.isMatch address)).any fun rule =>
      isBlockedSpecialUseIpv4Address ipaddr (rule.embedded address) benchmark

/-- A rule comes first: it matches, and none before it does. -/
def ComesFirst (rule : EmbeddingRule) (address : Ipv6) : Prop :=
  (embeddingRules ipaddr).find? (·.isMatch address) = some rule

variable {ipaddr} {address : Ipv6} {rule : EmbeddingRule}

theorem blocksIpv6_of_comesFirst (benchmark : Bool) (first : ComesFirst ipaddr rule address) :
    blocksIpv6 ipaddr address benchmark = (isBlockedSpecialUseIpv6Address ipaddr address ||
      isBlockedSpecialUseIpv4Address ipaddr (rule.embedded address) benchmark) := by
  unfold blocksIpv6
  rw [first]
  rfl

/-- A rule that matches comes first, except for the one of ISATAP behind those of the two
prefixes that say nothing of the interface identifier. -/
theorem comesFirst_of_isMatch (reads : ipaddr.ReadsAddresses)
    (isRule : rule ∈ embeddingRules ipaddr) (isMatch : rule.isMatch address = true) :
    ComesFirst ipaddr rule address ∨ rule = isatapRule ∧
      (ComesFirst ipaddr sixToFourRule address ∧ sixToFourRule.isMatch address = true ∨
        ComesFirst ipaddr teredoRule address ∧ teredoRule.isMatch address = true) := by
  have mapped : (ipv4MappedRule ipaddr).isMatch address = decide (address 0 = 0 ∧ address 1 = 0 ∧
      address 2 = 0 ∧ address 3 = 0 ∧ address 4 = 0 ∧ address 5 = 0xffff) :=
    decide_eq_decide.2 (reads.ipv4Mapped_iff address)
  have translated : (ipv4TranslatedRule ipaddr).isMatch address = decide (address 0 = 0 ∧
      address 1 = 0 ∧ address 2 = 0 ∧ address 3 = 0 ∧ address 4 = 0xffff ∧ address 5 = 0) :=
    decide_eq_decide.2 (reads.rfc6145_iff address)
  have wellKnown : (nat64WellKnownRule ipaddr).isMatch address = decide (address 0 = 0x64 ∧
      address 1 = 0xff9b ∧ address 2 = 0 ∧ address 3 = 0 ∧ address 4 = 0 ∧ address 5 = 0) :=
    decide_eq_decide.2 (reads.rfc6052_iff address)
  unfold ComesFirst embeddingRules embeddedIpv4SentinelRules
  simp only [embeddingRules, embeddedIpv4SentinelRules, List.cons_append, List.nil_append,
    List.mem_cons, List.not_mem_nil, or_false] at isRule
  simp only [List.cons_append, List.nil_append, List.find?_cons, mapped, translated, wellKnown]
  rcases isRule with rfl | rfl | rfl | rfl | rfl | rfl | rfl | rfl
  · rw [mapped] at isMatch
    exact Or.inl (by rw [isMatch])
  · rw [translated, decide_eq_true_eq] at isMatch
    exact Or.inl (by simp [isMatch])
  · rw [wellKnown, decide_eq_true_eq] at isMatch
    exact Or.inl (by simp [isMatch])
  · have parts : address 5 = 0 ∧ address 4 = 0 ∧ address 0 = 0 := by
      simp only [ipv4CompatibleRule, Bool.and_eq_true, decide_eq_true_eq] at isMatch
      exact ⟨isMatch.2, isMatch.1.2, isMatch.1.1.1.1.1⟩
    exact Or.inl (by simp [parts, isMatch])
  · have parts : address 5 = 0 ∧ address 4 = 0 ∧ address 2 = 1 ∧ address 0 = 0x64 := by
      simp only [nat64LocalUseRule, Bool.and_eq_true, decide_eq_true_eq] at isMatch
      exact ⟨isMatch.2, isMatch.1.2, isMatch.1.1.1.2, isMatch.1.1.1.1.1⟩
    exact Or.inl (by simp [parts, isMatch, ipv4CompatibleRule])
  · have parts : address 0 = 0x2002 := by simpa [sixToFourRule] using isMatch
    exact Or.inl (by simp [parts, isMatch, ipv4CompatibleRule, nat64LocalUseRule])
  · have parts : address 0 = 0x2001 := by
      simp only [teredoRule, Bool.and_eq_true, decide_eq_true_eq] at isMatch
      exact isMatch.1
    exact Or.inl (by simp [parts, isMatch, ipv4CompatibleRule, nat64LocalUseRule, sixToFourRule])
  · have parts : address 5 = 0x5efe := by
      simp only [isatapRule, Bool.and_eq_true, decide_eq_true_eq] at isMatch
      exact isMatch.2
    by_cases sixToFour : sixToFourRule.isMatch address = true
    · exact Or.inr ⟨rfl, Or.inl ⟨by simp [parts, sixToFour, ipv4CompatibleRule,
        nat64LocalUseRule], sixToFour⟩⟩
    by_cases teredo : teredoRule.isMatch address = true
    · exact Or.inr ⟨rfl, Or.inr ⟨by simp [parts, sixToFour, teredo, ipv4CompatibleRule,
        nat64LocalUseRule], teredo⟩⟩
    exact Or.inl (by simp [parts, sixToFour, teredo, isMatch, ipv4CompatibleRule,
      nat64LocalUseRule])

/-- The address has an ISATAP identifier behind one of the two prefixes, and only its ISATAP
address is blocked. -/
def Shadowed (ipaddr : IpaddrJs) (address : Ipv6) (benchmark : Bool) : Prop :=
  isBlockedSpecialUseIpv6Address ipaddr address = false ∧ isatapRule.isMatch address = true ∧
    isBlockedSpecialUseIpv4Address ipaddr (isatapRule.embedded address) benchmark = true ∧
    ∃ rule ∈ [sixToFourRule, teredoRule], rule.isMatch address = true ∧
      isBlockedSpecialUseIpv4Address ipaddr (rule.embedded address) benchmark = false

/-- Some rule embeds a blocked address. -/
def EmbedsBlocked (ipaddr : IpaddrJs) (address : Ipv6) (benchmark : Bool) : Prop :=
  ∃ rule ∈ embeddingRules ipaddr, rule.isMatch address = true ∧
    isBlockedSpecialUseIpv4Address ipaddr (rule.embedded address) benchmark = true

/-- Of the two prefixes an address has one at most, and its rule comes first. -/
theorem comesFirst_of_prefixes (reads : ipaddr.ReadsAddresses)
    (isRule : rule ∈ [sixToFourRule, teredoRule])
    (isMatch : rule.isMatch address = true) : ComesFirst ipaddr rule address := by
  have apart : ∀ {rule : EmbeddingRule}, rule ∈ [sixToFourRule, teredoRule] →
      rule.isMatch address = true → rule ≠ isatapRule := by
    rintro rule member isMatch rfl
    have prefixes : isatapRule.toHextets (fun place => if place = 6 then 1 else 0) = (1, 0) := rfl
    rcases List.mem_pair.1 member with same | same
    · rw [same] at prefixes
      exact absurd prefixes (by decide)
    · rw [same] at prefixes
      exact absurd prefixes (by decide)
  have among : rule ∈ embeddingRules ipaddr := by
    rcases List.mem_pair.1 isRule with rfl | rfl
    · simp [embeddingRules, embeddedIpv4SentinelRules]
    · simp [embeddingRules, embeddedIpv4SentinelRules]
  exact (comesFirst_of_isMatch reads among isMatch).resolve_right fun other =>
    apart isRule isMatch other.1

theorem blocksIpv6_of_embedsBlocked (reads : ipaddr.ReadsAddresses)
    {benchmark : Bool} (embeds : EmbedsBlocked ipaddr address benchmark)
    (clear : ¬Shadowed ipaddr address benchmark) : blocksIpv6 ipaddr address benchmark = true := by
  obtain ⟨rule, isRule, isMatch, blocked⟩ := embeds
  rcases comesFirst_of_isMatch reads isRule isMatch with first | ⟨rfl, other⟩
  · rw [blocksIpv6_of_comesFirst benchmark first, blocked, Bool.or_true]
  · have behind : ∀ shadow ∈ [sixToFourRule, teredoRule], ComesFirst ipaddr shadow address →
        shadow.isMatch address = true → blocksIpv6 ipaddr address benchmark = true := by
      intro shadow member first matched
      rw [blocksIpv6_of_comesFirst benchmark first]
      by_contra unblocked
      obtain ⟨plain, allowed⟩ := Bool.or_eq_false_iff.1 (Bool.eq_false_of_not_eq_true unblocked)
      exact clear ⟨plain, isMatch, blocked, shadow, member, matched, allowed⟩
    rcases other with ⟨first, matched⟩ | ⟨first, matched⟩
    · exact behind _ (by simp) first matched
    · exact behind _ (by simp) first matched

theorem blocksIpv6_of_shadowed (reads : ipaddr.ReadsAddresses)
    {benchmark : Bool} (shadowed : Shadowed ipaddr address benchmark) :
    blocksIpv6 ipaddr address benchmark = false := by
  obtain ⟨plain, -, -, rule, isRule, isMatch, allowed⟩ := shadowed
  rw [blocksIpv6_of_comesFirst benchmark (comesFirst_of_prefixes reads isRule isMatch), plain,
    allowed]
  rfl

/-- An address of the deprecated form embeds what its mapped form embeds. -/
theorem blocksIpv6_toMapped (reads : ipaddr.ReadsAddresses) {benchmark : Bool}
    (compatible : ipv4CompatibleRule.isMatch address = true)
    (embeds : EmbedsBlocked ipaddr address benchmark) :
    blocksIpv6 ipaddr (toMapped address) benchmark = true := by
  have parts : address 0 = 0 ∧ address 1 = 0 ∧ address 2 = 0 ∧ address 3 = 0 ∧ address 4 = 0 ∧
      address 5 = 0 := by
    simpa [ipv4CompatibleRule, and_assoc] using compatible
  have mapped : (ipv4MappedRule ipaddr).isMatch (toMapped address) = true :=
    decide_eq_true ((reads.ipv4Mapped_iff _).2 (by simp [toMapped, Function.update, parts]))
  have sameEmbedded : (ipv4MappedRule ipaddr).embedded (toMapped address) =
      ipv4CompatibleRule.embedded address := by
    simp [EmbeddingRule.embedded, ipv4MappedRule, ipv4CompatibleRule, toMapped, Function.update]
  have first : ComesFirst ipaddr (ipv4MappedRule ipaddr) (toMapped address) := by
    unfold ComesFirst embeddingRules
    rw [List.cons_append, List.find?_cons, mapped]
  obtain ⟨rule, isRule, isMatch, blocked⟩ := embeds
  have only : ComesFirst ipaddr ipv4CompatibleRule address :=
    (comesFirst_of_isMatch reads (by simp [embeddingRules, embeddedIpv4SentinelRules])
      compatible).resolve_right fun other => by
        rcases other.2 with ⟨-, sixToFour⟩ | ⟨-, teredo⟩
        · simp [sixToFourRule, parts] at sixToFour
        · simp [teredoRule, parts] at teredo
  have isCompatible : rule = ipv4CompatibleRule := by
    rcases comesFirst_of_isMatch reads isRule isMatch with first | ⟨rfl, -⟩
    · exact Option.some.inj (first.symm.trans only)
    · simp [isatapRule, parts] at isMatch
  rw [blocksIpv6_of_comesFirst benchmark first, sameEmbedded, ← isCompatible, blocked,
    Bool.or_true]

end Rules

/-! ### The guard -/

section Guard

variable {ipaddr : IpaddrJs} {parts : List (List Char)}

/-- What the guard says of a text of an address, it says of what the parser gives for it. -/
theorem isPrivateIpAddress_of_form (reads : ipaddr.ReadsAddresses)
    {address : Ipv6} (form : TextualForm text address) (policy : SsrFPolicy) :
    ∃ parsed, ParsedAs address parsed ∧ isPrivateIpAddress (ipFunctions ipaddr) text policy =
      blocksIpv6 ipaddr parsed policy.allowRfc2544BenchmarkRange := by
  obtain ⟨inner, isInner, denotes⟩ := normalizeHostname_of_form form
  obtain ⟨parsed, parses, isParsed⟩ := parse_of_denotes reads denotes
  refine ⟨parsed, isParsed, ?_⟩
  have filled : String.ofList inner ≠ "" := by
    intro blank
    have none := congrArg String.toList blank
    rw [String.toList_ofList] at none
    exact absurd denotes.colon_mem (by simp [none])
  have strict : (ipFunctions ipaddr).parseCanonicalIpAddress (String.ofList inner) =
      some (.ipv6 parsed) := parses
  unfold isPrivateIpAddress
  dsimp only
  rw [isInner, if_neg filled, strict]
  have extracted : (ipFunctions ipaddr).extractEmbeddedIpv4FromIpv6 (.ipv6 parsed) =
      (((embeddingRules ipaddr).find? (·.isMatch parsed)).map (·.embedded parsed)).map .ipv4 :=
    congrArg (Option.map ParsedIpAddress.ipv4) (extractEmbeddedIpv4FromIpv6_eq ipaddr parsed)
  dsimp only
  rw [extracted]
  change (if isBlockedSpecialUseIpv6Address ipaddr parsed then true else _) = _
  unfold blocksIpv6
  cases isBlockedSpecialUseIpv6Address ipaddr parsed with
  | true => rfl
  | false => cases (embeddingRules ipaddr).find? (·.isMatch parsed) <;> rfl

/-- A part of an IPv4 address as it may be meant: digits, or what begins as a hexadecimal number. -/
def IsNumberPart (part : List Char) : Prop :=
  (part ≠ [] ∧ ∀ character ∈ part, character.isDigit = true) ∨
    ∃ rest, (∀ character ∈ rest, character.isAlphanum = true) ∧ part = '0' :: 'x' :: rest

/-- A text that is meant as an IPv4 address, of parts that are numbers or empty, and is not four
decimal octets. -/
structure IsOddIpv4 (text : String) (parts : List (List Char)) : Prop where
  filled : text ≠ ""
  isText : text.toList = Delimited.join '.' parts
  numbers : ∀ part ∈ parts, part = [] ∨ IsNumberPart part
  odd : ∀ octets, text.toList ≠ dottedText octets

/-- A text with a colon that is not read as an IPv6 address, inside brackets or without. -/
structure IsMalformedIpv6 (ipaddr : IpaddrJs) (text : String) : Prop where
  colon : ':' ∈ text.toList
  unread : ∀ inner, normalizeIpParseInput text = some inner →
    ipaddr.parseIpv6 inner = none ∧ parseIpv6WithEmbeddedIpv4 ipaddr inner = none

theorem alphanumeric_of_isNumberPart {part : List Char} (number : part = [] ∨ IsNumberPart part) :
    ∀ character ∈ part, character.isAlphanum = true := by
  intro character member
  rcases number with rfl | ⟨-, digits⟩ | ⟨rest, alphanumeric, rfl⟩
  · exact absurd member List.not_mem_nil
  · simp [Char.isAlphanum, digits character member]
  · rcases List.mem_cons.1 member with rfl | inRest
    · decide
    · rcases List.mem_cons.1 inRest with rfl | inRest
      · decide
      · exact alphanumeric character inRest

theorem looksNumeric_of_isNumberPart {part : List Char} (number : IsNumberPart part) :
    looksNumeric part = true := by
  unfold looksNumeric
  rcases number with ⟨filled, digits⟩ | ⟨rest, -, rfl⟩
  · rw [List.all_eq_true.2 digits, decide_eq_true filled]
    rfl
  · simp

theorem IsOddIpv4.characters (isOdd : IsOddIpv4 text parts) : ∀ character ∈ text.toList,
      IsAddressCharacter character ∨ character = '%' ∨ character.isAlphanum = true := by
  intro character member
  rw [isOdd.isText] at member
  rcases Delimited.mem_join member with isDot | ⟨part, isPart, inPart⟩
  · exact Or.inl (Or.inr (Or.inr isDot))
  · exact Or.inr (Or.inr (alphanumeric_of_isNumberPart (isOdd.numbers part isPart) character
      inPart))

theorem IsOddIpv4.colon_free (isOdd : IsOddIpv4 text parts) : ':' ∉ text.toList := by
  intro member
  rw [isOdd.isText] at member
  rcases Delimited.mem_join member with isDot | ⟨part, isPart, inPart⟩
  · exact absurd isDot (by decide)
  · exact absurd (alphanumeric_of_isNumberPart (isOdd.numbers part isPart) ':' inPart) (by decide)

/-- The parts are what the text is split into. -/
theorem IsOddIpv4.splitOn (isOdd : IsOddIpv4 text parts) : text.toList.splitOn '.' = parts := by
  have filled : parts ≠ [] := by
    rintro rfl
    exact isOdd.filled (String.toList_eq_nil_iff.1 isOdd.isText)
  rw [isOdd.isText, Delimited.splitOn_join filled]
  have alone : ∀ part ∈ parts, part.splitOn '.' = [part] := fun part isPart =>
    List.splitOn_eq_singleton fun member =>
      absurd (alphanumeric_of_isNumberPart (isOdd.numbers part isPart) '.' member) (by decide)
  rw [List.flatMap_congr alone]
  exact List.flatMap_singleton' parts

/-- An odd text is blocked when it has as many parts as an IPv4 address can have. -/
theorem isPrivateIpAddress_of_odd (reads : ipaddr.ReadsAddresses)
    (isOdd : IsOddIpv4 (normalizeHostname text) parts) (policy : SsrFPolicy) :
    isPrivateIpAddress (ipFunctions ipaddr) text policy = decide (parts.length ≤ 4) := by
  generalize isNormalized : normalizeHostname text = normalized at isOdd
  have isInput := normalizeIpParseInput_of_plain isOdd.filled isOdd.characters
  have fourPart : ipaddr.isValidFourPartDecimal normalized = false := by
    refine Bool.eq_false_of_not_eq_true fun valid => ?_
    obtain ⟨octets, isDotted⟩ := (reads.fourPart_iff normalized).1 valid
    exact isOdd.odd octets isDotted
  have strict : (ipFunctions ipaddr).parseCanonicalIpAddress normalized = none := by
    change parseCanonicalIpAddress ipaddr normalized = none
    unfold parseCanonicalIpAddress
    rw [isInput]
    dsimp only
    cases ipaddr.parseIpv4 normalized with
    | some address =>
      dsimp only
      rw [fourPart]
      rfl
    | none =>
      dsimp only
      rw [reads.ipv6_colon normalized isOdd.colon_free]
      dsimp only
      rw [parseIpv6WithEmbeddedIpv4, if_pos (Or.inl isOdd.colon_free)]
      rfl
  have canonical : (ipFunctions ipaddr).isCanonicalDottedDecimalIPv4 normalized = false := by
    change isCanonicalDottedDecimalIPv4 ipaddr normalized = false
    unfold isCanonicalDottedDecimalIPv4
    rw [isInput]
    exact fourPart
  have some_parts : parts.length ≠ 0 := by
    intro none
    have isText := isOdd.isText
    rw [List.length_eq_zero_iff.1 none] at isText
    exact isOdd.filled (String.toList_eq_nil_iff.1 isText)
  have unsupported : looksLikeUnsupportedIpv4Literal normalized = decide (parts.length ≤ 4) := by
    unfold looksLikeUnsupportedIpv4Literal
    rw [isOdd.splitOn]
    dsimp only
    by_cases few : parts.length ≤ 4
    · rw [if_neg (by omega), decide_eq_true few]
      split
      · rfl
      next none_empty =>
        refine List.all_eq_true.2 fun part isPart => ?_
        refine looksNumeric_of_isNumberPart ((isOdd.numbers part isPart).resolve_left ?_)
        rintro rfl
        exact none_empty (List.any_eq_true.2 ⟨[], isPart, rfl⟩)
    · rw [if_pos (by omega), decide_eq_false few]
  have legacy : 4 < parts.length →
      (ipFunctions ipaddr).isLegacyIpv4Literal normalized = false := by
    intro many
    change isLegacyIpv4Literal ipaddr normalized = false
    unfold isLegacyIpv4Literal
    rw [isInput]
    dsimp only
    rw [if_neg isOdd.colon_free, isOdd.splitOn]
    split
    · rfl
    · exact if_pos (Or.inr many)
  unfold isPrivateIpAddress
  dsimp only
  rw [isNormalized, if_neg isOdd.filled, strict]
  dsimp only
  rw [if_neg fun both => isOdd.colon_free both.1, canonical, unsupported]
  by_cases few : parts.length ≤ 4
  · rw [decide_eq_true few, ite_self]
  · rw [legacy (not_le.1 few)]
    rfl

theorem mem_dropWhile_of_not {blank : Char → Bool} {characters : List Char} {character : Char}
    (member : character ∈ characters) (solid : blank character = false) :
    character ∈ characters.dropWhile blank := by
  rw [← @List.takeWhile_append_dropWhile _ blank characters] at member
  refine (List.mem_append.1 member).resolve_left fun inFront => ?_
  rw [List.mem_takeWhile_imp inFront] at solid
  exact absurd solid nofun

/-- A colon is not lost on the way to the parser. -/
theorem colon_mem_of_input {text inner : String} (colon : ':' ∈ text.toList)
    (isInput : normalizeIpParseInput text = some inner) : ':' ∈ inner.toList := by
  obtain ⟨trimmed, isTrimmed, rfl⟩ := Option.map_eq_some_iff.1 isInput
  obtain ⟨same, -⟩ := (normalizeOptionalString_eq_some_iff _ _).1 isTrimmed
  obtain rfl := Option.some.inj same
  have inTrimmed : ':' ∈ (trim text).toList := by
    rw [trim, trimWith, String.toList_ofList, List.rdropWhile, List.mem_reverse]
    refine mem_dropWhile_of_not ?_ (by decide)
    exact List.mem_reverse.2 (mem_dropWhile_of_not colon (by decide))
  rw [stripIpv6Brackets, String.toList_ofList]
  generalize (trim text).toList = characters at inTrimmed
  unfold stripBrackets
  split
  next both =>
    obtain ⟨rest, rfl⟩ := List.head?_eq_some_iff.1 both.1
    have inRest : ':' ∈ rest := (List.mem_cons.1 inTrimmed).resolve_left (by decide)
    have filled : rest ≠ [] := List.ne_nil_of_mem inRest
    have isLast : rest.getLast filled = ']' := by
      have last := both.2
      rw [List.getLast?_cons, List.getLast?_eq_some_getLast filled] at last
      exact Option.some.inj last
    rw [← List.dropLast_append_getLast filled, isLast] at inRest
    exact (List.mem_append.1 inRest).resolve_right (by simp)
  · exact inTrimmed

theorem isPrivateIpAddress_of_malformed (reads : ipaddr.ReadsAddresses)
    (malformed : IsMalformedIpv6 ipaddr (normalizeHostname text)) (policy : SsrFPolicy) :
    isPrivateIpAddress (ipFunctions ipaddr) text policy = true := by
  generalize isNormalized : normalizeHostname text = normalized at malformed
  obtain ⟨colon, unread⟩ := malformed
  have filled : normalized ≠ "" := by
    rintro rfl
    exact absurd colon List.not_mem_nil
  have strict : (ipFunctions ipaddr).parseCanonicalIpAddress normalized = none := by
    change parseCanonicalIpAddress ipaddr normalized = none
    unfold parseCanonicalIpAddress
    cases isInput : nonEmpty (normalizeIpParseInput normalized) with
    | none => rfl
    | some inner =>
      obtain ⟨isInner, -⟩ := (nonEmpty_eq_some_iff _ _).1 isInput
      obtain ⟨noIpv6, noEmbedded⟩ := unread inner isInner
      dsimp only
      rw [reads.ipv4_plain inner (colon_mem_of_input colon isInner), noIpv6, noEmbedded]
      rfl
  have loose : (ipFunctions ipaddr).parseLooseIpAddress normalized = none := by
    change parseLooseIpAddress ipaddr normalized = none
    unfold parseLooseIpAddress IpaddrJs.parse
    cases isInput : nonEmpty (normalizeIpParseInput normalized) with
    | none => rfl
    | some inner =>
      obtain ⟨isInner, -⟩ := (nonEmpty_eq_some_iff _ _).1 isInput
      obtain ⟨noIpv6, noEmbedded⟩ := unread inner isInner
      dsimp only
      rw [reads.ipv4_plain inner (colon_mem_of_input colon isInner), noIpv6, noEmbedded]
      rfl
  unfold isPrivateIpAddress
  dsimp only
  rw [isNormalized, if_neg filled, strict]
  dsimp only
  rw [if_pos ⟨colon, loose⟩]

variable (ipaddr)

/-- The texts of an address are blocked whenever a rule embeds a blocked address in it, if and
only if a rule of a prefix does not shadow the one of ISATAP; odd IPv4 addresses are blocked if
and only if they have four parts at most; and malformed IPv6 addresses are blocked. -/
theorem embeddings_blocked_iff (reads : ipaddr.ReadsAddresses) :
    (∀ address policy,
      (∀ rule ∈ embeddingRules ipaddr, rule.isMatch address = true →
        isBlockedSpecialUseIpv4Address ipaddr (rule.embedded address)
          policy.allowRfc2544BenchmarkRange = true →
        ∀ text, TextualForm text address →
          isPrivateIpAddress (ipFunctions ipaddr) text policy = true) ↔
      ¬Shadowed ipaddr address policy.allowRfc2544BenchmarkRange) ∧
    (∀ text parts, IsOddIpv4 (normalizeHostname text) parts → ∀ policy,
      isPrivateIpAddress (ipFunctions ipaddr) text policy = true ↔ parts.length ≤ 4) ∧
    ∀ text, IsMalformedIpv6 ipaddr (normalizeHostname text) → ∀ policy,
      isPrivateIpAddress (ipFunctions ipaddr) text policy = true := by
  refine ⟨fun address policy => ⟨?_, ?_⟩, ?_, ?_⟩
  · intro blocked shadowed
    have isRule : isatapRule ∈ embeddingRules ipaddr := by
      simp [embeddingRules, embeddedIpv4SentinelRules]
    have form : TextualForm (String.ofList (fullText address)) address :=
      .plain (String.toList_ofList ▸ (denotes_fullText address).weaken)
    have isPrivate := blocked isatapRule isRule shadowed.2.1 shadowed.2.2.1 _ form
    obtain ⟨parsed, rfl | ⟨compatible, -⟩, isParsed⟩ :=
      isPrivateIpAddress_of_form reads form policy
    · rw [isParsed, blocksIpv6_of_shadowed reads shadowed] at isPrivate
      exact absurd isPrivate Bool.false_ne_true
    · have isatap := shadowed.2.1
      simp only [ipv4CompatibleRule, isatapRule, Bool.and_eq_true, decide_eq_true_eq]
        at compatible isatap
      exact absurd (compatible.2.symm.trans isatap.2) (by decide)
  · intro clear rule isRule isMatch blocked text form
    have embeds : EmbedsBlocked ipaddr address policy.allowRfc2544BenchmarkRange :=
      ⟨rule, isRule, isMatch, blocked⟩
    obtain ⟨parsed, rfl | ⟨compatible, rfl⟩, isParsed⟩ :=
      isPrivateIpAddress_of_form reads form policy
    · exact isParsed.trans (blocksIpv6_of_embedsBlocked reads embeds clear)
    · exact isParsed.trans (blocksIpv6_toMapped reads compatible embeds)
  · intro text parts isOdd policy
    rw [isPrivateIpAddress_of_odd reads isOdd, decide_eq_true_eq]
  · exact fun text malformed policy => isPrivateIpAddress_of_malformed reads malformed policy

end Guard

/-! ### A library that reads the texts of addresses and no others -/

section Plain

/-- The ranges of embedded addresses. -/
def plainRange (address : Ipv6) : Ipv6Range :=
  if address 0 = 0 ∧ address 1 = 0 ∧ address 2 = 0 ∧ address 3 = 0 ∧ address 4 = 0 ∧
    address 5 = 0xffff then .ipv4Mapped
  else if address 0 = 0 ∧ address 1 = 0 ∧ address 2 = 0 ∧ address 3 = 0 ∧ address 4 = 0xffff ∧
    address 5 = 0 then .rfc6145
  else if address 0 = 0x64 ∧ address 1 = 0xff9b ∧ address 2 = 0 ∧ address 3 = 0 ∧
    address 4 = 0 ∧ address 5 = 0 then .rfc6052
  else .other

theorem plainRange_eq_ipv4Mapped (address : Ipv6) : plainRange address = .ipv4Mapped ↔
    address 0 = 0 ∧ address 1 = 0 ∧ address 2 = 0 ∧ address 3 = 0 ∧ address 4 = 0 ∧
      address 5 = 0xffff := by
  unfold plainRange
  split
  next isMapped => exact iff_of_true rfl isMapped
  next notMapped =>
    refine iff_of_false ?_ notMapped
    split
    · nofun
    · split <;> nofun

theorem plainRange_eq_rfc6145 (address : Ipv6) : plainRange address = .rfc6145 ↔
    address 0 = 0 ∧ address 1 = 0 ∧ address 2 = 0 ∧ address 3 = 0 ∧ address 4 = 0xffff ∧
      address 5 = 0 := by
  unfold plainRange
  split
  next isMapped => exact iff_of_false nofun (by simp [isMapped])
  · split
    next isTranslated => exact iff_of_true rfl isTranslated
    next notTranslated =>
      refine iff_of_false ?_ notTranslated
      split <;> nofun

theorem plainRange_eq_rfc6052 (address : Ipv6) : plainRange address = .rfc6052 ↔
    address 0 = 0x64 ∧ address 1 = 0xff9b ∧ address 2 = 0 ∧ address 3 = 0 ∧ address 4 = 0 ∧
      address 5 = 0 := by
  unfold plainRange
  split
  next isMapped => exact iff_of_false nofun (by simp [isMapped])
  · split
    next isTranslated => exact iff_of_false nofun (by simp [isTranslated])
    · split
      next isWellKnown => exact iff_of_true rfl isWellKnown
      next notWellKnown => exact iff_of_false nofun notWellKnown

open Classical in
/-- Of the special ranges it knows those of embedded addresses, and the loopback addresses. -/
noncomputable def plainIpaddr : IpaddrJs where
  parseIpv4 text :=
    if dotted : ∃ octets, text.toList = dottedText octets then some dotted.choose else none
  isValidFourPartDecimal text := decide (∃ octets, text.toList = dottedText octets)
  parseIpv6 text :=
    if denotes : ∃ address, Denotes true text.toList address then some denotes.choose else none
  rangeOfIpv4 address := if address 0 = 127 then .loopback else .other
  rangeOfIpv6 := plainRange

theorem parseIpv4_plainIpaddr {text : String} (colon : ':' ∈ text.toList) :
    plainIpaddr.parseIpv4 text = none := by
  have unknown : ¬∃ octets, text.toList = dottedText octets := by
    rintro ⟨octets, isDotted⟩
    rw [isDotted] at colon
    exact colon_free colon
  unfold plainIpaddr
  dsimp only
  rw [dif_neg unknown]

theorem parseIpv6_plainIpaddr {dots : Bool} {text : String} {address : Ipv6}
    (denotes : Denotes dots text.toList address) :
    plainIpaddr.parseIpv6 text = some address := by
  have known : ∃ address, Denotes true text.toList address := ⟨address, denotes.weaken⟩
  unfold plainIpaddr
  dsimp only
  rw [dif_pos known, known.choose_spec.unique denotes]

theorem parseIpv6_plainIpaddr_none {text : String}
    (unknown : ¬∃ address, Denotes true text.toList address) :
    plainIpaddr.parseIpv6 text = none := by
  unfold plainIpaddr
  dsimp only
  rw [dif_neg unknown]

theorem isValidFourPartDecimal_plainIpaddr (text : String) :
    plainIpaddr.isValidFourPartDecimal text = true ↔
      ∃ octets, text.toList = dottedText octets := by
  unfold plainIpaddr
  dsimp only
  rw [decide_eq_true_eq]

theorem plainIpaddr_reads : plainIpaddr.ReadsAddresses where
  ipv4_plain _ colon := parseIpv4_plainIpaddr colon
  ipv6_colon _ free := parseIpv6_plainIpaddr_none fun ⟨_, denotes⟩ => free denotes.colon_mem
  fourPart_iff := isValidFourPartDecimal_plainIpaddr
  accepts _ address denotes := ⟨address, parseIpv6_plainIpaddr denotes⟩
  reads _ _ _ _ denotes parses :=
    Or.inl (Option.some.inj (parses.symm.trans (parseIpv6_plainIpaddr denotes)))
  ipv4Mapped_iff := plainRange_eq_ipv4Mapped
  rfc6145_iff := plainRange_eq_rfc6145
  rfc6052_iff := plainRange_eq_rfc6052

theorem loopback_blocked (address : Ipv4) (loopback : address 0 = 127) :
    isBlockedSpecialUseIpv4Address plainIpaddr address false = true := by
  have range : plainIpaddr.rangeOfIpv4 address = .loopback := by
    unfold plainIpaddr
    exact if_pos loopback
  unfold isBlockedSpecialUseIpv4Address
  rw [range, Bool.and_false]
  rfl

theorem octal_is_odd : IsOddIpv4 "0177.0.0.1" [['0', '1', '7', '7'], ['0'], ['0'], ['1']] where
  filled := by decide
  isText := by decide +kernel
  numbers := by
    have digits : [['0', '1', '7', '7'], ['0'], ['0'], ['1']].all
        (fun part => part ≠ [] && part.all Char.isDigit) = true := by decide
    intro part isPart
    have both := List.all_eq_true.1 digits part isPart
    rw [Bool.and_eq_true, decide_eq_true_eq, List.all_eq_true] at both
    exact Or.inr (Or.inl both)
  odd octets isDotted := by
    have fields := congrArg (List.splitOn '.') isDotted
    have isSplit : "0177.0.0.1".toList.splitOn '.' =
        [['0', '1', '7', '7'], ['0'], ['0'], ['1']] := by decide +kernel
    rw [isSplit, dottedText_parts] at fields
    simp only [List.splitOn_append_cons_self, List.splitOn_eq_singleton (dot_free _)] at fields
    have first : ['0', '1', '7', '7'] = Nat.toDigits 10 (octets 0).toNat := (List.cons.inj fields).1
    have number := congrArg (Nat.ofDigitChars 10 · 0) first
    rw [Nat.ofDigitChars_ten_toDigits] at number
    rw [← number] at first
    exact absurd first (by decide +kernel)

/-- The 6to4 address of 127.0.0.1, an octal form of it, and a prefix with its length. -/
theorem embeddings_blocked_iff_plain :
    isPrivateIpAddress (ipFunctions plainIpaddr) "[2002:7F00:1:0:0:0:0:0]" {} = true ∧
      isPrivateIpAddress (ipFunctions plainIpaddr) "0177.0.0.1" {} = true ∧
      isPrivateIpAddress (ipFunctions plainIpaddr) "fe80::1/64" {} = true := by
  obtain ⟨embedded, odd, malformed⟩ := embeddings_blocked_iff plainIpaddr plainIpaddr_reads
  refine ⟨?_, ?_, ?_⟩
  · have start : Group "2002".toList 0x2002 := ⟨by decide, by decide, by decide⟩
    have middle : Group "7F00".toList 0x7f00 := ⟨by decide, by decide, by decide⟩
    have one : Group ['1'] 1 := ⟨by decide, by decide, by decide⟩
    have zero : Group ['0'] 0 := ⟨by decide, by decide, by decide⟩
    have words : Words true "2002:7F00:1:0:0:0:0:0".toList
        (List.ofFn ![0x2002, 0x7f00, 1, 0, 0, 0, 0, 0]) :=
      .cons start <| .cons middle <| .cons one <|
        .cons zero <| .cons zero <| .cons zero <| .cons zero <| .group zero
    have form : TextualForm "[2002:7F00:1:0:0:0:0:0]" ![0x2002, 0x7f00, 1, 0, 0, 0, 0, 0] :=
      .bracketed "2002:7F00:1:0:0:0:0:0".toList
        ⟨_, [], (List.append_nil _).symm, .full words, Or.inl rfl⟩ (by decide +kernel)
    refine (embedded _ {}).2 ?_ sixToFourRule
      (by simp [embeddingRules, embeddedIpv4SentinelRules]) (by decide) ?_ _ form
    · rintro ⟨-, isatap, -⟩
      exact absurd isatap (by decide)
    · exact loopback_blocked _ (by decide)
  · have isText : normalizeHostname "0177.0.0.1" = "0177.0.0.1" := by decide +kernel
    exact (odd _ _ (isText.symm ▸ octal_is_odd) {}).2 (by decide)
  · have isText : normalizeHostname "fe80::1/64" = "fe80::1/64" := by decide +kernel
    have isInput : normalizeIpParseInput "fe80::1/64" = some "fe80::1/64" := by decide +kernel
    refine malformed _ (isText.symm ▸ ⟨by decide +kernel, fun inner isInner => ?_⟩) {}
    obtain rfl := Option.some.inj (isInput.symm.trans isInner)
    refine ⟨parseIpv6_plainIpaddr_none ?_, if_pos (Or.inr (by decide +kernel))⟩
    rintro ⟨address, denotes⟩
    have slash := denotes.characters '/' (by decide +kernel)
    exact absurd slash (by unfold IsAddressCharacter; decide)

/-- The 6to4 address of 8.8.8.8 with the ISATAP identifier of 127.0.0.1. -/
theorem isatap_is_shadowed :
    ∃ address, TextualForm "2002:808:808:0:0:5efe:7f00:1" address ∧
      isatapRule ∈ embeddingRules plainIpaddr ∧ isatapRule.isMatch address = true ∧
      isatapRule.embedded address = ![127, 0, 0, 1] ∧
      isBlockedSpecialUseIpv4Address plainIpaddr ![127, 0, 0, 1] false = true ∧
      isPrivateIpAddress (ipFunctions plainIpaddr) "2002:808:808:0:0:5efe:7f00:1" {} = false := by
  let address : Ipv6 := ![0x2002, 0x0808, 0x0808, 0, 0, 0x5efe, 0x7f00, 1]
  have form : TextualForm "2002:808:808:0:0:5efe:7f00:1" address := by
    have isText : "2002:808:808:0:0:5efe:7f00:1".toList = fullText address := by decide +kernel
    exact .plain (isText ▸ (denotes_fullText address).weaken)
  have plain : isBlockedSpecialUseIpv6Address plainIpaddr address = false := by
    unfold isBlockedSpecialUseIpv6Address plainIpaddr
    decide
  have allowed : isBlockedSpecialUseIpv4Address plainIpaddr (sixToFourRule.embedded address)
      false = false := by
    unfold isBlockedSpecialUseIpv4Address plainIpaddr
    decide
  have shadowed : Shadowed plainIpaddr address false :=
    ⟨plain, by decide, loopback_blocked _ (by decide), sixToFourRule, by simp, by decide, allowed⟩
  refine ⟨address, form, by simp [embeddingRules, embeddedIpv4SentinelRules], by decide,
    by decide, loopback_blocked _ rfl, ?_⟩
  obtain ⟨parsed, rfl | ⟨compatible, -⟩, isParsed⟩ :=
    isPrivateIpAddress_of_form plainIpaddr_reads form {}
  · exact isParsed.trans (blocksIpv6_of_shadowed plainIpaddr_reads shadowed)
  · exact absurd compatible (by decide)

end Plain

end OpenClaw.Net
