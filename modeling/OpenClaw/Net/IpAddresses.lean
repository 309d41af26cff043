/-
This file is `shared/net/ip.ts`: how a text is parsed as an address, which addresses are of a
special use, and which IPv4 address is embedded in an IPv6 address.

The address library `ipaddr.js` reads texts and names the ranges of addresses. A text that it does
not call valid is one that it does not parse. A range that the code does not ask for is `other`.
-/

import OpenClaw.Base.AddressText
import OpenClaw.Net.Ssrf

namespace OpenClaw.Net

open Text AddressText

inductive Ipv4Range
  | unspecified
  | broadcast
  | multicast
  | linkLocal
  | loopback
  | carrierGradeNat
  /-- The range `private`. -/
  | privateUse
  | reserved
  | other
  deriving DecidableEq

inductive Ipv6Range
  | unspecified
  | loopback
  | linkLocal
  | uniqueLocal
  | multicast
  | reserved
  | benchmarking
  | discard
  | orchid2
  | ipv4Mapped
  | rfc6145
  | rfc6052
  | other
  deriving DecidableEq

/-- What is asked of `ipaddr.js`. -/
structure IpaddrJs where
  parseIpv4 : String → Option Ipv4
  isValidFourPartDecimal : String → Bool
  parseIpv6 : String → Option Ipv6
  rangeOfIpv4 : Ipv4 → Ipv4Range
  rangeOfIpv6 : Ipv6 → Ipv6Range

inductive ParsedIpAddress
  | ipv4 (address : Ipv4)
  | ipv6 (address : Ipv6)
  deriving DecidableEq

variable (ipaddr : IpaddrJs)

/-! ### Ranges -/

def blockedIpv4SpecialUseRanges : List Ipv4Range :=
  [.unspecified, .broadcast, .multicast, .linkLocal, .loopback, .carrierGradeNat, .privateUse,
    .reserved]

def blockedIpv6SpecialUseRanges : List Ipv6Range :=
  [.unspecified, .loopback, .linkLocal, .uniqueLocal, .multicast, .reserved, .benchmarking,
    .discard, .orchid2]

/-- `198.18.0.0/15`. -/
def inRfc2544BenchmarkRange (address : Ipv4) : Bool :=
  address 0 = 198 && address 1 &&& 0xfe = 18

def isBlockedSpecialUseIpv4Address (address : Ipv4) (allowRfc2544BenchmarkRange : Bool) : Bool :=
  if inRfc2544BenchmarkRange address && allowRfc2544BenchmarkRange then false
  else ipaddr.rangeOfIpv4 address ∈ blockedIpv4SpecialUseRanges || inRfc2544BenchmarkRange address

def isBlockedSpecialUseIpv6Address (address : Ipv6) : Bool :=
  ipaddr.rangeOfIpv6 address ∈ blockedIpv6SpecialUseRanges || address 0 &&& 0xffc0 = 0xfec0

/-! ### Embedded addresses -/

/-- The address whose dotted text has these octets. -/
def decodeIpv4FromHextets (high low : BitVec 16) : Ipv4 :=
  ![((high >>> 8) &&& 0xff).truncate 8, (high &&& 0xff).truncate 8,
    ((low >>> 8) &&& 0xff).truncate 8, (low &&& 0xff).truncate 8]

structure EmbeddingRule where
  isMatch : Ipv6 → Bool
  toHextets : Ipv6 → BitVec 16 × BitVec 16

def EmbeddingRule.embedded (rule : EmbeddingRule) (address : Ipv6) : Ipv4 :=
  decodeIpv4FromHextets (rule.toHextets address).1 (rule.toHextets address).2

/-- `::w.x.y.z`. -/
def ipv4CompatibleRule : EmbeddingRule where
  isMatch parts := parts 0 = 0 && parts 1 = 0 && parts 2 = 0 && parts 3 = 0 && parts 4 = 0 &&
    parts 5 = 0
  toHextets parts := (parts 6, parts 7)

/-- `64:ff9b:1::/48`. -/
def nat64LocalUseRule : EmbeddingRule where
  isMatch parts := parts 0 = 0x0064 && parts 1 = 0xff9b && parts 2 = 0x0001 && parts 3 = 0 &&
    parts 4 = 0 && parts 5 = 0
  toHextets parts := (parts 6, parts 7)

/-- `2002::/16`. -/
def sixToFourRule : EmbeddingRule where
  isMatch parts := parts 0 = 0x2002
  toHextets parts := (parts 1, parts 2)

/-- `2001:0000::/32`; the address of the client is complemented. -/
def teredoRule : EmbeddingRule where
  isMatch parts := parts 0 = 0x2001 && parts 1 = 0x0000
  toHextets parts := (parts 6 ^^^ 0xffff, parts 7 ^^^ 0xffff)

/-- `…:0000:5efe:w.x.y.z`, with any of the bits `u` and `g`. -/
def isatapRule : EmbeddingRule where
  isMatch parts := parts 4 &&& 0xfcff = 0 && parts 5 = 0x5efe
  toHextets parts := (parts 6, parts 7)

def embeddedIpv4SentinelRules : List EmbeddingRule :=
  [ipv4CompatibleRule, nat64LocalUseRule, sixToFourRule, teredoRule, isatapRule]

def isIPv4MappedAddress (address : Ipv6) : Bool := ipaddr.rangeOfIpv6 address = .ipv4Mapped

def extractEmbeddedIpv4FromIpv6 (address : Ipv6) : Option Ipv4 :=
  if isIPv4MappedAddress ipaddr address then
    some (decodeIpv4FromHextets (address 6) (address 7))
  else if ipaddr.rangeOfIpv6 address = .rfc6145 then
    some (decodeIpv4FromHextets (address 6) (address 7))
  else if ipaddr.rangeOfIpv6 address = .rfc6052 then
    some (decodeIpv4FromHextets (address 6) (address 7))
  else (embeddedIpv4SentinelRules.find? (·.isMatch address)).map (·.embedded address)

/-! ### Texts -/

def isLineTerminator (character : Char) : Bool :=
  character.toNat ∈ [0x0a, 0x0d, 0x2028, 0x2029]

/-- A text with so many dots at least, and something before, between and behind them. -/
def hasDottedParts : ℕ → List Char → Bool
  | 0, text => text ≠ []
  | _ + 1, [] => false
  | dots + 1, _ :: rest =>
    match rest.dropWhile (· ≠ '.') with
    | [] => false
    | _ :: after => hasDottedParts dots after

/-- The groups of `/^(.*:)([^:%]+(?:\.[^:%]+){3})(%[0-9A-Za-z]+)?$/i`: what stands up to the last
colon, then up to a percent sign, and the rest. -/
def embeddedIpv4Groups (raw : List Char) : Option (List Char × List Char × List Char) :=
  let front := raw.rdropWhile (· ≠ ':')
  let behind := raw.rtakeWhile (· ≠ ':')
  let embeddedIpv4 := behind.takeWhile (· ≠ '%')
  let zoneSuffix := behind.dropWhile (· ≠ '%')
  if front ≠ [] ∧ front.all (!isLineTerminator ·) ∧ hasDottedParts 3 embeddedIpv4 ∧
      (zoneSuffix = [] ∨ zoneSuffix.tail ≠ [] ∧ zoneSuffix.tail.all Char.isAlphanum) then
    some (front, embeddedIpv4, zoneSuffix)
  else none

/-- The numbers of a text with dots. -/
def octetNumbers (text : List Char) : List ℕ :=
  (text.splitOn '.').map fun part => Nat.ofDigitChars 10 part 0

def parseIpv6WithEmbeddedIpv4 (raw : String) : Option Ipv6 :=
  if ':' ∉ raw.toList ∨ '.' ∉ raw.toList then none
  else match embeddedIpv4Groups raw.toList with
    | none => none
    | some (front, embeddedIpv4, zoneSuffix) =>
      if !ipaddr.isValidFourPartDecimal (String.ofList embeddedIpv4) then none
      else
        let octets := octetNumbers embeddedIpv4
        let high := hexText (octets.getD 0 0 <<< 8 ||| octets.getD 1 0)
        let low := hexText (octets.getD 2 0 <<< 8 ||| octets.getD 3 0)
        ipaddr.parseIpv6 (String.ofList (front ++ (high ++ ':' :: low) ++ zoneSuffix))

def stripIpv6Brackets (value : String) : String := String.ofList (stripBrackets value.toList)

def normalizeIpParseInput (raw : String) : Option String :=
  (normalizeOptionalString (some raw)).map stripIpv6Brackets

def parseCanonicalIpAddress (raw : String) : Option ParsedIpAddress :=
  match nonEmpty (normalizeIpParseInput raw) with
  | none => none
  | some normalized =>
    match ipaddr.parseIpv4 normalized with
    | some address =>
      if ipaddr.isValidFourPartDecimal normalized then some (.ipv4 address) else none
    | none =>
      match ipaddr.parseIpv6 normalized with
      | some address => some (.ipv6 address)
      | none => (parseIpv6WithEmbeddedIpv4 ipaddr normalized).map .ipv6

/-- `ipaddr.parse`, where `ipaddr.isValid`. -/
def IpaddrJs.parse (text : String) : Option ParsedIpAddress :=
  match ipaddr.parseIpv6 text with
  | some address => some (.ipv6 address)
  | none => (ipaddr.parseIpv4 text).map .ipv4

def parseLooseIpAddress (raw : String) : Option ParsedIpAddress :=
  match nonEmpty (normalizeIpParseInput raw) with
  | none => none
  | some normalized =>
    match ipaddr.parse normalized with
    | some address => some address
    | none => (parseIpv6WithEmbeddedIpv4 ipaddr normalized).map .ipv6

def isCanonicalDottedDecimalIPv4 (raw : String) : Bool :=
  match nonEmpty (normalizeIpParseInput raw) with
  | none => false
  | some normalized => ipaddr.isValidFourPartDecimal normalized

def isHexDigit (character : Char) : Bool := (hexDigit character).isSome

/-- `/^[0-9]+$/` or `/^0x[0-9a-f]+$/i`. -/
def isNumericIpv4LiteralPart (value : List Char) : Bool :=
  (value ≠ [] && value.all Char.isDigit) ||
    (value.take 2 = ['0', 'x'] || value.take 2 = ['0', 'X']) &&
      (value.drop 2 ≠ [] && (value.drop 2).all isHexDigit)

def isLegacyIpv4Literal (raw : String) : Bool :=
  match nonEmpty (normalizeIpParseInput raw) with
  | none => false
  | some normalized =>
    let parts := normalized.toList.splitOn '.'
    if ':' ∈ normalized.toList then false
    else if isCanonicalDottedDecimalIPv4 ipaddr normalized then false
    else if parts.length = 0 ∨ 4 < parts.length then false
    else if parts.any (· = []) then false
    else parts.all isNumericIpv4LiteralPart

def ParsedIpAddress.isIpv4 : ParsedIpAddress → Bool
  | .ipv4 _ => true
  | .ipv6 _ => false

/-- The functions of this file, as the guard against private networks uses them. -/
def ipFunctions : AddressLibrary ParsedIpAddress where
  parseCanonicalIpAddress := parseCanonicalIpAddress ipaddr
  parseLooseIpAddress := parseLooseIpAddress ipaddr
  isIpv4Address := ParsedIpAddress.isIpv4
  isBlockedSpecialUseIpv4Address
    | .ipv4 address, benchmark => isBlockedSpecialUseIpv4Address ipaddr address benchmark
    | .ipv6 _, _ => false
  isBlockedSpecialUseIpv6Address
    | .ipv4 _ => false
    | .ipv6 address => isBlockedSpecialUseIpv6Address ipaddr address
  extractEmbeddedIpv4FromIpv6
    | .ipv4 _ => none
    | .ipv6 address => (extractEmbeddedIpv4FromIpv6 ipaddr address).map .ipv4
  isCanonicalDottedDecimalIPv4 := isCanonicalDottedDecimalIPv4 ipaddr
  isLegacyIpv4Literal := isLegacyIpv4Literal ipaddr

end OpenClaw.Net
