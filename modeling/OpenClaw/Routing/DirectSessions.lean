/-
This file says when direct-message sessions are isolated.

The key of a direct session is the agent, the place the scope tells apart, and the id
that stands for the sender: the canonical name it is linked under, or else its own id.
The fields before the last are free of colons, so equal keys have equal fields.

An id stands where a canonical name stands. A sender that nothing links enters the
session of the identities that are linked under a name equal to its own id. Account ids
are flattened, so two accounts may be one in the key. And a key of a group can be read as
one of a direct session when the channel is called `direct` or the account `group`.
-/

import OpenClaw.Routing.SessionKey

namespace OpenClaw.Routing

open Delimited Text

/-! ### Senders -/

/-- Who sends a direct message, and where. -/
structure DirectSender where
  channel : String
  accountId : Option String
  peerId : String
  deriving DecidableEq, Repr

/-- The sender has an id, and its channel is free of colons. -/
def DirectSender.Valid (sender : DirectSender) : Prop :=
  Free ':' sender.channel ∧ trim sender.peerId ≠ ""

instance (sender : DirectSender) : Decidable sender.Valid := instDecidableAnd

/-- A group or channel that is spoken in. -/
structure Room where
  kind : ChatType
  channel : String
  accountId : Option String
  peerId : String
  deriving DecidableEq, Repr

def Room.Valid (room : Room) : Prop := room.kind ≠ .direct ∧ Free ':' room.channel

section Sessions

variable (toLowerCase : String → String) (agentId : String) (links : Option IdentityLinks)
  (scope : DmScope)

def directKey (sender : DirectSender) : String :=
  buildAgentSessionKey toLowerCase agentId sender.channel sender.accountId
    (some ⟨.direct, sender.peerId⟩) scope links

def roomKey (room : Room) : String :=
  buildAgentSessionKey toLowerCase agentId room.channel room.accountId
    (some ⟨room.kind, room.peerId⟩) scope links

/-! ### What the key is made of -/

/-- A channel after trimming and lowering. -/
def channelName (channel : String) : String :=
  orElse (normalizeToken toLowerCase (some channel)) "unknown"

/-- An account after trimming and lowering. -/
def accountName (accountId : Option String) : String :=
  orElse (normalizeToken toLowerCase accountId) defaultAccountId

/-- The sender's own id after trimming and lowering. -/
def DirectSender.ownId (sender : DirectSender) : String :=
  normalizeToken toLowerCase (some sender.peerId)

/-- The canonical name the sender is linked under. -/
def DirectSender.linked (sender : DirectSender) : Option String :=
  resolveLinkedPeerId toLowerCase links (channelName toLowerCase sender.channel)
    (trim sender.peerId)

/-- The id that stands for the sender in its key. -/
def DirectSender.standIn (sender : DirectSender) : String :=
  normalizeToken toLowerCase (some ((sender.linked toLowerCase links).getD (trim sender.peerId)))

/-- The place of the sender, as far as the scope tells places apart. -/
def DirectSender.place (sender : DirectSender) : List String :=
  match scope with
  | .perAccountChannelPeer => [channelName toLowerCase sender.channel,
      normalizeAccountId toLowerCase sender.accountId]
  | .perChannelPeer => [channelName toLowerCase sender.channel]
  | _ => []

/-- The id of a room in its key. -/
def Room.name (room : Room) : String :=
  orElse (normalizeToken toLowerCase (some (orElse (trim room.peerId) "unknown"))) "unknown"

/-! ### The property -/

/-- The scope takes the two for the same sender. -/
def Identified (first second : DirectSender) : Prop :=
  first.ownId toLowerCase = second.ownId toLowerCase ∧
    match scope with
    | .perAccountChannelPeer =>
      channelName toLowerCase first.channel = channelName toLowerCase second.channel ∧
        accountName toLowerCase first.accountId = accountName toLowerCase second.accountId
    | .perChannelPeer =>
      channelName toLowerCase first.channel = channelName toLowerCase second.channel
    | _ => True

/-- An entry of the links lists the sender under a name. -/
def DirectSender.ListedUnder (sender : DirectSender) (name : String) : Prop :=
  ∃ entry ∈ links.getD [], trim entry.1 ≠ "" ∧ normalizeToken toLowerCase (some entry.1) = name ∧
    linksCandidate toLowerCase (linkCandidates toLowerCase (channelName toLowerCase sender.channel)
      (trim sender.peerId)) entry.2 = true

/-- The links list both under one canonical name. -/
def ListedTogether (first second : DirectSender) : Prop :=
  ∃ name, first.ListedUnder toLowerCase links name ∧ second.ListedUnder toLowerCase links name

/-! ### What goes wrong -/

/-- The sender is not linked, and its own id is the name another one is linked under. -/
def DirectSender.Assumes (sender other : DirectSender) : Prop :=
  sender.linked toLowerCase links = none ∧ sender.ownId toLowerCase ≠ other.ownId toLowerCase ∧
    ∃ name, other.linked toLowerCase links = some name ∧
      normalizeToken toLowerCase (some name) = sender.ownId toLowerCase

/-- Two accounts are one in the key, and not by the links. -/
def Flattened (first second : DirectSender) : Prop :=
  accountName toLowerCase first.accountId ≠ accountName toLowerCase second.accountId ∧
    (first.linked toLowerCase links = none ∨ second.linked toLowerCase links = none) ∧
      first.standIn toLowerCase links = second.standIn toLowerCase links

/-- Two senders are at one place, and one assumes the identity of the other or their accounts are
flattened. -/
def Confused (first second : DirectSender) : Prop :=
  first.place toLowerCase scope = second.place toLowerCase scope ∧
    (first.Assumes toLowerCase links second ∨ second.Assumes toLowerCase links first ∨
      scope = .perAccountChannelPeer ∧ Flattened toLowerCase links first second)

/-- The key of a room reads like that of a direct session. -/
def Mistaken (sender : DirectSender) (room : Room) : Prop :=
  match scope with
  | .perPeer => channelName toLowerCase room.channel = "direct" ∧
      sender.standIn toLowerCase links = joinText ':' [room.kind.name, room.name toLowerCase]
  | .perAccountChannelPeer =>
      channelName toLowerCase sender.channel = channelName toLowerCase room.channel ∧
        normalizeAccountId toLowerCase sender.accountId = room.kind.name ∧
          room.name toLowerCase = joinText ':' ["direct", sender.standIn toLowerCase links]
  | _ => False

/-! ### Keys by their fields -/

variable {toLowerCase agentId links scope} {sender : DirectSender}

theorem Lowers.normalizeToken_unknown (lowers : Lowers toLowerCase) :
    normalizeToken toLowerCase (some "unknown") = "unknown" :=
  lowers.normalizeToken_word (by decide) (by decide) (by decide) (by decide)

theorem Lowers.normalizeToken_channelName (lowers : Lowers toLowerCase) (channel : String) :
    normalizeToken toLowerCase (some (channelName toLowerCase channel)) =
      channelName toLowerCase channel := by
  rw [channelName, orElse]
  split
  · exact lowers.normalizeToken_unknown
  · exact lowers.normalizeToken_again channel

theorem channelName_ne_empty (channel : String) : channelName toLowerCase channel ≠ "" := by
  rw [channelName, orElse]
  split
  · decide
  next filled => exact filled

theorem Lowers.channelName_again (lowers : Lowers toLowerCase) (channel : String) :
    channelName toLowerCase (channelName toLowerCase channel) = channelName toLowerCase channel := by
  conv_lhs => rw [channelName, lowers.normalizeToken_channelName]
  rw [orElse, if_neg (channelName_ne_empty channel)]

theorem Lowers.free_channelName (lowers : Lowers toLowerCase) {channel : String}
    (free : Free ':' channel) : Free ':' (channelName toLowerCase channel) :=
  free_orElse (lowers.free_normalizeToken free) (by decide)

theorem linked_eq_some {name : String} (is : sender.linked toLowerCase links = some name) :
    ∃ entry ∈ links.getD [], trim entry.1 ≠ "" ∧ trim entry.1 = name ∧
      linksCandidate toLowerCase (linkCandidates toLowerCase
        (channelName toLowerCase sender.channel) (trim sender.peerId)) entry.2 = true := by
  obtain ⟨table, isTable, found⟩ := Option.bind_eq_some_iff.1 is
  dsimp only at found
  split at found
  · exact absurd found nofun
  · obtain ⟨entry, isFirst, same⟩ := Option.map_eq_some_iff.1 found
    have matched := List.find?_some isFirst
    rw [Bool.and_eq_true, decide_eq_true_eq, trim_trim] at matched
    rw [isTable]
    exact ⟨entry, List.mem_of_find?_eq_some isFirst, matched.1, same, matched.2⟩

theorem listedUnder_of_linked {name : String} (is : sender.linked toLowerCase links = some name) :
    sender.ListedUnder toLowerCase links (normalizeToken toLowerCase (some name)) := by
  obtain ⟨entry, member, filled, same, lists⟩ := linked_eq_some is
  refine ⟨entry, member, filled, ?_, lists⟩
  rw [← same, Lowers.normalizeToken_trim]

theorem not_listedUnder_of_unlinked (valid : trim sender.peerId ≠ "")
    (is : sender.linked toLowerCase links = none) (name : String) :
    ¬sender.ListedUnder toLowerCase links name := by
  rintro ⟨entry, member, filled, -, lists⟩
  cases isTable : links with
  | none =>
    rw [isTable] at member
    exact absurd member List.not_mem_nil
  | some table =>
    rw [DirectSender.linked, resolveLinkedPeerId, isTable, Option.bind_some, trim_trim,
      if_neg valid, Option.map_eq_none_iff, List.find?_eq_none] at is
    rw [isTable] at member
    refine is entry member ?_
    rw [Bool.and_eq_true, decide_eq_true_eq]
    exact ⟨filled, lists⟩

theorem DirectSender.standIn_of_linked {name : String}
    (is : sender.linked toLowerCase links = some name) :
    sender.standIn toLowerCase links = normalizeToken toLowerCase (some name) := by
  rw [standIn, is, Option.getD_some]

theorem DirectSender.standIn_of_unlinked (is : sender.linked toLowerCase links = none) :
    sender.standIn toLowerCase links = sender.ownId toLowerCase := by
  rw [standIn, is, Option.getD_none, Lowers.normalizeToken_trim, ownId]

theorem Lowers.standIn_ne_empty (lowers : Lowers toLowerCase)
    (valid : trim sender.peerId ≠ "") : sender.standIn toLowerCase links ≠ "" := by
  rw [DirectSender.standIn, Ne, lowers.normalizeToken_eq_empty]
  cases is : sender.linked toLowerCase links with
  | none =>
    rw [Option.getD_none, trim_trim]
    exact valid
  | some name =>
    obtain ⟨entry, -, filled, same, -⟩ := linked_eq_some is
    rw [Option.getD_some, ← same, trim_trim]
    exact filled

theorem Lowers.free_place (lowers : Lowers toLowerCase) (free : Free ':' sender.channel) :
    ∀ field ∈ sender.place toLowerCase scope, Free ':' field := by
  unfold DirectSender.place
  intro field member
  split at member
  · rcases List.mem_cons.1 member with rfl | member
    · exact lowers.free_channelName free
    · rw [List.mem_singleton.1 member]
      exact lowers.free_normalizeAccountId _
  · rw [List.mem_singleton.1 member]
    exact lowers.free_channelName free
  · exact absurd member List.not_mem_nil

theorem length_place (first second : DirectSender) :
    (first.place toLowerCase scope).length = (second.place toLowerCase scope).length := by
  unfold DirectSender.place
  split <;> simp only [List.length_cons, List.length_nil]

/-- The key of a direct session is the agent, the place and the id that stands for the sender. -/
theorem Lowers.directKey_eq (lowers : Lowers toLowerCase)
    (valid : trim sender.peerId ≠ "") (notMain : scope ≠ .main) :
    directKey toLowerCase agentId links scope sender =
      joinText ':' (["agent", normalizeAgentId toLowerCase agentId] ++
        sender.place toLowerCase scope ++ ["direct", sender.standIn toLowerCase links]) := by
  have filled : sender.standIn toLowerCase links ≠ "" := lowers.standIn_ne_empty valid
  have peer : trim (orElse (trim sender.peerId) "unknown") = trim sender.peerId := by
    rw [orElse, if_neg valid, trim_trim]
  have again : orElse (normalizeToken toLowerCase (some (channelName toLowerCase sender.channel)))
      "unknown" = channelName toLowerCase sender.channel :=
    lowers.channelName_again sender.channel
  have stands : normalizeToken toLowerCase (some ((resolveLinkedPeerId toLowerCase links
      (channelName toLowerCase sender.channel) (trim sender.peerId)).getD (trim sender.peerId))) =
        sender.standIn toLowerCase links := rfl
  unfold directKey buildAgentSessionKey buildAgentPeerSessionKey
  dsimp only [Option.map_some, Option.getD_some]
  rw [peer, if_neg notMain, ← channelName, again, stands, if_neg filled]
  cases scope with
  | main => exact absurd rfl notMain
  | perPeer => rfl
  | perChannelPeer => rfl
  | perAccountChannelPeer => rfl

theorem Lowers.roomKey_eq (lowers : Lowers toLowerCase) {room : Room} (isRoom : room.kind ≠ .direct) :
    roomKey toLowerCase agentId links scope room =
      joinText ':' ["agent", normalizeAgentId toLowerCase agentId,
        channelName toLowerCase room.channel, room.kind.name, room.name toLowerCase] := by
  have again : orElse (normalizeToken toLowerCase (some (channelName toLowerCase room.channel)))
      "unknown" = channelName toLowerCase room.channel :=
    lowers.channelName_again room.channel
  unfold roomKey buildAgentSessionKey buildAgentPeerSessionKey
  dsimp only [Option.map_some, Option.getD_some]
  rw [← channelName, again]
  cases isKind : room.kind with
  | direct => exact absurd isKind isRoom
  | group => rfl
  | channel => rfl

/-- Two direct keys are equal when the places are and the ids that stand for the senders. -/
theorem Lowers.directKey_inj (lowers : Lowers toLowerCase) {first second : DirectSender}
    (valid : first.Valid) (otherValid : second.Valid) (notMain : scope ≠ .main) :
    directKey toLowerCase agentId links scope first =
        directKey toLowerCase agentId links scope second ↔
      first.place toLowerCase scope = second.place toLowerCase scope ∧
        first.standIn toLowerCase links = second.standIn toLowerCase links := by
  have free : ∀ sender : DirectSender, sender.Valid → ∀ field ∈
      (["agent", normalizeAgentId toLowerCase agentId] ++ sender.place toLowerCase scope ++
        ["direct", sender.standIn toLowerCase links]).dropLast, Free ':' field := by
    intro sender valid field member
    rw [show ["direct", sender.standIn toLowerCase links] =
      ["direct"] ++ [sender.standIn toLowerCase links] from rfl, ← List.append_assoc,
      List.dropLast_concat] at member
    rcases List.mem_append.1 member with front | direct
    · rcases List.mem_append.1 front with agent | place
      · rcases List.mem_cons.1 agent with rfl | agent
        · decide
        · rw [List.mem_singleton.1 agent]
          exact lowers.free_normalizeAgentId _
      · exact lowers.free_place valid.1 field place
    · rw [List.mem_singleton.1 direct]
      decide
  have lengths : (first.place toLowerCase scope).length = (second.place toLowerCase scope).length :=
    length_place first second
  rw [lowers.directKey_eq valid.2 notMain, lowers.directKey_eq otherValid.2 notMain,
    joinText_inj (by simp [lengths]) (free first valid) (free second otherValid)]
  constructor
  · intro same
    obtain ⟨front, back⟩ := List.append_inj same (by simp [lengths])
    exact ⟨List.append_cancel_left front, (List.cons.inj (List.cons.inj back).2).1⟩
  · rintro ⟨place, stands⟩
    rw [place, stands]

/-! ### Isolation -/

/-- Two senders share a session only as they may if and only if they are not confused. -/
theorem Lowers.shared_iff (lowers : Lowers toLowerCase) {first second : DirectSender}
    (valid : first.Valid) (otherValid : second.Valid) (notMain : scope ≠ .main) :
    (directKey toLowerCase agentId links scope first =
        directKey toLowerCase agentId links scope second →
      Identified toLowerCase scope first second ∨
        ListedTogether toLowerCase links first second) ↔
    ¬Confused toLowerCase links scope first second := by
  have notTogether : ∀ {first second : DirectSender}, first.Valid → second.Valid →
      first.linked toLowerCase links = none ∨ second.linked toLowerCase links = none →
        ¬ListedTogether toLowerCase links first second := by
    rintro first second valid otherValid unlinked ⟨name, listed, otherListed⟩
    rcases unlinked with unlinked | unlinked
    · exact not_listedUnder_of_unlinked valid.2 unlinked name listed
    · exact not_listedUnder_of_unlinked otherValid.2 unlinked name otherListed
  have assumed : ∀ {first second : DirectSender}, first.Assumes toLowerCase links second →
      first.standIn toLowerCase links = second.standIn toLowerCase links := by
    rintro first second ⟨unlinked, -, name, is, same⟩
    rw [DirectSender.standIn_of_unlinked unlinked, DirectSender.standIn_of_linked is, same]
  rw [lowers.directKey_inj valid otherValid notMain]
  constructor
  · rintro claim ⟨place, assumes | assumes | ⟨isAccount, accounts, unlinked, stands⟩⟩
    · rcases claim ⟨place, assumed assumes⟩ with ⟨own, -⟩ | together
      · exact assumes.2.1 own
      · exact notTogether valid otherValid (.inl assumes.1) together
    · rcases claim ⟨place, (assumed assumes).symm⟩ with ⟨own, -⟩ | together
      · exact assumes.2.1 own.symm
      · exact notTogether valid otherValid (.inr assumes.1) together
    · rcases claim ⟨place, stands⟩ with ⟨-, identified⟩ | together
      · subst isAccount
        exact accounts identified.2
      · exact notTogether valid otherValid unlinked together
  · rintro distinct ⟨place, stands⟩
    -- with one own id the scope identifies the two, unless their accounts are flattened
    have sameOwn : first.ownId toLowerCase = second.ownId toLowerCase →
        (first.linked toLowerCase links = none ∨ second.linked toLowerCase links = none) →
          Identified toLowerCase scope first second := by
      intro own unlinked
      refine ⟨own, ?_⟩
      cases scope with
      | main => trivial
      | perPeer => trivial
      | perChannelPeer => exact (List.cons.inj place).1
      | perAccountChannelPeer =>
        refine ⟨(List.cons.inj place).1, ?_⟩
        by_contra accounts
        exact distinct ⟨place, .inr (.inr ⟨rfl, accounts, unlinked, stands⟩)⟩
    cases isFirst : first.linked toLowerCase links with
    | none =>
      cases isSecond : second.linked toLowerCase links with
      | none =>
        rw [DirectSender.standIn_of_unlinked isFirst, DirectSender.standIn_of_unlinked isSecond]
          at stands
        exact .inl (sameOwn stands (.inl isFirst))
      | some name =>
        by_cases own : first.ownId toLowerCase = second.ownId toLowerCase
        · exact .inl (sameOwn own (.inl isFirst))
        · rw [DirectSender.standIn_of_unlinked isFirst, DirectSender.standIn_of_linked isSecond]
            at stands
          exact absurd ⟨place, .inl ⟨isFirst, own, name, isSecond, stands.symm⟩⟩ distinct
    | some name =>
      cases isSecond : second.linked toLowerCase links with
      | none =>
        by_cases own : first.ownId toLowerCase = second.ownId toLowerCase
        · exact .inl (sameOwn own (.inr isSecond))
        · rw [DirectSender.standIn_of_linked isFirst, DirectSender.standIn_of_unlinked isSecond]
            at stands
          exact absurd ⟨place, .inr (.inl ⟨isSecond, Ne.symm own, name, isFirst, stands⟩)⟩ distinct
      | some other =>
        rw [DirectSender.standIn_of_linked isFirst, DirectSender.standIn_of_linked isSecond] at stands
        exact .inr ⟨_, listedUnder_of_linked isFirst, stands ▸ listedUnder_of_linked isSecond⟩

/-- The key of a room is another one than that of a direct session if and only if it is not
mistaken for it. -/
theorem Lowers.room_iff (lowers : Lowers toLowerCase) {room : Room}
    (valid : sender.Valid) (roomValid : room.Valid) (notMain : scope ≠ .main) :
    directKey toLowerCase agentId links scope sender ≠ roomKey toLowerCase agentId links scope room ↔
      ¬Mistaken toLowerCase links scope sender room := by
  have agentFree := lowers.free_normalizeAgentId agentId
  have roomFree := lowers.free_channelName roomValid.2
  have senderFree := lowers.free_channelName valid.1
  have kindFree : Free ':' room.kind.name := by
    cases room.kind <;> decide
  rw [lowers.directKey_eq valid.2 notMain, lowers.roomKey_eq roomValid.1, not_iff_not]
  cases scope with
  | main => exact absurd rfl notMain
  | perPeer =>
    show joinText ':' ["agent", _, "direct", _] = joinText ':' ["agent", _, _, _, _] ↔ _ ∧ _
    rw [joinText_cons_inj (by simp) (by simp) (by decide) (by decide),
      joinText_cons_inj (by simp) (by simp) agentFree agentFree,
      joinText_cons_inj (by simp) (by simp) (by decide) roomFree, joinText_singleton]
    simp only [true_and]
    exact and_congr_left fun _ => eq_comm
  | perChannelPeer =>
    show joinText ':' ["agent", _, _, "direct", _] = joinText ':' ["agent", _, _, _, _] ↔ False
    rw [joinText_cons_inj (by simp) (by simp) (by decide) (by decide),
      joinText_cons_inj (by simp) (by simp) agentFree agentFree,
      joinText_cons_inj (by simp) (by simp) senderFree roomFree,
      joinText_cons_inj (by simp) (by simp) (by decide) kindFree, iff_false]
    rintro ⟨-, -, -, kind, -⟩
    have isRoom := roomValid.1
    cases isKind : room.kind with
    | direct => exact isRoom isKind
    | group =>
      rw [isKind] at kind
      exact absurd kind (by decide)
    | channel =>
      rw [isKind] at kind
      exact absurd kind (by decide)
  | perAccountChannelPeer =>
    show joinText ':' ["agent", _, _, _, "direct", _] = joinText ':' ["agent", _, _, _, _] ↔
      _ ∧ _ ∧ _
    rw [joinText_cons_inj (by simp) (by simp) (by decide) (by decide),
      joinText_cons_inj (by simp) (by simp) agentFree agentFree,
      joinText_cons_inj (by simp) (by simp) senderFree roomFree,
      joinText_cons_inj (by simp) (by simp) (lowers.free_normalizeAccountId _) kindFree,
      joinText_singleton]
    simp only [true_and]
    exact and_congr_right fun _ => and_congr_right fun _ => eq_comm

/-- No direct key is the main key of the agent. -/
theorem Lowers.directKey_ne_main (lowers : Lowers toLowerCase)
    (valid : sender.Valid) (notMain : scope ≠ .main) :
    directKey toLowerCase agentId links scope sender ≠
      buildAgentMainSessionKey toLowerCase agentId (some defaultMainKey) := by
  have agentFree := lowers.free_normalizeAgentId agentId
  have mainKey : normalizeMainKey toLowerCase (some defaultMainKey) = "main" := by
    rw [normalizeMainKey, defaultMainKey,
      lowers.normalizeToken_word (by decide) (by decide) (by decide) (by decide)]
    rfl
  rw [lowers.directKey_eq valid.2 notMain, buildAgentMainSessionKey, mainKey]
  intro same
  have place_ne : sender.place toLowerCase scope ++
      ["direct", sender.standIn toLowerCase links] ≠ [] := by simp
  rw [List.append_assoc, List.cons_append, List.cons_append, List.nil_append,
    joinText_cons_inj (by simp) (by simp) (by decide) (by decide),
    joinText_cons_inj place_ne (by simp) agentFree agentFree, joinText_singleton] at same
  cases scope with
  | main => exact notMain rfl
  | perPeer => exact joinText_singleton_ne (by simp) (by decide) same.2.2.symm
  | perChannelPeer => exact joinText_singleton_ne (by simp) (by decide) same.2.2.symm
  | perAccountChannelPeer => exact joinText_singleton_ne (by simp) (by decide) same.2.2.symm

/-- Exactly when direct sessions are isolated from each other and from the sessions of rooms, and
that they always are from the main session. -/
theorem direct_sessions_are_isolated_iff (lowers : Lowers toLowerCase)
    {first second : DirectSender} {room : Room} (valid : first.Valid) (otherValid : second.Valid)
    (roomValid : room.Valid) (notMain : scope ≠ .main) :
    ((directKey toLowerCase agentId links scope first =
        directKey toLowerCase agentId links scope second →
      Identified toLowerCase scope first second ∨
        ListedTogether toLowerCase links first second) ↔
      ¬Confused toLowerCase links scope first second) ∧
    (directKey toLowerCase agentId links scope first ≠
        roomKey toLowerCase agentId links scope room ↔
      ¬Mistaken toLowerCase links scope first room) ∧
    directKey toLowerCase agentId links scope first ≠
      buildAgentMainSessionKey toLowerCase agentId (some defaultMainKey) :=
  ⟨lowers.shared_iff valid otherValid notMain, lowers.room_iff valid roomValid notMain,
    lowers.directKey_ne_main valid notMain⟩

end Sessions

/-- One person on two channels. -/
def aliceLinks : IdentityLinks := [("alice", ["telegram:1", "discord:2"])]

theorem direct_sessions_are_isolated_alice :
    ((directKey asciiLower "main" (some aliceLinks) .perPeer ⟨"telegram", none, "1"⟩ =
        directKey asciiLower "main" (some aliceLinks) .perPeer ⟨"discord", none, "2"⟩ →
      Identified asciiLower .perPeer ⟨"telegram", none, "1"⟩ ⟨"discord", none, "2"⟩ ∨
        ListedTogether asciiLower (some aliceLinks) ⟨"telegram", none, "1"⟩
          ⟨"discord", none, "2"⟩) ↔
      ¬Confused asciiLower (some aliceLinks) .perPeer ⟨"telegram", none, "1"⟩
        ⟨"discord", none, "2"⟩) ∧
    (directKey asciiLower "main" (some aliceLinks) .perPeer ⟨"telegram", none, "1"⟩ ≠
        roomKey asciiLower "main" (some aliceLinks) .perPeer ⟨.group, "telegram", none, "9"⟩ ↔
      ¬Mistaken asciiLower (some aliceLinks) .perPeer ⟨"telegram", none, "1"⟩
        ⟨.group, "telegram", none, "9"⟩) ∧
    directKey asciiLower "main" (some aliceLinks) .perPeer ⟨"telegram", none, "1"⟩ ≠
      buildAgentMainSessionKey asciiLower "main" (some defaultMainKey) :=
  direct_sessions_are_isolated_iff lowers_asciiLower (by decide) (by decide)
    ⟨by decide, by decide⟩ (by decide)

/-- Somebody whose own id is the name `alice` is in the session of the one that is linked. -/
theorem direct_sessions_are_not_isolated :
    ¬∀ (links : Option IdentityLinks) (scope : DmScope) (first second : DirectSender),
      scope ≠ .main → first.Valid → second.Valid →
        directKey asciiLower "main" links scope first =
            directKey asciiLower "main" links scope second →
          Identified asciiLower scope first second ∨ ListedTogether asciiLower links first second := by
  intro claim
  have isolated := claim (some aliceLinks) .perPeer ⟨"discord", none, "alice"⟩
    ⟨"telegram", none, "1"⟩ (by decide) (by decide) (by decide)
  refine (lowers_asciiLower.shared_iff (by decide) (by decide) (by decide)).1 isolated
    ⟨rfl, .inl ⟨by decide +kernel, by decide +kernel, "alice", by decide +kernel,
      by decide +kernel⟩⟩

end OpenClaw.Routing
