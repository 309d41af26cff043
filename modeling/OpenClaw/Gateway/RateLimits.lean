/-
This file compares the rate limiter with a model that knows of a pair of scope and client only
its failed attempts and resets: it counts those of the window, locks the pair out when there are
too many, and starts over when the lockout has ended.

The limiter clears an ended lockout when the pair is checked. A failure that is recorded before
such a check meets the old one: what it counted is still there as far as the window reaches, and
the end of the old lockout stays in the entry, so that the next check clears the new attempts.
Apart from that, and from pairs that share a key, the limiter does what the model does.
-/

import OpenClaw.Gateway.AuthRateLimit

namespace OpenClaw.RateLimit

open Machine

/-! ### The model -/

/-- How a pair stands: with some failed attempts, or locked out. -/
inductive Standing
  | counting (attempts : List ℕ)
  | lockedOut (lockedUntil : ℕ)

section Model

variable (config : RateLimitConfig)

/-- The same as of a later time. -/
def Standing.as (now : ℕ) : Standing → Standing
  | .counting attempts => .counting (inWindow config now attempts)
  | .lockedOut lockedUntil => if now < lockedUntil then .lockedOut lockedUntil else .counting []

/-- A failed attempt. -/
def Standing.fail (now : ℕ) (standing : Standing) : Standing :=
  match standing.as config now with
  | .lockedOut lockedUntil => .lockedOut lockedUntil
  | .counting attempts =>
    if config.maxAttempts ≤ attempts.length + 1 then .lockedOut (now + config.lockoutMs)
    else .counting (attempts ++ [now])

/-- What a check is to be answered. -/
def Standing.answer (now : ℕ) (standing : Standing) : RateLimitCheckResult :=
  match standing.as config now with
  | .lockedOut lockedUntil => ⟨false, 0, lockedUntil - now⟩
  | .counting attempts =>
    ⟨decide (0 < config.maxAttempts - attempts.length), config.maxAttempts - attempts.length, 0⟩

inductive Event
  | failure
  | reset
  deriving DecidableEq

/-- What a call is to a pair. -/
def eventOf (net : AddressFunctions) (pair : Pair) : ℕ × Call → Option (ℕ × Event)
  | (now, .recordFailure caller) =>
    if resolvePair net caller = pair then some (now, .failure) else none
  | (now, .reset caller) => if resolvePair net caller = pair then some (now, .reset) else none
  | _ => none

/-- The failures and resets of a pair. -/
def historyOf (net : AddressFunctions) (pair : Pair) (calls : List (ℕ × Call)) :
    List (ℕ × Event) := calls.filterMap (eventOf net pair)

def Standing.after (standing : Standing) : ℕ × Event → Standing
  | (now, .failure) => standing.fail config now
  | (_, .reset) => .counting []

/-- How a pair stands after its history. -/
def standing (history : List (ℕ × Event)) : Standing :=
  history.foldl (Standing.after config) (.counting [])

variable {config} {now lockedUntil : ℕ}

theorem inWindow_inWindow {now later : ℕ} (onward : now ≤ later) (attempts : List ℕ) :
    inWindow config later (inWindow config now attempts) = inWindow config later attempts := by
  unfold inWindow
  rw [List.filter_filter]
  refine List.filter_congr fun attempt _ => ?_
  rw [← Bool.decide_and, decide_eq_decide]
  constructor
  · exact And.left
  · intro inside
    exact ⟨inside, by omega⟩

theorem Standing.answer_congr {now : ℕ} {first second : Standing}
    (same : first.as config now = second.as config now) :
    first.answer config now = second.answer config now := by
  unfold Standing.answer
  rw [same]

theorem Standing.fail_congr {now : ℕ} {first second : Standing}
    (same : first.as config now = second.as config now) :
    first.fail config now = second.fail config now := by
  unfold Standing.fail
  rw [same]

theorem Standing.as_counting (now : ℕ) (attempts : List ℕ) :
    (Standing.counting attempts).as config now = .counting (inWindow config now attempts) := rfl

theorem Standing.as_of_lt (locked : now < lockedUntil) :
    (Standing.lockedOut lockedUntil).as config now = .lockedOut lockedUntil := if_pos locked

theorem Standing.as_of_le (ended : lockedUntil ≤ now) :
    (Standing.lockedOut lockedUntil).as config now = .counting [] := if_neg (not_lt.2 ended)

theorem Standing.answer_counting (now : ℕ) (attempts : List ℕ) :
    (Standing.counting attempts).answer config now =
      ⟨decide (0 < config.maxAttempts - (inWindow config now attempts).length),
        config.maxAttempts - (inWindow config now attempts).length, 0⟩ := rfl

theorem Standing.answer_of_lt (locked : now < lockedUntil) :
    (Standing.lockedOut lockedUntil).answer config now = ⟨false, 0, lockedUntil - now⟩ := by
  unfold Standing.answer
  rw [Standing.as_of_lt locked]

theorem Standing.answer_of_le (ended : lockedUntil ≤ now) :
    (Standing.lockedOut lockedUntil).answer config now =
      (Standing.counting []).answer config now := by
  refine Standing.answer_congr ?_
  rw [Standing.as_of_le ended]
  rfl

end Model

/-! ### An entry as a standing -/

def toStanding : Option RateLimitEntry → Standing
  | none => .counting []
  | some ⟨_, some lockedUntil⟩ => .lockedOut lockedUntil
  | some ⟨attempts, none⟩ => .counting attempts

section Entries

variable {config : RateLimitConfig} {now : ℕ}

theorem locked_iff {attempts : List ℕ} {lockedUntil : ℕ} :
    (RateLimitEntry.mk attempts (some lockedUntil)).Locked now ↔ now < lockedUntil := by
  simp [RateLimitEntry.Locked]

theorem not_locked {attempts : List ℕ} : ¬(RateLimitEntry.mk attempts none).Locked now := by
  simp [RateLimitEntry.Locked]

/-- A check answers as the model does, and what it leaves stands as before. -/
theorem checkEntry_spec (found : Option RateLimitEntry) :
    (checkEntry config now found).1 = (toStanding found).answer config now ∧
      ∀ later, now ≤ later → (toStanding (checkEntry config now found).2).as config later =
        (toStanding found).as config later := by
  match found with
  | none =>
    refine ⟨?_, fun _ _ => rfl⟩
    have positive := config.attempts_pos
    unfold checkEntry toStanding
    rw [Standing.answer_counting]
    simp [inWindow, positive]
  | some ⟨attempts, none⟩ =>
    unfold checkEntry
    dsimp only
    rw [if_neg not_locked]
    refine ⟨rfl, fun later onward => ?_⟩
    exact congrArg Standing.counting (inWindow_inWindow onward attempts)
  | some ⟨attempts, some lockedUntil⟩ =>
    unfold checkEntry
    dsimp only
    by_cases locked : now < lockedUntil
    · rw [if_pos (locked_iff.2 locked)]
      exact ⟨(Standing.answer_of_lt locked).symm, fun _ _ => rfl⟩
    · rw [if_neg (mt locked_iff.1 locked)]
      refine ⟨(Standing.answer_of_le (not_lt.1 locked)).symm, fun later onward => ?_⟩
      exact (Standing.as_of_le ((not_lt.1 locked).trans onward)).symm

theorem pruneEntry_spec (found : Option RateLimitEntry) {later : ℕ} (onward : now ≤ later) :
    (toStanding (pruneEntry config now found)).as config later =
      (toStanding found).as config later := by
  match found with
  | none => rfl
  | some ⟨attempts, none⟩ =>
    unfold pruneEntry
    dsimp only
    rw [if_neg not_locked]
    split
    next empty =>
      have none : inWindow config now attempts = [] := List.isEmpty_iff.1 empty
      refine congrArg Standing.counting ?_
      rw [← inWindow_inWindow onward attempts, none]
    · exact congrArg Standing.counting (inWindow_inWindow onward attempts)
  | some ⟨attempts, some lockedUntil⟩ =>
    unfold pruneEntry
    dsimp only
    by_cases locked : now < lockedUntil
    · rw [if_pos (locked_iff.2 locked)]
    · rw [if_neg (mt locked_iff.1 locked)]
      have ended : (Standing.lockedOut lockedUntil).as config later = .counting [] :=
        Standing.as_of_le ((not_lt.1 locked).trans onward)
      split
      · exact ended.symm
      · rfl

/-- An ended lockout that no check has cleared. -/
def EndedLockout (now : ℕ) (found : Option RateLimitEntry) : Prop :=
  ∃ entry ∈ found, ∃ lockedUntil ∈ entry.lockedUntil, lockedUntil ≤ now

instance (found : Option RateLimitEntry) : Decidable (EndedLockout now found) :=
  inferInstanceAs (Decidable (∃ entry ∈ found, ∃ lockedUntil ∈ entry.lockedUntil,
    lockedUntil ≤ now))

/-- A failure that meets no ended lockout is recorded as the model does it, and any is when one
attempt is enough. -/
theorem recordEntry_spec {found : Option RateLimitEntry}
    (cleared : ¬EndedLockout now found ∨ config.maxAttempts = 1) :
    toStanding (some (recordEntry config now found)) = (toStanding found).fail config now := by
  have counted : ∀ attempts : List ℕ,
      toStanding (some (recordEntry config now (some ⟨attempts, none⟩))) =
        (Standing.counting attempts).fail config now := by
    intro attempts
    unfold recordEntry Standing.fail Standing.as
    dsimp only [Option.getD]
    rw [if_neg not_locked, List.length_append, List.length_singleton]
    split
    · rfl
    · rfl
  match found with
  | none => exact counted []
  | some ⟨attempts, none⟩ => exact counted attempts
  | some ⟨attempts, some lockedUntil⟩ =>
    by_cases locked : now < lockedUntil
    · unfold recordEntry Standing.fail Standing.as toStanding
      dsimp only [Option.getD]
      rw [if_pos (locked_iff.2 locked), if_pos locked]
    · have ended : EndedLockout now (some ⟨attempts, some lockedUntil⟩) :=
        ⟨_, rfl, lockedUntil, rfl, not_lt.1 locked⟩
      have one : config.maxAttempts = 1 := cleared.resolve_left fun none => none ended
      unfold recordEntry Standing.fail Standing.as toStanding
      dsimp only [Option.getD]
      rw [if_neg (mt locked_iff.1 locked), if_neg locked, List.length_append,
        List.length_singleton, one, if_pos (by omega)]
      rfl

end Entries

/-! ### The limiter over time -/

/-- Pairs whose keys tell them apart. -/
structure Pairs where
  members : Set Pair
  distinct : Set.InjOn Pair.key members

section Runs

variable (config : RateLimitConfig) (net : AddressFunctions) (pairs : Pairs)

/-- A call for one of the pairs. A failure is recorded only when the pair has been checked since
its last lockout ended, or reset, or pruned away. -/
def Sound (limiter : Limiter) (action : ℕ × Call) : Prop :=
  match action.2 with
  | .check caller => resolvePair net caller ∈ pairs.members
  | .recordFailure caller => resolvePair net caller ∈ pairs.members ∧
    (¬EndedLockout action.1 (limiter.entries (resolvePair net caller).key) ∨
      config.maxAttempts = 1)
  | .reset caller => resolvePair net caller ∈ pairs.members
  | .prune => True

/-- How a pair stands by its history. -/
def standingOf (pair : Pair) (limiter : Limiter) : Standing :=
  standing config (historyOf net pair limiter.calls)

/-- The entries stand as the histories say, of now and of any later time. -/
def Simulates (limiter : Limiter) : Prop :=
  ∀ pair ∈ pairs.members, isExempt config net pair.ip = false → ∀ later, limiter.now ≤ later →
    (toStanding (limiter.entries pair.key)).as config later =
      (standingOf config net pair limiter).as config later

variable {config net pairs} {action : ℕ × Call} {limiter next : Limiter} {pair : Pair}
variable {failures : List ℕ}

theorem step_cases (taken : step config net limiter action = some next) :
    limiter.now ≤ action.1 ∧ next = {
      entries := entriesAfter config net limiter.entries action.1 action.2
      now := action.1
      calls := limiter.calls ++ [action] } := by
  unfold step at taken
  split at taken
  · exact absurd taken nofun
  next onward => exact ⟨not_lt.1 onward, (Option.some.inj taken).symm⟩

theorem historyOf_append (pair : Pair) (first second : List (ℕ × Call)) :
    historyOf net pair (first ++ second) = historyOf net pair first ++ historyOf net pair second :=
  List.filterMap_append

/-- A call moves the standing of a pair on by what it is to the pair. -/
theorem standingOf_step (pair : Pair) (taken : step config net limiter action = some next) :
    standingOf config net pair next = match eventOf net pair action with
      | none => standingOf config net pair limiter
      | some event => (standingOf config net pair limiter).after config event := by
  obtain ⟨-, rfl⟩ := step_cases taken
  unfold standingOf
  dsimp only
  rw [historyOf_append, historyOf, historyOf, List.filterMap_cons, List.filterMap_nil]
  cases eventOf net pair action with
  | none => simp
  | some event => exact List.foldl_append

/-- What a call does to the entry of a pair that is not exempt. -/
theorem entriesAfter_spec {limiter : Limiter} {now later : ℕ} {call : Call}
    (member : pair ∈ pairs.members) (counted : isExempt config net pair.ip = false)
    (sound : Sound config net pairs limiter (now, call)) (onward : now ≤ later) :
    (toStanding (entriesAfter config net limiter.entries now call pair.key)).as config later =
      (match eventOf net pair (now, call) with
        | none => toStanding (limiter.entries pair.key)
        | some event => (toStanding (limiter.entries pair.key)).after config event).as
          config later := by
  have same_iff : ∀ {caller : Caller}, resolvePair net caller ∈ pairs.members →
      ((resolvePair net caller).key = pair.key ↔ resolvePair net caller = pair) := fun among =>
    ⟨fun same => pairs.distinct among member same, congrArg Pair.key⟩
  cases call with
  | prune => exact pruneEntry_spec _ onward
  | check caller =>
    unfold entriesAfter eventOf
    dsimp only
    split
    · rfl
    · by_cases here : pair.key = (resolvePair net caller).key
      · rw [here, Function.update_self]
        exact (checkEntry_spec _).2 later onward
      · rw [Function.update_of_ne here]
  | recordFailure caller =>
    obtain ⟨among, cleared⟩ := sound
    unfold entriesAfter eventOf
    dsimp only
    by_cases here : resolvePair net caller = pair
    · subst here
      rw [if_neg (by simpa using counted), if_pos rfl, Function.update_self,
        recordEntry_spec cleared]
      rfl
    · rw [if_neg here]
      split
      · rfl
      · rw [Function.update_of_ne fun same => here ((same_iff among).1 same.symm)]
  | reset caller =>
    unfold entriesAfter eventOf
    dsimp only
    by_cases here : resolvePair net caller = pair
    · subst here
      rw [if_pos rfl, Function.update_self]
      rfl
    · rw [if_neg here, Function.update_of_ne fun same => here ((same_iff sound).1 same.symm)]

theorem after_congr {now later : ℕ} {first second : Standing} {event : Event}
    (same : ∀ later, now ≤ later → first.as config later = second.as config later) :
    (first.after config (now, event)).as config later =
      (second.after config (now, event)).as config later := by
  cases event with
  | failure => exact congrArg (Standing.as config later) (Standing.fail_congr (same now le_rfl))
  | reset => rfl

theorem eventOf_fst {event : ℕ × Event}
    (isEvent : eventOf net pair action = some event) : event.1 = action.1 := by
  obtain ⟨now, call⟩ := action
  cases call with
  | check caller => exact absurd isEvent nofun
  | prune => exact absurd isEvent nofun
  | recordFailure caller =>
    unfold eventOf at isEvent
    obtain ⟨-, same⟩ := Option.ite_none_right_eq_some.1 isEvent
    exact (congrArg Prod.fst (Option.some.inj same)).symm
  | reset caller =>
    unfold eventOf at isEvent
    obtain ⟨-, same⟩ := Option.ite_none_right_eq_some.1 isEvent
    exact (congrArg Prod.fst (Option.some.inj same)).symm

theorem Simulates.step
    (simulates : Simulates config net pairs limiter) (sound : Sound config net pairs limiter action)
    (taken : RateLimit.step config net limiter action = some next) :
    Simulates config net pairs next := by
  intro pair member counted later onward
  rw [standingOf_step pair taken]
  obtain ⟨forward, rfl⟩ := step_cases taken
  dsimp only at onward ⊢
  rw [entriesAfter_spec member counted sound onward]
  have same : ∀ later, action.1 ≤ later → (toStanding (limiter.entries pair.key)).as config later =
      (standingOf config net pair limiter).as config later := fun later after =>
    simulates pair member counted later (forward.trans after)
  cases isEvent : eventOf net pair action with
  | none => exact same later onward
  | some event =>
    obtain ⟨now, event⟩ := event
    obtain rfl : now = action.1 := eventOf_fst isEvent
    exact after_congr same

theorem simulates_empty : Simulates config net pairs {} := fun _ _ _ _ _ => rfl

/-- A check is answered by the history of its pair. -/
theorem check_eq {limiter : Limiter} (simulates : Simulates config net pairs limiter)
    {caller : Caller} (member : resolvePair net caller ∈ pairs.members) {now : ℕ}
    (onward : limiter.now ≤ now) :
    check config net limiter now caller =
      if isExempt config net (resolvePair net caller).ip then ⟨true, config.maxAttempts, 0⟩
      else (standingOf config net (resolvePair net caller) limiter).answer config now := by
  unfold check
  dsimp only
  split
  · rfl
  next counted =>
    rw [(checkEntry_spec _).1]
    exact Standing.answer_congr (simulates _ member (by simpa using counted) now onward)

/-! ### Locking out, and letting in again -/

/-- What a pair has counted is less than what locks it out. -/
def Standing.Short (config : RateLimitConfig) : Standing → Prop
  | .counting attempts => attempts.length < config.maxAttempts
  | .lockedOut _ => True

theorem short_standingOf (pair : Pair) (limiter : Limiter) :
    (standingOf config net pair limiter).Short config := by
  have kept : ∀ (history : List (ℕ × Event)) (standing : Standing), standing.Short config →
      (history.foldl (Standing.after config) standing).Short config := by
    intro history
    induction history with
    | nil => exact fun _ short => short
    | cons event rest inductionHypothesis =>
      intro standing short
      refine inductionHypothesis _ ?_
      obtain ⟨now, failure | reset⟩ := event
      · unfold Standing.after Standing.fail
        dsimp only
        split
        · trivial
        next attempts _ =>
          split
          · trivial
          next few =>
            have grown : (attempts ++ [now]).length < config.maxAttempts := by
              rw [List.length_append, List.length_singleton]
              omega
            exact grown
      · exact config.attempts_pos
  exact kept _ _ config.attempts_pos

/-- The times at which attempts of the pair failed. -/
def failuresOf (net : AddressFunctions) (pair : Pair) (calls : List (ℕ × Call)) : List ℕ :=
  (historyOf net pair calls).filterMap fun event =>
    if event.2 = .failure then some event.1 else none

theorem failuresOf_cons (pair : Pair) (action : ℕ × Call) (rest : List (ℕ × Call)) :
    failuresOf net pair (action :: rest) =
      (match eventOf net pair action with
        | some (now, .failure) => [now]
        | _ => []) ++ failuresOf net pair rest := by
  unfold failuresOf historyOf
  rw [List.filterMap_cons]
  cases eventOf net pair action with
  | none => rfl
  | some event => obtain ⟨now, failure | reset⟩ := event <;> rfl

/-- The call does not reset the pair. -/
def NoReset (net : AddressFunctions) (pair : Pair) (action : ℕ × Call) : Prop :=
  ∀ now, eventOf net pair action ≠ some (now, .reset)

/-- A step that does not reset the pair moves its standing on by a failure, or not at all. -/
theorem standingOf_step_of_noReset
    (noReset : NoReset net pair action) (taken : step config net limiter action = some next) :
    eventOf net pair action = none ∧
        standingOf config net pair next = standingOf config net pair limiter ∨
      eventOf net pair action = some (action.1, .failure) ∧ standingOf config net pair next =
        (standingOf config net pair limiter).fail config action.1 := by
  have moved := standingOf_step pair taken
  cases isEvent : eventOf net pair action with
  | none =>
    rw [isEvent] at moved
    exact Or.inl ⟨rfl, moved⟩
  | some event =>
    obtain ⟨now, failure | reset⟩ := event
    · obtain rfl : now = action.1 := eventOf_fst isEvent
      rw [isEvent] at moved
      exact Or.inr ⟨rfl, moved⟩
    · exact absurd isEvent (noReset now)

/-- After the call, at the same time, the pair is not locked out; and it has not been reset. -/
def StaysIn (config : RateLimitConfig) (net : AddressFunctions) (caller : Caller)
    (limiter : Limiter) (action : ℕ × Call) : Prop :=
  NoReset net (resolvePair net caller) action ∧
    ∀ next, step config net limiter action = some next →
      (check config net next action.1 caller).allowed = true

/-- The counted attempts of a pair include its failures, as far as the window reaches. -/
def Counts (config : RateLimitConfig) (net : AddressFunctions) (pair : Pair) (failures : List ℕ)
    (limiter : Limiter) : Prop :=
  failures = [] ∨ ∃ attempts, standingOf config net pair limiter = .counting attempts ∧
    ∀ later, limiter.now ≤ later →
      (inWindow config later failures).length ≤ (inWindow config later attempts).length

theorem lt_of_as_eq {now lockedUntil : ℕ} {standing : Standing}
    (stands : standing.as config now = .lockedOut lockedUntil) : now < lockedUntil := by
  cases standing with
  | counting attempts => exact absurd stands nofun
  | lockedOut other =>
    by_cases locked : now < other
    · rw [Standing.as_of_lt locked] at stands
      exact Standing.lockedOut.inj stands ▸ locked
    · rw [Standing.as_of_le (not_lt.1 locked)] at stands
      exact absurd stands nofun

/-- A failure that does not lock the pair out is counted. -/
theorem fail_of_allowed {now : ℕ} {standing : Standing}
    (allowed : ((standing.fail config now).answer config now).allowed = true) :
    ∃ attempts, standing.as config now = .counting attempts ∧
      standing.fail config now = .counting (attempts ++ [now]) := by
  have later := config.lockout_pos
  unfold Standing.fail at allowed ⊢
  cases stands : standing.as config now with
  | lockedOut lockedUntil =>
    rw [stands] at allowed
    dsimp only at allowed
    rw [Standing.answer_of_lt (lt_of_as_eq stands)] at allowed
    exact absurd allowed Bool.false_ne_true
  | counting attempts =>
    rw [stands] at allowed
    dsimp only at allowed ⊢
    split at allowed
    · rw [Standing.answer_of_lt (by omega)] at allowed
      exact absurd allowed Bool.false_ne_true
    next few => exact ⟨attempts, rfl, if_neg few⟩

theorem inWindow_append (now : ℕ) (first second : List ℕ) :
    inWindow config now (first ++ second) =
      inWindow config now first ++ inWindow config now second :=
  List.filter_append ..

theorem counts_step {caller : Caller}
    (simulates : Simulates config net pairs next) (member : resolvePair net caller ∈ pairs.members)
    (counted : isExempt config net (resolvePair net caller).ip = false)
    (counts : Counts config net (resolvePair net caller) failures limiter)
    (stays : StaysIn config net caller limiter action)
    (taken : step config net limiter action = some next) :
    Counts config net (resolvePair net caller) (failures ++
      match eventOf net (resolvePair net caller) action with
        | some (now, .failure) => [now]
        | _ => []) next := by
  have forward : limiter.now ≤ action.1 ∧ next.now = action.1 := by
    obtain ⟨forward, rfl⟩ := step_cases taken
    exact ⟨forward, rfl⟩
  rcases standingOf_step_of_noReset stays.1 taken with ⟨isEvent, same⟩ | ⟨isEvent, moved⟩
  · rw [isEvent, List.append_nil]
    refine counts.imp_right ?_
    rintro ⟨attempts, stands, enough⟩
    exact ⟨attempts, same.trans stands, fun later onward => enough later (by omega)⟩
  · rw [isEvent]
    have allowed := stays.2 next taken
    rw [check_eq simulates member forward.2.le, if_neg (by simpa using counted), moved] at allowed
    obtain ⟨attempts, seen, grown⟩ := fail_of_allowed allowed
    refine Or.inr ⟨attempts ++ [action.1], moved.trans grown, fun later onward => ?_⟩
    rw [inWindow_append, inWindow_append, List.length_append, List.length_append]
    refine Nat.add_le_add_right ?_ _
    rcases counts with rfl | ⟨before, stands, enough⟩
    · exact Nat.zero_le _
    · rw [stands, Standing.as_counting] at seen
      rw [← Standing.counting.inj seen, inWindow_inWindow (by omega)]
      exact enough later (by omega)

theorem counts_run {start final : Limiter} {actions : List (ℕ × Call)} {caller : Caller}
    (run : Steps (step config net) (fun limiter action => Sound config net pairs limiter action ∧
      StaysIn config net caller limiter action) start actions final)
    (member : resolvePair net caller ∈ pairs.members)
    (counted : isExempt config net (resolvePair net caller).ip = false)
    (simulates : Simulates config net pairs start)
    (counts : Counts config net (resolvePair net caller) failures start) :
    Simulates config net pairs final ∧ Counts config net (resolvePair net caller)
      (failures ++ failuresOf net (resolvePair net caller) actions) final := by
  induction run generalizing failures with
  | nil limiter => exact ⟨simulates, by simpa [failuresOf, historyOf] using counts⟩
  | @cons limiter middle final action rest admitted taken tail inductionHypothesis =>
    have still := simulates.step admitted.1 taken
    have next := counts_step still member counted counts admitted.2 taken
    rw [failuresOf_cons, ← List.append_assoc]
    exact inductionHypothesis still next

/-- A locked out pair stays so until the lockout ends. -/
theorem lockedOut_step {lockedUntil : ℕ} (locked : limiter.now < lockedUntil →
      standingOf config net pair limiter = .lockedOut lockedUntil)
    (noReset : NoReset net pair action) (taken : step config net limiter action = some next) :
    next.now < lockedUntil → standingOf config net pair next = .lockedOut lockedUntil := by
  intro early
  have forward : limiter.now ≤ action.1 ∧ next.now = action.1 := by
    obtain ⟨forward, rfl⟩ := step_cases taken
    exact ⟨forward, rfl⟩
  have stands := locked (by omega)
  rcases standingOf_step_of_noReset noReset taken with ⟨-, same⟩ | ⟨-, moved⟩
  · exact same.trans stands
  · rw [moved, stands, Standing.fail, Standing.as_of_lt (by omega)]

/-- A lockout that lasts, or as many counted attempts at most as have failed since it ended. -/
def Reopens (config : RateLimitConfig) (net : AddressFunctions) (pair : Pair) (lockedUntil : ℕ)
    (failures : List ℕ) (limiter : Limiter) : Prop :=
  standingOf config net pair limiter = .lockedOut lockedUntil ∨
    lockedUntil ≤ limiter.now ∧ ∃ attempts,
      standingOf config net pair limiter = .counting attempts ∧
        attempts.length ≤ (failures.filter (lockedUntil ≤ ·)).length

theorem reopens_step {lockedUntil : ℕ}
    (reopens : Reopens config net pair lockedUntil failures limiter)
    (noReset : NoReset net pair action) (taken : step config net limiter action = some next)
    (few : ((failures ++ match eventOf net pair action with
        | some (now, .failure) => [now]
        | _ => []).filter (lockedUntil ≤ ·)).length < config.maxAttempts) :
    Reopens config net pair lockedUntil (failures ++ match eventOf net pair action with
        | some (now, .failure) => [now]
        | _ => []) next := by
  have forward : limiter.now ≤ action.1 ∧ next.now = action.1 := by
    obtain ⟨forward, rfl⟩ := step_cases taken
    exact ⟨forward, rfl⟩
  rcases standingOf_step_of_noReset noReset taken with ⟨isEvent, same⟩ | ⟨isEvent, moved⟩
  · rw [isEvent, List.append_nil]
    refine reopens.imp same.trans ?_
    rintro ⟨ended, attempts, stands, enough⟩
    exact ⟨by omega, attempts, same.trans stands, enough⟩
  · rw [isEvent] at few ⊢
    dsimp only at few ⊢
    rw [List.filter_append, List.length_append] at few
    rcases reopens with stands | ⟨ended, attempts, stands, enough⟩
    · by_cases locked : action.1 < lockedUntil
      · refine Or.inl ?_
        rw [moved, stands, Standing.fail, Standing.as_of_lt locked]
      · have counts : [action.1].filter (lockedUntil ≤ ·) = [action.1] := by
          simpa using locked
        rw [counts, List.length_singleton] at few
        refine Or.inr ⟨by omega, [action.1], ?_, ?_⟩
        · rw [moved, stands, Standing.fail, Standing.as_of_le (not_lt.1 locked)]
          exact if_neg (by rw [List.length_nil]; omega)
        · rw [List.filter_append, counts, List.length_append]
          exact Nat.le_add_left _ _
    · have counts : [action.1].filter (lockedUntil ≤ ·) = [action.1] := by
        have after : lockedUntil ≤ action.1 := by omega
        simpa using after
      rw [counts, List.length_singleton] at few
      have slid : (inWindow config action.1 attempts).length ≤ attempts.length :=
        List.length_filter_le _ _
      refine Or.inr ⟨by omega, inWindow config action.1 attempts ++ [action.1], ?_, ?_⟩
      · rw [moved, stands, Standing.fail, Standing.as_counting]
        exact if_neg (by omega)
      · rw [List.filter_append, counts, List.length_append, List.length_append]
        exact Nat.add_le_add_right (slid.trans enough) _

theorem reopens_run {start final : Limiter} {actions : List (ℕ × Call)} {pair : Pair}
    {lockedUntil : ℕ}
    (run : Steps (step config net) (fun limiter action => Sound config net pairs limiter action ∧
      NoReset net pair action) start actions final)
    {failures : List ℕ} (reopens : Reopens config net pair lockedUntil failures start)
    (few : ((failures ++ failuresOf net pair actions).filter (lockedUntil ≤ ·)).length <
      config.maxAttempts) :
    Reopens config net pair lockedUntil (failures ++ failuresOf net pair actions) final := by
  induction run generalizing failures with
  | nil limiter => simpa [failuresOf, historyOf] using reopens
  | @cons limiter middle final action rest admitted taken tail inductionHypothesis =>
    rw [failuresOf_cons, ← List.append_assoc] at few ⊢
    refine inductionHypothesis (reopens_step reopens admitted.2 taken ?_) few
    refine lt_of_le_of_lt ?_ few
    rw [List.filter_append (_ ++ _), List.length_append]
    exact Nat.le_add_right _ _

variable (config net pairs)

/-- In runs of sound calls a check is answered by the failures and resets of its own pair; as
many failures as are allowed at most, in one window, lock the pair out for the length of a
lockout; and when that is over it takes as many new ones. -/
theorem rateLimit_matches :
    (∀ first second firstCalls secondCalls,
      Steps (step config net) (Sound config net pairs) {} firstCalls first →
      Steps (step config net) (Sound config net pairs) {} secondCalls second →
      ∀ caller, resolvePair net caller ∈ pairs.members →
      historyOf net (resolvePair net caller) first.calls =
        historyOf net (resolvePair net caller) second.calls →
      ∀ now, first.now ≤ now → second.now ≤ now →
        check config net first now caller = check config net second now caller) ∧
    (∀ caller, resolvePair net caller ∈ pairs.members →
      isExempt config net (resolvePair net caller).ip = false →
      ∀ earlier start, Steps (step config net) (Sound config net pairs) {} earlier start →
      ∀ failing middle, Steps (step config net) (fun limiter action =>
        Sound config net pairs limiter action ∧ StaysIn config net caller limiter action)
          start failing middle →
      ∀ now failed other, resolvePair net other = resolvePair net caller →
      Sound config net pairs middle (now, .recordFailure other) →
      step config net middle (now, .recordFailure other) = some failed →
      (check config net middle now caller).allowed = true →
      config.maxAttempts ≤
        (inWindow config now (failuresOf net (resolvePair net caller) failing)).length + 1 →
      ∀ after final, Steps (step config net) (fun limiter action =>
        Sound config net pairs limiter action ∧ NoReset net (resolvePair net caller) action)
          failed after final →
      ∀ later, final.now ≤ later → later < now + config.lockoutMs →
        (check config net final later caller).allowed = false) ∧
    ∀ caller, resolvePair net caller ∈ pairs.members →
      isExempt config net (resolvePair net caller).ip = false →
      ∀ earlier start, Steps (step config net) (Sound config net pairs) {} earlier start →
      ∀ now, start.now ≤ now → (check config net start now caller).allowed = false →
      let ends := now + (check config net start now caller).retryAfterMs
      ∀ after final, Steps (step config net) (fun limiter action =>
        Sound config net pairs limiter action ∧ NoReset net (resolvePair net caller) action)
          start after final →
      ((failuresOf net (resolvePair net caller) after).filter (ends ≤ ·)).length <
        config.maxAttempts →
      ∀ later, final.now ≤ later → ends ≤ later →
        (check config net final later caller).allowed = true := by
  have simulated : ∀ {calls limiter}, Steps (step config net) (Sound config net pairs) {} calls
      limiter → Simulates config net pairs limiter := fun run =>
    run.invariant (fun _ _ _ held sound taken => held.step sound taken) simulates_empty
  refine ⟨?_, ?_, ?_⟩
  · intro first second _ _ firstRun secondRun caller member same now firstEarly secondEarly
    rw [check_eq (simulated firstRun) member firstEarly,
      check_eq (simulated secondRun) member secondEarly, standingOf, standingOf, same]
  · intro caller member counted _ start run failing middle failingRun now failed other isPair sound
      taken allowed enough after final afterRun later onward early
    obtain ⟨simulates, counts⟩ := counts_run failingRun member counted (simulated run)
      (Or.inl rfl)
    rw [List.nil_append] at counts
    obtain ⟨forward, isFailed⟩ := step_cases taken
    have isNow : failed.now = now := isFailed ▸ rfl
    have moved := standingOf_step (resolvePair net caller) taken
    rw [eventOf, if_pos isPair] at moved
    have locked : standingOf config net (resolvePair net caller) failed =
        .lockedOut (now + config.lockoutMs) := by
      rw [moved]
      change (standingOf config net (resolvePair net caller) middle).fail config now = _
      unfold Standing.fail
      rw [check_eq simulates member forward, if_neg (by simpa using counted)] at allowed
      unfold Standing.answer at allowed
      cases seen : (standingOf config net (resolvePair net caller) middle).as config now with
      | lockedOut lockedUntil =>
        rw [seen] at allowed
        exact absurd allowed Bool.false_ne_true
      | counting attempts =>
        refine if_pos ?_
        rcases counts with none | ⟨others, stands, more⟩
        · rw [none] at enough
          exact enough.trans (Nat.succ_le_succ (Nat.zero_le _))
        · rw [stands, Standing.as_counting] at seen
          rw [← Standing.counting.inj seen]
          exact enough.trans (Nat.succ_le_succ (more now forward))
    have stays : Simulates config net pairs final ∧ (final.now < now + config.lockoutMs →
        standingOf config net (resolvePair net caller) final =
          .lockedOut (now + config.lockoutMs)) :=
      afterRun.invariant (fun _ _ _ held admitted step => And.intro
          (held.1.step admitted.1 step) (lockedOut_step held.2 admitted.2 step))
        (And.intro (simulates.step sound taken) fun _ => locked)
    rw [check_eq stays.1 member onward, if_neg (by simpa using counted),
      stays.2 (onward.trans_lt early), Standing.answer_of_lt early]
  · intro caller member counted _ start run now onward refused ends after final afterRun few later
      laterOnward isEnded
    have simulates := simulated run
    have still : Simulates config net pairs final :=
      afterRun.invariant (fun _ _ _ held admitted step => held.step admitted.1 step) simulates
    have isAnswer := check_eq simulates member onward
    rw [if_neg (by simpa using counted)] at isAnswer
    have short := @short_standingOf config net (resolvePair net caller) start
    cases stands : standingOf config net (resolvePair net caller) start with
    | counting attempts =>
      rw [stands] at short isAnswer
      rw [isAnswer, Standing.answer_counting] at refused
      have slid : (inWindow config now attempts).length ≤ attempts.length :=
        List.length_filter_le _ _
      have less : attempts.length < config.maxAttempts := short
      simp only [decide_eq_false_iff_not, not_lt] at refused
      omega
    | lockedOut lockedUntil =>
      have isLocked : now < lockedUntil := by
        by_contra ended
        rw [isAnswer, stands, Standing.answer_of_le (not_lt.1 ended), Standing.answer_counting]
          at refused
        have positive := config.attempts_pos
        simp [inWindow] at refused
        omega
      have isEnds : ends = lockedUntil := by
        change now + (check config net start now caller).retryAfterMs = lockedUntil
        rw [isAnswer, stands, Standing.answer_of_lt isLocked]
        dsimp only
        omega
      rw [isEnds] at few isEnded
      have reopens := @reopens_run config net pairs start final after _ lockedUntil afterRun []
        (Or.inl stands) (by rwa [List.nil_append])
      rw [List.nil_append] at reopens
      rw [check_eq still member laterOnward, if_neg (by simpa using counted)]
      rcases reopens with locked | ⟨-, attempts, counting, fewer⟩
      · rw [locked, Standing.answer_of_le isEnded, Standing.answer_counting]
        have positive := config.attempts_pos
        simpa [inWindow] using positive
      · have slid : (inWindow config later attempts).length ≤ attempts.length :=
          List.length_filter_le _ _
        rw [counting, Standing.answer_counting]
        simp only [decide_eq_true_eq]
        omega

end Runs

/-! ### A client that fails twice -/

def twoAttempts : RateLimitConfig :=
  ⟨2, 60000, 30000, true, Nat.two_pos, by decide, by decide⟩

def plainAddresses : AddressFunctions := ⟨id, (· = "127.0.0.1")⟩

def visitor : Caller := ⟨some "203.0.113.7", none⟩

def visitorOnly : Pairs := ⟨{resolvePair plainAddresses visitor}, Set.injOn_singleton ..⟩

/-- The visitor is checked, or fails when there is no ended lockout. -/
def VisitorCall (limiter : Limiter) (action : ℕ × Call) : Prop :=
  action.2 = .check visitor ∨ action.2 = .recordFailure visitor ∧
    ¬EndedLockout action.1 (limiter.entries (resolvePair plainAddresses visitor).key)

instance (limiter : Limiter) (action : ℕ × Call) : Decidable (VisitorCall limiter action) :=
  inferInstanceAs (Decidable (_ ∨ _))

theorem sound_of_visitorCall {limiter : Limiter} {action : ℕ × Call}
    (visits : VisitorCall limiter action) :
    Sound twoAttempts plainAddresses visitorOnly limiter action := by
  obtain ⟨now, call⟩ := action
  rcases visits with isCheck | ⟨isFailure, cleared⟩
  · subst isCheck
    exact Set.mem_singleton _
  · subst isFailure
    exact ⟨Set.mem_singleton _, Or.inl cleared⟩

theorem noReset_of_visitorCall {limiter : Limiter} {action : ℕ × Call} (pair : Pair)
    (visits : VisitorCall limiter action) : NoReset plainAddresses pair action := by
  obtain ⟨now, call⟩ := action
  intro later isReset
  rcases visits with isCheck | ⟨isFailure, -⟩
  · subst isCheck
    exact absurd isReset nofun
  · subst isFailure
    obtain ⟨-, same⟩ := Option.ite_none_right_eq_some.1 isReset
    exact absurd (congrArg Prod.snd (Option.some.inj same)) nofun

/-- The limiter behind calls of the visitor. -/
def visited (start : Limiter) (actions : List (ℕ × Call)) : Limiter :=
  (executeUnder (step twoAttempts plainAddresses)
    (fun limiter action => decide (VisitorCall limiter action)) start actions).getD {}

theorem steps_visited {start : Limiter} {actions : List (ℕ × Call)}
    (runs : (executeUnder (step twoAttempts plainAddresses)
      (fun limiter action => decide (VisitorCall limiter action)) start actions).isSome = true) :
    Steps (step twoAttempts plainAddresses) VisitorCall start actions (visited start actions) := by
  obtain ⟨final, evaluates⟩ := Option.isSome_iff_exists.1 runs
  have isFinal : visited start actions = final := by
    unfold visited
    rw [evaluates]
    rfl
  rw [isFinal]
  exact (steps_of_executeUnder evaluates).weaken fun _ _ => of_decide_eq_true

/-- The visitor fails, is checked or not, and fails again; it is locked out, and let in. -/
theorem rateLimit_matches_visitor :
    let failed := visited {} [(0, .recordFailure visitor)]
    let lockedOut := visited failed [(1, .recordFailure visitor)]
    let letIn := visited lockedOut [(30001, .check visitor), (30002, .recordFailure visitor)]
    check twoAttempts plainAddresses failed 2 visitor = check twoAttempts plainAddresses
        (visited {} [(0, .recordFailure visitor), (1, .check visitor)]) 2 visitor ∧
      (check twoAttempts plainAddresses lockedOut 30000 visitor).allowed = false ∧
      (check twoAttempts plainAddresses letIn 30003 visitor).allowed = true := by
  intro failed lockedOut letIn
  obtain ⟨same, locks, reopens⟩ := rateLimit_matches twoAttempts plainAddresses visitorOnly
  have sound : ∀ {start : Limiter} {actions : List (ℕ × Call)} {final : Limiter},
      Steps (step twoAttempts plainAddresses) VisitorCall start actions final →
      Steps (step twoAttempts plainAddresses) (Sound twoAttempts plainAddresses visitorOnly) start
        actions final := fun run => run.weaken fun _ _ => sound_of_visitorCall
  have kept : ∀ {start : Limiter} {actions : List (ℕ × Call)} {final : Limiter},
      Steps (step twoAttempts plainAddresses) VisitorCall start actions final →
      Steps (step twoAttempts plainAddresses) (fun limiter action =>
        Sound twoAttempts plainAddresses visitorOnly limiter action ∧
          NoReset plainAddresses (resolvePair plainAddresses visitor) action) start actions final :=
    fun run => run.weaken fun _ _ visits =>
      ⟨sound_of_visitorCall visits, noReset_of_visitorCall _ visits⟩
  have first : Steps (step twoAttempts plainAddresses) VisitorCall {}
      [(0, .recordFailure visitor)] failed := steps_visited (by decide +kernel)
  have second : Steps (step twoAttempts plainAddresses) VisitorCall failed
      [(1, .recordFailure visitor)] lockedOut := steps_visited (by decide +kernel)
  refine ⟨?_, ?_, ?_⟩
  · exact same failed _ _ _ (sound first) (sound (steps_visited (by decide +kernel))) visitor
      (Set.mem_singleton _) (by decide +kernel) 2 (by decide +kernel) (by decide +kernel)
  · have stays : Steps (step twoAttempts plainAddresses) (fun limiter action =>
        Sound twoAttempts plainAddresses visitorOnly limiter action ∧
          StaysIn twoAttempts plainAddresses visitor limiter action) {}
        [(0, .recordFailure visitor)] failed := by
      have visits : VisitorCall {} (0, .recordFailure visitor) := by decide +kernel
      have taken : step twoAttempts plainAddresses {} (0, .recordFailure visitor) =
          some failed := rfl
      refine .single ⟨sound_of_visitorCall visits, noReset_of_visitorCall _ visits, ?_⟩ taken
      intro next isNext
      obtain rfl := Option.some.inj (taken.symm.trans isNext)
      decide +kernel
    exact locks visitor (Set.mem_singleton _) (by decide +kernel) [] {} (.nil _)
      [(0, .recordFailure visitor)] failed stays 1 lockedOut visitor rfl
      (sound_of_visitorCall (by decide +kernel)) rfl (by decide +kernel) (by decide +kernel)
      [] lockedOut (.nil _) 30000 (by decide +kernel) (by decide +kernel)
  · exact reopens visitor (Set.mem_singleton _) (by decide +kernel) _ lockedOut
      ((sound first).append (sound second)) 1 (by decide +kernel) (by decide +kernel) _ letIn
      (kept (steps_visited (by decide +kernel))) (by decide +kernel) 30003 (by decide +kernel)
      (by decide +kernel)

/-- The visitor fails twice and is locked out until 30000. A third failure at that time locks it
out again, on its own; after a check at that time, it does not. -/
theorem one_failure_locks_out_again :
    let failures : List (ℕ × Call) := [(0, .recordFailure visitor), (0, .recordFailure visitor)]
    ∃ first second,
      Steps (step twoAttempts plainAddresses) Unguarded {}
        (failures ++ [(30000, .recordFailure visitor)]) first ∧
      Steps (step twoAttempts plainAddresses) Unguarded {}
        (failures ++ [(30000, .check visitor), (30000, .recordFailure visitor)]) second ∧
      (check twoAttempts plainAddresses first 30000 visitor).allowed = false ∧
      (check twoAttempts plainAddresses second 30000 visitor).allowed = true := by
  intro failures
  have evaluates : (execute (step twoAttempts plainAddresses) {}
      (failures ++ [(30000, .recordFailure visitor)])).map
        (fun limiter => (check twoAttempts plainAddresses limiter 30000 visitor).allowed) =
      some false := by decide +kernel
  have evaluatesChecked : (execute (step twoAttempts plainAddresses) {}
      (failures ++ [(30000, .check visitor), (30000, .recordFailure visitor)])).map
        (fun limiter => (check twoAttempts plainAddresses limiter 30000 visitor).allowed) =
      some true := by decide +kernel
  obtain ⟨first, firstRun, refused⟩ := Option.map_eq_some_iff.1 evaluates
  obtain ⟨second, secondRun, allowed⟩ := Option.map_eq_some_iff.1 evaluatesChecked
  exact ⟨first, second, steps_of_execute firstRun, steps_of_execute secondRun, refused, allowed⟩

end OpenClaw.RateLimit
