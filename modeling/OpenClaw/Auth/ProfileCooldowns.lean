/-
This file proves what the windows of an auth profile do for whoever asks for it.

At any time the profile is unavailable to a caller exactly when its disabled window is
open, or its cooldown window is open and not scoped to another model than the caller's.
So a window that is over says nothing any more, and clearing it is not seen.

A failure keeps the window of its own lane while it is open and leaves the other lane
alone. Along a run the cooldown window, once it is not scoped away from a model, stays
so until it is over, and what the memory and the disk say of an open window is the same.
The two lanes are kept apart, so a permanent-auth failure in the middle of a cooldown that
is scoped to one model does not widen it: when the disabled window is over first, the
other models are back although the cooldown is still running.
-/

import OpenClaw.Auth.ProfileUsage

namespace OpenClaw.Auth

open Machine Text

/-! ### Windows -/

inductive Lane
  | cooldown
  | disabled
  deriving DecidableEq, Repr

/-- The end of the window of a lane. -/
def ProfileUsageStats.untilOf (stats : ProfileUsageStats) : Lane → Option ℚ
  | .cooldown => stats.cooldownUntil
  | .disabled => stats.disabledUntil

/-- A window is open at a time. -/
def Open (untilMs : Option ℚ) (now : ℚ) : Prop := ∃ value, untilMs = some value ∧ now < value

theorem any_lt_iff (untilMs : Option ℚ) (now : ℚ) :
    untilMs.any (now < ·) = true ↔ Open untilMs now := by
  cases untilMs <;> simp [Open]

variable {now : ℚ}

theorem isActiveUnusableWindow_iff (untilMs : Option ℚ) (positive : 0 < now) :
    isActiveUnusableWindow untilMs now = true ↔ Open untilMs now := by
  cases untilMs with
  | none => simp [isActiveUnusableWindow, Open]
  | some value =>
    simp only [isActiveUnusableWindow, Option.any_some, Bool.and_eq_true, decide_eq_true_eq, Open,
      Option.some.injEq, exists_eq_left', and_iff_right_iff_imp]
    exact positive.trans

/-- A window that is there and not over at `now`, or not there. -/
theorem hasExpired_iff (untilMs : Option ℚ) (now : ℚ) :
    hasExpired untilMs now = true ↔ ∃ value, untilMs = some value ∧ 0 < value ∧ value ≤ now := by
  cases untilMs <;> simp [hasExpired]

variable {untilMs : Option ℚ}

theorem Open.not_hasExpired (isOpen : Open untilMs now) :
    hasExpired untilMs now = false := by
  obtain ⟨value, rfl, later⟩ := isOpen
  simp [hasExpired, later]

theorem filter_eq_none_of_not_open (closed : ¬Open untilMs now) :
    untilMs.filter (now < ·) = none := by
  cases untilMs with
  | none => rfl
  | some value =>
    have ended : ¬now < value := fun later => closed ⟨value, rfl, later⟩
    simp [Option.filter, ended]

theorem Open.filter (isOpen : Open untilMs now) :
    untilMs.filter (now < ·) = untilMs := by
  obtain ⟨value, rfl, later⟩ := isOpen
  simp [Option.filter, later]

/-- The windows the later of which is the end of both. -/
theorem mem_windows_iff (stats : ProfileUsageStats) (value : ℚ) :
    value ∈ ([stats.cooldownUntil, stats.disabledUntil].filterMap id).filter (0 < ·) ↔
      0 < value ∧ ∃ lane, stats.untilOf lane = some value := by
  have lanes : (∃ lane, stats.untilOf lane = some value) ↔
      stats.cooldownUntil = some value ∨ stats.disabledUntil = some value :=
    ⟨fun ⟨lane, ends⟩ => by cases lane with
      | cooldown => exact .inl ends
      | disabled => exact .inr ends,
      fun ends => ends.elim (⟨.cooldown, ·⟩) (⟨.disabled, ·⟩)⟩
  rw [lanes, List.mem_filter, List.mem_filterMap]
  simp [and_comm, eq_comm]

theorem resolveProfileUnusableUntil_eq_none_iff (stats : ProfileUsageStats) :
    resolveProfileUnusableUntil stats = none ↔
      ∀ lane value, stats.untilOf lane = some value → value ≤ 0 := by
  rw [resolveProfileUnusableUntil, List.max?_eq_none_iff, List.eq_nil_iff_forall_not_mem]
  simp only [mem_windows_iff, not_and, not_exists]
  exact ⟨fun absent lane value ends => not_lt.1 fun positive => absent value positive lane ends,
    fun absent value positive lane ends => absurd (absent lane value ends) (not_le.2 positive)⟩

/-- The profile is usable again when both windows are over. -/
theorem lt_resolveProfileUnusableUntil_iff (stats : ProfileUsageStats) (positive : 0 < now) :
    (resolveProfileUnusableUntil stats).any (now < ·) = true ↔
      ∃ lane, Open (stats.untilOf lane) now := by
  cases resolved : resolveProfileUnusableUntil stats with
  | none =>
    have noWindows := (resolveProfileUnusableUntil_eq_none_iff stats).1 resolved
    refine iff_of_false (by simp) ?_
    rintro ⟨lane, value, ends, later⟩
    exact absurd (noWindows lane value ends) (not_le.2 (positive.trans later))
  | some latest =>
    obtain ⟨member, greatest⟩ := List.max?_eq_some_iff.1 resolved
    obtain ⟨-, lane, ends⟩ := (mem_windows_iff stats latest).1 member
    simp only [Option.any_some, decide_eq_true_eq]
    constructor
    · intro later
      exact ⟨lane, latest, ends, later⟩
    · rintro ⟨lane, value, ends, later⟩
      exact later.trans_le
        (greatest value ((mem_windows_iff stats value).2 ⟨positive.trans later, lane, ends⟩))

/-- The counters start over for the previous windows exactly when there are some and none is
open. -/
theorem resolveProfileUnusableUntil_le_iff (stats : ProfileUsageStats) (positive : 0 < now) :
    (resolveProfileUnusableUntil stats).any (· ≤ now) = true ↔
      resolveProfileUnusableUntil stats ≠ none ∧ ∀ lane, ¬Open (stats.untilOf lane) now := by
  have notLater := lt_resolveProfileUnusableUntil_iff stats positive
  rw [← not_exists, ← notLater]
  cases resolveProfileUnusableUntil stats with
  | none => simp
  | some latest => simp

/-! ### Availability -/

/-- The cooldown is for a rate limit of another model than the caller's. -/
def scopedElsewhere (stats : ProfileUsageStats) (forModel : Option String) : Bool :=
  (nonEmpty forModel).isSome && stats.cooldownReason = some .rateLimit &&
    (nonEmpty stats.cooldownModel).isSome && stats.cooldownModel ≠ forModel

theorem scopedElsewhere_iff (stats : ProfileUsageStats) (forModel : Option String) :
    scopedElsewhere stats forModel = true ↔
      ∃ own, (stats.cooldownReason = some .rateLimit ∧ nonEmpty stats.cooldownModel = some own) ∧
        (nonEmpty forModel).isSome ∧ forModel ≠ some own := by
  simp only [scopedElsewhere, Bool.and_eq_true, decide_eq_true_eq]
  constructor
  · rintro ⟨⟨⟨asked, limited⟩, named⟩, different⟩
    obtain ⟨own, scope⟩ := Option.isSome_iff_exists.1 named
    have model := ((nonEmpty_eq_some_iff _ _).1 scope).1
    exact ⟨own, ⟨limited, scope⟩, asked, fun same => different (model.trans same.symm)⟩
  · rintro ⟨own, ⟨limited, scope⟩, asked, different⟩
    have model := ((nonEmpty_eq_some_iff _ _).1 scope).1
    exact ⟨⟨⟨asked, limited⟩, Option.isSome_iff_exists.2 ⟨own, scope⟩⟩,
      fun same => different (same.symm.trans model)⟩

/-- When a profile is unavailable to a caller. -/
theorem isProfileInCooldown_iff (toLowerCase : String → String) (store : AuthProfileStore)
    (positive : 0 < now) (forModel : Option String) :
    isProfileInCooldown toLowerCase store now forModel = true ↔
      isAuthCooldownBypassedForProvider toLowerCase (store.profile.map (·.provider)) = false ∧
        (Open ((store.usageStats.getD {}).untilOf .disabled) now ∨
          Open ((store.usageStats.getD {}).untilOf .cooldown) now ∧
            scopedElsewhere (store.usageStats.getD {}) forModel = false) := by
  rw [isProfileInCooldown]
  cases isAuthCooldownBypassedForProvider toLowerCase (store.profile.map (·.provider)) with
  | true => simp
  | false =>
    cases store.usageStats with
    | none => simp [Open, ProfileUsageStats.untilOf]
    | some stats =>
      have bypass : shouldBypassModelScopedCooldown stats now forModel =
          (scopedElsewhere stats forModel && !isActiveUnusableWindow stats.disabledUntil now) := rfl
      have active := isActiveUnusableWindow_iff stats.disabledUntil positive
      have unusable := lt_resolveProfileUnusableUntil_iff stats positive
      have lanes : (∃ lane, Open (stats.untilOf lane) now) ↔
          Open (stats.untilOf .disabled) now ∨ Open (stats.untilOf .cooldown) now :=
        ⟨fun ⟨lane, isOpen⟩ => by cases lane with
          | cooldown => exact .inr isOpen
          | disabled => exact .inl isOpen,
          fun either => either.elim (⟨.disabled, ·⟩) (⟨.cooldown, ·⟩)⟩
      rw [lanes] at unusable
      rw [if_neg Bool.false_ne_true]
      show (if shouldBypassModelScopedCooldown stats now forModel = true then false
        else (resolveProfileUnusableUntil stats).any (now < ·)) = true ↔ _
      rw [bypass, Option.getD_some]
      by_cases disabled : Open (stats.untilOf .disabled) now
      · rw [active.2 disabled]
        simp [unusable, disabled]
      · rw [Bool.eq_false_iff.2 (mt active.1 disabled)]
        cases scopedElsewhere stats forModel <;> simp [unusable, disabled]

/-- Two records that say the same of the windows that are open. -/
structure Alike (now : ℚ) (first second : ProfileUsageStats) : Prop where
  ends : ∀ lane, first.untilOf lane = second.untilOf lane ∨
    ¬Open (first.untilOf lane) now ∧ ¬Open (second.untilOf lane) now
  scope : Open (first.untilOf .cooldown) now →
    first.cooldownReason = second.cooldownReason ∧ first.cooldownModel = second.cooldownModel

theorem Alike.refl (now : ℚ) (stats : ProfileUsageStats) : Alike now stats stats :=
  ⟨fun _ => .inl rfl, fun _ => ⟨rfl, rfl⟩⟩

theorem Alike.trans {first second third : ProfileUsageStats}
    (front : Alike now first second) (back : Alike now second third) : Alike now first third := by
  constructor
  · intro lane
    rcases front.ends lane with same | ⟨firstClosed, secondClosed⟩
    · rw [same]
      exact back.ends lane
    · refine .inr ⟨firstClosed, ?_⟩
      rcases back.ends lane with same | ⟨-, thirdClosed⟩
      · exact same ▸ secondClosed
      · exact thirdClosed
  · intro isOpen
    have secondOpen : Open (second.untilOf .cooldown) now := by
      rcases front.ends .cooldown with same | ⟨firstClosed, -⟩
      · exact same ▸ isOpen
      · exact absurd isOpen firstClosed
    obtain ⟨frontReason, frontModel⟩ := front.scope isOpen
    obtain ⟨backReason, backModel⟩ := back.scope secondOpen
    exact ⟨frontReason.trans backReason, frontModel.trans backModel⟩

theorem Open.earlier {now later : ℚ} (isOpen : Open untilMs later)
    (order : now ≤ later) : Open untilMs now := by
  obtain ⟨value, ends, after⟩ := isOpen
  exact ⟨value, ends, order.trans_lt after⟩

variable {first second : ProfileUsageStats}

theorem Alike.later {now later : ℚ}
    (alike : Alike now first second) (order : now ≤ later) : Alike later first second := by
  constructor
  · intro lane
    refine (alike.ends lane).imp_right fun closed => ?_
    exact ⟨fun isOpen => closed.1 (isOpen.earlier order), fun isOpen => closed.2 (isOpen.earlier order)⟩
  · intro isOpen
    exact alike.scope (isOpen.earlier order)

theorem Alike.open_iff (alike : Alike now first second) (lane : Lane) :
    Open (first.untilOf lane) now ↔ Open (second.untilOf lane) now := by
  rcases alike.ends lane with same | ⟨firstClosed, secondClosed⟩
  · rw [same]
  · exact iff_of_false firstClosed secondClosed

theorem Alike.scopedElsewhere
    (alike : Alike now first second) (isOpen : Open (first.untilOf .cooldown) now)
    (forModel : Option String) : scopedElsewhere first forModel = scopedElsewhere second forModel := by
  obtain ⟨reason_eq, model_eq⟩ := alike.scope isOpen
  rw [Auth.scopedElsewhere, Auth.scopedElsewhere, reason_eq, model_eq]

/-- Records that are alike make a profile available to the same callers. -/
theorem Alike.isProfileInCooldown (toLowerCase : String → String) (positive : 0 < now)
    {first second : AuthProfileStore} (sameProfile : first.profile = second.profile)
    (alike : Alike now (first.usageStats.getD {}) (second.usageStats.getD {}))
    (forModel : Option String) :
    isProfileInCooldown toLowerCase first now forModel =
      isProfileInCooldown toLowerCase second now forModel := by
  rw [Bool.eq_iff_iff, isProfileInCooldown_iff toLowerCase first positive,
    isProfileInCooldown_iff toLowerCase second positive, sameProfile, alike.open_iff .disabled]
  refine and_congr_right fun _ => or_congr_right ?_
  rw [← alike.open_iff .cooldown]
  exact and_congr_right fun isOpen => by rw [alike.scopedElsewhere isOpen]

/-! ### What clearing does -/

theorem untilOf_clearWindows (stats : ProfileUsageStats) (now : ℚ) (lane : Lane) :
    (clearWindows stats now).untilOf lane =
      if hasExpired (stats.untilOf lane) now then none else stats.untilOf lane := by
  cases lane <;> rfl

theorem untilOf_clearExpired (stats : ProfileUsageStats) (now : ℚ) (lane : Lane) :
    (clearExpired stats now).untilOf lane =
      if hasExpired (stats.untilOf lane) now then none else stats.untilOf lane := by
  rw [← untilOf_clearWindows, clearExpired]
  split
  · cases lane <;> rfl
  · rfl

/-- Clearing what is over is not seen. -/
theorem clearExpired_alike (stats : ProfileUsageStats) (now : ℚ) :
    Alike now (clearExpired stats now) stats := by
  constructor
  · intro lane
    rw [untilOf_clearExpired]
    cases expired : hasExpired (stats.untilOf lane) now with
    | false => exact .inl rfl
    | true =>
      obtain ⟨value, ends, -, passed⟩ := (hasExpired_iff _ _).1 expired
      refine .inr ⟨fun isOpen => ?_, fun isOpen => ?_⟩
      · obtain ⟨value, absent, -⟩ := isOpen
        exact absurd absent (by simp)
      · rw [isOpen.not_hasExpired] at expired
        exact Bool.false_ne_true expired
  · intro isOpen
    rw [untilOf_clearExpired] at isOpen
    have notExpired : hasExpired stats.cooldownUntil now = false := by
      by_contra expired
      rw [Bool.not_eq_false] at expired
      obtain ⟨value, absent, -⟩ := isOpen
      rw [if_pos (show hasExpired (stats.untilOf .cooldown) now = true from expired)] at absent
      exact absurd absent (by simp)
    rw [clearExpired]
    split <;> simp [clearWindows, notExpired]

/-! ### What a failure does -/

/-- The lane a failure belongs to. -/
def laneOf (reason : AuthProfileFailureReason) : Lane :=
  if (disabledFailureReason reason).isSome then .disabled else .cooldown

theorem calculateAuthProfileCooldownMs_nonneg (errorCount : Nat) :
    0 ≤ calculateAuthProfileCooldownMs errorCount := by
  unfold calculateAuthProfileCooldownMs
  dsimp only
  split_ifs <;> norm_num

theorem calculateDisabledLaneBackoffMs_nonneg (errorCount : Nat) (baseMs maxMs : ℚ) :
    0 ≤ calculateDisabledLaneBackoffMs errorCount baseMs maxMs := by
  have base : (0 : ℚ) ≤ max 60000 baseMs := le_max_of_le_left (by norm_num)
  exact le_min (base.trans (le_max_left _ _)) (mul_nonneg base (by positivity))

theorem resolveDisabledFailureBackoffMs_nonneg (reason : DisabledFailureReason) (errorCount : Nat)
    (cfgResolved : ResolvedAuthCooldownConfig) :
    0 ≤ resolveDisabledFailureBackoffMs reason errorCount cfgResolved := by
  cases reason <;> exact calculateDisabledLaneBackoffMs_nonneg _ _ _

theorem whamHalfWindow_nonneg {resetMs : Option ℚ} {capMs : ℚ}
    (reset : ∀ value, resetMs = some value → 0 ≤ value) (cap : 0 ≤ capMs) :
    0 ≤ whamHalfWindow resetMs capMs := by
  cases resetMs with
  | none => norm_num [whamHalfWindow]
  | some value =>
    have half : (0 : ℤ) ≤ ⌊value / 2⌋ := Int.floor_nonneg.2 (div_nonneg (reset value rfl) zero_le_two)
    exact le_min (by exact_mod_cast half) cap

theorem resolveWhamResetMs_nonneg {window : Option WhamUsageWindow} {now value : ℚ}
    (resets : resolveWhamResetMs window now = some value) : 0 ≤ value := by
  rw [resolveWhamResetMs, Option.bind_eq_some_iff] at resets
  obtain ⟨window, -, resets⟩ := resets
  cases after : window.resetAfterSeconds.filter (0 < ·) with
  | some seconds =>
    have positive : 0 < seconds := by simpa using (Option.filter_eq_some_iff.1 after).2
    rw [after, Option.some.injEq] at resets
    rw [← resets]
    positivity
  | none =>
    rw [after, Option.map_eq_some_iff] at resets
    obtain ⟨resetAt, -, rfl⟩ := resets
    exact le_max_left _ _

theorem whamCooldownMs_nonneg (answer : WhamAnswer) (now : ℚ) : 0 ≤ whamCooldownMs answer now := by
  have half : ∀ window (capMs : ℚ), 0 ≤ capMs →
      0 ≤ whamHalfWindow (resolveWhamResetMs window now) capMs :=
    fun _ _ => whamHalfWindow_nonneg fun _ => resolveWhamResetMs_nonneg
  unfold whamCooldownMs
  split
  · norm_num
  · split_ifs <;> norm_num
  · norm_num
  · dsimp only
    split_ifs
    · norm_num
    · exact half _ _ (by norm_num)
    · exact half _ _ (by norm_num)
    · exact half _ _ (by norm_num)
    · norm_num

theorem Failure.whamResult_nonneg {toLowerCase : String → String} {failure : Failure}
    {profile : AuthProfileCredential} {cooldownMs : ℚ}
    (probed : failure.whamResult toLowerCase profile = some cooldownMs) : 0 ≤ cooldownMs := by
  rw [Failure.whamResult, probeWhamForCooldown] at probed
  split at probed
  · rw [← Option.some.inj probed]
    exact whamCooldownMs_nonneg _ _
  · exact absurd probed (by simp)

/-- An open window is kept, any other gets the recomputed end. -/
theorem keepActiveWindowOrRecompute_open {existingUntil : Option ℚ} {now value : ℚ}
    (ends : existingUntil = some value) (later : now < value) (recomputedUntil : ℚ) :
    keepActiveWindowOrRecompute existingUntil now recomputedUntil = value := by
  rw [keepActiveWindowOrRecompute, Open.filter ⟨value, ends, later⟩, ends, Option.getD_some]

theorem le_keepActiveWindowOrRecompute (existingUntil : Option ℚ) {now recomputedUntil : ℚ}
    (order : now ≤ recomputedUntil) :
    now ≤ keepActiveWindowOrRecompute existingUntil now recomputedUntil := by
  by_cases isOpen : Open existingUntil now
  · obtain ⟨value, ends, later⟩ := isOpen
    rw [keepActiveWindowOrRecompute_open ends later]
    exact later.le
  · rw [keepActiveWindowOrRecompute, filter_eq_none_of_not_open isOpen]
    exact order

/-- What a failure does to the record. -/
structure FailureEffect (existing next : ProfileUsageStats) (now : ℚ)
    (reason : AuthProfileFailureReason) (modelId : Option String) (whamResult : Option ℚ) : Prop where
  keeps : ∀ lane value, existing.untilOf lane = some value → now < value →
    ∃ untilMs, next.untilOf lane = some untilMs ∧ value ≤ untilMs ∧
      (whamResult = none → untilMs = value)
  other : ∀ lane, lane ≠ laneOf reason → next.untilOf lane = existing.untilOf lane
  opened : ∃ untilMs, next.untilOf (laneOf reason) = some untilMs ∧ now ≤ untilMs
  scope : laneOf reason = .cooldown →
    next.cooldownReason = some reason ∧
      next.cooldownModel = nextCooldownModel existing now reason modelId
  unscoped : laneOf reason = .disabled →
    next.cooldownReason = existing.cooldownReason ∧ next.cooldownModel = existing.cooldownModel

theorem computeNext_effect (existing : ProfileUsageStats) (now : ℚ)
    (reason : AuthProfileFailureReason) (cfgResolved : ResolvedAuthCooldownConfig)
    (modelId : Option String) :
    FailureEffect existing (computeNextProfileUsageStats existing now reason cfgResolved modelId) now
      reason modelId none := by
  unfold computeNextProfileUsageStats
  cases lane_eq : disabledFailureReason reason with
  | some disabled =>
    have isLane : laneOf reason = .disabled := by rw [laneOf, lane_eq]; rfl
    refine ⟨?_, ?_, ?_, fun other => absurd (isLane.symm.trans other) nofun, fun _ => ⟨rfl, rfl⟩⟩
    · intro lane value ends later
      cases lane with
      | cooldown => exact ⟨value, ends, le_refl _, fun _ => rfl⟩
      | disabled =>
        have kept := keepActiveWindowOrRecompute_open ends later
        exact ⟨_, rfl, (kept _).ge, fun _ => kept _⟩
    · intro lane different
      cases lane with
      | cooldown => rfl
      | disabled => exact absurd isLane.symm different
    · rw [isLane]
      exact ⟨_, rfl, le_keepActiveWindowOrRecompute _
        (le_add_of_nonneg_right (resolveDisabledFailureBackoffMs_nonneg _ _ _))⟩
  | none =>
    have isLane : laneOf reason = .cooldown := by rw [laneOf, lane_eq]; rfl
    refine ⟨?_, ?_, ?_, fun _ => ⟨rfl, rfl⟩, fun other => absurd (isLane.symm.trans other) nofun⟩
    · intro lane value ends later
      cases lane with
      | disabled => exact ⟨value, ends, le_refl _, fun _ => rfl⟩
      | cooldown =>
        have kept := keepActiveWindowOrRecompute_open ends later
        exact ⟨_, rfl, (kept _).ge, fun _ => kept _⟩
    · intro lane different
      cases lane with
      | disabled => rfl
      | cooldown => exact absurd isLane.symm different
    · rw [isLane]
      exact ⟨_, rfl, le_keepActiveWindowOrRecompute _
        (le_add_of_nonneg_right (calculateAuthProfileCooldownMs_nonneg _))⟩

variable {reason : AuthProfileFailureReason} {modelId : Option String}

/-- The probe replaces the end of the cooldown window, and never by an earlier one. -/
theorem applyWham_effect {existing computed : ProfileUsageStats} {now cooldownMs : ℚ}
    (effect : FailureEffect existing computed now reason modelId none)
    (isLane : laneOf reason = .cooldown) (nonneg : 0 ≤ cooldownMs) :
    FailureEffect existing (applyWhamCooldownResult existing computed now cooldownMs) now reason
      modelId (some cooldownMs) := by
  refine ⟨?_, ?_, ?_, effect.scope, fun other => absurd (isLane.symm.trans other) nofun⟩
  · intro lane value ends later
    cases lane with
    | disabled =>
      obtain ⟨untilMs, nextEnds, order, -⟩ := effect.keeps .disabled value ends later
      exact ⟨untilMs, nextEnds, order, fun absent => absurd absent (by simp)⟩
    | cooldown =>
      refine ⟨_, rfl, ?_, fun absent => absurd absent (by simp)⟩
      have ends : existing.cooldownUntil = some value := ends
      rw [Open.filter ⟨value, ends, later⟩, ends]
      exact le_max_left _ _
  · intro lane different
    cases lane with
    | disabled => exact effect.other .disabled different
    | cooldown => exact absurd isLane.symm different
  · rw [isLane]
    exact ⟨_, rfl, le_max_of_le_right (le_add_of_nonneg_right nonneg)⟩

/-- Only failures of the cooldown lane are probed for. -/
theorem laneOf_of_shouldProbe {toLowerCase : String → String} {provider : String}
    (probes : shouldProbeWhamForFailure toLowerCase provider reason = true) :
    laneOf reason = .cooldown := by
  rw [shouldProbeWhamForFailure, Bool.and_eq_true, Bool.or_eq_true] at probes
  rcases probes.2 with isReason | isReason
  · rw [of_decide_eq_true isReason]; rfl
  · rw [of_decide_eq_true isReason]; rfl

theorem failureStats_effect (toLowerCase : String → String) (cfg : Option AuthCooldowns)
    (provider : String) (existing : Option ProfileUsageStats) (now : ℚ)
    (reason : AuthProfileFailureReason) (modelId : Option String) (whamResult : Option ℚ)
    (nonneg : ∀ cooldownMs, whamResult = some cooldownMs → 0 ≤ cooldownMs) :
    FailureEffect (existing.getD {})
      (failureStats toLowerCase cfg provider existing now reason modelId whamResult) now reason
      modelId whamResult := by
  have effect := computeNext_effect (existing.getD {}) now reason
    (resolveAuthCooldownConfig toLowerCase cfg (normalizeProviderId toLowerCase provider)) modelId
  unfold failureStats
  cases whamResult with
  | none => exact effect
  | some cooldownMs =>
    dsimp only
    split
    next probes => exact applyWham_effect effect (laneOf_of_shouldProbe probes) (nonneg cooldownMs rfl)
    next =>
      exact ⟨fun lane value ends later => by
        obtain ⟨untilMs, nextEnds, order, -⟩ := effect.keeps lane value ends later
        exact ⟨untilMs, nextEnds, order, fun absent => absurd absent (by simp)⟩,
        effect.other, effect.opened, effect.scope, effect.unscoped⟩

theorem errorCount_failureStats (toLowerCase : String → String) (cfg : Option AuthCooldowns)
    (provider : String) (existing : Option ProfileUsageStats) (now : ℚ)
    (reason : AuthProfileFailureReason) (modelId : Option String) (whamResult : Option ℚ) :
    (failureStats toLowerCase cfg provider existing now reason modelId whamResult).errorCount =
      (countFailure (existing.getD {}) now reason (resolveAuthCooldownConfig toLowerCase cfg
        (normalizeProviderId toLowerCase provider))).errorCount := by
  have computed : ∀ cfgResolved,
      (computeNextProfileUsageStats (existing.getD {}) now reason cfgResolved modelId).errorCount =
        (countFailure (existing.getD {}) now reason cfgResolved).errorCount := by
    intro cfgResolved
    unfold computeNextProfileUsageStats
    cases disabledFailureReason reason <;> rfl
  unfold failureStats
  cases whamResult with
  | none => exact computed _
  | some cooldownMs =>
    dsimp only
    split <;> exact computed _

/-! ### Clearing before a failure -/

/-- What is left after clearing is open. -/
theorem resolve_clearWindows_eq_none_iff (stats : ProfileUsageStats) (positive : 0 < now) :
    resolveProfileUnusableUntil (clearWindows stats now) = none ↔
      ∀ lane, ¬Open (stats.untilOf lane) now := by
  rw [resolveProfileUnusableUntil_eq_none_iff]
  constructor
  · rintro absent lane ⟨value, ends, later⟩
    refine absurd (absent lane value ?_) (not_le.2 (positive.trans later))
    rw [untilOf_clearWindows, Open.not_hasExpired ⟨value, ends, later⟩]
    exact ends
  · intro closed lane value ends
    rw [untilOf_clearWindows] at ends
    cases expired : hasExpired (stats.untilOf lane) now with
    | true =>
      rw [expired] at ends
      exact absurd ends (by simp)
    | false =>
      rw [expired] at ends
      by_contra notNeg
      refine closed lane ⟨value, ends, ?_⟩
      by_contra notLater
      exact Bool.false_ne_true (expired.symm.trans
        ((hasExpired_iff _ _).2 ⟨value, ends, not_le.1 notNeg, not_lt.1 notLater⟩))

/-- Clearing resets the counters exactly when the next failure would. -/
theorem clearsCounters_eq (stats : ProfileUsageStats) (positive : 0 < now) :
    ((hasExpired stats.cooldownUntil now || hasExpired stats.disabledUntil now) &&
        (resolveProfileUnusableUntil (clearWindows stats now)).isNone) =
      (resolveProfileUnusableUntil stats).any (· ≤ now) := by
  rw [Bool.eq_iff_iff, resolveProfileUnusableUntil_le_iff stats positive, Bool.and_eq_true,
    Option.isNone_iff_eq_none, resolve_clearWindows_eq_none_iff stats positive]
  refine and_congr_left fun closed => ?_
  rw [Bool.or_eq_true, Ne, resolveProfileUnusableUntil_eq_none_iff, hasExpired_iff, hasExpired_iff]
  push Not
  constructor
  · rintro (⟨value, ends, windowPositive, -⟩ | ⟨value, ends, windowPositive, -⟩)
    · exact ⟨.cooldown, value, ends, windowPositive⟩
    · exact ⟨.disabled, value, ends, windowPositive⟩
  · rintro ⟨lane, value, ends, windowPositive⟩
    have passed : value ≤ now := not_lt.1 fun later => closed lane ⟨value, ends, later⟩
    cases lane with
    | cooldown => exact .inl ⟨value, ends, windowPositive, passed⟩
    | disabled => exact .inr ⟨value, ends, windowPositive, passed⟩

theorem clearExpired_eq (stats : ProfileUsageStats) (positive : 0 < now) :
    clearExpired stats now =
      if (resolveProfileUnusableUntil stats).any (· ≤ now) then
        { clearWindows stats now with errorCount := some 0, failureCounts := fun _ => 0 }
      else clearWindows stats now := by
  rw [← clearsCounters_eq stats positive]
  rfl

/-- After clearing there is no window left that is over. -/
theorem resolve_clearExpired_le (stats : ProfileUsageStats) (positive : 0 < now) :
    (resolveProfileUnusableUntil (clearExpired stats now)).any (· ≤ now) = false := by
  rw [Bool.eq_false_iff, Ne, resolveProfileUnusableUntil_le_iff _ positive]
  rintro ⟨left, closed⟩
  refine left ?_
  have sameWindows : resolveProfileUnusableUntil (clearExpired stats now) =
      resolveProfileUnusableUntil (clearWindows stats now) := by
    rw [clearExpired]
    split <;> rfl
  rw [sameWindows, resolve_clearWindows_eq_none_iff stats positive]
  intro lane isOpen
  exact closed lane (((clearExpired_alike stats now).open_iff lane).2 isOpen)

theorem shouldResetCounters_eq (stats : ProfileUsageStats) (now : ℚ)
    (cfgResolved : ResolvedAuthCooldownConfig) :
    shouldResetCounters stats now cfgResolved =
      ((stats.lastFailureAt.any fun last => 0 < last && cfgResolved.failureWindowMs < now - last) ||
        (resolveProfileUnusableUntil stats).any (· ≤ now)) := rfl

/-- A failure counts on from the same counters whether or not it comes after a clearing. -/
theorem countFailure_clearExpired (stats : ProfileUsageStats) (positive : 0 < now)
    (reason : AuthProfileFailureReason) (cfgResolved : ResolvedAuthCooldownConfig) :
    (countFailure (clearExpired stats now) now reason cfgResolved).errorCount =
        (countFailure stats now reason cfgResolved).errorCount ∧
      (countFailure (clearExpired stats now) now reason cfgResolved).failureCounts =
        (countFailure stats now reason cfgResolved).failureCounts := by
  have lastFailure : (clearExpired stats now).lastFailureAt = stats.lastFailureAt := by
    rw [clearExpired]
    split <;> rfl
  have reset := shouldResetCounters_eq stats now cfgResolved
  have resetCleared := shouldResetCounters_eq (clearExpired stats now) now cfgResolved
  rw [lastFailure, resolve_clearExpired_le stats positive, Bool.or_false] at resetCleared
  simp only [countFailure]
  rw [reset, resetCleared]
  rw [clearExpired_eq stats positive]
  cases (resolveProfileUnusableUntil stats).any (· ≤ now) with
  | true => simp
  | false => simp [clearWindows]

/-- Which model a cooldown is scoped to does not depend on a window that is over. -/
theorem Alike.nextCooldownModel (alike : Alike now first second) (reason : AuthProfileFailureReason)
    (modelId : Option String) :
    nextCooldownModel first now reason modelId = nextCooldownModel second now reason modelId := by
  have sameActive : first.cooldownUntil.any (now < ·) = second.cooldownUntil.any (now < ·) := by
    rw [Bool.eq_iff_iff, any_lt_iff, any_lt_iff]
    exact alike.open_iff .cooldown
  rw [Auth.nextCooldownModel, Auth.nextCooldownModel, sameActive]
  cases active : second.cooldownUntil.any (now < ·) with
  | false => rfl
  | true =>
    have isOpen : Open (first.untilOf .cooldown) now :=
      (alike.open_iff .cooldown).2 ((any_lt_iff _ _).1 active)
    rw [(alike.scope isOpen).2]

theorem Alike.keepActiveWindowOrRecompute
    (alike : Alike now first second) (lane : Lane) (recomputedUntil : ℚ) :
    keepActiveWindowOrRecompute (first.untilOf lane) now recomputedUntil =
      keepActiveWindowOrRecompute (second.untilOf lane) now recomputedUntil := by
  rw [Auth.keepActiveWindowOrRecompute, Auth.keepActiveWindowOrRecompute]
  rcases alike.ends lane with same | ⟨firstClosed, secondClosed⟩
  · rw [same]
  · rw [filter_eq_none_of_not_open firstClosed, filter_eq_none_of_not_open secondClosed]

/-- A failure after a clearing and the failure alone leave records that are alike. -/
theorem computeNext_clearExpired (stats : ProfileUsageStats) (positive : 0 < now)
    (reason : AuthProfileFailureReason) (cfgResolved : ResolvedAuthCooldownConfig)
    (modelId : Option String) :
    Alike now
      (computeNextProfileUsageStats (clearExpired stats now) now reason cfgResolved modelId)
      (computeNextProfileUsageStats stats now reason cfgResolved modelId) := by
  have alike := clearExpired_alike stats now
  obtain ⟨errors, counts⟩ := countFailure_clearExpired stats positive reason cfgResolved
  unfold computeNextProfileUsageStats
  cases disabledFailureReason reason with
  | some disabled =>
    constructor
    · intro lane
      cases lane with
      | cooldown => exact alike.ends .cooldown
      | disabled =>
        refine .inl (congrArg some ?_)
        rw [counts]
        exact alike.keepActiveWindowOrRecompute .disabled _
    · exact alike.scope
  | none =>
    constructor
    · intro lane
      cases lane with
      | cooldown =>
        refine .inl (congrArg some ?_)
        rw [errors]
        exact alike.keepActiveWindowOrRecompute .cooldown _
      | disabled => exact alike.ends .disabled
    · intro _
      exact ⟨rfl, alike.nextCooldownModel reason modelId⟩

theorem failureStats_clearExpired (toLowerCase : String → String) (cfg : Option AuthCooldowns)
    (provider : String) (existing : Option ProfileUsageStats) (positive : 0 < now)
    (reason : AuthProfileFailureReason) (modelId : Option String) (whamResult : Option ℚ) :
    Alike now
      (failureStats toLowerCase cfg provider (existing.map (clearExpired · now)) now reason modelId
        whamResult)
      (failureStats toLowerCase cfg provider existing now reason modelId whamResult) := by
  cases existing with
  | none => exact Alike.refl _ _
  | some stats =>
    have computed := computeNext_clearExpired stats positive reason
      (resolveAuthCooldownConfig toLowerCase cfg (normalizeProviderId toLowerCase provider)) modelId
    unfold failureStats
    cases whamResult with
    | none => exact computed
    | some cooldownMs =>
      dsimp only [Option.map_some, Option.getD_some]
      split
      next probes =>
        have isLane := laneOf_of_shouldProbe probes
        obtain ⟨firstReason, firstModel⟩ := (computeNext_effect (clearExpired stats now) now reason
          (resolveAuthCooldownConfig toLowerCase cfg (normalizeProviderId toLowerCase provider))
          modelId).scope isLane
        obtain ⟨secondReason, secondModel⟩ := (computeNext_effect stats now reason
          (resolveAuthCooldownConfig toLowerCase cfg (normalizeProviderId toLowerCase provider))
          modelId).scope isLane
        constructor
        · intro lane
          cases lane with
          | cooldown =>
            refine .inl (congrArg some ?_)
            have kept := (clearExpired_alike stats now).keepActiveWindowOrRecompute .cooldown 0
            exact congrArg (max · (now + cooldownMs)) kept
          | disabled => exact computed.ends .disabled
        · intro _
          refine ⟨firstReason.trans secondReason.symm, firstModel.trans ?_⟩
          exact ((clearExpired_alike stats now).nextCooldownModel reason modelId).trans
            secondModel.symm
      next => exact computed

/-- Whether expired windows are cleared before a failure is not seen after it. -/
theorem isProfileInCooldown_failureUpdater_clearExpired (toLowerCase : String → String)
    (cfg : Option AuthCooldowns) (store : AuthProfileStore) {now later : ℚ} (positive : 0 < now)
    (order : now ≤ later) (reason : AuthProfileFailureReason) (modelId : Option String)
    (whamResult : Option ℚ) (forModel : Option String) :
    isProfileInCooldown toLowerCase
        (failureUpdater toLowerCase cfg (clearExpiredCooldowns store now) now reason modelId
          whamResult) later forModel =
      isProfileInCooldown toLowerCase
        (failureUpdater toLowerCase cfg store now reason modelId whamResult) later forModel := by
  have cleared : Alike now ((clearExpiredCooldowns store now).usageStats.getD {})
      (store.usageStats.getD {}) := by
    cases stats_eq : store.usageStats with
    | none =>
      rw [clearExpiredCooldowns, stats_eq]
      exact Alike.refl _ _
    | some stats =>
      rw [clearExpiredCooldowns, stats_eq]
      exact clearExpired_alike stats now
  have unchanged := (cleared.later order).isProfileInCooldown toLowerCase (positive.trans_le order)
    (show (clearExpiredCooldowns store now).profile = store.profile from rfl) forModel
  rw [failureUpdater, failureUpdater]
  cases profile_eq : store.profile with
  | none =>
    rw [show (clearExpiredCooldowns store now).profile = none from profile_eq]
    exact unchanged
  | some profile =>
    rw [show (clearExpiredCooldowns store now).profile = some profile from profile_eq]
    dsimp only
    split
    · exact unchanged
    · have seen := (failureStats_clearExpired toLowerCase cfg profile.provider store.usageStats
        positive reason modelId whamResult).later order
      refine Alike.isProfileInCooldown toLowerCase (positive.trans_le order) ?_ ?_ forModel
      · rfl
      · rw [Option.getD_some, Option.getD_some]
        exact seen

/-! ### Runs -/

/-- What holds of the records a profile goes through: the windows are in positive time, without
a window no errors are counted, and only rate limits are scoped to a model. -/
structure Sound (stats : ProfileUsageStats) : Prop where
  positive : ∀ lane value, stats.untilOf lane = some value → 0 < value
  counted : (∀ lane, stats.untilOf lane = none) → stats.errorCount.getD 0 = 0
  modelled : (nonEmpty stats.cooldownModel).isSome → stats.cooldownReason = some .rateLimit

theorem sound_empty : Sound {} :=
  ⟨fun lane value ends => by cases lane <;> exact absurd ends nofun, fun _ => rfl,
    fun model => absurd model (by decide)⟩

theorem Sound.reset (existing : Option ProfileUsageStats) (now : ℚ) :
    Sound (resetUsageStats existing now) :=
  ⟨fun lane value ends => by cases lane <;> exact absurd ends nofun, fun _ => rfl,
    fun model => absurd (show (nonEmpty none).isSome = true from model) (by decide)⟩

theorem Sound.clear {stats : ProfileUsageStats} (sound : Sound stats)
    (positive : 0 < now) : Sound (clearExpired stats now) := by
  constructor
  · intro lane value ends
    rw [untilOf_clearExpired] at ends
    split at ends
    · exact absurd ends nofun
    · exact sound.positive lane value ends
  · intro absent
    rw [clearExpired_eq stats positive]
    split
    next => exact Option.getD_some
    next notOver =>
      refine sound.counted fun lane => ?_
      by_contra there
      obtain ⟨value, ends⟩ := Option.ne_none_iff_exists'.1 there
      have window : 0 < value := sound.positive lane value ends
      rw [resolveProfileUnusableUntil_le_iff stats positive] at notOver
      refine notOver ⟨fun nowhere => ?_, fun lane isOpen => ?_⟩
      · exact absurd ((resolveProfileUnusableUntil_eq_none_iff stats).1 nowhere lane value ends)
          (not_le.2 window)
      · obtain ⟨value, left, -⟩ := ((clearExpired_alike stats now).open_iff lane).2 isOpen
        exact absurd (left.symm.trans (absent lane)) nofun
  · have cleared : (nonEmpty (clearWindows stats now).cooldownModel).isSome →
        (clearWindows stats now).cooldownReason = some .rateLimit := by
      dsimp only [clearWindows]
      cases hasExpired stats.cooldownUntil now with
      | true => exact fun model => absurd (show (nonEmpty none).isSome = true from model) (by decide)
      | false => exact sound.modelled
    rw [clearExpired]
    split <;> exact cleared

/-- A cooldown is scoped to a model by a rate limit of that model, and only if the window was not
open or was scoped to that model already. -/
theorem nextCooldownModel_spec {existing : ProfileUsageStats}
    {own : String} (model : nonEmpty (nextCooldownModel existing now reason modelId) = some own) :
    reason = .rateLimit ∧ modelId = some own ∧
      (Open existing.cooldownUntil now → existing.cooldownModel = some own) := by
  rw [nextCooldownModel] at model
  have absent : nonEmpty none ≠ some own := nofun
  split_ifs at model with active differs unknown other limited
  · exact absurd model absent
  · exact absurd model absent
  · exact absurd model absent
  · -- the window is open: neither widened for another model nor for an unknown one
    rw [not_not] at other
    have scope := (nonEmpty_eq_some_iff _ _).1 model
    have named : (nonEmpty modelId).isSome = true := by
      by_contra missing
      refine unknown ?_
      simp [other, model, Option.not_isSome_iff_eq_none.1 missing]
    have same : existing.cooldownModel = modelId := by
      by_contra different
      exact differs (by simp [model, named, different])
    exact ⟨other, same ▸ scope.1, fun _ => scope.1⟩
  · exact ⟨limited, ((nonEmpty_eq_some_iff _ _).1 model).1,
      fun isOpen => absurd ((any_lt_iff _ _).2 isOpen) active⟩
  · exact absurd model absent

theorem Sound.failure {existing next : ProfileUsageStats} (sound : Sound existing)
    (positive : 0 < now) {whamResult : Option ℚ}
    (effect : FailureEffect existing next now reason modelId whamResult) : Sound next := by
  obtain ⟨untilMs, ends, order⟩ := effect.opened
  constructor
  · intro lane value nextEnds
    by_cases isLane : lane = laneOf reason
    · rw [isLane, ends, Option.some.injEq] at nextEnds
      exact nextEnds ▸ positive.trans_le order
    · rw [effect.other lane isLane] at nextEnds
      exact sound.positive lane value nextEnds
  · intro absent
    exact absurd (ends.symm.trans (absent _)) nofun
  · intro model
    cases lane_eq : laneOf reason with
    | disabled =>
      obtain ⟨reason_eq, model_eq⟩ := effect.unscoped lane_eq
      rw [reason_eq]
      exact sound.modelled (model_eq ▸ model)
    | cooldown =>
      obtain ⟨reason_eq, model_eq⟩ := effect.scope lane_eq
      rw [model_eq] at model
      obtain ⟨own, model⟩ := Option.isSome_iff_exists.1 model
      rw [reason_eq, (nextCooldownModel_spec model).1]

/-- The next failure after all windows are over counts one error. -/
theorem Sound.errorCount_one {stats : ProfileUsageStats} (sound : Sound stats)
    (positive : 0 < now) (closed : ∀ lane, ¬Open (stats.untilOf lane) now)
    (reason : AuthProfileFailureReason) (cfgResolved : ResolvedAuthCooldownConfig) :
    (countFailure stats now reason cfgResolved).errorCount = some 1 := by
  have resets := shouldResetCounters_eq stats now cfgResolved
  show some ((if shouldResetCounters stats now cfgResolved then 0 else stats.errorCount.getD 0) + 1) =
    some 1
  by_cases there : resolveProfileUnusableUntil stats = none
  · have noErrors : stats.errorCount.getD 0 = 0 := by
      refine sound.counted fun lane => ?_
      by_contra some_window
      obtain ⟨value, ends⟩ := Option.ne_none_iff_exists'.1 some_window
      exact absurd ((resolveProfileUnusableUntil_eq_none_iff stats).1 there lane value ends)
        (not_le.2 (sound.positive lane value ends))
    rw [noErrors, ite_self]
  · rw [(resolveProfileUnusableUntil_le_iff stats positive).2 ⟨there, closed⟩, Bool.or_true] at resets
    rw [resets, if_pos rfl]

/-- The window of a lane is open for the process. -/
def WindowOpen (lane : Lane) (world : World) : Prop := Open (world.stats.untilOf lane) world.now

/-- The world with one record in the memory and on disk. -/
def recorded (profile : AuthProfileCredential) (now : ℚ) (stats : ProfileUsageStats) : World :=
  { now
    memory := { profile := some profile, usageStats := some stats }
    disk := { profile := some profile, usageStats := some stats } }

/-- What holds in every state of a run on a profile. -/
structure Kept (toLowerCase : String → String) (profile : AuthProfileCredential) (world : World) :
    Prop where
  clock : 0 < world.now
  memory : world.memory.profile = some profile
  disk : world.disk.profile = some profile
  soundMemory : Sound world.stats
  soundDisk : Sound (world.disk.usageStats.getD {})
  alike : Alike world.now world.stats (world.disk.usageStats.getD {})
  bypassed : isAuthCooldownBypassedForProvider toLowerCase (some profile.provider) = true →
    ∀ lane, world.stats.untilOf lane = none

section Runs

variable {toLowerCase : String → String} {cfg : Option AuthCooldowns}
  {profile : AuthProfileCredential} {world next : World}
variable {model : String}

theorem Start.kept (isStart : Start profile world) : Kept toLowerCase profile world := by
  obtain ⟨now, memory, disk⟩ := world
  obtain ⟨clock, rfl, rfl⟩ := isStart
  exact ⟨clock, rfl, rfl, sound_empty, sound_empty, Alike.refl _ _, fun _ lane => by cases lane <;> rfl⟩

/-- A recorded failure is applied to one of the two records and then is in both. -/
theorem Kept.failure_next (cfg : Option AuthCooldowns) (kept : Kept toLowerCase profile world)
    (counts : isAuthCooldownBypassedForProvider toLowerCase (some profile.provider) = false)
    (failure : Failure) :
    ∃ existing stats : ProfileUsageStats, Alike world.now world.stats existing ∧ Sound existing ∧
      FailureEffect existing stats world.now failure.reason failure.modelId
        (failure.whamResult toLowerCase profile) ∧
      stats.errorCount = (countFailure existing world.now failure.reason
        (resolveAuthCooldownConfig toLowerCase cfg
          (normalizeProviderId toLowerCase profile.provider))).errorCount ∧
      markAuthProfileFailure toLowerCase cfg world failure = recorded profile world.now stats := by
  obtain ⟨now, ⟨memoryProfile, memoryStats⟩, ⟨diskProfile, diskStats⟩⟩ := world
  obtain rfl : memoryProfile = some profile := kept.memory
  obtain rfl : diskProfile = some profile := kept.disk
  have effect := fun existing => failureStats_effect toLowerCase cfg profile.provider existing now
    failure.reason failure.modelId (failure.whamResult toLowerCase profile)
    fun _ => Failure.whamResult_nonneg
  have counted := fun existing => errorCount_failureStats toLowerCase cfg profile.provider existing
    now failure.reason failure.modelId (failure.whamResult toLowerCase profile)
  cases locked_eq : failure.locked with
  | true =>
    refine ⟨_, _, kept.alike, kept.soundDisk, effect diskStats, counted diskStats, ?_⟩
    simp [markAuthProfileFailure, failureUpdater, recorded, counts, locked_eq]
  | false =>
    refine ⟨_, _, Alike.refl _ _, kept.soundMemory, effect memoryStats, counted memoryStats, ?_⟩
    simp [markAuthProfileFailure, recorded, counts, locked_eq]

/-- A failure for a provider without cooldowns is not recorded. -/
theorem Kept.failure_bypassed (kept : Kept toLowerCase profile world)
    (bypassed : isAuthCooldownBypassedForProvider toLowerCase (some profile.provider) = true)
    (failure : Failure) : markAuthProfileFailure toLowerCase cfg world failure = world := by
  rw [markAuthProfileFailure, kept.memory]
  exact if_pos bypassed

theorem Kept.failure (kept : Kept toLowerCase profile world) (failure : Failure) :
    Kept toLowerCase profile (markAuthProfileFailure toLowerCase cfg world failure) := by
  cases counts : isAuthCooldownBypassedForProvider toLowerCase (some profile.provider) with
  | true =>
    rw [kept.failure_bypassed counts]
    exact kept
  | false =>
    obtain ⟨existing, stats, -, sound, effect, -, next_eq⟩ :=
      kept.failure_next cfg counts failure
    rw [next_eq]
    have nextSound := sound.failure kept.clock effect
    exact ⟨kept.clock, rfl, rfl, nextSound, nextSound, Alike.refl _ _,
      fun bypassed => absurd (counts.symm.trans bypassed) Bool.false_ne_true⟩

theorem Kept.used (kept : Kept toLowerCase profile world) (locked : Bool) :
    Kept toLowerCase profile (markAuthProfileUsed world locked) := by
  have next_eq : ∃ existing, markAuthProfileUsed world locked =
      recorded profile world.now (resetUsageStats existing world.now) := by
    obtain ⟨now, ⟨memoryProfile, memoryStats⟩, ⟨diskProfile, diskStats⟩⟩ := world
    obtain rfl : memoryProfile = some profile := kept.memory
    obtain rfl : diskProfile = some profile := kept.disk
    cases locked with
    | true => exact ⟨diskStats, rfl⟩
    | false => exact ⟨memoryStats, rfl⟩
  obtain ⟨existing, next_eq⟩ := next_eq
  rw [next_eq]
  exact ⟨kept.clock, rfl, rfl, Sound.reset _ _, Sound.reset _ _, Alike.refl _ _,
    fun _ lane => by cases lane <;> rfl⟩

/-- The record after a clearing. -/
theorem stats_clearExpiredCooldowns (world : World) :
    ({ world with memory := clearExpiredCooldowns world.memory world.now } : World).stats =
        clearExpired world.stats world.now ∨
      ({ world with memory := clearExpiredCooldowns world.memory world.now } : World).stats =
        world.stats := by
  obtain ⟨now, ⟨memoryProfile, memoryStats⟩, disk⟩ := world
  cases memoryStats with
  | none => exact .inr rfl
  | some stats => exact .inl rfl

theorem Kept.clear (kept : Kept toLowerCase profile world) :
    Kept toLowerCase profile
      { world with memory := clearExpiredCooldowns world.memory world.now } := by
  have sound : Sound
      ({ world with memory := clearExpiredCooldowns world.memory world.now } : World).stats := by
    rcases stats_clearExpiredCooldowns world with cleared | same
    · rw [cleared]
      exact kept.soundMemory.clear kept.clock
    · rw [same]
      exact kept.soundMemory
  refine ⟨kept.clock, kept.memory, kept.disk, sound, kept.soundDisk, ?_, ?_⟩
  · rcases stats_clearExpiredCooldowns world with cleared | same
    · rw [cleared]
      exact (clearExpired_alike _ _).trans kept.alike
    · rw [same]
      exact kept.alike
  · intro bypassed lane
    have absent := kept.bypassed bypassed lane
    rcases stats_clearExpiredCooldowns world with cleared | same
    · rw [cleared, untilOf_clearExpired, absent, ite_self]
    · rw [same, absent]

theorem Kept.step (kept : Kept toLowerCase profile world) {action : Action}
    (taken : step toLowerCase cfg world action = some next) : Kept toLowerCase profile next := by
  cases action with
  | failure failure => exact Option.some.inj taken ▸ kept.failure failure
  | used locked => exact Option.some.inj taken ▸ kept.used locked
  | clearExpired => exact Option.some.inj taken ▸ kept.clear
  | advance elapsed =>
    obtain ⟨forward, taken⟩ := Option.ite_none_right_eq_some.1 taken
    obtain rfl := Option.some.inj taken
    have order : world.now ≤ world.now + elapsed := le_add_of_nonneg_right forward
    exact ⟨kept.clock.trans_le order, kept.memory, kept.disk, kept.soundMemory, kept.soundDisk,
      kept.alike.later order, kept.bypassed⟩

/-- A failure that is profile-wide, of an unknown model, or a rate limit of `model`. -/
def Failure.Hits (failure : Failure) (model : String) : Prop :=
  failure.reason ≠ .rateLimit ∨ nonEmpty failure.modelId = none ∨ failure.modelId = some model

/-- A failure of the cooldown lane that hits a model leaves no window the model is let through. -/
theorem FailureEffect.hits {existing next : ProfileUsageStats} {now : ℚ} {failure : Failure}
    {whamResult : Option ℚ}
    (effect : FailureEffect existing next now failure.reason failure.modelId whamResult)
    (isLane : laneOf failure.reason = .cooldown) (hits : failure.Hits model) :
    scopedElsewhere next (some model) = false := by
  obtain ⟨reason_eq, model_eq⟩ := effect.scope isLane
  rw [Bool.eq_false_iff]
  intro elsewhere
  obtain ⟨own, scope, different⟩ := (scopedElsewhere_iff _ _).1 elsewhere
  rw [model_eq] at scope
  obtain ⟨limited, named, -⟩ := nextCooldownModel_spec scope.2
  rcases hits with notLimited | unknown | same
  · exact notLimited limited
  · have nonempty := ((nonEmpty_eq_some_iff _ _).1 scope.2).2
    rw [named, show nonEmpty (some own) = some own from
      (nonEmpty_eq_some_iff _ _).2 ⟨rfl, nonempty⟩] at unknown
    exact absurd unknown nofun
  · exact different.2 (same.symm.trans named)

/-- An open cooldown window that a caller is not let through stays so after any failure. -/
theorem FailureEffect.stays {existing next : ProfileUsageStats} {now : ℚ}
    {reason : AuthProfileFailureReason} {modelId : Option String} {whamResult : Option ℚ}
    (effect : FailureEffect existing next now reason modelId whamResult) (sound : Sound existing)
    (isOpen : Open (existing.untilOf .cooldown) now) {forModel : Option String}
    (covered : scopedElsewhere existing forModel = false) :
    scopedElsewhere next forModel = false := by
  rw [Bool.eq_false_iff] at covered ⊢
  refine mt (fun elsewhere => ?_) covered
  obtain ⟨own, scope, different⟩ := (scopedElsewhere_iff _ _).1 elsewhere
  cases lane_eq : laneOf reason with
  | disabled =>
    obtain ⟨reason_eq, model_eq⟩ := effect.unscoped lane_eq
    rw [reason_eq, model_eq] at scope
    exact (scopedElsewhere_iff _ _).2 ⟨own, scope, different⟩
  | cooldown =>
    rw [(effect.scope lane_eq).2] at scope
    have model : existing.cooldownModel = some own :=
      (nextCooldownModel_spec scope.2).2.2 isOpen
    have nonempty : nonEmpty existing.cooldownModel = some own :=
      (nonEmpty_eq_some_iff _ _).2 ⟨model, ((nonEmpty_eq_some_iff _ _).1 scope.2).2⟩
    have limited := sound.modelled (Option.isSome_iff_exists.2 ⟨own, nonempty⟩)
    exact (scopedElsewhere_iff _ _).2 ⟨own, ⟨limited, nonempty⟩, different⟩

/-- The step is taken while the window of a lane is open, and does not record a success. -/
def StaysOpen (lane : Lane) (world : World) (action : Action) : Prop :=
  WindowOpen lane world ∧ ∀ locked, action ≠ .used locked

/-- A caller for `model` is not let through while the window of a lane is open. -/
structure Covers (toLowerCase : String → String) (profile : AuthProfileCredential) (lane : Lane)
    (model : String) (world : World) : Prop where
  kept : Kept toLowerCase profile world
  covered : lane = .cooldown → scopedElsewhere world.stats (some model) = false

/-- A failure keeps the windows that are open. -/
theorem Kept.failure_keeps (cfg : Option AuthCooldowns) (kept : Kept toLowerCase profile world)
    (failure : Failure) {lane : Lane} {value : ℚ}
    (ends : world.stats.untilOf lane = some value) (later : world.now < value) :
    ∃ untilMs, (markAuthProfileFailure toLowerCase cfg world failure).stats.untilOf lane =
        some untilMs ∧ value ≤ untilMs ∧
      (failure.whamResult toLowerCase profile = none → untilMs = value) := by
  cases counts : isAuthCooldownBypassedForProvider toLowerCase (some profile.provider) with
  | true => exact absurd (ends.symm.trans (kept.bypassed counts lane)) nofun
  | false =>
    obtain ⟨existing, stats, alike, -, effect, -, next_eq⟩ := kept.failure_next cfg counts failure
    have existingEnds : existing.untilOf lane = some value := by
      rcases alike.ends lane with same | ⟨closed, -⟩
      · exact same ▸ ends
      · exact absurd ⟨value, ends, later⟩ closed
    rw [next_eq]
    exact effect.keeps lane value existingEnds later

/-- After a failure that hits a model, the open window of its lane covers the model. -/
theorem Kept.failure_covers (cfg : Option AuthCooldowns) (kept : Kept toLowerCase profile world)
    {failure : Failure} (hits : failure.Hits model) {lane : Lane}
    (isLane : lane = .cooldown → laneOf failure.reason = .cooldown)
    (isOpen : WindowOpen lane (markAuthProfileFailure toLowerCase cfg world failure)) :
    Covers toLowerCase profile lane model
      (markAuthProfileFailure toLowerCase cfg world failure) := by
  refine ⟨kept.failure failure, fun isCooldown => ?_⟩
  cases counts : isAuthCooldownBypassedForProvider toLowerCase (some profile.provider) with
  | true =>
    rw [kept.failure_bypassed counts] at isOpen
    obtain ⟨value, ends, -⟩ := isOpen
    exact absurd (ends.symm.trans (kept.bypassed counts lane)) nofun
  | false =>
    obtain ⟨existing, stats, -, -, effect, -, next_eq⟩ := kept.failure_next cfg counts failure
    rw [next_eq]
    exact effect.hits (isLane isCooldown) hits

/-- As long as the window stays open and no success is recorded, it goes on covering the model. -/
theorem Covers.step {lane : Lane}
    (covers : Covers toLowerCase profile lane model world) {action : Action}
    (stays : StaysOpen lane world action)
    (taken : step toLowerCase cfg world action = some next) :
    Covers toLowerCase profile lane model next := by
  obtain ⟨isOpen, noSuccess⟩ := stays
  refine ⟨covers.kept.step taken, fun isCooldown => ?_⟩
  subst isCooldown
  have covered := covers.covered rfl
  cases action with
  | failure failure =>
    obtain rfl := Option.some.inj taken
    cases counts : isAuthCooldownBypassedForProvider toLowerCase (some profile.provider) with
    | true =>
      rw [covers.kept.failure_bypassed counts]
      exact covered
    | false =>
      obtain ⟨existing, stats, alike, sound, effect, -, next_eq⟩ :=
        covers.kept.failure_next cfg counts failure
      rw [next_eq]
      refine effect.stays sound ((alike.open_iff .cooldown).1 isOpen) ?_
      rw [← alike.scopedElsewhere isOpen]
      exact covered
  | used locked => exact absurd rfl (noSuccess locked)
  | clearExpired =>
    obtain rfl := Option.some.inj taken
    rcases stats_clearExpiredCooldowns world with cleared | same
    · have alike := clearExpired_alike world.stats world.now
      rw [cleared, alike.scopedElsewhere ((alike.open_iff .cooldown).2 isOpen)]
      exact covered
    · rw [same]
      exact covered
  | advance elapsed =>
    obtain ⟨-, taken⟩ := Option.ite_none_right_eq_some.1 taken
    obtain rfl := Option.some.inj taken
    exact covered

/-- A profile is unavailable for a model its open window covers. -/
theorem Covers.isProfileInCooldown {lane : Lane}
    (covers : Covers toLowerCase profile lane model world) (isOpen : WindowOpen lane world) :
    isProfileInCooldown toLowerCase world.memory world.now (some model) = true := by
  have counts : isAuthCooldownBypassedForProvider toLowerCase (some profile.provider) = false := by
    by_contra bypassed
    obtain ⟨value, ends, -⟩ := isOpen
    exact absurd (ends.symm.trans
      (covers.kept.bypassed (Bool.not_eq_false _ ▸ bypassed) lane)) nofun
  rw [isProfileInCooldown_iff toLowerCase _ covers.kept.clock, covers.kept.memory]
  refine ⟨counts, ?_⟩
  cases lane with
  | cooldown => exact .inr ⟨isOpen, covers.covered rfl⟩
  | disabled => exact .inl isOpen

/-- The first failure after all windows are over counts one error. -/
theorem Kept.failure_errorCount (cfg : Option AuthCooldowns)
    (kept : Kept toLowerCase profile world)
    (counts : isAuthCooldownBypassedForProvider toLowerCase (some profile.provider) = false)
    (closed : ∀ lane, ¬WindowOpen lane world) (failure : Failure) :
    (markAuthProfileFailure toLowerCase cfg world failure).stats.errorCount = some 1 := by
  obtain ⟨existing, stats, alike, sound, -, counted, next_eq⟩ :=
    kept.failure_next cfg counts failure
  rw [next_eq]
  refine counted.trans (sound.errorCount_one kept.clock (fun lane isOpen => ?_) _ _)
  exact closed lane ((alike.open_iff lane).2 isOpen)

end Runs

/-- Cooldowns hold and end. In every run on a profile: an open window is kept by later failures, and
moved only by the usage probe and only later; a window in which a failure hit a model (for a
cooldown window a failure of the cooldown lane) keeps the profile unavailable for the model until
it is over or a success is recorded; the first failure after all windows are over counts one error;
and whether expired windows are cleared before a failure is not seen. -/
theorem cooldowns_hold_and_end (toLowerCase : String → String) (cfg : Option AuthCooldowns)
    (profile : AuthProfileCredential) (start world : World) (actions : List Action)
    (isStart : Start profile start)
    (run : Steps (step toLowerCase cfg) Unguarded start actions world) :
    (∀ failure next lane value, step toLowerCase cfg world (.failure failure) = some next →
      world.stats.untilOf lane = some value → world.now < value →
      ∃ untilMs, next.stats.untilOf lane = some untilMs ∧ value ≤ untilMs ∧
        (failure.whamResult toLowerCase profile = none → untilMs = value)) ∧
    (∀ failure next lane model later laterActions,
      step toLowerCase cfg world (.failure failure) = some next → failure.Hits model →
      (lane = .cooldown → laneOf failure.reason = .cooldown) →
      Steps (step toLowerCase cfg) (StaysOpen lane) next laterActions later →
      WindowOpen lane next → WindowOpen lane later →
      isProfileInCooldown toLowerCase later.memory later.now (some model) = true) ∧
    (isAuthCooldownBypassedForProvider toLowerCase (some profile.provider) = false →
      (∀ lane, ¬WindowOpen lane world) → ∀ failure next,
      step toLowerCase cfg world (.failure failure) = some next →
      next.stats.errorCount = some 1) ∧
    (∀ store now later reason modelId whamResult forModel, 0 < now → now ≤ later →
      isProfileInCooldown toLowerCase
          (failureUpdater toLowerCase cfg (clearExpiredCooldowns store now) now reason modelId
            whamResult) later forModel =
        isProfileInCooldown toLowerCase
          (failureUpdater toLowerCase cfg store now reason modelId whamResult) later forModel) := by
  have kept : Kept toLowerCase profile world :=
    run.invariant (fun _ _ _ held _ taken => Kept.step held taken) isStart.kept
  refine ⟨?_, ?_, ?_, ?_⟩
  · rintro failure next lane value taken ends later
    obtain rfl := Option.some.inj taken
    exact kept.failure_keeps cfg failure ends later
  · rintro failure next lane model later laterActions taken hits isLane laterRun opened isOpen
    obtain rfl := Option.some.inj taken
    have covers : Covers toLowerCase profile lane model later :=
      laterRun.invariant (fun _ _ _ held stays step => Covers.step held stays step)
        (kept.failure_covers cfg hits isLane opened)
    exact covers.isProfileInCooldown isOpen
  · rintro counts closed failure next taken
    obtain rfl := Option.some.inj taken
    exact kept.failure_errorCount cfg counts closed failure
  · intro store now later reason modelId whamResult forModel positive order
    exact isProfileInCooldown_failureUpdater_clearExpired toLowerCase cfg store positive order reason
      modelId whamResult forModel

/-! ### A scoped cooldown outlives a disabled window -/

/-- An unused key, a millisecond into the epoch. -/
def freshKey : World where
  now := 1
  memory := { profile := some { type := .apiKey, provider := "anthropic" } }
  disk := { profile := some { type := .apiKey, provider := "anthropic" } }

theorem step_advance (toLowerCase : String → String) (cfg : Option AuthCooldowns) (world : World)
    {elapsed : ℚ} (forward : 0 ≤ elapsed) :
    step toLowerCase cfg world (.advance elapsed) = some (world.advanced elapsed) := if_pos forward

/-- A permanent-auth failure, and a rate limit of one model just before its window is over. -/
def limitedLate : World :=
  markAuthProfileFailure id none
    ((markAuthProfileFailure id none freshKey { reason := .authPermanent }).advanced 590000)
    { reason := .rateLimit, modelId := some "opus" }

theorem limitedLate_run : Steps (step id none) Unguarded freshKey
    [.failure { reason := .authPermanent }, .advance 590000,
      .failure { reason := .rateLimit, modelId := some "opus" }] limitedLate :=
  .cons trivial rfl (.cons trivial (step_advance _ _ _ (by norm_num)) (.cons trivial rfl (.nil _)))

/-- While the disabled window lasts, a permanent-auth failure covers the models a cooldown lets
through. -/
theorem permanent_failure_covers_other_models :
    isProfileInCooldown id
      (markAuthProfileFailure id none limitedLate { reason := .authPermanent }).memory 590001
      (some "sonnet") = true := by
  have opened : WindowOpen .disabled
      (markAuthProfileFailure id none limitedLate { reason := .authPermanent }) :=
    (any_lt_iff _ _).1 (by decide +kernel)
  have unavailable := (cooldowns_hold_and_end id none { type := .apiKey, provider := "anthropic" }
    freshKey limitedLate _ ⟨by norm_num [freshKey], rfl, rfl⟩ limitedLate_run).2.1
    { reason := .authPermanent } _ .disabled "sonnet" _ [] rfl (.inl nofun) nofun (.nil _) opened
    opened
  rw [show (590001 : ℚ) =
    (markAuthProfileFailure id none limitedLate { reason := .authPermanent }).now by decide +kernel]
  exact unavailable

/-- A permanent-auth failure during a cooldown that is scoped to one model is profile-wide, and yet
the other models are back, with the cooldown still running, when the disabled window is over. -/
theorem disabled_failure_leaves_cooldown_scoped :
    ¬∀ (toLowerCase : String → String) (cfg : Option AuthCooldowns)
      (profile : AuthProfileCredential) (start world next later : World)
      (actions laterActions : List Action) (failure : Failure) (lane : Lane) (model : String),
      Start profile start → Steps (step toLowerCase cfg) Unguarded start actions world →
      step toLowerCase cfg world (.failure failure) = some next → failure.Hits model →
      Steps (step toLowerCase cfg) (StaysOpen lane) next laterActions later →
      WindowOpen lane next → WindowOpen lane later →
      isProfileInCooldown toLowerCase later.memory later.now (some model) = true := by
  intro claimed
  have opened : WindowOpen .cooldown
      (markAuthProfileFailure id none limitedLate { reason := .authPermanent }) :=
    (any_lt_iff _ _).1 (by decide +kernel)
  have unavailable := claimed id none { type := .apiKey, provider := "anthropic" } freshKey limitedLate
    (markAuthProfileFailure id none limitedLate { reason := .authPermanent })
    ((markAuthProfileFailure id none limitedLate { reason := .authPermanent }).advanced 20000)
    _ [.advance 20000] { reason := .authPermanent } .cooldown "sonnet"
    ⟨by norm_num [freshKey], rfl, rfl⟩ limitedLate_run rfl (.inl nofun)
    (.single ⟨opened, nofun⟩ (step_advance _ _ _ (by norm_num))) opened
    ((any_lt_iff _ _).1 (by decide +kernel))
  exact absurd unavailable (by decide +kernel)

end OpenClaw.Auth
