/-
This file says what the overlay of a user can do to the policy of an instance.

With the policy `none` it does nothing. With `allowlist-extend` it only adds to lists of
tools, since what the instance has comes first and is kept, but an entry of a skill or a
server is laid over that of the instance field by field, and there the user wins. Under
every policy the global deny list of the user is read without the names of tools that are
not removable.

Lists of tools are compared by the names they list, which are what is left of their
entries after trimming.
-/

import OpenClaw.Config.ClawifyScope

namespace OpenClaw.Config

open Text

/-! ### Names -/

/-- The list has an entry for a tool. -/
def Lists (list : Option (List String)) (name : String) : Prop :=
  name ≠ "" ∧ ∃ entry ∈ list.getD [], trim entry = name

variable {name : String} {value : Option (List String)}

theorem mem_dedupeFrom {seen values : List String} :
    name ∈ dedupeFrom seen values ↔
      name ∉ seen ∧ name ≠ "" ∧ ∃ value ∈ values, trim value = name := by
  induction values generalizing seen with
  | nil => simp [dedupeFrom]
  | cons value rest inductionHypothesis =>
    rw [dedupeFrom]
    split
    next skipped =>
      rw [inductionHypothesis]
      refine and_congr_right fun fresh => and_congr_right fun filled => ?_
      rw [List.exists_mem_cons_iff, or_iff_right]
      rintro rfl
      exact skipped.elim filled fresh
    next kept =>
      rw [not_or] at kept
      rw [List.mem_cons, inductionHypothesis, List.mem_cons, List.exists_mem_cons_iff]
      constructor
      · rintro (rfl | ⟨fresh, filled, later⟩)
        · exact ⟨kept.2, kept.1, .inl rfl⟩
        · exact ⟨fun member => fresh (.inr member), filled, .inr later⟩
      · rintro ⟨fresh, filled, rfl | later⟩
        · exact .inl rfl
        · by_cases same : name = trim value
          · exact .inl same
          · exact .inr ⟨not_or.2 ⟨same, fresh⟩, filled, later⟩

theorem mem_dedupeStrings {values : List String} :
    name ∈ dedupeStrings values ↔ Lists (some values) name := by
  rw [dedupeStrings, mem_dedupeFrom, and_iff_right List.not_mem_nil]
  rfl

theorem mem_normalizeStringArray :
    name ∈ normalizeStringArray value ↔ Lists value name := by
  rw [normalizeStringArray, mem_dedupeStrings]
  rfl

/-- A list of names lists its names. -/
theorem lists_dedupeStrings {values : List String} :
    Lists (some (dedupeStrings values)) name ↔ Lists (some values) name := by
  constructor
  · rintro ⟨filled, entry, member, rfl⟩
    obtain ⟨-, value, isValue, rfl⟩ := mem_dedupeStrings.1 member
    exact ⟨filled, value, isValue, (trim_trim value).symm⟩
  · intro lists
    have member := mem_dedupeStrings.2 lists
    obtain ⟨filled, value, -, same⟩ := lists
    exact ⟨filled, name, member, same ▸ trim_trim value⟩

theorem lists_append {first second : List String} :
    Lists (some (first ++ second)) name ↔ Lists (some first) name ∨ Lists (some second) name := by
  unfold Lists
  rw [← and_or_left]
  refine and_congr_right fun _ => ?_
  simp only [Option.getD_some, List.mem_append, or_and_right, exists_or]

theorem lists_extended {base : Option (List String)} {additions : List String} :
    Lists (extended base additions) name ↔ Lists base name ∨ Lists (some additions) name := by
  rw [extended]
  split
  next none =>
    rw [List.isEmpty_iff.1 none]
    exact (or_iff_left fun ⟨_, _, member, _⟩ => List.not_mem_nil member).symm
  next =>
    rw [lists_dedupeStrings, lists_append]
    rfl

theorem lists_normalizeStringArray :
    Lists (some (normalizeStringArray value)) name ↔ Lists value name :=
  lists_dedupeStrings

/-- Of the names a user denies, those that are protected are left out. -/
theorem lists_filterProtectedDeny {protectedNames : List String} :
    Lists (some (filterProtectedDeny (normalizeStringArray value) protectedNames)) name ↔
      Lists value name ∧ name ∉ protectedNames := by
  have own : ∀ entry ∈ normalizeStringArray value, trim entry = entry := by
    intro entry member
    obtain ⟨-, raw, -, rfl⟩ := mem_normalizeStringArray.1 member
    exact trim_trim raw
  constructor
  · rintro ⟨filled, entry, member, rfl⟩
    obtain ⟨isEntry, unprotected⟩ := List.mem_filter.1 member
    rw [own entry isEntry]
    exact ⟨mem_normalizeStringArray.1 isEntry, of_decide_eq_true unprotected⟩
  · rintro ⟨lists, unprotected⟩
    have isEntry := mem_normalizeStringArray.2 lists
    exact ⟨lists.1, name, List.mem_filter.2 ⟨isEntry, decide_eq_true unprotected⟩, own name isEntry⟩

/-! ### Tools -/

/-- A policy that has been extended: what was denied or allowed still is, what has come in is the
overlay's, and the profile is the overlay's only if there was none. -/
structure PolicyExtended (before overlay after : ToolPolicyConfig) : Prop where
  stillDenied : ∀ name, Lists before.deny name → Lists after.deny name
  denied : ∀ name, Lists after.deny name → Lists before.deny name ∨ Lists overlay.deny name
  allow : after.allow = before.allow
  alsoAllow : ∀ name, Lists after.alsoAllow name ↔
    Lists before.alsoAllow name ∨ Lists overlay.allow name ∨ Lists overlay.alsoAllow name
  profile : after.profile = before.profile.or overlay.profile

theorem lists_allowAdditions {overlay : ToolPolicyConfig} :
    Lists (some (dedupeStrings (normalizeStringArray overlay.allow ++
        normalizeStringArray overlay.alsoAllow))) name ↔
      Lists overlay.allow name ∨ Lists overlay.alsoAllow name := by
  rw [lists_dedupeStrings, lists_append, lists_normalizeStringArray, lists_normalizeStringArray]

theorem extended_mergeToolPolicyRecord (base : Option ToolPolicyConfig)
    (overlay : ToolPolicyConfig) :
    PolicyExtended (base.getD .empty) overlay
      (mergeToolPolicyRecord base overlay .allowlistExtend) where
  stillDenied name isDenied := lists_extended.2 (.inl isDenied)
  denied name isDenied := (lists_extended.1 isDenied).imp_right lists_normalizeStringArray.1
  allow := rfl
  alsoAllow name := lists_extended.trans (or_congr_right lists_allowAdditions)
  profile := rfl

section Sections

variable {Json : Type}

/-- The policy for a provider, the empty one when there is none. -/
def providerPolicy (byProvider : Option (OrderedMap String ToolPolicyConfig)) (provider : String) :
    ToolPolicyConfig :=
  (byProvider.bind (·.get provider)).getD .empty

/-- A tools section that has been extended. -/
structure ToolsExtended (before after : ToolsConfig Json) (overlay : ClawifyScopedToolsConfig) :
    Prop where
  policy : PolicyExtended before.toToolPolicyConfig overlay.toToolPolicyConfig
    after.toToolPolicyConfig
  providers : ∀ provider, PolicyExtended (providerPolicy before.byProvider provider)
    (providerPolicy overlay.byProvider provider) (providerPolicy after.byProvider provider)
  rest : after.rest = before.rest

theorem PolicyExtended.refl (policy : ToolPolicyConfig) : PolicyExtended policy .empty policy where
  stillDenied _ := id
  denied _ := .inl
  allow := rfl
  alsoAllow name := (or_iff_left fun none =>
    none.elim (fun ⟨_, _, member, _⟩ => List.not_mem_nil member)
      fun ⟨_, _, member, _⟩ => List.not_mem_nil member).symm
  profile := (Option.or_none).symm

/-- Each provider's policy is merged with the one the overlay has for it. -/
theorem extended_mergeByProvider (before overlay : Option (OrderedMap String ToolPolicyConfig))
    (provider : String) :
    PolicyExtended (providerPolicy before provider) (providerPolicy overlay provider)
      (providerPolicy (mergeByProvider before overlay .allowlistExtend) provider) := by
  cases overlay with
  | none => exact .refl _
  | some byProvider =>
    have lower : (before.getD ∅).get provider = before.bind (·.get provider) := by
      cases before <;> rfl
    simp only [mergeByProvider, providerPolicy, Option.bind_some, OrderedMap.get_overlay, lower]
    cases byProvider.get provider with
    | none => exact .refl _
    | some policy => exact extended_mergeToolPolicyRecord _ policy

theorem extended_mergeScopedPolicy (next overlay : ToolPolicyConfig)
    (protectedNames : List String) :
    PolicyExtended next overlay
      (mergeScopedPolicy next overlay .allowlistExtend protectedNames) where
  stillDenied name isDenied := lists_extended.2 (.inl isDenied)
  denied name isDenied :=
    (lists_extended.1 isDenied).imp_right fun added => (lists_filterProtectedDeny.1 added).1
  allow := rfl
  alsoAllow name := lists_extended.trans (or_congr_right lists_allowAdditions)
  profile := rfl

theorem extended_mergeScopedTools (base : Option (ToolsConfig Json))
    (overlay : Option ClawifyScopedToolsConfig) (protectedNames : List String) :
    ToolsExtended (base.getD .empty)
      ((mergeScopedTools base overlay .allowlistExtend protectedNames).getD .empty)
      (overlay.getD { ToolPolicyConfig.empty with byProvider := none }) := by
  cases overlay with
  | none => exact ⟨.refl _, fun provider => extended_mergeByProvider _ none provider, rfl⟩
  | some overlay =>
    exact ⟨extended_mergeScopedPolicy _ _ protectedNames,
      fun provider => extended_mergeByProvider _ _ provider, rfl⟩

/-- The global deny list of a tools section. -/
def globalDeny (tools : Option (ToolsConfig Json)) : Option (List String) := tools.bind (·.deny)

/-- A protected name is on the global deny list only if it was there before. -/
theorem denied_of_mergeScopedTools {base : Option (ToolsConfig Json)}
    {overlay : Option ClawifyScopedToolsConfig} {mode : ClawifyUserMutationPolicy}
    {protectedNames : List String} {name : String} (isProtected : name ∈ protectedNames)
    (isDenied : Lists (globalDeny (mergeScopedTools base overlay mode protectedNames)) name) :
    Lists (globalDeny base) name := by
  cases overlay with
  | none => exact isDenied
  | some overlay =>
    have start : Lists (base.getD .empty).deny name → Lists (globalDeny base) name := by
      cases base with
      | none => exact fun ⟨_, _, member, _⟩ => absurd member List.not_mem_nil
      | some base => exact id
    have isDenied : Lists (mergeScopedPolicy (base.getD .empty).toToolPolicyConfig
      overlay.toToolPolicyConfig mode protectedNames).deny name := isDenied
    rw [mergeScopedPolicy] at isDenied
    split at isDenied
    · rcases lists_extended.1 isDenied with before | added
      · exact start before
      · exact absurd isProtected (lists_filterProtectedDeny.1 added).2
    · dsimp only at isDenied
      split at isDenied
      · exact absurd isProtected (lists_filterProtectedDeny.1 isDenied).2
      · exact start isDenied

/-! ### Skills and servers -/

/-- A field of an entry. -/
def fieldOf (entries : Option (OrderedMap String (Fields Json))) (key field : String) :
    Option Json :=
  (entries.bind (·.get key)).bind (·.get field)

/-- Entries laid over others field by field. -/
structure EntriesLaidOver (before overlay after : Option (OrderedMap String (Fields Json))) :
    Prop where
  present : ∀ key, (after.bind (·.get key)).isSome =
    ((before.bind (·.get key)).isSome || (overlay.bind (·.get key)).isSome)
  fields : ∀ key field, fieldOf after key field =
    (fieldOf overlay key field).or (fieldOf before key field)

theorem entriesLaidOver_overlay (before : Option (OrderedMap String (Fields Json)))
    (overlay : OrderedMap String (Fields Json)) :
    EntriesLaidOver before (some overlay) (some ((before.getD ∅).overlay
      (fun base entry => (base.getD ∅).spread entry) overlay)) := by
  have lower : ∀ key, (before.getD ∅).get key = before.bind (·.get key) := by
    intro key
    cases before <;> rfl
  constructor
  · intro key
    rw [Option.bind_some, Option.bind_some, OrderedMap.get_overlay, lower]
    cases overlay.get key with
    | none => rw [Option.isSome_none, Bool.or_false]
    | some entry => rw [Option.isSome_some, Option.isSome_some, Bool.or_true]
  · intro key field
    unfold fieldOf
    rw [Option.bind_some, Option.bind_some, OrderedMap.get_overlay, lower]
    cases overlay.get key with
    | none => rfl
    | some entry =>
      dsimp only
      rw [Option.bind_some, Option.bind_some, OrderedMap.get_spread]
      cases before.bind (·.get key) <;> rfl

theorem entriesLaidOver_none (before : Option (OrderedMap String (Fields Json))) :
    EntriesLaidOver before none before :=
  ⟨fun _ => (Bool.or_false _).symm, fun _ _ => rfl⟩

theorem entriesLaidOver_mergeSkillEntries (base overlay : Option (SkillsConfig Json)) :
    EntriesLaidOver (base.bind (·.entries)) (overlay.bind (·.entries))
        ((mergeSkillEntries base overlay .allowlistExtend).bind (·.entries)) ∧
      ((mergeSkillEntries base overlay .allowlistExtend).map (·.rest)).getD ∅ =
        (base.map (·.rest)).getD ∅ := by
  cases overlay with
  | none => exact ⟨entriesLaidOver_none _, rfl⟩
  | some overlay =>
    obtain ⟨_ | entries, rest⟩ := overlay
    · exact ⟨entriesLaidOver_none _, rfl⟩
    · cases base with
      | none => exact ⟨entriesLaidOver_overlay none entries, rfl⟩
      | some base => exact ⟨entriesLaidOver_overlay base.entries entries, rfl⟩

theorem entriesLaidOver_mergeMcpConfig (base overlay : Option (McpConfig Json))
    (mode : ClawifyUserMutationPolicy) :
    EntriesLaidOver (base.bind (·.servers)) (overlay.bind (·.servers))
        ((mergeMcpConfig base overlay mode).bind (·.servers)) ∧
      ((mergeMcpConfig base overlay mode).map (·.rest)).getD ∅ =
        (base.map (·.rest)).getD ∅ := by
  cases overlay with
  | none => exact ⟨entriesLaidOver_none _, rfl⟩
  | some overlay =>
    obtain ⟨_ | servers, rest⟩ := overlay
    · exact ⟨entriesLaidOver_none _, rfl⟩
    · cases base with
      | none => exact ⟨entriesLaidOver_overlay none servers, rfl⟩
      | some base => exact ⟨entriesLaidOver_overlay base.servers servers, rfl⟩

/-- How the config of a user relates to the one of the instance. -/
structure PolicyKept (scopedInstance : ClawifyInstanceConfig Json)
    (scopedUser : ClawifyUserConfig Json) (shared own : OpenClawConfig Json) : Prop where
  tools_none : resolveMutationPolicy (scopedInstance.userPolicy.bind (·.tools)) = .none →
    own.tools = shared.tools
  skills_none : resolveMutationPolicy (scopedInstance.userPolicy.bind (·.skills)) = .none →
    own.skills = shared.skills
  mcp_none : resolveMutationPolicy (scopedInstance.userPolicy.bind (·.mcp)) = .none →
    own.mcp = shared.mcp
  tools_extended :
    resolveMutationPolicy (scopedInstance.userPolicy.bind (·.tools)) = .allowlistExtend →
      ToolsExtended (shared.tools.getD .empty) (own.tools.getD .empty)
        (scopedUser.tools.getD { ToolPolicyConfig.empty with byProvider := none })
  skills_extended :
    resolveMutationPolicy (scopedInstance.userPolicy.bind (·.skills)) = .allowlistExtend →
      EntriesLaidOver (shared.skills.bind (·.entries)) (scopedUser.skills.bind (·.entries))
          (own.skills.bind (·.entries)) ∧
        (own.skills.map (·.rest)).getD ∅ = (shared.skills.map (·.rest)).getD ∅
  mcp_extended : resolveMutationPolicy (scopedInstance.userPolicy.bind (·.mcp)) = .allowlistExtend →
    EntriesLaidOver (shared.mcp.bind (·.servers)) (scopedUser.mcp.bind (·.servers))
        (own.mcp.bind (·.servers)) ∧
      (own.mcp.map (·.rest)).getD ∅ = (shared.mcp.map (·.rest)).getD ∅
  notRemovable : ∀ name ∈ collectNonRemovableToolNames scopedInstance.customTools,
    Lists (globalDeny own.tools) name → Lists (globalDeny shared.tools) name

/-- What a user can change of the config of an instance. -/
theorem user_overlay_keeps_policy {cfg : OpenClawConfig Json} {instanceId userId : Option String}
    {scopedInstance : ClawifyInstanceConfig Json} {scopedUser : ClawifyUserConfig Json}
    (isInstance : resolveClawifyInstanceConfig cfg instanceId = some scopedInstance)
    (isUser : resolveUser scopedInstance userId = some scopedUser) :
    PolicyKept scopedInstance scopedUser (applyClawifyScopeToConfig cfg ⟨instanceId, none⟩)
      (applyClawifyScopeToConfig cfg ⟨instanceId, userId⟩) := by
  have isShared : applyClawifyScopeToConfig cfg ⟨instanceId, none⟩ =
      applyInstance cfg scopedInstance := by
    unfold applyClawifyScopeToConfig
    dsimp only
    rw [isInstance]
    rfl
  have isOwn : applyClawifyScopeToConfig cfg ⟨instanceId, userId⟩ =
      applyUser (applyInstance cfg scopedInstance) scopedInstance scopedUser := by
    unfold applyClawifyScopeToConfig
    dsimp only
    rw [isInstance]
    dsimp only
    rw [isUser]
  rw [isShared, isOwn]
  constructor
  case tools_none => exact fun is => if_pos is
  case skills_none => exact fun is => if_pos is
  case mcp_none => exact fun is => if_pos is
  case tools_extended =>
    intro is
    rw [applyUser, is]
    exact extended_mergeScopedTools _ _ _
  case skills_extended =>
    intro is
    rw [applyUser, is]
    exact entriesLaidOver_mergeSkillEntries _ _
  case mcp_extended =>
    intro is
    rw [applyUser, is]
    exact entriesLaidOver_mergeMcpConfig _ _ .allowlistExtend
  case notRemovable =>
    intro name isProtected isDenied
    rw [applyUser] at isDenied
    dsimp only at isDenied
    split at isDenied
    · exact isDenied
    · exact denied_of_mergeScopedTools isProtected isDenied

end Sections

/-! ### An instance that disables a skill -/

/-- A map with one entry. -/
def sole {Value : Type} (key : String) (value : Value) : OrderedMap String Value :=
  ⟨[(key, value)], List.nodup_singleton key⟩

def weatherUser : ClawifyUserConfig Bool where
  tools := some { ToolPolicyConfig.empty with deny := some ["audit_log"], byProvider := none }
  skills := some ⟨some (sole "weather" (sole "enabled" true)), ∅⟩
  mcp := none

/-- The instance disables a skill that its user enables. -/
def weatherInstance : ClawifyInstanceConfig Bool where
  tools := none
  skills := some ⟨some (sole "weather" (sole "enabled" false)), ∅⟩
  mcp := none
  customTools := some (sole "audit" ⟨"audit_log", some false⟩)
  userPolicy := none
  users := some (sole "user-1" weatherUser)

def weatherConfig : OpenClawConfig Bool :=
  ⟨none, none, none, some ⟨some "app-1", some (sole "app-1" weatherInstance)⟩⟩

theorem weatherConfig_instance :
    resolveClawifyInstanceConfig weatherConfig none = some weatherInstance := by
  have requested : (normalizeOptionalString none).or (normalizeOptionalString (some "app-1")) =
      some "app-1" := by decide
  unfold resolveClawifyInstanceConfig
  dsimp only
  rw [show weatherConfig.clawify.bind (·.defaultInstanceId) = some "app-1" from rfl, requested]
  rfl

theorem weatherConfig_user : resolveUser weatherInstance (some "user-1") = some weatherUser := by
  have requested : normalizeOptionalString (some "user-1") = some "user-1" := by decide
  rw [resolveUser, requested]
  rfl

theorem user_overlay_keeps_policy_weather :
    PolicyKept weatherInstance weatherUser (applyClawifyScopeToConfig weatherConfig ⟨none, none⟩)
      (applyClawifyScopeToConfig weatherConfig ⟨none, some "user-1"⟩) :=
  user_overlay_keeps_policy weatherConfig_instance weatherConfig_user

/-- The user's entry is laid over the one of the instance, and the skill is enabled. -/
theorem user_overlay_changes_skills :
    ¬∀ (cfg : OpenClawConfig Bool) (instanceId userId : Option String)
      (scopedInstance : ClawifyInstanceConfig Bool) (scopedUser : ClawifyUserConfig Bool),
      resolveClawifyInstanceConfig cfg instanceId = some scopedInstance →
      resolveUser scopedInstance userId = some scopedUser →
      resolveMutationPolicy (scopedInstance.userPolicy.bind (·.skills)) = .allowlistExtend →
      ∀ key entry,
        ((applyClawifyScopeToConfig cfg ⟨instanceId, none⟩).skills.bind (·.entries)).bind
            (·.get key) = some entry →
          ((applyClawifyScopeToConfig cfg ⟨instanceId, userId⟩).skills.bind (·.entries)).bind
            (·.get key) = some entry := by
  intro claim
  have kept := claim weatherConfig none (some "user-1") weatherInstance weatherUser
    weatherConfig_instance weatherConfig_user (by decide) "weather" (sole "enabled" false) (by decide +kernel)
  exact absurd kept (by decide +kernel)

end OpenClaw.Config
