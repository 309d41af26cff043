/-
This file is `config/clawify-scope.ts`: the config an instance and one of its users see.

The sections of the instance are laid over those of the config, and the sections of the
user over the result as far as the instance's policy lets a user change them. What the
fields of a section mean is left open: a value of the config is a `Json`.
-/

import OpenClaw.Base.Overlay
import OpenClaw.Shared.Text

namespace OpenClaw.Config

open Text

inductive ToolProfileId
  | minimal
  | coding
  | messaging
  | full
  deriving DecidableEq, Repr

structure ToolPolicyConfig where
  allow : Option (List String)
  alsoAllow : Option (List String)
  deny : Option (List String)
  profile : Option ToolProfileId
  deriving DecidableEq

/-- `{}`. -/
def ToolPolicyConfig.empty : ToolPolicyConfig := ⟨none, none, none, none⟩

/-- The tools section of an instance or a user. -/
structure ClawifyScopedToolsConfig extends ToolPolicyConfig where
  byProvider : Option (OrderedMap String ToolPolicyConfig)
  deriving DecidableEq

structure ClawifyCustomToolDefinition where
  name : String
  removable : Option Bool
  deriving DecidableEq

inductive ClawifyUserMutationPolicy
  | none
  | allowlistExtend
  | replace
  deriving DecidableEq, Repr

structure ClawifyUserPolicyConfig where
  tools : Option String
  skills : Option String
  mcp : Option String
  deriving DecidableEq

section Sections

variable (Json : Type)

/-- An object of the config by its fields. -/
abbrev Fields := OrderedMap String Json

/-- The tools section of the config; `rest` are the fields a scope does not touch. -/
structure ToolsConfig extends ToolPolicyConfig where
  byProvider : Option (OrderedMap String ToolPolicyConfig)
  rest : Fields Json

structure SkillsConfig where
  entries : Option (OrderedMap String (Fields Json))
  rest : Fields Json

structure McpConfig where
  servers : Option (OrderedMap String (Fields Json))
  rest : Fields Json

structure ClawifyUserConfig where
  tools : Option ClawifyScopedToolsConfig
  skills : Option (SkillsConfig Json)
  mcp : Option (McpConfig Json)

structure ClawifyInstanceConfig where
  tools : Option ClawifyScopedToolsConfig
  skills : Option (SkillsConfig Json)
  mcp : Option (McpConfig Json)
  customTools : Option (OrderedMap String ClawifyCustomToolDefinition)
  userPolicy : Option ClawifyUserPolicyConfig
  users : Option (OrderedMap String (ClawifyUserConfig Json))

structure ClawifyConfig where
  defaultInstanceId : Option String
  instances : Option (OrderedMap String (ClawifyInstanceConfig Json))

structure OpenClawConfig where
  tools : Option (ToolsConfig Json)
  skills : Option (SkillsConfig Json)
  mcp : Option (McpConfig Json)
  clawify : Option (ClawifyConfig Json)

structure ClawifyScope where
  instanceId : Option String
  userId : Option String

end Sections

/-! ### Lists of names -/

def dedupeFrom (seen : List String) : List String → List String
  | [] => []
  | value :: rest =>
    let normalized := trim value
    if normalized = "" ∨ normalized ∈ seen then dedupeFrom seen rest
    else normalized :: dedupeFrom (normalized :: seen) rest

def dedupeStrings (values : List String) : List String := dedupeFrom [] values

/-- `normalizeStringArray(value) ?? []`. -/
def normalizeStringArray (value : Option (List String)) : List String :=
  dedupeStrings (value.getD [])

/-! ### Tools -/

/-- What the overlay's lists come to once they are set. -/
def replaced (overlay base : Option (List String)) : Option (List String) :=
  match overlay with
  | some _ => some (normalizeStringArray overlay)
  | none => base

/-- A list with additions, which stays as it is when there are none. -/
def extended (base : Option (List String)) (additions : List String) : Option (List String) :=
  if additions.isEmpty then base else some (dedupeStrings (base.getD [] ++ additions))

def mergeToolPolicyRecord (base : Option ToolPolicyConfig) (overlay : ToolPolicyConfig)
    (mode : ClawifyUserMutationPolicy) : ToolPolicyConfig :=
  let next := base.getD .empty
  if mode = .allowlistExtend then
    let allowAdditions := dedupeStrings
      (normalizeStringArray overlay.allow ++ normalizeStringArray overlay.alsoAllow)
    { allow := next.allow
      alsoAllow := extended next.alsoAllow allowAdditions
      deny := extended next.deny (normalizeStringArray overlay.deny)
      profile := next.profile.or overlay.profile }
  else
    { allow := replaced overlay.allow next.allow
      alsoAllow := replaced overlay.alsoAllow next.alsoAllow
      deny := replaced overlay.deny next.deny
      profile := overlay.profile.or next.profile }

def collectNonRemovableToolNames
    (customTools : Option (OrderedMap String ClawifyCustomToolDefinition)) : List String :=
  match customTools with
  | none => []
  | some customTools => (customTools.values.filter fun definition =>
      definition.removable = some false && definition.name ≠ "").map (·.name)

/-- `filterProtectedDeny(deny, protectedNames) ?? []`. -/
def filterProtectedDeny (deny protectedNames : List String) : List String :=
  deny.filter fun name => name ∉ protectedNames

/-- What `mergeScopedTools` does to the policy of the section itself. -/
def mergeScopedPolicy (next overlay : ToolPolicyConfig) (mode : ClawifyUserMutationPolicy)
    (protectedNames : List String) : ToolPolicyConfig :=
  if mode = .allowlistExtend then
    let allowAdditions := dedupeStrings
      (normalizeStringArray overlay.allow ++ normalizeStringArray overlay.alsoAllow)
    let denyAdditions := filterProtectedDeny (normalizeStringArray overlay.deny) protectedNames
    { allow := next.allow
      alsoAllow := extended next.alsoAllow allowAdditions
      deny := extended next.deny denyAdditions
      profile := next.profile.or overlay.profile }
  else
    { allow := replaced overlay.allow next.allow
      alsoAllow := replaced overlay.alsoAllow next.alsoAllow
      deny := match overlay.deny with
        | some _ => some (filterProtectedDeny (normalizeStringArray overlay.deny) protectedNames)
        | none => next.deny
      profile := overlay.profile.or next.profile }

/-- What `mergeScopedTools` does to the policies for providers. -/
def mergeByProvider (next overlay : Option (OrderedMap String ToolPolicyConfig))
    (mode : ClawifyUserMutationPolicy) : Option (OrderedMap String ToolPolicyConfig) :=
  match overlay with
  | none => next
  | some byProvider => some ((next.getD ∅).overlay
      (fun base providerPolicy => mergeToolPolicyRecord base providerPolicy mode) byProvider)

section Merge

variable {Json : Type}

/-- `{}`. -/
def ToolsConfig.empty : ToolsConfig Json :=
  { ToolPolicyConfig.empty with byProvider := none, rest := ∅ }

def mergeScopedTools (base : Option (ToolsConfig Json)) (overlay : Option ClawifyScopedToolsConfig)
    (mode : ClawifyUserMutationPolicy) (protectedNames : List String) :
    Option (ToolsConfig Json) :=
  match overlay with
  | none => base
  | some overlay =>
    let next := base.getD .empty
    some { mergeScopedPolicy next.toToolPolicyConfig overlay.toToolPolicyConfig mode
        protectedNames with
      byProvider := mergeByProvider next.byProvider overlay.byProvider mode
      rest := next.rest }

/-! ### Skills and servers -/

def mergeSkillEntries (base overlay : Option (SkillsConfig Json))
    (mode : ClawifyUserMutationPolicy) : Option (SkillsConfig Json) :=
  match overlay.bind SkillsConfig.entries with
  | none => base
  | some entries =>
    let nextSkills := base.getD ⟨none, ∅⟩
    some { nextSkills with
      entries := some ((nextSkills.entries.getD ∅).overlay (fun base skillEntry =>
        if mode = .allowlistExtend then (base.getD ∅).spread skillEntry else skillEntry) entries) }

/-- The mode is not looked at. -/
def mergeMcpConfig (base overlay : Option (McpConfig Json)) (_mode : ClawifyUserMutationPolicy) :
    Option (McpConfig Json) :=
  match overlay.bind McpConfig.servers with
  | none => base
  | some servers =>
    let next := base.getD ⟨none, ∅⟩
    some { next with
      servers := some ((next.servers.getD ∅).overlay
        (fun base serverConfig => (base.getD ∅).spread serverConfig) servers) }

/-! ### The scope -/

def resolveMutationPolicy (raw : Option String) : ClawifyUserMutationPolicy :=
  let normalized := normalizeLowercaseStringOrEmpty raw
  if normalized = "none" then .none
  else if normalized = "replace" then .replace
  else .allowlistExtend

def resolveClawifyInstanceConfig (cfg : OpenClawConfig Json) (instanceId : Option String) :
    Option (ClawifyInstanceConfig Json) :=
  let requested := normalizeOptionalString instanceId
  let defaultInstanceId := normalizeOptionalString (cfg.clawify.bind (·.defaultInstanceId))
  (requested.or defaultInstanceId).bind fun resolvedId =>
    (cfg.clawify.bind (·.instances)).bind (·.get resolvedId)

/-- The config with the sections of an instance. -/
def applyInstance (cfg : OpenClawConfig Json) (scopedInstance : ClawifyInstanceConfig Json) :
    OpenClawConfig Json :=
  { cfg with
    tools := mergeScopedTools cfg.tools scopedInstance.tools .replace []
    skills := mergeSkillEntries cfg.skills scopedInstance.skills .replace
    mcp := mergeMcpConfig cfg.mcp scopedInstance.mcp .replace }

/-- The config with the sections of a user, as the policies have it. -/
def applyUser (cfg : OpenClawConfig Json) (scopedInstance : ClawifyInstanceConfig Json)
    (scopedUser : ClawifyUserConfig Json) : OpenClawConfig Json :=
  let toolsPolicy := resolveMutationPolicy (scopedInstance.userPolicy.bind (·.tools))
  let skillsPolicy := resolveMutationPolicy (scopedInstance.userPolicy.bind (·.skills))
  let mcpPolicy := resolveMutationPolicy (scopedInstance.userPolicy.bind (·.mcp))
  let protectedToolNames := collectNonRemovableToolNames scopedInstance.customTools
  { cfg with
    tools := if toolsPolicy = .none then cfg.tools
      else mergeScopedTools cfg.tools scopedUser.tools toolsPolicy protectedToolNames
    skills := if skillsPolicy = .none then cfg.skills
      else mergeSkillEntries cfg.skills scopedUser.skills skillsPolicy
    mcp := if mcpPolicy = .none then cfg.mcp
      else mergeMcpConfig cfg.mcp scopedUser.mcp mcpPolicy }

def resolveUser (scopedInstance : ClawifyInstanceConfig Json) (userId : Option String) :
    Option (ClawifyUserConfig Json) :=
  (normalizeOptionalString userId).bind fun userId => scopedInstance.users.bind (·.get userId)

def applyClawifyScopeToConfig (cfg : OpenClawConfig Json) (scope : ClawifyScope) :
    OpenClawConfig Json :=
  match resolveClawifyInstanceConfig cfg scope.instanceId with
  | none => cfg
  | some scopedInstance =>
    let withInstance := applyInstance cfg scopedInstance
    match resolveUser scopedInstance scope.userId with
    | none => withInstance
    | some scopedUser => applyUser withInstance scopedInstance scopedUser

end Merge

end OpenClaw.Config
