/-
This file is the tool policy pipeline: lists of allowed and denied entries that narrow the tools
of an agent step by step.

An entry is normalised, replaced by the tools of the plugin it names, then by the tools of the
group it names, and what is left is compiled to a pattern. Lookups of aliases go through a
plain object, so the names of its built-in properties give something that is not a text.
The warnings about unknown entries are left out; no decision depends on them.
-/

import OpenClaw.Base.Buckets
import OpenClaw.Routing.SessionKey

namespace OpenClaw.ToolPolicy

open Routing

/-! ### Names -/

/-- A normalised name: a text, or a built-in value, which reads as the given text in a regular
expression. -/
inductive ToolName
  | text (name : String)
  | builtin (shown : String)
  deriving DecidableEq

def ToolName.isTruthy : ToolName → Bool
  | .text name => name ≠ ""
  | .builtin _ => true

/-- `TOOL_NAME_ALIASES`. -/
def aliasOf (name : String) : String :=
  if name = "bash" then "exec" else if name = "apply-patch" then "apply_patch" else name

/-- The properties of a plain object whose names are in lower case. -/
def builtinProperty (name : String) : Option String :=
  if name = "constructor" then some "function Object() \x7b [native code] \x7d"
  else if name = "__proto__" then some "[object Object]"
  else none

variable (toLowerCase : String → String)

/-- `normalizeToolName`, of a name or of what it has made of a name. -/
def normalizeToolName : ToolName → ToolName
  | .builtin _ => .text ""
  | .text name =>
    let normalized := normalizeToken toLowerCase (some name)
    match builtinProperty normalized with
    | some shown => .builtin shown
    | none => .text (aliasOf normalized)

/-! ### Groups -/

/-- The `CORE_TOOL_DEFINITIONS`: id, section, and whether the tool is in the group `openclaw`. -/
def coreToolDefinitions : List (String × String × Bool) :=
  [("read", "fs", false), ("write", "fs", false), ("edit", "fs", false),
    ("apply_patch", "fs", false), ("exec", "runtime", false), ("process", "runtime", false),
    ("code_execution", "runtime", true), ("web_search", "web", true), ("web_fetch", "web", true),
    ("x_search", "web", true), ("memory_search", "memory", true), ("memory_get", "memory", true),
    ("sessions_list", "sessions", true), ("sessions_history", "sessions", true),
    ("sessions_send", "sessions", true), ("sessions_spawn", "sessions", true),
    ("sessions_yield", "sessions", true), ("subagents", "sessions", true),
    ("session_status", "sessions", true), ("browser", "ui", true), ("canvas", "ui", true),
    ("message", "messaging", true), ("cron", "automation", true), ("gateway", "automation", true),
    ("nodes", "nodes", true), ("agents_list", "agents", true), ("update_plan", "agents", true),
    ("image", "media", true), ("image_generate", "media", true), ("music_generate", "media", true),
    ("video_generate", "media", true), ("tts", "media", true)]

/-- `TOOL_GROUPS`: the group of a section, or the group `openclaw`. -/
def toolGroup (value : String) : Option (List String) :=
  let members := coreToolDefinitions.filter fun tool =>
    if value = "group:openclaw" then tool.2.2 else "group:" ++ tool.2.1 = value
  if members = [] then none else some (members.map Prod.fst)

/-- The tools a name stands for in `expandToolGroups`. -/
def groupNames : ToolName → List ToolName
  | .text value => ((toolGroup value).map (List.map ToolName.text)).getD [.text value]
  | .builtin shown => [.builtin shown]

def expandToolGroups (list : List ToolName) : List ToolName :=
  (((list.map (normalizeToolName toLowerCase)).filter ToolName.isTruthy).flatMap
    groupNames).eraseDups

/-! ### Plugins -/

/-- A tool, with the plugin id of its metadata if it has any. -/
structure AgentTool where
  name : String
  pluginId : Option String
  deriving DecidableEq

structure PluginToolGroups where
  all : List ToolName
  byPlugin : OrderedMap String (List ToolName)

/-- One round of `buildPluginToolGroups`. -/
def PluginToolGroups.add (groups : PluginToolGroups) (tool : AgentTool) : PluginToolGroups :=
  match tool.pluginId with
  | none => groups
  | some pluginId =>
    let name := normalizeToolName toLowerCase (.text tool.name)
    let key := normalizeToken toLowerCase (some pluginId)
    { all := groups.all ++ [name]
      byPlugin := if key = "" then groups.byPlugin else Buckets.push groups.byPlugin key name }

def buildPluginToolGroups (tools : List AgentTool) : PluginToolGroups :=
  tools.foldl (PluginToolGroups.add toLowerCase) ⟨[], ∅⟩

/-- What `expandPluginGroups` puts in the place of an entry. -/
def entryNames (groups : PluginToolGroups) (entry : String) : List ToolName :=
  let normalized := normalizeToolName toLowerCase (.text entry)
  if normalized = .text "group:plugins" then
    if groups.all = [] then [normalized] else groups.all
  else match normalized with
    | .builtin _ => [normalized]
    | .text key =>
      let tools := Buckets.bucket groups.byPlugin key
      if tools = [] then [normalized] else tools

def expandPluginGroups (groups : PluginToolGroups) (list : List String) : List ToolName :=
  (list.flatMap (entryNames toLowerCase groups)).eraseDups

/-! ### Patterns -/

inductive GlobPattern
  | all
  | exact (value : String)
  | regex (pattern : List Char)
  deriving DecidableEq

/-- What `.` does not match. -/
def isLineTerminator (character : Char) : Bool :=
  character = '\n' || character = '\r' || character.toNat = 0x2028 || character.toNat = 0x2029

/-- `.*`, followed by what `continues` matches. -/
def starMatches (continues : List Char → Bool) : List Char → Bool
  | [] => continues []
  | character :: rest =>
    continues (character :: rest) || !isLineTerminator character && starMatches continues rest

/-- The regular expression of a glob, from the first character to the last. -/
def globMatches : List Char → List Char → Bool
  | [], text => text.isEmpty
  | symbol :: pattern, text =>
    if symbol = '*' then starMatches (globMatches pattern) text
    else match text with
      | [] => false
      | character :: rest => symbol = character && globMatches pattern rest

/-- `compileGlobPattern`. Its names come out of `expandToolGroups`, which gives no built-in value
twice. -/
def compileGlobPattern (raw : ToolName) : GlobPattern :=
  match normalizeToolName toLowerCase raw with
  | .builtin _ => .exact ""
  | .text normalized =>
    if normalized = "*" then .all
    else if '*' ∈ normalized.toList then .regex normalized.toList
    else .exact normalized

def compileGlobPatterns (raw : List ToolName) : List GlobPattern :=
  (raw.map (compileGlobPattern toLowerCase)).filter fun pattern => pattern ≠ .exact ""

def GlobPattern.matches : GlobPattern → ToolName → Bool
  | .all, _ => true
  | .exact value, name => name = .text value
  | .regex pattern, .text name => globMatches pattern name.toList
  | .regex pattern, .builtin shown => globMatches pattern shown.toList

def matchesAnyGlobPattern (value : ToolName) (patterns : List GlobPattern) : Bool :=
  patterns.any fun pattern => pattern.matches value

/-! ### The pipeline -/

/-- `ToolPolicyLike`; a list that is missing is an empty one. -/
structure ToolPolicyLike where
  allow : List String := []
  deny : List String := []
  deriving DecidableEq

/-- The patterns of a list of a policy. -/
def patternsOf (groups : PluginToolGroups) (list : List String) : List GlobPattern :=
  compileGlobPatterns toLowerCase
    (expandToolGroups toLowerCase (expandPluginGroups toLowerCase groups list))

/-- `isToolAllowedByPolicyName`, after `expandPolicyWithPluginGroups`. -/
def isToolAllowedByPolicyName (groups : PluginToolGroups) (policy : ToolPolicyLike)
    (name : String) : Bool :=
  let deny := patternsOf toLowerCase groups policy.deny
  let allow := patternsOf toLowerCase groups policy.allow
  let normalized := normalizeToolName toLowerCase (.text name)
  if matchesAnyGlobPattern normalized deny then false
  else if normalized = .text "apply_patch" && matchesAnyGlobPattern (.text "write") deny then false
  else if allow = [] then true
  else if matchesAnyGlobPattern normalized allow then true
  else normalized = .text "apply_patch" && matchesAnyGlobPattern (.text "write") allow

/-- `applyToolPolicyPipeline`; a step without a policy is skipped. -/
def applyToolPolicyPipeline (tools : List AgentTool) (steps : List (Option ToolPolicyLike)) :
    List AgentTool :=
  let groups := buildPluginToolGroups toLowerCase tools
  steps.foldl (fun filtered step => match step with
    | none => filtered
    | some policy => filtered.filter fun tool =>
      isToolAllowedByPolicyName toLowerCase groups policy tool.name) tools

end OpenClaw.ToolPolicy
