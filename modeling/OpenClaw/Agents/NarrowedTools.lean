/-
This file says when tool policies only narrow and deny wins.

The groups of plugins are built once from all tools, so each step decides about a tool on its
own and the pipeline is one filter. More steps and more denied entries only filter more. Two
things can go wrong. An entry is taken in one reading only: a denied entry that is the id of a
plugin no longer stands for the tool, the group or the glob it also names, an alias hides the
plugin of that name, and a tool whose name is that of a built-in property has no text to be
compared. And a list of allowed entries that all read as nothing counts as no list.
-/

import OpenClaw.Agents.ToolPolicy

namespace OpenClaw.ToolPolicy

open Routing Text

variable (toLowerCase : String → String) {tools : List AgentTool}

/-! ### The property -/

/-- A name in any of its spellings. -/
def toolKey (name : String) : String := aliasOf (normalizeToken toLowerCase (some name))

/-- An entry names a tool by its name, by a group or by a glob. -/
def ListsName (entry name : String) : Prop :=
  name = toolKey toLowerCase entry ∨ name ∈ (toolGroup (toolKey toLowerCase entry)).getD [] ∨
    toolKey toLowerCase entry = "*" ∨
    globMatches (toolKey toLowerCase entry).toList name.toList = true

/-- An entry names a tool by its plugin. -/
def ListsPlugin (entry : String) (tool : AgentTool) : Prop :=
  ∃ pluginId ∈ tool.pluginId, toolKey toLowerCase entry = "group:plugins" ∨
    normalizeToken toLowerCase (some pluginId) = toolKey toLowerCase entry ∨
    normalizeToken toLowerCase (some pluginId) = normalizeToken toLowerCase (some entry)

/-- An entry that is not blank lists a tool in one of its readings. -/
def Lists (entry : String) (tool : AgentTool) : Prop :=
  toolKey toLowerCase entry ≠ "" ∧
    (ListsName toLowerCase entry (toolKey toLowerCase tool.name) ∨
      ListsPlugin toLowerCase entry tool)

/-- An allowed entry matches what it lists, and `apply_patch` when it names `write`. -/
def MatchesTool (entry : String) (tool : AgentTool) : Prop :=
  Lists toLowerCase entry tool ∨ toolKey toLowerCase tool.name = "apply_patch" ∧
    toolKey toLowerCase entry ≠ "" ∧ ListsName toLowerCase entry "write"

/-- A step admits a tool, given the plugin groups of all tools. -/
def admits (tools : List AgentTool) (step : Option ToolPolicyLike) (tool : AgentTool) : Bool :=
  step.all fun policy => isToolAllowedByPolicyName toLowerCase
    (buildPluginToolGroups toLowerCase tools) policy tool.name

/-- What policies are for. -/
structure Narrows (tools : List AgentTool) (steps : List (Option ToolPolicyLike)) : Prop where
  /-- The result has the tools that each step admits, in the original order. -/
  filters : applyToolPolicyPipeline toLowerCase tools steps =
    tools.filter fun tool => steps.all fun step => admits toLowerCase tools step tool
  ordered : ∀ others, others.Perm steps → applyToolPolicyPipeline toLowerCase tools others =
    applyToolPolicyPipeline toLowerCase tools steps
  /-- Deny wins. -/
  denied : ∀ policy, some policy ∈ steps → ∀ entry ∈ policy.deny, ∀ tool,
    Lists toLowerCase entry tool → tool ∉ applyToolPolicyPipeline toLowerCase tools steps
  /-- One more step, or more denied entries in a step, add no tool. -/
  added : ∀ before after step, steps = before ++ after →
    (applyToolPolicyPipeline toLowerCase tools (before ++ step :: after)).Sublist
      (applyToolPolicyPipeline toLowerCase tools steps)
  stricter : ∀ before after policy more, steps = before ++ some policy :: after →
    more.allow = policy.allow → policy.deny ⊆ more.deny →
    (applyToolPolicyPipeline toLowerCase tools (before ++ some more :: after)).Sublist
      (applyToolPolicyPipeline toLowerCase tools steps)
  /-- A list of allowed entries that match no tool leaves none. -/
  unmatched : ∀ policy, some policy ∈ steps → policy.allow ≠ [] →
    (∀ entry ∈ policy.allow, ∀ tool ∈ tools, ¬MatchesTool toLowerCase entry tool) →
    applyToolPolicyPipeline toLowerCase tools steps = []

/-! ### The condition -/

/-- The code's reading of one name that an entry has been replaced by. -/
def reads (name value : ToolName) : Bool :=
  let normalized := normalizeToolName toLowerCase name
  normalized.isTruthy && (groupNames normalized).any fun expanded =>
    compileGlobPattern toLowerCase expanded ≠ .exact "" &&
      (compileGlobPattern toLowerCase expanded).matches value

/-- The code's reading of an entry covers a normalised name. -/
def covers (tools : List AgentTool) (entry : String) (value : ToolName) : Bool :=
  (entryNames toLowerCase (buildPluginToolGroups toLowerCase tools) entry).any fun name =>
    reads toLowerCase name value

/-- Some step does not admit the tool. -/
def Excluded (tools : List AgentTool) (steps : List (Option ToolPolicyLike)) (tool : AgentTool) :
    Prop :=
  ∃ step ∈ steps, admits toLowerCase tools step tool = false

/-- The condition: a tool that a denied entry lists, but not in the reading the code takes, is
excluded all the same; and so is every tool when the allowed entries of a step match none but read
as nothing, or a tool has the name of a built-in property. -/
structure Unambiguous (tools : List AgentTool) (steps : List (Option ToolPolicyLike)) : Prop where
  denied : ∀ policy, some policy ∈ steps → ∀ entry ∈ policy.deny, ∀ tool ∈ tools,
    Lists toLowerCase entry tool →
    covers toLowerCase tools entry (normalizeToolName toLowerCase (.text tool.name)) = false →
    Excluded toLowerCase tools steps tool
  unmatched : ∀ policy, some policy ∈ steps → policy.allow ≠ [] →
    (∀ entry ∈ policy.allow, ∀ tool ∈ tools, ¬MatchesTool toLowerCase entry tool) →
    patternsOf toLowerCase (buildPluginToolGroups toLowerCase tools) policy.allow = [] ∨
      (∃ tool ∈ tools, ∃ shown,
        normalizeToolName toLowerCase (.text tool.name) = .builtin shown) →
    ∀ tool ∈ tools, Excluded toLowerCase tools steps tool

/-! ### The pipeline as one filter -/

theorem pipeline_eq (tools : List AgentTool) (steps : List (Option ToolPolicyLike)) :
    applyToolPolicyPipeline toLowerCase tools steps =
      tools.filter fun tool => steps.all fun step => admits toLowerCase tools step tool := by
  unfold applyToolPolicyPipeline admits
  dsimp only
  generalize buildPluginToolGroups toLowerCase tools = groups
  induction steps using List.reverseRecOn with
  | nil => simp
  | append_singleton steps step inductionHypothesis =>
    rw [List.foldl_append, inductionHypothesis, List.foldl_cons, List.foldl_nil]
    cases step with
    | none => simp
    | some policy => simp [List.filter_filter, Bool.and_comm]

theorem mem_pipeline_iff {steps : List (Option ToolPolicyLike)}
    {tool : AgentTool} : tool ∈ applyToolPolicyPipeline toLowerCase tools steps ↔
      tool ∈ tools ∧ ¬Excluded toLowerCase tools steps tool := by
  simp [pipeline_eq, Excluded]

theorem sublist_pipeline {fewer more : List (Option ToolPolicyLike)}
    (implies : ∀ tool, (∀ step ∈ more, admits toLowerCase tools step tool = true) →
      ∀ step ∈ fewer, admits toLowerCase tools step tool = true) :
    (applyToolPolicyPipeline toLowerCase tools more).Sublist
      (applyToolPolicyPipeline toLowerCase tools fewer) := by
  rw [pipeline_eq, pipeline_eq]
  refine List.monotone_filter_right tools fun tool admitted => ?_
  rw [List.all_eq_true] at admitted ⊢
  exact implies tool admitted

/-! ### Patterns by entries -/

/-- A name is matched by the patterns of a list when an entry covers it. -/
theorem matchesAny_patternsOf (tools : List AgentTool) (list : List String) (value : ToolName) :
    matchesAnyGlobPattern value
        (patternsOf toLowerCase (buildPluginToolGroups toLowerCase tools) list) =
      list.any fun entry => covers toLowerCase tools entry value := by
  rw [Bool.eq_iff_iff]
  simp only [matchesAnyGlobPattern, patternsOf, compileGlobPatterns, expandToolGroups,
    expandPluginGroups, covers, reads, List.any_eq_true, List.mem_filter, List.mem_map,
    List.mem_eraseDups, List.mem_flatMap, decide_eq_true_eq, Bool.and_eq_true]
  constructor
  · rintro ⟨_, ⟨⟨expanded, ⟨_, ⟨⟨name, ⟨entry, inList, inEntry⟩, rfl⟩, truthy⟩, inGroup⟩, rfl⟩, some⟩,
      found⟩
    exact ⟨entry, inList, name, inEntry, truthy, expanded, inGroup, some, found⟩
  · rintro ⟨entry, inList, name, inEntry, truthy, expanded, inGroup, some, found⟩
    exact ⟨_, ⟨⟨expanded, ⟨_, ⟨⟨name, ⟨entry, inList, inEntry⟩, rfl⟩, truthy⟩, inGroup⟩, rfl⟩, some⟩,
      found⟩

/-- More denied entries and the same allowed ones admit no more. -/
theorem admits_of_stricter {policy more : ToolPolicyLike}
    (sameAllow : more.allow = policy.allow) (moreDeny : policy.deny ⊆ more.deny) {tool : AgentTool}
    (admitted : admits toLowerCase tools (some more) tool = true) :
    admits toLowerCase tools (some policy) tool = true := by
  have denies : ∀ value, (policy.deny.any fun entry => covers toLowerCase tools entry value) = true →
      (more.deny.any fun entry => covers toLowerCase tools entry value) = true := by
    intro value denied
    obtain ⟨entry, member, covered⟩ := List.any_eq_true.1 denied
    exact List.any_eq_true.2 ⟨entry, moreDeny member, covered⟩
  have keeps : ∀ value, (more.deny.any fun entry => covers toLowerCase tools entry value) = false →
      (policy.deny.any fun entry => covers toLowerCase tools entry value) = false :=
    fun value kept => Bool.eq_false_iff.2 fun denied => by simp [denies value denied] at kept
  simp only [admits, Option.all_some, isToolAllowedByPolicyName, matchesAny_patternsOf,
    sameAllow] at admitted ⊢
  cases own : more.deny.any fun entry => covers toLowerCase tools entry
    (normalizeToolName toLowerCase (.text tool.name)) with
  | true => simp [own] at admitted
  | false =>
    rw [own] at admitted
    rw [keeps _ own]
    cases write : more.deny.any fun entry => covers toLowerCase tools entry (.text "write") with
    | false =>
      rw [write] at admitted
      rw [keeps _ write]
      exact admitted
    | true =>
      rw [write] at admitted
      by_cases patch : normalizeToolName toLowerCase (.text tool.name) = .text "apply_patch"
      · simp [patch] at admitted
      · simpa [patch] using admitted

/-- A denied entry excludes what it covers. -/
theorem excluded_of_covers {steps : List (Option ToolPolicyLike)}
    {policy : ToolPolicyLike} (isStep : some policy ∈ steps) {entry : String}
    (denied : entry ∈ policy.deny) {tool : AgentTool}
    (covered : covers toLowerCase tools entry
      (normalizeToolName toLowerCase (.text tool.name)) = true) :
    Excluded toLowerCase tools steps tool := by
  refine ⟨some policy, isStep, ?_⟩
  have found : (policy.deny.any fun entry => covers toLowerCase tools entry
      (normalizeToolName toLowerCase (.text tool.name))) = true :=
    List.any_eq_true.2 ⟨entry, denied, covered⟩
  unfold admits isToolAllowedByPolicyName
  simp only [Option.all_some, matchesAny_patternsOf]
  rw [if_pos found]

/-! ### Plugins -/

theorem all_buildPluginToolGroups (tools : List AgentTool) :
    (buildPluginToolGroups toLowerCase tools).all =
      (tools.filter fun tool => tool.pluginId.isSome).map fun tool =>
        normalizeToolName toLowerCase (.text tool.name) := by
  have builds : ∀ groups : PluginToolGroups,
      (tools.foldl (PluginToolGroups.add toLowerCase) groups).all = groups.all ++
        (tools.filter fun tool => tool.pluginId.isSome).map fun tool =>
          normalizeToolName toLowerCase (.text tool.name) := by
    induction tools with
    | nil => simp
    | cons tool rest inductionHypothesis =>
      intro groups
      rw [List.foldl_cons, inductionHypothesis]
      cases plugin : tool.pluginId <;> simp [PluginToolGroups.add, plugin]
  simpa [buildPluginToolGroups] using builds ⟨[], ∅⟩

theorem mem_bucket_buildPluginToolGroups {key : String} {name : ToolName}
    (member : name ∈ Buckets.bucket (buildPluginToolGroups toLowerCase tools).byPlugin key) :
    key ≠ "" ∧ ∃ tool ∈ tools, ∃ pluginId ∈ tool.pluginId,
      normalizeToken toLowerCase (some pluginId) = key := by
  have builds : ∀ (list : List AgentTool) (groups : PluginToolGroups),
      name ∈ Buckets.bucket (list.foldl (PluginToolGroups.add toLowerCase) groups).byPlugin key →
      name ∈ Buckets.bucket groups.byPlugin key ∨ key ≠ "" ∧ ∃ tool ∈ list,
        ∃ pluginId ∈ tool.pluginId, normalizeToken toLowerCase (some pluginId) = key := by
    intro list
    induction list with
    | nil => exact fun groups found => .inl found
    | cons tool rest inductionHypothesis =>
      intro groups found
      rcases inductionHypothesis _ found with earlier | ⟨some, other, inRest, isPlugin⟩
      · cases plugin : tool.pluginId with
        | none =>
          rw [PluginToolGroups.add, plugin] at earlier
          exact .inl earlier
        | some pluginId =>
          rw [PluginToolGroups.add, plugin] at earlier
          dsimp only at earlier
          split at earlier
          next => exact .inl earlier
          next named =>
            rw [Buckets.bucket_push] at earlier
            by_cases same : key = normalizeToken toLowerCase (some pluginId)
            · exact .inr ⟨same ▸ named, tool, List.mem_cons_self, pluginId, plugin, same.symm⟩
            · exact .inl (by simpa [same] using earlier)
      · exact .inr ⟨some, other, List.mem_cons_of_mem _ inRest, isPlugin⟩
  refine (builds tools ⟨[], ∅⟩ member).resolve_left fun empty => ?_
  simp [Buckets.bucket] at empty

/-! ### What an entry covers -/

section Covered

variable {toLowerCase}

theorem builtinProperty_aliasOf {name : String} (plain : builtinProperty name = none) :
    builtinProperty (aliasOf name) = none := by
  unfold aliasOf
  split
  · rfl
  split
  · rfl
  · exact plain

theorem aliasOf_aliasOf (name : String) : aliasOf (aliasOf name) = aliasOf name := by
  unfold aliasOf
  split
  · rfl
  split <;> simp_all

theorem normalizeToken_aliasOf (lowers : Lowers toLowerCase)
    (name : String) :
    normalizeToken toLowerCase (some (toolKey toLowerCase name)) = toolKey toLowerCase name := by
  unfold toolKey aliasOf
  split
  · exact lowers.normalizeToken_word (by decide) (by decide) (by decide) (by decide)
  split
  · exact lowers.normalizeToken_word (by decide) (by decide) (by decide) (by decide)
  · exact lowers.normalizeToken_again name

/-- A name that is a text is its key, and its key is its own name. -/
theorem normalizeToolName_key (lowers : Lowers toLowerCase) {name key : String}
    (is : normalizeToolName toLowerCase (.text name) = .text key) :
    key = toolKey toLowerCase name ∧ normalizeToolName toLowerCase (.text key) = .text key := by
  unfold normalizeToolName at is
  dsimp only at is
  split at is
  next => cases is
  next plain =>
    obtain rfl : aliasOf (normalizeToken toLowerCase (some name)) = key := by injection is
    refine ⟨rfl, ?_⟩
    show normalizeToolName toLowerCase (.text (toolKey toLowerCase name)) = _
    unfold normalizeToolName
    dsimp only
    rw [normalizeToken_aliasOf lowers, toolKey, builtinProperty_aliasOf plain, aliasOf_aliasOf]

/-- The tools of the groups have the names they are registered with. -/
theorem normalizeToolName_member (lowers : Lowers toLowerCase) {group member : String}
    {members : List String} (isGroup : toolGroup group = some members) (inside : member ∈ members) :
    normalizeToolName toLowerCase (.text member) = .text member ∧ '*' ∉ member.toList := by
  have core : member ∈ coreToolDefinitions.map Prod.fst := by
    unfold toolGroup at isGroup
    dsimp only at isGroup
    rw [Option.ite_none_left_eq_some] at isGroup
    obtain ⟨-, same⟩ := isGroup
    injection same with same
    subst same
    obtain ⟨tool, filtered, rfl⟩ := List.mem_map.1 inside
    exact List.mem_map_of_mem (List.mem_filter.1 filtered).1
  have words : ∀ word ∈ coreToolDefinitions.map Prod.fst, trim word = word ∧ word ≠ "" ∧
      (word.toList.all (·.toNat < 128)) = true ∧ asciiLower word = word ∧
      builtinProperty word = none ∧ aliasOf word = word ∧ '*' ∉ word.toList := by
    decide
  obtain ⟨trimmed, nonempty, ascii, small, plain, noAlias, noStar⟩ := words member core
  refine ⟨?_, noStar⟩
  unfold normalizeToolName
  dsimp only
  rw [lowers.normalizeToken_word trimmed nonempty ascii small, plain, noAlias]

/-- What a text that is a key reads as: itself, a group it names, everything, or a glob. -/
theorem listsName_of_reads (lowers : Lowers toLowerCase) {entry value : String}
    (own : normalizeToolName toLowerCase (.text (toolKey toLowerCase entry)) =
      .text (toolKey toLowerCase entry))
    (read : reads toLowerCase (.text (toolKey toLowerCase entry)) (.text value) = true) :
    toolKey toLowerCase entry ≠ "" ∧ ListsName toLowerCase entry value := by
  unfold reads at read
  dsimp only at read
  rw [own, Bool.and_eq_true, List.any_eq_true] at read
  obtain ⟨truthy, expanded, inGroup, found⟩ := read
  refine ⟨by simpa [ToolName.isTruthy] using truthy, ?_⟩
  rw [Bool.and_eq_true] at found
  have found := found.2
  cases isGroup : toolGroup (toolKey toLowerCase entry) with
  | some members =>
    simp only [groupNames, isGroup, Option.map_some, Option.getD_some, List.mem_map] at inGroup
    obtain ⟨member, inside, rfl⟩ := inGroup
    obtain ⟨same, noStar⟩ := normalizeToolName_member lowers isGroup inside
    have notAll : member ≠ "*" := fun star => noStar (by rw [star]; decide)
    unfold compileGlobPattern at found
    rw [same] at found
    dsimp only at found
    rw [if_neg notAll, if_neg noStar] at found
    have value : ToolName.text value = .text member := by simpa [GlobPattern.matches] using found
    injection value with value
    right; left
    rw [isGroup, value]
    exact inside
  | none =>
    simp only [groupNames, isGroup, Option.map_none, Option.getD_none, List.mem_singleton] at inGroup
    subst inGroup
    unfold compileGlobPattern at found
    rw [own] at found
    dsimp only at found
    split at found
    next star => exact .inr (.inr (.inl star))
    next =>
      split at found
      next => exact .inr (.inr (.inr found))
      next =>
        left
        simpa [GlobPattern.matches] using found

/-- What an entry covers it lists, or it has been replaced by the tools of a plugin it names. -/
theorem lists_of_covers (lowers : Lowers toLowerCase) {tools : List AgentTool}
    {entry value : String} (covered : covers toLowerCase tools entry (.text value) = true) :
    toolKey toLowerCase entry ≠ "" ∧
      (ListsName toLowerCase entry value ∨ ∃ tool ∈ tools, ListsPlugin toLowerCase entry tool) := by
  obtain ⟨name, inEntry, read⟩ := List.any_eq_true.1 covered
  unfold entryNames at inEntry
  dsimp only at inEntry
  cases normalized : normalizeToolName toLowerCase (.text entry) with
  | builtin shown =>
    rw [normalized, if_neg (by simp), List.mem_singleton] at inEntry
    rw [inEntry] at read
    exact absurd read (by simp [reads, normalizeToolName, ToolName.isTruthy])
  | text key =>
    obtain ⟨rfl, own⟩ := normalizeToolName_key lowers normalized
    rw [normalized] at inEntry
    dsimp only at inEntry
    have alone : name = .text (toolKey toLowerCase entry) → toolKey toLowerCase entry ≠ "" ∧
        (ListsName toLowerCase entry value ∨
          ∃ tool ∈ tools, ListsPlugin toLowerCase entry tool) := by
      rintro rfl
      obtain ⟨nonempty, listed⟩ := listsName_of_reads lowers own read
      exact ⟨nonempty, .inl listed⟩
    split at inEntry
    next plugins =>
      injection plugins with plugins
      split at inEntry
      next => exact alone (List.mem_singleton.1 inEntry)
      next =>
        rw [all_buildPluginToolGroups, List.mem_map] at inEntry
        obtain ⟨tool, filtered, -⟩ := inEntry
        obtain ⟨inTools, isPlugin⟩ := List.mem_filter.1 filtered
        obtain ⟨pluginId, is⟩ := Option.isSome_iff_exists.1 isPlugin
        exact ⟨by rw [plugins]; decide, .inr ⟨tool, inTools, pluginId, is, .inl plugins⟩⟩
    next =>
      split at inEntry
      next => exact alone (List.mem_singleton.1 inEntry)
      next =>
        obtain ⟨some, tool, inTools, pluginId, is, same⟩ := mem_bucket_buildPluginToolGroups _ inEntry
        exact ⟨some, .inr ⟨tool, inTools, pluginId, is, .inr (.inl same)⟩⟩

/-- Allowed entries that match no tool admit none, when one of them is compiled and all tools have
a text for a name. -/
theorem not_admits_of_unmatched (lowers : Lowers toLowerCase) {tools : List AgentTool}
    {policy : ToolPolicyLike}
    (unmatched : ∀ entry ∈ policy.allow, ∀ tool ∈ tools, ¬MatchesTool toLowerCase entry tool)
    (compiled : patternsOf toLowerCase (buildPluginToolGroups toLowerCase tools) policy.allow ≠ [])
    {tool : AgentTool} (inTools : tool ∈ tools)
    (isText : ∀ shown, normalizeToolName toLowerCase (.text tool.name) ≠ .builtin shown) :
    admits toLowerCase tools (some policy) tool = false := by
  cases normalized : normalizeToolName toLowerCase (.text tool.name) with
  | builtin shown => exact absurd normalized (isText shown)
  | text key =>
    obtain ⟨rfl, -⟩ := normalizeToolName_key lowers normalized
    have none : ∀ value, value = toolKey toLowerCase tool.name ∨
        toolKey toLowerCase tool.name = "apply_patch" ∧ value = "write" →
        (policy.allow.any fun entry => covers toLowerCase tools entry (.text value)) = false := by
      intro value is
      rw [List.any_eq_false]
      intro entry member covered
      obtain ⟨nonempty, listed | ⟨other, inOthers, byPlugin⟩⟩ := lists_of_covers lowers covered
      · rcases is with rfl | ⟨patch, rfl⟩
        · exact unmatched entry member tool inTools (.inl ⟨nonempty, .inl listed⟩)
        · exact unmatched entry member tool inTools (.inr ⟨patch, nonempty, listed⟩)
      · exact unmatched entry member other inOthers (.inl ⟨nonempty, .inr byPlugin⟩)
    simp only [admits, Option.all_some, isToolAllowedByPolicyName, normalized, if_neg compiled]
    split
    next => rfl
    split
    next => rfl
    simp only [matchesAny_patternsOf]
    rw [none _ (.inl rfl), if_neg Bool.false_ne_true]
    by_cases patch : toolKey toLowerCase tool.name = "apply_patch"
    · rw [none "write" (.inr ⟨patch, rfl⟩), Bool.and_false]
    · simp [patch]

end Covered

/-! ### The result -/

/-- The policies narrow and deny wins exactly when no other reading of an entry matters. -/
theorem policies_narrow_iff (lowers : Lowers toLowerCase) (tools : List AgentTool)
    (steps : List (Option ToolPolicyLike)) :
    Narrows toLowerCase tools steps ↔ Unambiguous toLowerCase tools steps := by
  constructor
  · intro narrows
    refine ⟨fun policy isStep entry denied tool inTools listed _ => ?_,
      fun policy isStep some unmatched _ tool inTools => ?_⟩
    · by_contra kept
      exact narrows.denied policy isStep entry denied tool listed
        ((mem_pipeline_iff toLowerCase).2 ⟨inTools, kept⟩)
    · by_contra kept
      have stays := (mem_pipeline_iff toLowerCase).2 ⟨inTools, kept⟩
      rw [narrows.unmatched policy isStep some unmatched] at stays
      exact List.not_mem_nil stays
  · intro unambiguous
    refine ⟨pipeline_eq toLowerCase tools steps, fun others reordered => ?_,
      fun policy isStep entry denied tool listed stays => ?_, ?_, ?_,
      fun policy isStep some unmatched => ?_⟩
    · rw [pipeline_eq, pipeline_eq]
      exact List.filter_congr fun tool _ => reordered.all_eq
    · obtain ⟨inTools, kept⟩ := (mem_pipeline_iff toLowerCase).1 stays
      cases covered : covers toLowerCase tools entry
        (normalizeToolName toLowerCase (.text tool.name)) with
      | true => exact kept (excluded_of_covers toLowerCase isStep denied covered)
      | false => exact kept (unambiguous.denied policy isStep entry denied tool inTools listed covered)
    · rintro before after step rfl
      refine sublist_pipeline toLowerCase fun tool admitted other isStep => admitted other ?_
      rcases List.mem_append.1 isStep with early | late
      · exact List.mem_append_left _ early
      · exact List.mem_append_right _ (List.mem_cons_of_mem _ late)
    · rintro before after policy more rfl sameAllow moreDeny
      refine sublist_pipeline toLowerCase fun tool admitted other isStep => ?_
      rcases List.mem_append.1 isStep with early | late
      · exact admitted other (List.mem_append_left _ early)
      · rcases List.mem_cons.1 late with rfl | late
        · exact admits_of_stricter toLowerCase sameAllow moreDeny
            (admitted _ (List.mem_append_right _ List.mem_cons_self))
        · exact admitted other (List.mem_append_right _ (List.mem_cons_of_mem _ late))
    · refine List.eq_nil_iff_forall_not_mem.2 fun tool stays => ?_
      obtain ⟨inTools, kept⟩ := (mem_pipeline_iff toLowerCase).1 stays
      by_cases odd : patternsOf toLowerCase (buildPluginToolGroups toLowerCase tools)
          policy.allow = [] ∨ ∃ tool ∈ tools, ∃ shown,
            normalizeToolName toLowerCase (.text tool.name) = .builtin shown
      · exact kept (unambiguous.unmatched policy isStep some unmatched odd tool inTools)
      · rw [not_or] at odd
        exact kept ⟨_, isStep, not_admits_of_unmatched lowers unmatched odd.1 inTools
          fun shown is => odd.2 ⟨tool, inTools, shown, is⟩⟩

theorem policies_narrow_of_exec : Narrows asciiLower [⟨"exec", none⟩] [some ⟨[], ["bash"]⟩] :=
  (policies_narrow_iff asciiLower lowers_asciiLower _ _).2 (by
    refine ⟨fun policy isStep entry denied tool inTools _ uncovered => ?_,
      fun policy isStep some => ?_⟩
    · simp only [List.mem_singleton, Option.some.injEq] at isStep inTools
      subst isStep inTools
      rw [List.mem_singleton] at denied
      subst denied
      exact absurd uncovered (by decide)
    · simp only [List.mem_singleton, Option.some.injEq] at isStep
      subst isStep
      exact absurd rfl some)

/-- A denied tool stays when a plugin has its name for an id. -/
theorem denied_exec_stays : ¬Narrows asciiLower [⟨"exec", none⟩, ⟨"run_it", some "exec"⟩]
    [some ⟨[], ["exec"]⟩] := by
  intro narrows
  refine narrows.denied ⟨[], ["exec"]⟩ List.mem_cons_self "exec" List.mem_cons_self
    ⟨"exec", none⟩ ⟨by decide, .inl (.inl rfl)⟩ ?_
  decide

end OpenClaw.ToolPolicy
