/-
This file is about a forest kept as a list of nodes, each with an id and the id of its
parent, in which every node stands after the nodes it refers to.

Some nodes are to be left out. Climbing from a node by its parents past those that are
left out finds its nearest kept ancestor: the list order makes the climb end, in at most
as many steps as there are nodes. A path through the forest keeps its order when it is
re-linked that way.
-/

import Mathlib

namespace Lineage

variable {Node Id : Type*} [DecidableEq Id]

/-- No node refers to itself or to a later one. -/
structure Backward (idOf : Node → Id) (refersTo : Node → Option Id) (nodes : List Node) : Prop where
  self : ∀ node ∈ nodes, refersTo node ≠ some (idOf node)
  later : nodes.Pairwise fun earlier later => refersTo earlier ≠ some (idOf later)

/-- Where the node with an id stands. -/
def position (idOf : Node → Id) (nodes : List Node) (id : Id) : Nat := (nodes.map idOf).idxOf id

variable {idOf : Node → Id} {nodes : List Node}

theorem position_getElem (distinct : (nodes.map idOf).Nodup) {index : Nat}
    (bound : index < nodes.length) : position idOf nodes (idOf nodes[index]) = index := by
  have found := distinct.idxOf_getElem index (by rwa [List.length_map])
  rwa [List.getElem_map] at found

omit [DecidableEq Id] in
theorem eq_of_id_eq (distinct : (nodes.map idOf).Nodup) {first second : Node}
    (isFirst : first ∈ nodes) (isSecond : second ∈ nodes) (same : idOf first = idOf second) :
    first = second :=
  List.inj_on_of_nodup_map distinct isFirst isSecond same

/-- What a node refers to stands before it. -/
theorem Backward.position_lt {refersTo : Node → Option Id} (backward : Backward idOf refersTo nodes)
    (distinct : (nodes.map idOf).Nodup) {node target : Node} (isNode : node ∈ nodes)
    (isTarget : target ∈ nodes) (refers : refersTo node = some (idOf target)) :
    position idOf nodes (idOf target) < position idOf nodes (idOf node) := by
  obtain ⟨index, bound, rfl⟩ := List.mem_iff_getElem.1 isNode
  obtain ⟨other, otherBound, rfl⟩ := List.mem_iff_getElem.1 isTarget
  rw [position_getElem distinct bound, position_getElem distinct otherBound]
  rcases Nat.lt_trichotomy other index with before | rfl | after
  · exact before
  · exact absurd refers (backward.self _ isNode)
  · exact absurd refers (List.pairwise_iff_getElem.1 backward.later _ _ bound otherBound after)

/-! ### Climbing -/

/-- The node with an id. -/
def nodeOf (idOf : Node → Id) (nodes : List Node) (id : Id) : Option Node :=
  nodes.reverse.find? fun node => idOf node = id

theorem nodeOf_eq (distinct : (nodes.map idOf).Nodup) {node : Node} (isNode : node ∈ nodes) :
    nodeOf idOf nodes (idOf node) = some node := by
  cases found : nodeOf idOf nodes (idOf node) with
  | none =>
    exact absurd (List.find?_eq_none.1 found node (List.mem_reverse.2 isNode)) (by simp)
  | some other =>
    have same : idOf other = idOf node := by simpa using List.find?_some found
    have isOther : other ∈ nodes := List.mem_reverse.1 (List.mem_of_find?_eq_some found)
    rw [eq_of_id_eq distinct isOther isNode same]

/-- From an id up by the parents, as long as the id is left out. -/
def climb (idOf : Node → Id) (parentOf : Node → Option Id) (nodes : List Node)
    (leftOut : Id → Bool) : Nat → Option Id → Option Id
  | 0, reached => reached
  | fuel + 1, reached =>
    match reached with
    | none => none
    | some id =>
      if leftOut id then
        climb idOf parentOf nodes leftOut fuel ((nodeOf idOf nodes id).bind parentOf)
      else some id

/-- The nearest id, from a given one up by the parents, that is not left out. -/
inductive NearestKept (idOf : Node → Id) (parentOf : Node → Option Id) (nodes : List Node)
    (leftOut : Id → Bool) : Option Id → Option Id → Prop
  | root : NearestKept idOf parentOf nodes leftOut none none
  | kept (id : Id) (stays : leftOut id = false) :
      NearestKept idOf parentOf nodes leftOut (some id) (some id)
  | up (node : Node) (isNode : node ∈ nodes) (skipped : leftOut (idOf node) = true)
      (nearest : Option Id)
      (above : NearestKept idOf parentOf nodes leftOut (parentOf node) nearest) :
      NearestKept idOf parentOf nodes leftOut (some (idOf node)) nearest

variable {parentOf : Node → Option Id} {leftOut : Id → Bool}

omit [DecidableEq Id] in
theorem NearestKept.stays {start nearest : Option Id}
    (climbed : NearestKept idOf parentOf nodes leftOut start nearest) :
    ∀ id, nearest = some id → leftOut id = false := by
  induction climbed with
  | root => exact fun _ isSome => absurd isSome nofun
  | kept id stays => exact fun _ isSome => Option.some.inj isSome ▸ stays
  | up _ _ _ _ _ inductionHypothesis => exact inductionHypothesis

/-- There is one nearest kept ancestor. -/
theorem NearestKept.unique (distinct : (nodes.map idOf).Nodup) {start first second : Option Id}
    (climbed : NearestKept idOf parentOf nodes leftOut start first)
    (again : NearestKept idOf parentOf nodes leftOut start second) : first = second := by
  induction climbed with
  | root => cases again; rfl
  | kept id stays =>
    cases again with
    | kept => rfl
    | up node _ skipped => exact absurd (stays.symm.trans skipped) Bool.false_ne_true
  | up node isNode skipped nearest above inductionHypothesis =>
    generalize reached : some (idOf node) = start at again
    cases again with
    | root => exact absurd reached nofun
    | kept id stays =>
      rw [← Option.some.inj reached] at stays
      exact absurd (stays.symm.trans skipped) Bool.false_ne_true
    | up other isOther otherSkipped _ otherAbove =>
      have same := eq_of_id_eq distinct isNode isOther (Option.some.inj reached)
      rw [← same] at otherAbove
      exact inductionHypothesis otherAbove

/-- The climb finds the nearest kept ancestor when its fuel reaches down to where it starts. -/
theorem climb_nearestKept (backward : Backward idOf parentOf nodes)
    (distinct : (nodes.map idOf).Nodup)
    (known : ∀ id, leftOut id = true → ∃ node ∈ nodes, idOf node = id) (fuel : Nat)
    (start : Option Id) (enough : ∀ id, start = some id → leftOut id = true →
      position idOf nodes id < fuel) :
    NearestKept idOf parentOf nodes leftOut start
      (climb idOf parentOf nodes leftOut fuel start) := by
  induction fuel generalizing start with
  | zero =>
    rw [climb]
    cases start with
    | none => exact .root
    | some id =>
      refine .kept id (Bool.eq_false_iff.2 fun skipped => ?_)
      exact absurd (enough id rfl skipped) (Nat.not_lt_zero _)
  | succ fuel inductionHypothesis =>
    cases start with
    | none => exact .root
    | some id =>
      rw [climb]
      by_cases skipped : leftOut id = true
      · obtain ⟨node, isNode, rfl⟩ := known id skipped
        rw [if_pos skipped, nodeOf_eq distinct isNode]
        refine .up node isNode skipped _ (inductionHypothesis _ fun parent isParent gone => ?_)
        obtain ⟨other, isOther, rfl⟩ := known parent gone
        have before := backward.position_lt distinct isNode isOther isParent
        exact Nat.lt_of_lt_of_le before (Nat.le_of_lt_succ (enough _ rfl skipped))
      · rw [if_neg skipped]
        exact .kept id (Bool.eq_false_iff.2 skipped)

/-- From a node's parent the number of nodes is fuel enough. -/
theorem climb_parent (backward : Backward idOf parentOf nodes) (distinct : (nodes.map idOf).Nodup)
    (known : ∀ id, leftOut id = true → ∃ node ∈ nodes, idOf node = id) (start : Option Id) :
    NearestKept idOf parentOf nodes leftOut start
      (climb idOf parentOf nodes leftOut nodes.length start) :=
  climb_nearestKept backward distinct known _ _ fun id _ skipped => by
    obtain ⟨node, isNode, rfl⟩ := known id skipped
    obtain ⟨index, bound, rfl⟩ := List.mem_iff_getElem.1 isNode
    rwa [position_getElem distinct bound]

/-! ### Paths -/

/-- A path from a root down, each node the parent of the next. -/
def Path (idOf : Node → Id) (parentOf : Node → Option Id) (path : List Node) : Prop :=
  path.IsChain fun parent child => parentOf child = some (idOf parent)

/-- A path meets no node twice. -/
theorem Path.nodup (backward : Backward idOf parentOf nodes) (distinct : (nodes.map idOf).Nodup)
    {path : List Node} (linked : Path idOf parentOf path) (within : ∀ node ∈ path, node ∈ nodes) :
    (path.map idOf).Nodup := by
  have ascending : (path.map fun node => position idOf nodes (idOf node)).IsChain (· < ·) := by
    rw [List.isChain_map]
    refine List.IsChain.imp_of_mem_imp (fun parent child isParent isChild links => ?_) linked
    exact backward.position_lt distinct (within child isChild) (within parent isParent) links
  have apart : (path.map fun node => position idOf nodes (idOf node)).Nodup :=
    (List.isChain_iff_pairwise.1 ascending).imp Nat.ne_of_lt
  rw [show (fun node => position idOf nodes (idOf node)) = position idOf nodes ∘ idOf from rfl,
    ← List.map_map] at apart
  exact List.Nodup.of_map _ apart

omit [DecidableEq Id] in
/-- Below a node with nearest kept ancestor `above`, each kept node of a path has the kept node
before it, or `above`, as its nearest kept ancestor. -/
theorem isChain_kept_below (above top : Node) (path : List Node)
    (linked : Path idOf parentOf (top :: path)) (within : ∀ node ∈ path, node ∈ nodes)
    (reached : NearestKept idOf parentOf nodes leftOut (some (idOf top)) (some (idOf above))) :
    (above :: path.filter fun node => !leftOut (idOf node)).IsChain fun parent child =>
      NearestKept idOf parentOf nodes leftOut (parentOf child) (some (idOf parent)) := by
  induction path generalizing above top with
  | nil => exact .singleton above
  | cons node rest inductionHypothesis =>
    obtain ⟨link, restLinked⟩ := List.isChain_cons_cons.1 linked
    have isNode := within node List.mem_cons_self
    have restWithin := fun other member => within other (List.mem_cons_of_mem _ member)
    rw [← link] at reached
    cases skipped : leftOut (idOf node) with
    | false =>
      rw [List.filter_cons_of_pos (by rw [skipped]; rfl)]
      exact .cons_cons reached
        (inductionHypothesis node node restLinked restWithin (.kept _ skipped))
    | true =>
      rw [List.filter_cons_of_neg (by rw [skipped]; exact Bool.false_ne_true)]
      exact inductionHypothesis above node restLinked restWithin
        (.up node isNode skipped _ reached)

/-- On a path the nearest kept ancestor of a kept node is the kept node before it. -/
theorem Path.isChain_kept {path : List Node} (linked : Path idOf parentOf path)
    (within : ∀ node ∈ path, node ∈ nodes) :
    (path.filter fun node => !leftOut (idOf node)).IsChain fun parent child =>
      NearestKept idOf parentOf nodes leftOut (parentOf child) (some (idOf parent)) := by
  induction path with
  | nil => exact .nil
  | cons node rest inductionHypothesis =>
    have restWithin := fun other member => within other (List.mem_cons_of_mem _ member)
    cases skipped : leftOut (idOf node) with
    | false =>
      rw [List.filter_cons_of_pos (by rw [skipped]; rfl)]
      exact isChain_kept_below node node rest linked restWithin (.kept _ skipped)
    | true =>
      rw [List.filter_cons_of_neg (by rw [skipped]; exact Bool.false_ne_true)]
      exact inductionHypothesis (List.IsChain.tail linked) restWithin

end Lineage
