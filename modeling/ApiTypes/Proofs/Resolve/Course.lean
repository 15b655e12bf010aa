import ApiTypes.Resolver

/-!
# Courses of walks

Two walkers that are `AlikeOn` a walk take the same course from it.  They hand the walk back, and
on the way enter nodes only on walks that go on from it: at most so many levels deeper, and merging
further names, each of them once.

The resolution of a node is alike to itself in this sense for as many levels as are left.  So a node
is resolved by entering it and resolving the nodes that it holds in the same way, one level deeper,
as long as the walk is not at its greatest depth: `Resolver.resolveNode_eq`.
-/

namespace ApiTypes

/-- The walk on which an event has a node entered, if it is such an event. -/
def Event.entry? : Event → Option Walk
  | .entered depth merging => some ⟨depth, merging⟩
  | _ => none

/-- The walks on which nodes are entered in the course of a report. -/
def Report.entries {ε α : Type} (report : Report ε α) : List Walk :=
  report.events.filterMap Event.entry?

namespace Walk

/-- The walk is at most `levels` deeper than `start`, and merges what `start` merges and then other
names, each of them once. -/
structure GoesOn (start : Walk) (levels : Nat) (walk : Walk) : Prop where
  depth_le : walk.depth ≤ start.depth + levels
  merging : start.merging <+: walk.merging
  nodup : start.merging.Nodup → walk.merging.Nodup

namespace GoesOn

variable {start walk : Walk} {levels : Nat}

theorem refl (start : Walk) (levels : Nat) :
  start.GoesOn levels start
  := ⟨Nat.le_add_right _ _, List.prefix_refl _, id⟩

/-- A walk from one level deeper has a level less to go. -/
theorem of_deeper (h : GoesOn { start with depth := start.depth + 1 } levels walk) :
  start.GoesOn (levels + 1) walk
  := by
  obtain ⟨hdepth, hmerging, hnodup⟩ := h
  refine ⟨?_, hmerging, hnodup⟩
  dsimp only at hdepth
  omega

/-- A walk may merge a name that is not being merged. -/
theorem of_merging {name : String} (hname : name ∉ start.merging)
    (h : GoesOn { start with merging := start.merging ++ [name] } levels walk) :
  start.GoesOn levels walk
  := by
  obtain ⟨hdepth, hmerging, hnodup⟩ := h
  refine ⟨hdepth, (List.prefix_append _ _).trans hmerging, ?_⟩
  intro hstart
  apply hnodup
  rw [List.nodup_append]
  grind

end GoesOn

end Walk

namespace Walker

variable {α β : Type}

theorem ext {walker other : Walker α} (h : ∀ walk, walker.run walk = other.run walk) :
  walker = other
  := congrArg Walker.mk (funext h)

/-- The walkers take the same course from a walk.  They hand the walk back, and enter nodes only on
walks that go on from it. -/
structure AlikeOn (walk : Walk) (levels : Nat) (walker other : Walker α) : Prop where
  run_eq : walker.run walk = other.run walk
  restores : (walker.run walk).2 = walk
  goesOn : ∀ entry ∈ (walker.run walk).1.entries, walk.GoesOn levels entry

namespace AlikeOn

variable {walk : Walk} {levels : Nat}

theorem pure (a : α) :
  AlikeOn walk levels (Pure.pure a) (Pure.pure a)
  := ⟨rfl, rfl, by simp [Report.entries]⟩

theorem fail (error : ResolveError) :
  AlikeOn walk levels (Walker.fail error : Walker α) (Walker.fail error)
  := ⟨rfl, rfl, by simp [Report.entries]⟩

/-- A note is no entry of a node. -/
theorem note {event : Event} (h : event.entry? = none) :
  AlikeOn walk levels (Walker.note event) (Walker.note event)
  := ⟨rfl, rfl, by simp [Report.entries, h]⟩

/-- A node that is entered on the walk itself. -/
theorem entered :
  AlikeOn walk levels (Walker.note (.entered walk.depth walk.merging))
    (Walker.note (.entered walk.depth walk.merging))
  := by
  refine ⟨rfl, rfl, ?_⟩
  intro entry hentry
  obtain rfl : entry = walk := by simpa [Report.entries, Event.entry?] using hentry
  apply Walk.GoesOn.refl

theorem bind {first first' : Walker α} {next next' : α → Walker β}
    (h : AlikeOn walk levels first first') (hnext : ∀ a, AlikeOn walk levels (next a) (next' a)) :
  AlikeOn walk levels (first >>= next) (first' >>= next')
  := by
  obtain ⟨heq, hwalk, hentries⟩ := h
  rcases hrun : first.run walk with ⟨⟨events, error | a⟩, after⟩
  · rw [hrun] at heq hwalk hentries
    constructor
    · rw [run_bind_of_error hrun, run_bind_of_error heq.symm]
    · rw [run_bind_of_error hrun]
      exact hwalk
    · rw [run_bind_of_error hrun]
      exact hentries
  · rw [hrun] at heq hwalk hentries
    obtain rfl : after = walk := hwalk
    obtain ⟨heqNext, hwalkNext, hentriesNext⟩ := hnext a
    constructor
    · rw [run_bind_of_ok hrun, run_bind_of_ok heq.symm, heqNext]
    · rw [run_bind_of_ok hrun]
      exact hwalkNext
    · rw [run_bind_of_ok hrun]
      intro entry hentry
      rw [Report.entries, List.filterMap_append, List.mem_append] at hentry
      rcases hentry with hentry | hentry
      · apply hentries entry hentry
      · apply hentriesNext entry hentry

/-- What is made of the current walk is made of the walk that it runs on. -/
theorem current_bind {next next' : Walk → Walker α}
    (h : AlikeOn walk levels (next walk) (next' walk)) :
  AlikeOn walk levels (Walker.current >>= next) (Walker.current >>= next')
  := by
  have hrun : ∀ next : Walk → Walker α, (Walker.current >>= next).run walk = (next walk).run walk :=
    fun _ => rfl
  obtain ⟨heq, hwalk, hentries⟩ := h
  constructor
  · rw [hrun, hrun, heq]
  · rw [hrun, hwalk]
  · rw [hrun]
    exact hentries

theorem map {first first' : Walker α} (f : α → β) (h : AlikeOn walk levels first first') :
  AlikeOn walk levels (first >>= fun a => Pure.pure (f a)) (first' >>= fun a => Pure.pure (f a))
  := h.bind fun a => pure (f a)

/-- The level that is entered is left again. -/
theorem deeper {inner inner' : Walker α}
    (h : AlikeOn { walk with depth := walk.depth + 1 } levels inner inner') :
  AlikeOn walk (levels + 1) (Walker.deeper inner) (Walker.deeper inner')
  := by
  obtain ⟨heq, hwalk, hentries⟩ := h
  constructor
  · rw [run_deeper, run_deeper, heq]
  · rw [run_deeper, hwalk]
    rfl
  · intro entry hentry
    apply (hentries entry hentry).of_deeper

/-- The name that is merged is taken off again. -/
theorem merging {inner inner' : Walker α} {name : String} (hname : name ∉ walk.merging)
    (h : AlikeOn { walk with merging := walk.merging ++ [name] } levels inner inner') :
  AlikeOn walk levels (Walker.merging name inner) (Walker.merging name inner')
  := by
  obtain ⟨heq, hwalk, hentries⟩ := h
  constructor
  · rw [run_merging, run_merging, heq]
  · rw [run_merging, hwalk, List.dropLast_concat]
  · intro entry hentry
    apply (hentries entry hentry).of_merging hname

theorem flatCollect {visit visit' : α → Walker (List β)}
    (h : ∀ a, AlikeOn walk levels (visit a) (visit' a)) (list : List α) :
  AlikeOn walk levels (Walker.flatCollect visit list) (Walker.flatCollect visit' list)
  := by
  induction list with
  | nil => apply pure
  | cons a rest ih =>
    apply (h a).bind
    intro found
    apply ih.map

end AlikeOn

end Walker

namespace Resolver

open Walker

section

variable {context : Context} {visit visit' : Node → Walker Descriptor} {walk : Walk} {levels : Nat}
  (hvisit : ∀ merging node, AlikeOn { walk with merging } levels (visit node) (visit' node))

include hvisit

/-- Nodes that are visited while further names are merged are visited at the same depth. -/
theorem alikeOn_mergeDefinitions (name : String) :
  AlikeOn walk levels (mergeDefinitions context visit name) (mergeDefinitions context visit' name)
  := by
  apply AlikeOn.current_bind
  split
  · apply AlikeOn.fail
  · next hname =>
    apply AlikeOn.bind
    · apply AlikeOn.merging hname
      apply AlikeOn.flatCollect
      intro definition
      apply (hvisit _ definition).map
    · intro properties
      apply AlikeOn.bind
      · unfold noteWhen
        split
        · apply AlikeOn.note rfl
        · apply AlikeOn.pure
      · intro _
        apply AlikeOn.pure

theorem alikeOn_inheritedProperties (entry : Node) :
  AlikeOn walk levels (inheritedProperties context visit entry)
    (inheritedProperties context visit' entry)
  := by
  unfold inheritedProperties
  cases entry.reference? with
  | none => apply (hvisit walk.merging entry).map
  | some reference => apply alikeOn_mergeDefinitions hvisit

theorem alikeOn_collectProperties (header : Header) (node : Node) :
  AlikeOn walk levels (collectProperties context visit header node)
    (collectProperties context visit' header node)
  := by
  apply AlikeOn.bind
  · apply AlikeOn.flatCollect
    apply alikeOn_inheritedProperties hvisit
  · intro inherited
    apply AlikeOn.map
    apply AlikeOn.flatCollect
    intro property
    apply (hvisit walk.merging property.2).map

theorem alikeOn_resolveShape (node : Node) :
  AlikeOn walk levels (resolveShape context visit node) (resolveShape context visit' node)
  := by
  apply AlikeOn.current_bind
  apply AlikeOn.bind
  · apply AlikeOn.note rfl
  intro _
  cases classify node with
  | wrapper inner => apply hvisit walk.merging
  | array items => apply (hvisit walk.merging items).map
  | dictionary values => apply (hvisit walk.merging values).map
  | object => apply (alikeOn_collectProperties hvisit _ node).map
  | reference | enumeration | primitive | any => apply AlikeOn.pure

end

/-- A node is entered on the walk that it is resolved on, and whatever it holds on walks that go on
from there for as many levels as are left. -/
theorem alikeOn_resolveWithin (resolver : Resolver) (budget : Nat) (node : Node) (walk : Walk) :
  AlikeOn walk budget (resolver.resolveWithin budget node) (resolver.resolveWithin budget node)
  := by
  induction budget generalizing node walk with
  | zero =>
    apply AlikeOn.current_bind
    apply AlikeOn.entered.bind
    intro _
    apply AlikeOn.fail
  | succ budget ih =>
    apply AlikeOn.current_bind
    apply AlikeOn.entered.bind
    intro _
    apply AlikeOn.deeper
    apply alikeOn_resolveShape
    intro merging node
    apply ih

variable (resolver : Resolver)

/-- As many levels are left as the walk is above the greatest depth. -/
theorem alikeOn_resolveNode {walk : Walk} {levels : Nat}
    (h : resolver.maxDepth - walk.depth = levels) (node : Node) :
  AlikeOn walk levels (resolver.resolveWithin levels node) (resolver.resolveNode node)
  := by
  subst h
  obtain ⟨-, hwalk, hentries⟩ :=
    resolver.alikeOn_resolveWithin (resolver.maxDepth - walk.depth) node walk
  exact ⟨rfl, hwalk, hentries⟩

/-- A node is resolved by entering it and resolving, one level deeper, the nodes that it holds in
the same way.  At the greatest depth this fails. -/
theorem resolveNode_eq (node : Node) :
  resolver.resolveNode node = (do
    let walk ← Walker.current
    Walker.note (.entered walk.depth walk.merging)
    if walk.depth < resolver.maxDepth then
      Walker.deeper (resolveShape resolver.context resolver.resolveNode node)
    else Walker.fail (.depthExceeded resolver.maxDepth))
  := by
  apply Walker.ext
  intro walk
  rw [← (resolver.alikeOn_resolveNode rfl node).run_eq]
  suffices halike : AlikeOn walk (resolver.maxDepth - walk.depth)
      (resolver.resolveWithin (resolver.maxDepth - walk.depth) node) _ from halike.run_eq
  cases hlevels : resolver.maxDepth - walk.depth with
  | zero =>
    apply AlikeOn.current_bind
    apply AlikeOn.entered.bind
    intro _
    rw [if_neg (by omega)]
    apply AlikeOn.fail
  | succ levels =>
    apply AlikeOn.current_bind
    apply AlikeOn.entered.bind
    intro _
    rw [if_pos (by omega)]
    apply AlikeOn.deeper
    apply alikeOn_resolveShape
    intro merging inner
    apply resolver.alikeOn_resolveNode
    dsimp only
    omega

end Resolver

end ApiTypes
