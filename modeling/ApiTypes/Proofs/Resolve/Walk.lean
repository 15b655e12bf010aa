import ApiTypes.Proofs.Resolve.Course
import ApiTypes.Proofs.Resolve.Part

/-!
# Resolving as a walk

A walker that `Yields` an outcome from a walk hands that walk back, whether it succeeds or
fails.  The walker that resolves a node yields the outcome `Resolver.typeWithin` of its
parts, for as many levels as the walk is above the greatest depth.
-/

namespace ApiTypes

namespace Walker

variable {α β : Type}

/-- The walker comes to an outcome from a walk and hands the walk back. -/
def Yields (walker : Walker α) (walk : Walk) (outcome : Except ResolveError α) : Prop :=
  (walker.run walk).1.outcome = outcome ∧ (walker.run walk).2 = walk

theorem Yields.pure (a : α) (walk : Walk) :
  (pure a : Walker α).Yields walk (.ok a)
  := ⟨rfl, rfl⟩

theorem Yields.current (walk : Walk) :
  current.Yields walk (.ok walk)
  := ⟨rfl, rfl⟩

theorem Yields.note (event : Event) (walk : Walk) :
  (note event).Yields walk (.ok ())
  := ⟨rfl, rfl⟩

theorem Yields.noteWhen (condition : Bool) (event : Event) (walk : Walk) :
  (noteWhen condition event).Yields walk (.ok ())
  := by
  cases condition
  · apply Yields.pure
  · apply Yields.note

theorem Yields.fail (error : ResolveError) (walk : Walk) :
  (fail error : Walker α).Yields walk (.error error)
  := ⟨rfl, rfl⟩

theorem Yields.bind
    {first : Walker α} {next : α → Walker β} {walk : Walk} {outcome : Except ResolveError α}
    {rest : α → Except ResolveError β} (h : first.Yields walk outcome)
    (hnext : ∀ a, outcome = .ok a → (next a).Yields walk (rest a)) :
  (first >>= next).Yields walk (outcome >>= rest)
  := by
  obtain ⟨rfl, hwalk⟩ := h
  rcases hrun : first.run walk with ⟨⟨events, error | a⟩, after⟩
  · rw [hrun] at hwalk
    obtain rfl : after = walk := hwalk
    rw [Yields, run_bind_of_error hrun]
    constructor <;> rfl
  · rw [hrun] at hwalk
    obtain rfl : after = walk := hwalk
    obtain ⟨houtcome, hback⟩ := hnext a (by rw [hrun])
    rw [Yields, run_bind_of_ok hrun]
    exact ⟨houtcome, hback⟩

/-- A note before a computation leaves its outcome as it is. -/
theorem Yields.note_bind
    {next : Walker α} {walk : Walk} {outcome : Except ResolveError α} (event : Event)
    (h : next.Yields walk outcome) :
  (Walker.note event >>= fun _ => next).Yields walk outcome
  := (Yields.note event walk).bind fun _ _ => h

/-- A note after a computation leaves its outcome as it is. -/
theorem Yields.bind_noteWhen
    {first : Walker α} {walk : Walk} {outcome : Except ResolveError α} (condition : Bool)
    (event : Event) (h : first.Yields walk outcome) :
  (first >>= fun a => Walker.noteWhen condition event >>= fun _ => Pure.pure a).Yields walk outcome
  := by
  have hrest : (first >>= fun a => Walker.noteWhen condition event >>= fun _ => Pure.pure a).Yields
      walk (outcome >>= .ok) := h.bind fun a _ =>
    (Yields.noteWhen condition event walk).bind fun _ _ => Yields.pure a walk
  cases outcome <;> apply hrest

/-- What is made of the current walk is made of the walk it runs on. -/
theorem Yields.current_bind
    {next : Walk → Walker α} {walk : Walk} {outcome : Except ResolveError α}
    (h : (next walk).Yields walk outcome) :
  (Walker.current >>= next).Yields walk outcome
  := by
  apply (Yields.current walk).bind
  rintro _ ⟨⟩
  apply h

theorem Yields.map
    {first : Walker α} {walk : Walk} {outcome : Except ResolveError α} (f : α → β)
    (h : first.Yields walk outcome) :
  (first >>= fun a => Pure.pure (f a)).Yields walk (outcome.map f)
  := by
  have hbind : (first >>= fun a => Pure.pure (f a)).Yields walk (outcome >>= fun a => .ok (f a)) :=
    h.bind fun a _ => Yields.pure (f a) walk
  cases outcome <;> apply hbind

theorem Yields.deeper
    {inner : Walker α} {walk : Walk} {outcome : Except ResolveError α}
    (h : inner.Yields { walk with depth := walk.depth + 1 } outcome) :
  (deeper inner).Yields walk outcome
  := by
  obtain ⟨houtcome, hwalk⟩ := h
  simp [Yields, houtcome, hwalk]

theorem Yields.merging
    {inner : Walker α} {walk : Walk} {outcome : Except ResolveError α} {name : String}
    (h : inner.Yields { walk with merging := walk.merging ++ [name] } outcome) :
  (merging name inner).Yields walk outcome
  := by
  obtain ⟨houtcome, hwalk⟩ := h
  simp [Yields, houtcome, hwalk]

theorem Yields.flatCollect
    {visit : α → Walker (List β)} {walk : Walk} {outcome : α → Except ResolveError (List β)}
    (h : ∀ a, (visit a).Yields walk (outcome a)) (list : List α) :
  (flatCollect visit list).Yields walk (Outcome.flatCollect outcome list)
  := by
  induction list with
  | nil => apply Yields.pure
  | cons a rest ih =>
    apply (h a).bind
    intro found _
    apply ih.bind
    intro more _
    apply Yields.pure

end Walker

namespace Resolver

open Walker

section

variable {context : Context} {visit : Node → Walker Descriptor} {walk : Walk}
  {type : List String → Node → Except ResolveError Descriptor}
  (hvisit : ∀ merging node, (visit node).Yields { walk with merging } (type merging node))

include hvisit

theorem yields_mergeDefinitions (name : String) :
  (mergeDefinitions context visit name).Yields walk
    (contributions context type walk.merging (.merge name))
  := by
  apply Yields.current_bind
  rw [contributions]
  split
  · apply Yields.fail
  · apply Yields.bind_noteWhen
    apply Yields.merging
    apply Yields.flatCollect
    intro definition
    apply (hvisit _ definition).map

theorem yields_inheritedProperties (entry : Node) :
  (inheritedProperties context visit entry).Yields walk
    (contributions context type walk.merging entry.entryPart)
  := by
  unfold inheritedProperties Node.entryPart
  cases entry.reference? with
  | none => apply (hvisit walk.merging entry).map
  | some reference => apply yields_mergeDefinitions hvisit

theorem yields_ownProperty (header : Header) (property : String × Node) :
  (ownProperty visit header property).Yields walk
    (contributions context type walk.merging (Node.propertyPart header property))
  := by
  apply (hvisit walk.merging property.2).map

theorem yields_collectProperties (node : Node) :
  (collectProperties context visit (Header.ofNode node) node).Yields walk
    (Outcome.flatCollect (contributions context type walk.merging) node.objectParts)
  := by
  rw [Node.objectParts, Outcome.flatCollect_append, Outcome.flatCollect_map,
    Outcome.flatCollect_map]
  apply (Yields.flatCollect (yields_inheritedProperties hvisit) node.allOf).bind
  intro inherited _
  apply (Yields.flatCollect (yields_ownProperty hvisit (Header.ofNode node)) _).map

theorem yields_resolveShape (node : Node) :
  (resolveShape context visit node).Yields walk
    ((Outcome.flatCollect (contributions context type walk.merging) node.parts).map
      (Descriptor.assemble node))
  := by
  apply Yields.current_bind
  apply Yields.note_bind
  unfold Node.parts Descriptor.assemble
  cases classify node with
  | wrapper inner =>
    simp only [flatCollect_contributions_whole, Outcome.map_map, List.headD_cons, Outcome.map_id]
    apply hvisit walk.merging
  | array items =>
    rw [flatCollect_contributions_whole, Outcome.map_map]
    apply (hvisit walk.merging items).map
  | dictionary values =>
    rw [flatCollect_contributions_whole, Outcome.map_map]
    apply (hvisit walk.merging values).map
  | object => apply (yields_collectProperties hvisit node).map
  | reference target => apply Yields.pure
  | enumeration values => apply Yields.pure
  | primitive type => apply Yields.pure
  | any => apply Yields.pure

end

/-- A node is resolved of its parts for as many levels as the walk is above the greatest depth. -/
theorem yields_resolveNode (resolver : Resolver) {walk : Walk} {levels : Nat}
    (h : resolver.maxDepth - walk.depth = levels) (node : Node) :
  (resolver.resolveNode node).Yields walk (resolver.typeWithin levels walk.merging node)
  := by
  induction levels generalizing walk node with
  | zero =>
    rw [resolveNode_eq]
    apply Yields.current_bind
    apply Yields.note_bind
    rw [if_neg (by omega)]
    apply Yields.fail
  | succ levels ih =>
    rw [resolveNode_eq]
    apply Yields.current_bind
    apply Yields.note_bind
    rw [if_pos (by omega)]
    apply Yields.deeper
    apply yields_resolveShape
    intro merging inner
    apply ih
    dsimp only
    omega

/-- The outcome of resolving a node is that of its parts, with no name being merged. -/
theorem outcome_resolve (resolver : Resolver) (node : Node) :
  (resolver.resolve node).outcome = resolver.typeWithin resolver.maxDepth [] node
  := (resolver.yields_resolveNode rfl node).1

/-- The outcome of resolving a node as the definition of a name is that of its parts, with
the name being merged. -/
theorem outcome_resolveNamed (resolver : Resolver) (name : String) (node : Node) :
  (resolver.resolveNamed name node).outcome = resolver.typeWithin resolver.maxDepth [name] node
  := (resolver.yields_resolveNode rfl node).1

end Resolver

end ApiTypes
