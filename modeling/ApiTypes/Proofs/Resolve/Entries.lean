import ApiTypes.Proofs.Resolve.Course
import ApiTypes.Proofs.Resolve.Merging

/-!
# The walks on which nodes are entered

Whether it succeeds or fails, the resolution of a node hands back the walk that it was given, and
every node that it comes to is entered on a walk that goes on from that one: no deeper than is
allowed, and merging no name twice.  The same goes for the properties of an object and for those of
the definitions of a name: `Resolver.resolveNode_restores`.
-/

namespace ApiTypes

namespace Walker

variable {α : Type}

/-- The walker hands back every walk.  From a walk that is not too deep and merges no name twice, it
enters nodes only on walks of this kind, which merge the same names and then others. -/
structure Restores (maxDepth : Nat) (walker : Walker α) : Prop where
  run_eq : ∀ walk, (walker.run walk).2 = walk
  entries : ∀ walk, walk.depth ≤ maxDepth → walk.merging.Nodup →
    ∀ entry ∈ (walker.run walk).1.entries,
      entry.depth ≤ maxDepth ∧ entry.merging.Nodup ∧ walk.merging <+: entry.merging

/-- A walker that goes down by no more levels than are left restores the walk. -/
theorem Restores.of_alikeOn {maxDepth : Nat} {walker : Walker α}
    (h : ∀ walk, ∃ other, AlikeOn walk (maxDepth - walk.depth) other walker) :
  walker.Restores maxDepth
  := by
  constructor
  · intro walk
    obtain ⟨other, heq, hwalk, -⟩ := h walk
    rw [← heq, hwalk]
  · intro walk hdepth hnodup entry hentry
    obtain ⟨other, heq, -, hentries⟩ := h walk
    rw [← heq] at hentry
    have hgoesOn := hentries entry hentry
    have hlevels := hgoesOn.depth_le
    exact ⟨by omega, hgoesOn.nodup hnodup, hgoesOn.merging⟩

end Walker

namespace Resolver

open Walker

variable (resolver : Resolver)

/-- The resolution of a node hands back the walk that it was given, and so do the ones of the
properties of an object and of the definitions of a name.  On the way nodes are entered only on
walks that are not too deep and merge no name twice. -/
theorem resolveNode_restores :
  (∀ node, (resolver.resolveNode node).Restores resolver.maxDepth) ∧
  (∀ header node, (collectProperties resolver.context resolver.resolveNode header node).Restores
    resolver.maxDepth) ∧
  ∀ name, (mergeDefinitions resolver.context resolver.resolveNode name).Restores resolver.maxDepth
  := by
  refine ⟨?_, ?_, ?_⟩
  · intro node
    apply Restores.of_alikeOn
    intro walk
    exact ⟨_, resolver.alikeOn_resolveNode rfl node⟩
  · intro header node
    apply Restores.of_alikeOn
    intro walk
    use collectProperties resolver.context (resolver.resolveWithin (resolver.maxDepth - walk.depth))
      header node
    apply alikeOn_collectProperties
    intro merging inner
    apply resolver.alikeOn_resolveNode rfl
  · intro name
    apply Restores.of_alikeOn
    intro walk
    use mergeDefinitions resolver.context (resolver.resolveWithin (resolver.maxDepth - walk.depth))
      name
    apply alikeOn_mergeDefinitions
    intro merging definition
    apply resolver.alikeOn_resolveNode rfl

theorem resolveNode_restores_diamond :
  let started : Walk := ⟨1, ["E"]⟩
  let run := ((Resolver.mk .diamondMerges 4).resolveNode .diamond).run started
  let failed := ((Resolver.mk .diamondMerges 3).resolveNode .diamond).run started
  (∃ type, run.1.outcome = .ok type) ∧ run.2 = started ∧
  run.1.entries =
    [started, ⟨2, ["E", "A"]⟩, ⟨3, ["E", "A", "C"]⟩, ⟨2, ["E", "B"]⟩, ⟨3, ["E", "B", "C"]⟩] ∧
  (∀ entry ∈ run.1.entries,
    entry.depth ≤ 4 ∧ entry.merging.Nodup ∧ started.merging <+: entry.merging) ∧
  failed.1.outcome = .error (.depthExceeded 3) ∧ failed.2 = started
  := by
  obtain ⟨hwalk, hentries⟩ := (resolveNode_restores (Resolver.mk .diamondMerges 4)).1 .diamond
  obtain ⟨hfailed, -⟩ := (resolveNode_restores (Resolver.mk .diamondMerges 3)).1 .diamond
  exact ⟨⟨_, rfl⟩, hwalk _, rfl, hentries ⟨1, ["E"]⟩ (by decide) (by decide), rfl, hfailed _⟩

end Resolver

end ApiTypes
