import ApiTypes.Proofs.Resolve.Chain
import Mathlib.Data.List.Chain
import Mathlib.Data.List.Nodup

/-!
# Cycles of merges

A node resolves, or is cut off by the depth, when no name that it reaches leads back to
itself; and it never resolves when some such name does.  The error of a cycle therefore comes
from a cycle among the names that are reached, however often a name is merged on different
ways.

The chain that the error tells `IsMergeCycle`: each of its names leads to the next, and the
last one is the first that comes a second time.
-/

namespace ApiTypes

open Relation

namespace Context

/-- No name that the node reaches leads back to itself. -/
def IsAcyclicFrom (context : Context) (node : Node) : Prop :=
  ∀ name, context.Reaches node name → ¬ context.IsCyclic name

/-- Every one of the names leads to all names that the node merges. -/
def AllLead (context : Context) (names : List String) (node : Node) : Prop :=
  ∀ name ∈ names, ∀ next, node.Merges next → TransGen context.Leads name next

variable {context : Context} {names : List String} {node : Node}

theorem allLead_nil : context.AllLead [] node := by simp [AllLead]

theorem AllLead.of_holds {inner : Node} (h : context.AllLead names node)
    (hinner : node.Holds inner) :
  context.AllLead names inner
  := by
  intro name hname next hnext
  apply h name hname next (hinner.merges hnext)

/-- Names that lead to a name that is merged next lead on to what its definitions merge, as
that name does. -/
theorem AllLead.of_inherits {name : String} {definition : Node} (h : context.AllLead names node)
    (hname : node.Inherits name) (hdefinition : definition ∈ context.matching name) :
  context.AllLead (names ++ [name]) definition
  := by
  intro other hother next hnext
  have hleads : context.Leads name next := by use definition
  rcases List.mem_append.mp hother with hother | hother
  · apply TransGen.tail (h other hother name hname.merges) hleads
  · obtain rfl := List.mem_singleton.mp hother
    apply TransGen.single hleads

/-- A definition merges what its name leads to. -/
theorem allLead_singleton {name : String} {definition : Node}
    (h : definition ∈ context.matching name) :
  context.AllLead [name] definition
  := by
  intro other hother next hnext
  obtain rfl := List.mem_singleton.mp hother
  apply TransGen.single
  use definition

/-- Merges lead from `A` and `B` to `C` and from there to `D`, but never back. -/
theorem isAcyclicFrom_diamondMerges (node : Node) :
  diamondMerges.IsAcyclicFrom node
  := by
  let level (name : String) : Nat := if name = "D" then 0 else if name = "C" then 1 else 2
  have hleads : ∀ x y, diamondMerges.Leads x y → level y < level x := by
    rintro x y ⟨definition, hdefinition, hmerges⟩
    have hentry : (x, definition) ∈ diamondMerges.entries := mem_matching.mp hdefinition
    simp only [diamondMerges, List.mem_cons, Prod.mk.injEq, List.not_mem_nil, or_false] at hentry
    rcases hentry with ⟨rfl, rfl⟩ | ⟨rfl, rfl⟩ | ⟨rfl, rfl⟩
    all_goals
      obtain rfl := Node.merges_heir_iff.mp hmerges
      decide
  have hdown : ∀ x y, TransGen diamondMerges.Leads x y → level y < level x := by
    intro x y h
    induction h with
    | single hstep => apply hleads _ _ hstep
    | tail _ hstep ih => apply Nat.lt_trans (hleads _ _ hstep) ih
  intro name _ hcyclic
  apply Nat.lt_irrefl _ (hdown name name hcyclic)

end Context

namespace Resolver

variable {resolver : Resolver} {budget : Nat} {merging : List String} {node : Node}

/-- The error of a cycle comes from a name that is reached and leads back to itself, when the
names that are being merged lead to whatever the node merges. -/
theorem exists_isCyclic_of_cyclicSchema {chain : List String}
    (hmerging : resolver.context.AllLead merging node)
    (h : resolver.typeWithin budget merging node = .error (.cyclicSchema chain)) :
  ∃ name, resolver.context.Reaches node name ∧ resolver.context.IsCyclic name
  := by
  induction budget generalizing merging node with
  | zero => simp at h
  | succ budget ih =>
    rcases typeWithin_succ_eq_error h with ⟨inner, hholds, hinner⟩ | ⟨name, hname, hmem, -⟩ |
      ⟨name, hname, -, definition, hdefinition, herror⟩
    · obtain ⟨name, hreaches, hcycle⟩ := ih (hmerging.of_holds hholds) hinner
      use name, .of_holds hholds hreaches
    · use name, .of_merges hname.merges
      apply hmerging name hmem name hname.merges
    · obtain ⟨other, hreaches, hcycle⟩ := ih (hmerging.of_inherits hname hdefinition) herror
      use other, .of_inherits hname hdefinition hreaches

/-- The outcome is a type or cut off by the depth when no name that the node reaches leads
back to itself, and is no type otherwise. -/
def DetectsCycles (resolver : Resolver) (node : Node) (outcome : Except ResolveError Descriptor) :
    Prop :=
  (resolver.context.IsAcyclicFrom node →
    (∃ type, outcome = .ok type) ∨ outcome = .error (.depthExceeded resolver.maxDepth)) ∧
  (¬ resolver.context.IsAcyclicFrom node → ∀ type, outcome ≠ .ok type)

theorem detectsCycles_typeWithin (h : resolver.context.AllLead merging node) :
  resolver.DetectsCycles node (resolver.typeWithin budget merging node)
  := by
  constructor
  · intro hacyclic
    rcases houtcome : resolver.typeWithin budget merging node with (chain | limit) | type
    · obtain ⟨name, hreaches, hcycle⟩ := exists_isCyclic_of_cyclicSchema h houtcome
      absurd hcycle
      apply hacyclic name hreaches
    · right
      rw [eq_maxDepth_of_depthExceeded houtcome]
    · left
      use type
  · intro hcyclic type houtcome
    apply hcyclic
    intro name hreaches
    apply not_isCyclic_of_reaches houtcome hreaches

/-- Resolving a node, or the first definition of a name, finds cycles of merges exactly. -/
theorem resolve_detectsCycles (resolver : Resolver) (node : Node) :
  resolver.DetectsCycles node (resolver.resolve node).outcome ∧
  ∀ name definition, resolver.context.get? name = some definition →
    ∃ report, resolver.resolveDefinition name = some report ∧
      resolver.DetectsCycles definition report.outcome
  := by
  constructor
  · rw [outcome_resolve]
    apply detectsCycles_typeWithin Context.allLead_nil
  · intro name definition hdefinition
    use resolver.resolveNamed name definition
    constructor
    · simp [resolveDefinition, hdefinition]
    · rw [outcome_resolveNamed]
      apply detectsCycles_typeWithin
      apply Context.allLead_singleton
      apply List.mem_of_mem_head? hdefinition

theorem resolve_detectsCycles_mutualMerges :
  (∃ report, (Resolver.mk .mutualMerges 8).resolveDefinition "A" = some report ∧
    ∀ type, report.outcome ≠ .ok type) ∧
  Context.diamondMerges.IsAcyclicFrom .diamond ∧
  ∃ type, ((Resolver.mk .diamondMerges 8).resolve .diamond).outcome = .ok type
  := by
  obtain ⟨report, hreport, -, hcyclic⟩ :=
    (resolve_detectsCycles ⟨.mutualMerges, 8⟩ .null).2 "A" (Node.heir "B") rfl
  obtain ⟨hacyclic, -⟩ := (resolve_detectsCycles ⟨.diamondMerges, 8⟩ .diamond).1
  have hdiamond := Context.isAcyclicFrom_diamondMerges .diamond
  refine ⟨⟨report, hreport, ?_⟩, hdiamond, ?_⟩
  · apply hcyclic
    intro hacyclic
    apply hacyclic "B" (.of_merges (Node.inherits_heir "B").merges)
    apply TransGen.head Context.leads_mutualMerges.2 (.single Context.leads_mutualMerges.1)
  · apply (hacyclic hdiamond).resolve_right
    nofun

end Resolver

/-! ### The chain of a cycle -/

namespace Context

/-- Each name of the chain leads to the next, and the last one is among those before it, which
are distinct. -/
structure IsMergeCycle (context : Context) (chain : List String) : Prop where
  two_le_length : 2 ≤ chain.length
  nodup_dropLast : chain.dropLast.Nodup
  exists_last : ∃ last ∈ chain.dropLast, chain.getLast? = some last
  exists_definition : ∀ name ∈ chain, ∃ definition, definition ∈ context.matching name
  isChain : chain.IsChain context.Leads

/-- The names of the chain are distinct, have definitions, and lead one to the next and the last
to whatever the node merges. -/
structure IsChainTo (context : Context) (chain : List String) (node : Node) : Prop where
  nodup : chain.Nodup
  exists_definition : ∀ name ∈ chain, ∃ definition, definition ∈ context.matching name
  isChain : ∀ next, node.Merges next → (chain ++ [next]).IsChain context.Leads

variable {context : Context} {chain : List String} {node : Node} {name : String}

theorem isChainTo_nil : context.IsChainTo [] node where
  nodup := List.nodup_nil
  exists_definition := by simp
  isChain := by simp

/-- The name of a definition is a chain to it. -/
theorem isChainTo_singleton (h : node ∈ context.matching name) :
  context.IsChainTo [name] node
  where
  nodup := by simp
  exists_definition := by
    intro other hother
    obtain rfl := List.mem_singleton.mp hother
    use node
  isChain := by
    intro next hnext
    apply List.isChain_pair.mpr
    use node

namespace IsChainTo

/-- A chain to a node is one to whatever the node holds. -/
theorem of_holds {inner : Node} (h : context.IsChainTo chain node) (hinner : node.Holds inner) :
  context.IsChainTo chain inner
  where
  nodup := h.nodup
  exists_definition := h.exists_definition
  isChain := fun next hnext => h.isChain next (hinner.merges hnext)

/-- A chain to a node goes on, by a name that the node inherits from, to the definitions of that
name. -/
theorem of_inherits {definition : Node} (h : context.IsChainTo chain node)
    (hname : node.Inherits name) (hnew : name ∉ chain)
    (hdefinition : definition ∈ context.matching name) :
  context.IsChainTo (chain ++ [name]) definition
  where
  nodup := by
    rw [← List.concat_eq_append]
    apply List.Nodup.concat hnew h.nodup
  exists_definition := by
    intro other hother
    rcases List.mem_append.mp hother with hother | hother
    · apply h.exists_definition other hother
    · obtain rfl := List.mem_singleton.mp hother
      use definition
  isChain := by
    intro next hnext
    rw [List.append_assoc, List.singleton_append, List.isChain_split, List.isChain_pair]
    constructor
    · apply h.isChain name hname.merges
    · use definition

/-- A chain to a node closes to a cycle by a name of the chain that the node inherits from. -/
theorem isMergeCycle (h : context.IsChainTo chain node) (hname : node.Inherits name)
    (hmem : name ∈ chain) :
  context.IsMergeCycle (chain ++ [name])
  where
  two_le_length := by
    have := List.length_pos_of_mem hmem
    simp only [List.length_append, List.length_singleton]
    omega
  nodup_dropLast := by
    rw [List.dropLast_concat]
    apply h.nodup
  exists_last := by
    use name
    simpa using hmem
  exists_definition := by
    intro other hother
    rcases List.mem_append.mp hother with hother | hother
    · apply h.exists_definition other hother
    · obtain rfl := List.mem_singleton.mp hother
      apply h.exists_definition other hmem
  isChain := h.isChain name hname.merges

end IsChainTo

end Context

namespace Resolver

variable {resolver : Resolver} {budget : Nat} {merging : List String} {node : Node}
  {chain : List String}

/-- The chain of a cycle goes on from the names that are being merged with a name that the node
merges. -/
theorem isMergeCycle_of_typeWithin (hmerging : resolver.context.IsChainTo merging node)
    (h : resolver.typeWithin budget merging node = .error (.cyclicSchema chain)) :
  resolver.context.IsMergeCycle chain ∧
    ∃ next rest, chain = merging ++ next :: rest ∧ node.Merges next
  := by
  induction budget generalizing merging node with
  | zero => simp at h
  | succ budget ih =>
    rcases typeWithin_succ_eq_error h with ⟨inner, hholds, hinner⟩ | ⟨name, hname, hmem, herror⟩ |
      ⟨name, hname, hnew, definition, hdefinition, hfailed⟩
    · obtain ⟨hcycle, next, rest, hchain, hnext⟩ := ih (hmerging.of_holds hholds) hinner
      use hcycle, next, rest, hchain
      apply hholds.merges hnext
    · obtain rfl : chain = merging ++ [name] := by simpa using herror
      use hmerging.isMergeCycle hname hmem, name, [], rfl
      apply hname.merges
    · obtain ⟨hcycle, next, rest, hchain, -⟩ :=
        ih (hmerging.of_inherits hname hnew hdefinition) hfailed
      use hcycle, name, next :: rest, by simpa using hchain
      apply hname.merges

/-- The chain that is told of a cycle is one: of merges from the node itself, or from the name of
the definition that is resolved. -/
theorem isMergeCycle_of_cyclicSchema (resolver : Resolver) (chain : List String) :
  (∀ node, (resolver.resolve node).outcome = .error (.cyclicSchema chain) →
    resolver.context.IsMergeCycle chain ∧ ∃ first, chain.head? = some first ∧ node.Merges first) ∧
  (∀ name report, resolver.resolveDefinition name = some report →
    report.outcome = .error (.cyclicSchema chain) →
      resolver.context.IsMergeCycle chain ∧ chain.head? = some name)
  := by
  constructor
  · intro node h
    rw [outcome_resolve] at h
    obtain ⟨hcycle, next, rest, rfl, hnext⟩ := isMergeCycle_of_typeWithin Context.isChainTo_nil h
    use hcycle, next, rfl
  · intro name report hreport h
    obtain ⟨definition, hdefinition, rfl⟩ := Option.map_eq_some_iff.mp hreport
    rw [outcome_resolveNamed] at h
    have hmem := List.mem_of_mem_head? hdefinition
    obtain ⟨hcycle, next, rest, rfl, -⟩ :=
      isMergeCycle_of_typeWithin (Context.isChainTo_singleton hmem) h
    use hcycle
    rfl

theorem isMergeCycle_of_cyclicSchema_mutualMerges :
  ∃ report, (Resolver.mk .mutualMerges 8).resolveDefinition "A" = some report ∧
    report.outcome = .error (.cyclicSchema ["A", "B", "A"]) ∧
    Context.mutualMerges.IsMergeCycle ["A", "B", "A"]
  := by
  obtain ⟨-, hdefinition⟩ := isMergeCycle_of_cyclicSchema ⟨.mutualMerges, 8⟩ ["A", "B", "A"]
  have h : ((Resolver.mk .mutualMerges 8).resolveNamed "A" (Node.heir "B")).outcome =
      .error (.cyclicSchema ["A", "B", "A"]) := rfl
  exact ⟨_, rfl, h, (hdefinition "A" _ rfl h).1⟩

end Resolver

end ApiTypes
