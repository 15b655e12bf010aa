import ApiTypes.Proofs.Json.Height
import ApiTypes.Proofs.Resolve.Merging
import Mathlib.Data.Finset.Card
import Mathlib.Data.Nat.Find

/-!
# The limit of depth

The resolution of a node ends by itself: on every way down, the node gets less high or one
name fewer is left to merge, so that a limit above the number of names times the height of
the definitions is never reached.  An outcome that is not cut off by a limit is the same for
all greater limits.  So `IsCutOff` holds of the outcomes as a function of the limit: below
some threshold they are cut off, and from there on they are one and the same.
-/

namespace ApiTypes

namespace Node

/-- The node for the items of an array is less high than the array, also when it stands in
for one that is missing. -/
theorem height_items_lt {node : Node} (h : node.typeName? = some "array") :
  node.items.height < node.height
  := by
  unfold items
  cases hitems : node.field? "items" with
  | some items => apply Json.height_lt_of_field? hitems
  | none =>
    obtain ⟨type, htype, -⟩ := Option.bind_eq_some_iff.mp h
    apply Nat.lt_of_le_of_lt _ (Json.height_lt_of_field? htype)
    apply Json.one_le_height

/-- A node that is part of another is less high. -/
theorem Holds.height_lt {node inner : Node} (h : node.Holds inner) :
  inner.height < node.height
  := by
  cases h with
  | wrapper h => apply Json.height_lt_of_field? (classify_eq_wrapper_iff.mp h)
  | items h =>
    obtain ⟨htype, rfl⟩ := typeName?_of_classify_eq_array h
    apply height_items_lt htype
  | values h =>
    apply Json.height_lt_of_field? (additionalProperties?_of_classify_eq_dictionary h)
  | entry h hentry hplain =>
    unfold allOf at hentry
    split at hentry
    · next entries hfield =>
      apply Nat.lt_trans (Json.height_lt_of_mem_array hentry) (Json.height_lt_of_field? hfield)
    · simp at hentry
  | property h hproperty =>
    cases hproperties : node.properties? with
    | none => simp [hproperties] at hproperty
    | some properties =>
      rw [hproperties] at hproperty
      obtain ⟨field, hfield, hobject⟩ := Option.bind_eq_some_iff.mp hproperties
      obtain rfl := Json.asObject?_eq_some_iff.mp hobject
      apply Nat.lt_trans (Json.height_lt_of_mem_object hproperty) (Json.height_lt_of_field? hfield)

end Node

namespace Context

/-- The greatest height among the definitions. -/
def height (context : Context) : Nat :=
  Json.membersHeight context.entries

/-- The names of definitions that are not being merged. -/
def unmerged (context : Context) (merging : List String) : Finset String :=
  context.names.toFinset \ merging.toFinset

variable {context : Context} {name : String}

theorem height_le_of_mem_matching {definition : Node}
    (h : definition ∈ context.matching name) :
  definition.height ≤ context.height
  := Json.height_le_membersHeight (mem_matching.mp h)

theorem mem_names_of_mem_matching {definition : Node} (h : definition ∈ context.matching name) :
  name ∈ context.names
  := List.mem_map.mpr ⟨(name, definition), mem_matching.mp h, rfl⟩

theorem card_unmerged_le (merging : List String) :
  (context.unmerged merging).card ≤ context.names.toFinset.card
  := Finset.card_le_card Finset.sdiff_subset

/-- A name that is merged next is one fewer left to merge. -/
theorem card_unmerged_append_lt {merging : List String} (h : name ∈ context.names)
    (hnew : name ∉ merging) :
  (context.unmerged (merging ++ [name])).card < (context.unmerged merging).card
  := by
  apply Finset.card_lt_card
  constructor
  · intro other hother
    simp only [unmerged, Finset.mem_sdiff, List.mem_toFinset, List.mem_append, not_or] at *
    exact ⟨hother.1, hother.2.1⟩
  · intro hsubset
    have hname : name ∈ context.unmerged merging := by simp [unmerged, h, hnew]
    simpa [unmerged] using hsubset hname

end Context

namespace Resolver

variable {resolver : Resolver} {budget : Nat} {merging : List String} {node : Node}

/-- A budget is enough that allows for the node and, for every name that is left to merge,
for a definition. -/
theorem typeWithin_ne_depthExceeded
    (h : (resolver.context.unmerged merging).card * resolver.context.height + node.height ≤ budget)
    (limit : Nat) :
  resolver.typeWithin budget merging node ≠ .error (.depthExceeded limit)
  := by
  induction budget generalizing merging node with
  | zero =>
    have := Json.one_le_height node
    omega
  | succ budget ih =>
    intro herror
    rcases typeWithin_succ_eq_error herror with ⟨inner, hholds, hinner⟩ | ⟨name, -, -, hcycle⟩ |
      ⟨name, -, hnew, definition, hdefinition, hfailed⟩
    · have := hholds.height_lt
      apply ih _ hinner
      omega
    · simp at hcycle
    · have hfewer := Context.card_unmerged_append_lt
        (Context.mem_names_of_mem_matching hdefinition) hnew
      have hmerge := Nat.mul_le_mul_right resolver.context.height hfewer
      have hheight := Context.height_le_of_mem_matching hdefinition
      have := Json.one_le_height node
      rw [Nat.succ_mul] at hmerge
      apply ih _ hfailed
      omega

/-- An outcome that is not cut off is the same for every greater budget and every limit. -/
theorem agreesUnless_of_le {other : Resolver} (hcontext : resolver.context = other.context)
    {more : Nat} (hle : budget ≤ more) :
  Outcome.AgreesUnless (· = .depthExceeded resolver.maxDepth)
    (resolver.typeWithin budget merging node) (other.typeWithin more merging node)
  := by
  induction budget generalizing more merging node with
  | zero =>
    right
    use .depthExceeded resolver.maxDepth, rfl
    rfl
  | succ budget ih =>
    obtain ⟨more, rfl⟩ := Nat.exists_eq_add_of_le' (Nat.le_trans (Nat.le_add_left 1 budget) hle)
    have hle := Nat.le_of_succ_le_succ hle
    apply agreesUnless_typeWithin_succ
    · intro inner _
      apply ih hle
    · intro name _
      by_cases hname : name ∈ merging
      · rw [contributions, if_pos hname, contributions, if_pos hname]
        apply Outcome.AgreesUnless.refl
      · apply agreesUnless_contributions_merge hname hname (by rw [hcontext])
        intro definition _
        apply ih hle

/-- A node resolves to the same type with more levels left. -/
theorem typeWithin_eq_ok_of_le {type : Descriptor}
    (h : resolver.typeWithin budget merging node = .ok type) {more : Nat} (hle : budget ≤ more) :
  resolver.typeWithin more merging node = .ok type
  := (agreesUnless_of_le rfl hle).ok h

/-- The outcome of resolving a node under a limit of depth. -/
def typeUnder (context : Context) (merging : List String) (node : Node) (limit : Nat) :
    Except ResolveError Descriptor :=
  (Resolver.mk context limit).typeWithin limit merging node

variable {context : Context}

theorem typeUnder_eq_depthExceeded {limit told : Nat}
    (h : typeUnder context merging node limit = .error (.depthExceeded told)) :
  typeUnder context merging node limit = .error (.depthExceeded limit)
  := by
  obtain rfl := eq_maxDepth_of_depthExceeded h
  apply h

/-- An outcome that is not cut off is the same under every greater limit. -/
theorem typeUnder_eq_of_le {limit more : Nat} (hle : limit ≤ more)
    (h : ∀ told, typeUnder context merging node limit ≠ .error (.depthExceeded told)) :
  typeUnder context merging node more = typeUnder context merging node limit
  := by
  have hagree : Outcome.AgreesUnless (· = .depthExceeded limit)
      (typeUnder context merging node limit) (typeUnder context merging node more) := by
    apply agreesUnless_of_le _ hle
    rfl
  rcases hagree with heq | ⟨_, rfl, hcut⟩
  · apply heq.symm
  · absurd hcut
    apply h

/-- The outcomes for all limits are cut off below a threshold of at most `bound`, and one and
the same from there on. -/
def IsCutOff (bound : Nat) (outcome : Nat → Except ResolveError Descriptor) : Prop :=
  ∃ threshold ≤ bound,
    (∀ limit < threshold, outcome limit = .error (.depthExceeded limit)) ∧
    ((∃ type, ∀ limit ≥ threshold, outcome limit = .ok type) ∨
      ∃ chain, ∀ limit ≥ threshold, outcome limit = .error (.cyclicSchema chain))

/-- The threshold is the least limit under which the outcome is not cut off. -/
theorem isCutOff_typeUnder {bound : Nat}
    (h : (context.unmerged merging).card * context.height + node.height ≤ bound) :
  IsCutOff bound (typeUnder context merging node)
  := by
  classical
  have hbound : ∀ told, typeUnder context merging node bound ≠ .error (.depthExceeded told) := by
    apply typeWithin_ne_depthExceeded
    apply h
  have hexists : ∃ limit, ∀ told,
      typeUnder context merging node limit ≠ .error (.depthExceeded told) := ⟨bound, hbound⟩
  use Nat.find hexists, Nat.find_min' hexists hbound
  have hfound := Nat.find_spec hexists
  constructor
  · intro limit hlimit
    obtain ⟨told, htold⟩ := not_forall_not.mp (Nat.find_min hexists hlimit)
    apply typeUnder_eq_depthExceeded htold
  · rcases houtcome : typeUnder context merging node (Nat.find hexists) with (chain | told) | type
    · right
      use chain
      intro limit hlimit
      rw [typeUnder_eq_of_le hlimit hfound, houtcome]
    · absurd houtcome
      apply hfound
    · left
      use type
      intro limit hlimit
      rw [typeUnder_eq_of_le hlimit hfound, houtcome]

/-- The limit of depth only cuts off, and is never reached above the height of the node and
the definitions times one more than the number of their names. -/
theorem resolve_isCutOff (context : Context) (node : Node) :
  IsCutOff ((context.names.toFinset.card + 1) * max node.height context.height)
    (fun limit => ((Resolver.mk context limit).resolve node).outcome) ∧
  ∀ name definition, context.get? name = some definition →
    ∃ report : Nat → Report ResolveError Descriptor,
      (∀ limit, (Resolver.mk context limit).resolveDefinition name = some (report limit)) ∧
      IsCutOff ((context.names.toFinset.card + 1) * max definition.height context.height)
        fun limit => (report limit).outcome
  := by
  have hbound (merging : List String) (node : Node) :
      (context.unmerged merging).card * context.height + node.height ≤
        (context.names.toFinset.card + 1) * max node.height context.height := by
    rw [Nat.succ_mul]
    apply Nat.add_le_add
    · apply Nat.mul_le_mul (Context.card_unmerged_le merging) (Nat.le_max_right _ _)
    · apply Nat.le_max_left
  constructor
  · simp only [outcome_resolve]
    apply isCutOff_typeUnder (hbound [] node)
  · intro name definition hdefinition
    use fun limit => (Resolver.mk context limit).resolveNamed name definition
    constructor
    · intro limit
      simp [resolveDefinition, hdefinition]
    · simp only [outcome_resolveNamed]
      apply isCutOff_typeUnder (hbound [name] definition)

theorem resolve_isCutOff_mutualMerges :
  ∃ report : Nat → Report ResolveError Descriptor,
    (∀ limit, (Resolver.mk .mutualMerges limit).resolveDefinition "A" = some (report limit)) ∧
    IsCutOff 12 fun limit => (report limit).outcome
  := by
  apply (resolve_isCutOff .mutualMerges .null).2 "A" (Node.heir "B") rfl

end Resolver

end ApiTypes
