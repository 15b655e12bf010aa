import ApiTypes.Proofs.Resolve.Merging

/-!
# The names being merged

When a node resolves while some names are being merged, none of these is reached from the
node and no name that is reached leads back to itself.  So the outcome tells whether the
names are reached, and nothing else depends on them: a node resolves to a type while names
are being merged exactly when it resolves to that type on its own and reaches none of them.
So a definition resolves by its name as it does on its own:
`Resolver.resolveDefinition_eq_ok_iff_resolve`.
-/

namespace ApiTypes

open Relation

namespace Resolver

variable {resolver : Resolver} {budget : Nat} {merging : List String} {node : Node}
  {type : Descriptor} {name : String}

/-- The name is not being merged, and its definitions resolve as it is merged. -/
def CanMerge (resolver : Resolver) (merging : List String) (name : String) : Prop :=
  name ∉ merging ∧ ∃ budget, ∀ definition ∈ resolver.context.matching name,
    ∃ type, resolver.typeWithin budget (merging ++ [name]) definition = .ok type

/-- A node that resolves can merge the names that it inherits from. -/
theorem canMerge_of_inherits (h : resolver.typeWithin budget merging node = .ok type)
    (hname : node.Inherits name) :
  resolver.CanMerge merging name
  := by
  cases budget with
  | zero => simp at h
  | succ budget =>
    use notMem_of_inherits h hname, budget
    intro definition hdefinition
    apply exists_typeWithin_of_inherits h hname hdefinition

/-- A node that resolves can merge the names that it merges. -/
theorem canMerge_of_merges (h : resolver.typeWithin budget merging node = .ok type)
    (hname : node.Merges name) :
  resolver.CanMerge merging name
  := by
  obtain ⟨object, hwithin, hobject⟩ := hname
  induction hwithin using ReflTransGen.head_induction_on generalizing budget type with
  | refl => apply canMerge_of_inherits h hobject
  | head hholds _ ih =>
    cases budget with
    | zero => simp at h
    | succ budget =>
      obtain ⟨innerType, hinner⟩ := exists_typeWithin_of_holds h hholds
      apply ih hinner

/-- A name that can be merged leads to names that can be merged after it. -/
theorem CanMerge.of_leads {next : String} (h : resolver.CanMerge merging name)
    (hnext : resolver.context.Leads name next) :
  resolver.CanMerge (merging ++ [name]) next
  := by
  obtain ⟨-, budget, hresolve⟩ := h
  obtain ⟨definition, hdefinition, hmerges⟩ := hnext
  obtain ⟨type, htype⟩ := hresolve definition hdefinition
  apply canMerge_of_merges htype hmerges

/-- Whatever a name that can be merged leads to can be merged, when it and possibly other
names are being merged besides. -/
theorem CanMerge.exists_of_reflTransGen {last : String} (h : resolver.CanMerge merging name)
    (hlast : ReflTransGen resolver.context.Leads name last) :
  ∃ names, merging ⊆ names ∧ resolver.CanMerge names last
  := by
  induction hlast using ReflTransGen.head_induction_on generalizing merging with
  | refl => use merging, List.Subset.refl merging
  | head hleads _ ih =>
    obtain ⟨names, hsubset, hmerge⟩ := ih (h.of_leads hleads)
    use names, fun x hx => hsubset (List.mem_append_left _ hx)

/-- A name that can be merged does not lead back to itself. -/
theorem CanMerge.not_isCyclic (h : resolver.CanMerge merging name) :
  ¬ resolver.context.IsCyclic name
  := by
  intro hcycle
  obtain ⟨next, hnext, hback⟩ := TransGen.head'_iff.mp hcycle
  obtain ⟨names, hsubset, hnew, -⟩ := (h.of_leads hnext).exists_of_reflTransGen hback
  apply hnew
  apply hsubset
  simp

/-- A node that resolves reaches no name that is being merged. -/
theorem notMem_of_reaches (h : resolver.typeWithin budget merging node = .ok type)
    (hname : resolver.context.Reaches node name) :
  name ∉ merging
  := by
  obtain ⟨first, hfirst, hrest⟩ := hname
  obtain ⟨names, hsubset, hnew, -⟩ := (canMerge_of_merges h hfirst).exists_of_reflTransGen hrest
  intro hmem
  apply hnew (hsubset hmem)

/-- A node that resolves reaches no name that leads back to itself. -/
theorem not_isCyclic_of_reaches (h : resolver.typeWithin budget merging node = .ok type)
    (hname : resolver.context.Reaches node name) :
  ¬ resolver.context.IsCyclic name
  := by
  obtain ⟨first, hfirst, hrest⟩ := hname
  obtain ⟨names, -, hmerge⟩ := (canMerge_of_merges h hfirst).exists_of_reflTransGen hrest
  apply hmerge.not_isCyclic

/-- A node that resolves while some names are being merged resolves to the same type while
others are that it does not reach. -/
theorem typeWithin_eq_ok_of_not_reaches {names : List String}
    (h : resolver.typeWithin budget merging node = .ok type)
    (hnames : ∀ name ∈ names, ¬ resolver.context.Reaches node name) :
  resolver.typeWithin budget names node = .ok type
  := by
  induction budget generalizing merging names node type with
  | zero => simp at h
  | succ budget ih =>
    apply (agreesUnless_typeWithin_succ (P := fun _ => True) _ _).ok h
    · intro inner hinner
      obtain ⟨innerType, htype⟩ := exists_typeWithin_of_holds h hinner
      left
      rw [htype, ih htype]
      intro name hname hreaches
      apply hnames name hname (.of_holds hinner hreaches)
    · intro name hname
      have hreached : resolver.context.Reaches node name := .of_merges hname.merges
      apply agreesUnless_contributions_merge (notMem_of_inherits h hname)
        (fun hmem => hnames name hmem hreached) rfl
      intro definition hdefinition
      obtain ⟨base, hbase⟩ := exists_typeWithin_of_inherits h hname hdefinition
      left
      rw [hbase, ih hbase]
      intro other hother hreaches
      rcases List.mem_append.mp hother with hother | hother
      · apply hnames other hother (.of_inherits hname hdefinition hreaches)
      · obtain rfl := List.mem_singleton.mp hother
        apply notMem_of_reaches hbase hreaches
        simp

/-- The names that are being merged matter to a node that resolves only in that it reaches
none of them. -/
theorem typeWithin_eq_ok_iff :
  resolver.typeWithin budget merging node = .ok type ↔
    resolver.typeWithin budget [] node = .ok type ∧
      ∀ name ∈ merging, ¬ resolver.context.Reaches node name
  := by
  constructor
  · intro h
    constructor
    · apply typeWithin_eq_ok_of_not_reaches h
      simp
    · intro name hname hreaches
      apply notMem_of_reaches h hreaches hname
  · rintro ⟨h, hmerging⟩
    apply typeWithin_eq_ok_of_not_reaches h hmerging

/-- A definition resolves on its own as it does when its name is merged. -/
theorem typeWithin_singleton_eq_ok_iff {definition : Node}
    (hdefinition : definition ∈ resolver.context.matching name) :
  resolver.typeWithin budget [name] definition = .ok type ↔
    resolver.typeWithin budget [] definition = .ok type
  := by
  rw [typeWithin_eq_ok_iff, and_iff_left_iff_imp]
  intro h other hother hreaches
  obtain rfl := List.mem_singleton.mp hother
  apply not_isCyclic_of_reaches h hreaches
  apply Context.leads_of_reaches hdefinition hreaches

/-- The definitions of a name contribute the properties that they have on their own. -/
theorem contributions_merge_nil_eq_ok_iff {found : List Descriptor} :
  contributions resolver.context (resolver.typeWithin budget) [] (.merge name) = .ok found ↔
    Outcome.flatCollect
      (fun definition => (resolver.typeWithin budget [] definition).map (·.properties))
      (resolver.context.matching name) = .ok found
  := by
  rw [contributions, if_neg List.not_mem_nil, List.nil_append]
  apply Outcome.flatCollect_eq_ok_iff_of_forall
  intro definition hdefinition first
  simp only [Outcome.map_eq_ok_iff, typeWithin_singleton_eq_ok_iff hdefinition]

/-! ### Definitions by their names -/

/-- The first definition of a name resolves as the definition of that name to the type that it
resolves to on its own. -/
theorem outcome_resolveNamed_eq_ok_iff {definition : Node}
    (h : resolver.context.get? name = some definition) :
  (resolver.resolveNamed name definition).outcome = .ok type ↔
    (resolver.resolve definition).outcome = .ok type
  := by
  have hdefinition : definition ∈ resolver.context.matching name := List.mem_of_mem_head? h
  rw [outcome_resolveNamed, outcome_resolve, typeWithin_singleton_eq_ok_iff hdefinition]

/-- A definition has the same type by its name as on its own, and it has none by its name exactly
if it has none on its own. -/
theorem resolveDefinition_eq_ok_iff_resolve (resolver : Resolver) {name : String}
    {definition : Node} (h : resolver.context.get? name = some definition) :
  ∃ report, resolver.resolveDefinition name = some report ∧
    (∀ type, report.outcome = .ok type ↔ (resolver.resolve definition).outcome = .ok type) ∧
    ((∃ error, report.outcome = .error error) ↔
      ∃ error, (resolver.resolve definition).outcome = .error error)
  := by
  have hok : ∀ type, (resolver.resolveNamed name definition).outcome = .ok type ↔
      (resolver.resolve definition).outcome = .ok type := fun _ => outcome_resolveNamed_eq_ok_iff h
  use resolver.resolveNamed name definition
  refine ⟨?_, hok, ?_⟩
  · rw [resolveDefinition, h, Option.map_some]
  · rw [← Outcome.not_exists_ok_iff, ← Outcome.not_exists_ok_iff, exists_congr hok]

/-- Two definitions of one name, of which the first takes the properties of two definitions of
another. -/
def homonyms : Context where
  entries := [
    ("Pet", Node.heir "#/definitions/Base"),
    ("Base", .object [("properties", .object [("id", .object [("type", .string "string")])])]),
    ("Pet", Node.heir "#/definitions/Pet"),
    ("Base", .object [("properties", .object [("size", .object [("type", .string "integer")])])])]

/-- The pet has the properties of both bases either way, and definitions that merge one another
fail either way. -/
theorem resolveDefinition_eq_ok_iff_resolve_homonyms :
  (∃ report type, (Resolver.mk homonyms 8).resolveDefinition "Pet" = some report ∧
    report.outcome = .ok type ∧
    ((Resolver.mk homonyms 8).resolve (Node.heir "#/definitions/Base")).outcome = .ok type ∧
    type.properties.map (·.header.membership) = [some ⟨"id", false⟩, some ⟨"size", false⟩]) ∧
  ∃ report, (Resolver.mk Context.mutualMerges 8).resolveDefinition "A" = some report ∧
    (∃ error, report.outcome = .error error) ∧
    ∃ error, ((Resolver.mk Context.mutualMerges 8).resolve (Node.heir "B")).outcome = .error error
  := by
  constructor
  · obtain ⟨report, hreport, hok, -⟩ :=
      @resolveDefinition_eq_ok_iff_resolve (Resolver.mk homonyms 8) "Pet" _ rfl
    have htype : ((Resolver.mk homonyms 8).resolve (Node.heir "#/definitions/Base")).outcome =
        .ok _ := rfl
    exact ⟨report, _, hreport, (hok _).mpr htype, htype, rfl⟩
  · obtain ⟨report, hreport, -, herror⟩ :=
      @resolveDefinition_eq_ok_iff_resolve (Resolver.mk Context.mutualMerges 8) "A" _ rfl
    have hbare : ∃ error,
        ((Resolver.mk Context.mutualMerges 8).resolve (Node.heir "B")).outcome = .error error :=
      ⟨_, rfl⟩
    exact ⟨report, hreport, herror.mpr hbare, hbare⟩

end Resolver

end ApiTypes
