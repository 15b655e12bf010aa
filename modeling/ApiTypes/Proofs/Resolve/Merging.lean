import ApiTypes.Proofs.Resolve.Walk
import Mathlib.Logic.Relation

/-!
# Merging

`node.Merges name` says that the resolution of `node` comes to an object that takes the
properties of the definitions of `name`, without going through another definition.
`context.Leads x y` says that a definition of `x` merges `y`, and `context.Reaches node name`
that `name` is merged by `node` or by the definitions that it leads to.

The resolution of a node with a level left fails as one of its parts does, or since it comes
to a name that is being merged; when it succeeds, none of this happens.
-/

namespace ApiTypes

open Relation

namespace Node

/-- The type of `inner` is part of the type of `node`. -/
inductive Holds : Node → Node → Prop
  | wrapper {node inner : Node} (h : classify node = .wrapper inner) : Holds node inner
  | items {node items : Node} (h : classify node = .array items) : Holds node items
  | values {node values : Node} (h : classify node = .dictionary values) : Holds node values
  | entry {node entry : Node} (h : classify node = .object) (hentry : entry ∈ node.allOf)
      (hplain : entry.reference? = none) : Holds node entry
  | property {node value : Node} {name : String} (h : classify node = .object)
      (hproperty : (name, value) ∈ node.properties?.getD []) : Holds node value

/-- The node is an object with a reference to `name` in its `allOf`. -/
def Inherits (node : Node) (name : String) : Prop :=
  classify node = .object ∧
    ∃ entry ∈ node.allOf, ∃ reference, entry.reference? = some reference ∧
      lastSegment reference = name

/-- Some object that is found within the node inherits from `name`. -/
def Merges (node : Node) (name : String) : Prop :=
  ∃ inner, ReflTransGen Holds node inner ∧ inner.Inherits name

theorem Inherits.merges {node : Node} {name : String} (h : node.Inherits name) :
  node.Merges name
  := by
  use node, .refl

theorem Holds.merges {node inner : Node} {name : String} (h : node.Holds inner)
    (hinner : inner.Merges name) :
  node.Merges name
  := by
  obtain ⟨object, hwithin, hobject⟩ := hinner
  use object, hwithin.head h

/-- An object that takes its properties from the definitions that a reference leads to. -/
def heir (reference : String) : Node :=
  .object [("allOf", .array [.object [("$ref", .string reference)]])]

theorem inherits_heir (reference : String) :
  (heir reference).Inherits (lastSegment reference)
  := ⟨rfl, .object [("$ref", .string reference)], List.mem_singleton.mpr rfl, reference, rfl, rfl⟩

theorem not_holds_heir (reference : String) (inner : Node) :
  ¬ (heir reference).Holds inner
  := by
  have hshape : classify (heir reference) = .object := rfl
  intro h
  cases h with
  | wrapper h | items h | values h => simp [hshape] at h
  | entry _ hentry hplain =>
    obtain rfl := List.mem_singleton.mp hentry
    cases hplain
  | property _ hproperty => cases hproperty

/-- An heir merges the definitions that its reference leads to, and nothing else. -/
theorem merges_heir_iff {reference name : String} :
  (heir reference).Merges name ↔ lastSegment reference = name
  := by
  constructor
  · rintro ⟨object, hwithin, -, entry, hentry, found, hfound, rfl⟩
    obtain rfl | ⟨inner, hinner, -⟩ := hwithin.cases_head
    · obtain rfl := List.mem_singleton.mp hentry
      obtain rfl := Option.some.inj hfound
      rfl
    · absurd hinner
      apply not_holds_heir
  · rintro rfl
    apply (inherits_heir reference).merges

/-! ### Parts -/

theorem node_mem_objectParts {node inner : Node} {role : Role} :
  .node inner role ∈ node.objectParts ↔
    (inner ∈ node.allOf ∧ inner.reference? = none ∧ role = .inherited) ∨
    ∃ name, (name, inner) ∈ node.properties?.getD [] ∧
      role = .property name ((Header.ofNode node).requires name)
  := by
  simp only [objectParts, List.mem_append, List.mem_map, propertyPart, Part.node.injEq]
  constructor
  · rintro (⟨entry, hentry, hpart⟩ | ⟨⟨name, value⟩, hproperty, rfl, rfl⟩)
    · left
      unfold entryPart at hpart
      cases hreference : entry.reference? with
      | none =>
        rw [hreference] at hpart
        obtain ⟨rfl, rfl⟩ := Part.node.inj hpart
        exact ⟨hentry, hreference, rfl⟩
      | some reference => simp [hreference] at hpart
    · right
      use name
  · rintro (⟨hentry, hreference, rfl⟩ | ⟨name, hproperty, rfl⟩)
    · left
      use inner, hentry
      simp [entryPart, hreference]
    · right
      use (name, inner)

theorem merge_mem_objectParts {node : Node} {name : String} :
  .merge name ∈ node.objectParts ↔
    ∃ entry ∈ node.allOf, ∃ reference, entry.reference? = some reference ∧
      lastSegment reference = name
  := by
  simp only [objectParts, List.mem_append, List.mem_map, propertyPart, reduceCtorEq, and_false,
    exists_false, or_false]
  apply exists_congr
  intro entry
  apply and_congr_right
  intro _
  unfold entryPart
  cases entry.reference? <;> simp

theorem Holds.of_mem_parts {node inner : Node} {role : Role} (h : .node inner role ∈ node.parts) :
  node.Holds inner
  := by
  cases hshape : classify node with
  | wrapper =>
    obtain ⟨rfl, -⟩ : inner = _ ∧ role = _ := by simpa [parts, hshape] using h
    apply wrapper hshape
  | array =>
    obtain ⟨rfl, -⟩ : inner = _ ∧ role = _ := by simpa [parts, hshape] using h
    apply items hshape
  | dictionary =>
    obtain ⟨rfl, -⟩ : inner = _ ∧ role = _ := by simpa [parts, hshape] using h
    apply values hshape
  | object =>
    rw [parts, hshape] at h
    rcases node_mem_objectParts.mp h with ⟨hentry, hplain, -⟩ | ⟨name, hproperty, -⟩
    · apply entry hshape hentry hplain
    · apply property hshape hproperty
  | reference | enumeration | primitive | any => simp [parts, hshape] at h

theorem Holds.exists_mem_parts {node inner : Node} (h : node.Holds inner) :
  ∃ role, .node inner role ∈ node.parts
  := by
  cases h with
  | wrapper h => simp [parts, h]
  | items h => simp [parts, h]
  | values h => simp [parts, h]
  | entry h hentry hplain =>
    use .inherited
    simp only [parts, h]
    apply node_mem_objectParts.mpr
    left
    exact ⟨hentry, hplain, rfl⟩
  | @property name h hproperty =>
    use .property name ((Header.ofNode node).requires name)
    simp only [parts, h]
    apply node_mem_objectParts.mpr
    right
    use name

theorem inherits_iff_mem_parts {node : Node} {name : String} :
  node.Inherits name ↔ .merge name ∈ node.parts
  := by
  rw [Inherits, ← merge_mem_objectParts, parts]
  cases h : classify node <;> simp

end Node

namespace Context

variable {context : Context}

/-- Some definition of `x` merges `y`. -/
def Leads (context : Context) (x y : String) : Prop :=
  ∃ definition ∈ context.matching x, Node.Merges definition y

/-- The name is merged by the node, or by the definitions that this leads to. -/
def Reaches (context : Context) (node : Node) (name : String) : Prop :=
  ∃ first, node.Merges first ∧ ReflTransGen context.Leads first name

/-- The definitions of a name lead back to it. -/
def IsCyclic (context : Context) (name : String) : Prop :=
  TransGen context.Leads name name

theorem Reaches.of_merges {node : Node} {name : String} (h : node.Merges name) :
  context.Reaches node name
  := by
  use name, h

theorem Reaches.of_holds {node inner : Node} {name : String} (h : node.Holds inner)
    (hinner : context.Reaches inner name) :
  context.Reaches node name
  := by
  obtain ⟨first, hfirst, hrest⟩ := hinner
  use first, h.merges hfirst

theorem leads_of_reaches {definition : Node} {x name : String}
    (hdefinition : definition ∈ context.matching x) (h : context.Reaches definition name) :
  TransGen context.Leads x name
  := by
  obtain ⟨first, hfirst, hrest⟩ := h
  apply TransGen.head' _ hrest
  use definition

theorem Reaches.of_inherits {node definition : Node} {x name : String} (h : node.Inherits x)
    (hdefinition : definition ∈ context.matching x) (hreaches : context.Reaches definition name) :
  context.Reaches node name
  := by
  use x, h.merges
  apply (leads_of_reaches hdefinition hreaches).to_reflTransGen

/-- Definitions of two names that merge one another. -/
def mutualMerges : Context where
  entries := [("A", Node.heir "B"), ("B", Node.heir "A")]

theorem leads_mutualMerges :
  mutualMerges.Leads "A" "B" ∧ mutualMerges.Leads "B" "A"
  := by
  constructor
  · use Node.heir "B", List.mem_singleton.mpr rfl
    apply (Node.inherits_heir "B").merges
  · use Node.heir "A", List.mem_singleton.mpr rfl
    apply (Node.inherits_heir "A").merges

/-- Two definitions that merge a third one, which merges what is not there. -/
def diamondMerges : Context where
  entries := [("A", .heir "C"), ("B", .heir "C"), ("C", .heir "D")]

end Context

/-- An object that merges `A` and `B`. -/
def Node.diamond : Node :=
  .object [("allOf", .array [.object [("$ref", .string "A")], .object [("$ref", .string "B")]])]

/-! ### Resolution by parts -/

namespace Resolver

variable {resolver : Resolver} {budget : Nat} {merging : List String} {node : Node}

/-- When a node resolves, so does every node that it holds. -/
theorem exists_typeWithin_of_holds {type : Descriptor}
    (h : resolver.typeWithin (budget + 1) merging node = .ok type) {inner : Node}
    (hinner : node.Holds inner) :
  ∃ innerType, resolver.typeWithin budget merging inner = .ok innerType
  := by
  obtain ⟨found, hfound, -⟩ := Outcome.map_eq_ok_iff.mp h
  obtain ⟨role, hpart⟩ := hinner.exists_mem_parts
  obtain ⟨first, hfirst⟩ := Outcome.exists_ok_of_flatCollect_eq_ok hfound hpart
  obtain ⟨innerType, htype, -⟩ := Outcome.map_eq_ok_iff.mp hfirst
  use innerType

/-- When a node resolves, the names that it inherits from are not being merged. -/
theorem notMem_of_inherits {type : Descriptor}
    (h : resolver.typeWithin (budget + 1) merging node = .ok type) {name : String}
    (hname : node.Inherits name) :
  name ∉ merging
  := by
  obtain ⟨found, hfound, -⟩ := Outcome.map_eq_ok_iff.mp h
  obtain ⟨first, hfirst⟩ :=
    Outcome.exists_ok_of_flatCollect_eq_ok hfound (Node.inherits_iff_mem_parts.mp hname)
  intro hmem
  simp [contributions, hmem] at hfirst

/-- When a node resolves, so does every definition of a name that it inherits from, as that
name is merged. -/
theorem exists_typeWithin_of_inherits {type : Descriptor}
    (h : resolver.typeWithin (budget + 1) merging node = .ok type) {name : String}
    (hname : node.Inherits name) {definition : Node}
    (hdefinition : definition ∈ resolver.context.matching name) :
  ∃ base, resolver.typeWithin budget (merging ++ [name]) definition = .ok base
  := by
  have hnew := notMem_of_inherits h hname
  obtain ⟨found, hfound, -⟩ := Outcome.map_eq_ok_iff.mp h
  obtain ⟨first, hfirst⟩ :=
    Outcome.exists_ok_of_flatCollect_eq_ok hfound (Node.inherits_iff_mem_parts.mp hname)
  rw [contributions, if_neg hnew] at hfirst
  obtain ⟨more, hmore⟩ := Outcome.exists_ok_of_flatCollect_eq_ok hfirst hdefinition
  obtain ⟨base, hbase, -⟩ := Outcome.map_eq_ok_iff.mp hmore
  use base

/-- A node with a level left fails as a node that it holds, since it inherits from a name
that is being merged, or as a definition of a name that it inherits from. -/
theorem typeWithin_succ_eq_error {error : ResolveError}
    (h : resolver.typeWithin (budget + 1) merging node = .error error) :
  (∃ inner, node.Holds inner ∧ resolver.typeWithin budget merging inner = .error error) ∨
  (∃ name, node.Inherits name ∧ name ∈ merging ∧ error = .cyclicSchema (merging ++ [name])) ∨
  (∃ name, node.Inherits name ∧ name ∉ merging ∧ ∃ definition ∈ resolver.context.matching name,
    resolver.typeWithin budget (merging ++ [name]) definition = .error error)
  := by
  obtain ⟨part, hpart, herror⟩ :=
    Outcome.exists_of_flatCollect_eq_error (Outcome.map_eq_error_iff.mp h)
  cases part with
  | node inner role =>
    left
    use inner, .of_mem_parts hpart
    apply Outcome.map_eq_error_iff.mp herror
  | merge name =>
    right
    have hname := Node.inherits_iff_mem_parts.mpr hpart
    by_cases hmem : name ∈ merging
    · left
      use name, hname, hmem
      simpa [contributions, hmem] using herror.symm
    · right
      rw [contributions, if_neg hmem] at herror
      obtain ⟨definition, hdefinition, hfailed⟩ := Outcome.exists_of_flatCollect_eq_error herror
      use name, hname, hmem, definition, hdefinition
      apply Outcome.map_eq_error_iff.mp hfailed

/-- The depth that is told to be exceeded is the one of the resolver. -/
theorem eq_maxDepth_of_depthExceeded {limit : Nat}
    (h : resolver.typeWithin budget merging node = .error (.depthExceeded limit)) :
  limit = resolver.maxDepth
  := by
  induction budget generalizing merging node with
  | zero => simpa using h.symm
  | succ budget ih =>
    rcases typeWithin_succ_eq_error h with ⟨inner, -, hinner⟩ | ⟨name, -, -, herror⟩ |
      ⟨name, -, -, definition, -, hdefinition⟩
    · apply ih hinner
    · simp at herror
    · apply ih hdefinition

/-- Two resolutions of a node with a level left agree when those of its parts do. -/
theorem agreesUnless_typeWithin_succ {other : Resolver} {more : Nat} {names : List String}
    {P : ResolveError → Prop}
    (hinner : ∀ inner, node.Holds inner →
      Outcome.AgreesUnless P (resolver.typeWithin budget merging inner)
        (other.typeWithin more names inner))
    (hmerge : ∀ name, node.Inherits name →
      Outcome.AgreesUnless P
        (contributions resolver.context (resolver.typeWithin budget) merging (.merge name))
        (contributions other.context (other.typeWithin more) names (.merge name))) :
  Outcome.AgreesUnless P (resolver.typeWithin (budget + 1) merging node)
    (other.typeWithin (more + 1) names node)
  := by
  apply Outcome.AgreesUnless.map
  apply Outcome.AgreesUnless.flatCollect
  intro part hpart
  cases part with
  | node inner role => apply (hinner inner (.of_mem_parts hpart)).map
  | merge name => apply hmerge name (Node.inherits_iff_mem_parts.mpr hpart)

/-- Two resolutions agree on merging a name that neither is merging already when they agree
on its definitions. -/
theorem agreesUnless_contributions_merge {other : Resolver} {more : Nat} {names : List String}
    {P : ResolveError → Prop} {name : String} (hmerging : name ∉ merging) (hnames : name ∉ names)
    (hmatching : resolver.context.matching name = other.context.matching name)
    (h : ∀ definition ∈ resolver.context.matching name,
      Outcome.AgreesUnless P (resolver.typeWithin budget (merging ++ [name]) definition)
        (other.typeWithin more (names ++ [name]) definition)) :
  Outcome.AgreesUnless P
    (contributions resolver.context (resolver.typeWithin budget) merging (.merge name))
    (contributions other.context (other.typeWithin more) names (.merge name))
  := by
  rw [contributions, if_neg hmerging, contributions, if_neg hnames, ← hmatching]
  apply Outcome.AgreesUnless.flatCollect
  intro definition hdefinition
  apply (h definition hdefinition).map

end Resolver

end ApiTypes
