import ApiTypes.Proofs.Resolve.Chain

/-!
# Inlining of definitions

An object that takes the properties of the definitions of a name by a reference resolves to
the same type as the object with these definitions in the place of the reference:
`Resolver.resolve_inlined_eq_ok_iff`.  The one merges the definitions while their name is being
merged and the other does not, which makes no difference to definitions that resolve.
-/

namespace ApiTypes

namespace Node

/-- The node with other nodes to take properties from. -/
def withAllOf (node : Node) (entries : List Node) : Node :=
  match node.asObject? with
  | some members => .object (Named.insert "allOf" (.array entries) members)
  | none => node

variable {node : Node} {entries : List Node}

@[simp]
theorem field?_withAllOf_of_ne {name : String} (h : name ≠ "allOf") :
  (node.withAllOf entries).field? name = node.field? name
  := by
  cases node with
  | object members => apply Named.get?_insert_of_ne h
  | null | bool | number | string | array => rfl

theorem allOf_withAllOf {entry : Node} (h : entry ∈ node.allOf) :
  (node.withAllOf entries).allOf = entries
  := by
  cases node with
  | object members => simp [withAllOf, allOf, Json.field?, Json.asObject?]
  | null | bool | number | string | array => simp [allOf, Json.field?, Json.asObject?] at h

@[simp]
theorem classify_withAllOf :
  classify (node.withAllOf entries) = classify node
  := by
  simp [classify, classifyByType, wrapped?, reference?, enumValues?, typeName?, isType, items,
    dictionaryValues?, additionalProperties?, isLoose, minItems?, has, text?]

@[simp]
theorem ofNode_withAllOf :
  Header.ofNode (node.withAllOf entries) = Header.ofNode node
  := by
  simp [Header.ofNode, description?, requiredFlag, requiredNames, typeName?, isType, text?]

@[simp]
theorem properties?_withAllOf :
  (node.withAllOf entries).properties? = node.properties?
  := by
  simp [properties?]

/-- The parts of an object with other nodes in the place of an entry of `allOf`. -/
theorem exists_objectParts_eq {entry : Node} {before after : List Node}
    (h : node.allOf = before ++ entry :: after) (inlined : List Node) :
  ∃ first last, node.objectParts = first ++ ([entry.entryPart] ++ last) ∧
    (node.withAllOf (before ++ inlined ++ after)).objectParts =
      first ++ (inlined.map entryPart ++ last)
  := by
  have hentry : entry ∈ node.allOf := by simp [h]
  use before.map entryPart, after.map entryPart ++
    (node.properties?.getD []).map (propertyPart (Header.ofNode node))
  constructor
  · simp [objectParts, h]
  · simp [objectParts, allOf_withAllOf hentry]

end Node

namespace Resolver

variable {resolver : Resolver} {budget : Nat} {name : String}

/-- Definitions contribute the same properties when their name is merged as when they stand
in its place. -/
theorem contributions_merge_eq_ok_iff {found : List Descriptor}
    (hplain : ∀ definition ∈ resolver.context.matching name, definition.reference? = none) :
  contributions resolver.context (resolver.typeWithin budget) [] (.merge name) = .ok found ↔
    Outcome.flatCollect (contributions resolver.context (resolver.typeWithin budget) [])
      ((resolver.context.matching name).map Node.entryPart) = .ok found
  := by
  rw [contributions_merge_nil_eq_ok_iff, Outcome.flatCollect_map]
  apply Outcome.flatCollect_eq_ok_iff_of_forall
  intro definition hdefinition first
  rw [Node.entryPart, hplain definition hdefinition]
  rfl

/-- Merging by reference is inlining: a node resolves to the same type with an entry of `allOf`
that is a reference as with the definitions of its name in the place of the entry. -/
theorem resolve_inlined_eq_ok_iff
    (resolver : Resolver) {node entry : Node} {reference : String} {before after : List Node}
    (hshape : classify node = .object) (hallOf : node.allOf = before ++ entry :: after)
    (hreference : entry.reference? = some reference)
    (hplain : ∀ definition ∈ resolver.context.matching (lastSegment reference),
      definition.reference? = none) :
  ∀ type, (resolver.resolve node).outcome = .ok type ↔
    (resolver.resolve (node.withAllOf
      (before ++ resolver.context.matching (lastSegment reference) ++ after))).outcome = .ok type
  := by
  intro type
  rw [outcome_resolve, outcome_resolve]
  cases resolver.maxDepth with
  | zero => simp
  | succ budget =>
    obtain ⟨first, last, hparts, hinlined⟩ :=
      Node.exists_objectParts_eq hallOf (resolver.context.matching (lastSegment reference))
    have hentry : entry.entryPart = .merge (lastSegment reference) := by
      simp [Node.entryPart, hreference]
    rw [typeWithin_succ_of_object _ hshape,
      typeWithin_succ_of_object _ (Node.classify_withAllOf.trans hshape), hparts, hinlined, hentry,
      Node.ofNode_withAllOf]
    simp only [Outcome.map_eq_ok_iff, Outcome.flatCollect_append_eq_ok_iff,
      Outcome.flatCollect_singleton, contributions_merge_eq_ok_iff hplain]

/-- Two definitions of one name, each with a property. -/
def namesakes : Context where
  entries := [
    ("Base", .object [("properties", .object [("id", .object [("type", .string "string")])])]),
    ("Base", .object [("properties", .object [("size", .object [("type", .string "integer")])])])]

theorem resolve_inlined_eq_ok_iff_namesakes :
  ∃ type, ((Resolver.mk namesakes 8).resolve (Node.heir "#/definitions/Base")).outcome = .ok type ∧
    ((Resolver.mk namesakes 8).resolve
      ((Node.heir "#/definitions/Base").withAllOf (namesakes.matching "Base"))).outcome = .ok type
  := by
  have hallOf : (Node.heir "#/definitions/Base").allOf =
      [] ++ .object [("$ref", .string "#/definitions/Base")] :: [] := rfl
  have hplain : ∀ definition ∈ (Resolver.mk namesakes 8).context.matching
      (lastSegment "#/definitions/Base"), definition.reference? = none := by decide
  have htype : ((Resolver.mk namesakes 8).resolve (Node.heir "#/definitions/Base")).outcome =
      .ok _ := rfl
  refine ⟨_, htype, ?_⟩
  apply (resolve_inlined_eq_ok_iff _ rfl hallOf rfl hplain _).mp htype

end Resolver

end ApiTypes
