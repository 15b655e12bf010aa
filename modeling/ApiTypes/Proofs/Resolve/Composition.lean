import ApiTypes.Proofs.Resolve.Chain
import ApiTypes.Proofs.Resolve.Depth

/-!
# What an object is composed of

The properties of an object are those of the entries of its `allOf`, followed by its own, and
each of these has the type that its node resolves to on its own: `Resolver.resolve_isComposed`.
That the parts are resolved further down, and in the course of merging other definitions, makes
no difference once the object resolves.  Which of its own properties it requires, it says itself:
`Resolver.resolve_requiresOwn`.
-/

namespace ApiTypes

namespace Resolver

variable {resolver : Resolver} {budget : Nat} {node : Node} {type : Descriptor}
  {found : List Descriptor}

/-- The node resolves to the type. -/
def ResolvesTo (resolver : Resolver) (node : Node) (type : Descriptor) : Prop :=
  (resolver.resolve node).outcome = .ok type

/-- The properties that an entry of `allOf` contributes: those of all definitions of the name
that it refers to, or else those of the entry itself. -/
def Inherits (resolver : Resolver) (entry : Node) (properties : List Descriptor) : Prop :=
  match entry.reference? with
  | some reference =>
    ∃ bases,
      List.Forall₂ resolver.ResolvesTo (resolver.context.matching (lastSegment reference)) bases ∧
      properties = bases.flatMap (·.properties)
  | none => ∃ base, resolver.ResolvesTo entry base ∧ properties = base.properties

/-- The property of an object that requires the properties in `required`: the type of its node,
but with its name and with the nullability that goes with being required. -/
def Declares (resolver : Resolver) (required : List String) (entry : String × Node)
    (property : Descriptor) : Prop :=
  ∃ type isRequired, resolver.ResolvesTo entry.2 type ∧
    (isRequired = true ↔ entry.1 ∈ required) ∧
    property = type.mapHeader fun header =>
      { header with isNullable := !isRequired, membership := some ⟨entry.1, isRequired⟩ }

/-- The type has the properties of the entries of `allOf`, in order, and then the declared
ones. -/
structure IsComposed (resolver : Resolver) (node : Node) (type : Descriptor)
    (inherited : List (List Descriptor)) (own : List Descriptor) : Prop where
  properties_eq : type.properties = inherited.flatten ++ own
  inherits : List.Forall₂ resolver.Inherits node.allOf inherited
  declares :
    List.Forall₂ (resolver.Declares type.header.requiredNames) (node.properties?.getD []) own

/-! ### Parts on their own -/

theorem resolvesTo_of_typeWithin (h : resolver.typeWithin budget [] node = .ok type)
    (hle : budget ≤ resolver.maxDepth) :
  resolver.ResolvesTo node type
  := by
  rw [ResolvesTo, outcome_resolve]
  apply typeWithin_eq_ok_of_le h hle

/-- What an entry of `allOf` contributes are the properties of nodes that resolve on their
own. -/
theorem inherits_of_contributions {entry : Node}
    (h : contributions resolver.context (resolver.typeWithin budget) [] entry.entryPart = .ok found)
    (hle : budget ≤ resolver.maxDepth) :
  resolver.Inherits entry found
  := by
  unfold Inherits
  unfold Node.entryPart at h
  cases hreference : entry.reference? with
  | some reference =>
    rw [hreference] at h
    obtain ⟨bases, hbases, rfl⟩ :=
      Outcome.flatCollect_map_eq_ok_iff.mp (contributions_merge_nil_eq_ok_iff.mp h)
    use bases
    constructor
    · apply hbases.imp
      intro definition base hbase
      apply resolvesTo_of_typeWithin hbase hle
    · rfl
  | none =>
    rw [hreference] at h
    obtain ⟨base, hbase, rfl⟩ := Outcome.map_eq_ok_iff.mp h
    use base, resolvesTo_of_typeWithin hbase hle
    rfl

/-- What a property contributes is the type that its node resolves to on its own, attached. -/
theorem declares_of_contributions {header : Header} {entry : String × Node}
    (h : contributions resolver.context (resolver.typeWithin budget) []
      (Node.propertyPart header entry) = .ok found)
    (hle : budget ≤ resolver.maxDepth) :
  List.Forall₂ (resolver.Declares header.requiredNames) [entry] found
  := by
  obtain ⟨type, htype, rfl⟩ := Outcome.map_eq_ok_iff.mp h
  apply List.Forall₂.cons _ .nil
  use type, header.requires entry.1, resolvesTo_of_typeWithin htype hle
  constructor
  · simp [Header.requires]
  · rfl

/-- An object that resolves ends with its own properties. -/
theorem exists_declares_of_typeWithin (hshape : classify node = .object)
    (h : resolver.typeWithin (budget + 1) [] node = .ok type) (hle : budget ≤ resolver.maxDepth) :
  ∃ inherited own, type.properties = inherited ++ own ∧
    List.Forall₂ (resolver.Declares (Header.ofNode node).requiredNames)
      (node.properties?.getD []) own
  := by
  rw [typeWithin_succ_of_object _ hshape] at h
  obtain ⟨found, hfound, rfl⟩ := Outcome.map_eq_ok_iff.mp h
  obtain ⟨inherited, own, -, hown, rfl⟩ := Outcome.flatCollect_append_eq_ok_iff.mp hfound
  rw [Outcome.flatCollect_map] at hown
  use inherited, own, rfl
  have hdeclares := Outcome.forall₂_of_flatCollect hown
    fun entry _ found hentry => declares_of_contributions hentry hle
  rw [List.flatMap_singleton'] at hdeclares
  apply hdeclares

/-- An object that resolves is composed of its parts as they resolve on their own. -/
theorem resolve_isComposed (resolver : Resolver) {node : Node} {type : Descriptor}
    (hshape : classify node = .object) (h : (resolver.resolve node).outcome = .ok type) :
  ∃ inherited own, resolver.IsComposed node type inherited own
  := by
  rw [outcome_resolve] at h
  cases hdepth : resolver.maxDepth with
  | zero => simp [hdepth] at h
  | succ budget =>
    have hle : budget ≤ resolver.maxDepth := by omega
    rw [hdepth, typeWithin_succ_of_object _ hshape] at h
    obtain ⟨found, hfound, rfl⟩ := Outcome.map_eq_ok_iff.mp h
    obtain ⟨first, own, hfirst, hown, rfl⟩ := Outcome.flatCollect_append_eq_ok_iff.mp hfound
    rw [Outcome.flatCollect_map] at hfirst hown
    obtain ⟨inherited, hinherited, rfl⟩ := Outcome.flatCollect_eq_ok_iff.mp hfirst
    use inherited, own
    constructor
    · rfl
    · apply hinherited.imp
      intro entry found hentry
      apply inherits_of_contributions hentry hle
    · have hdeclares := Outcome.forall₂_of_flatCollect hown
        fun entry _ found hentry => declares_of_contributions hentry hle
      rw [List.flatMap_singleton'] at hdeclares
      apply hdeclares

/-- Two definitions of one name with a property of one name. -/
def household : Context where
  entries := [
    ("Base", .object [("properties", .object [("id", .object [("type", .string "integer")])])]),
    ("Base", .object [("properties", .object [("id", .object [("type", .string "string")])])])]

/-- An object with all kinds of parts: a reference to definitions, another entry, and properties
one of which is required. -/
def mixedObject : Node :=
  .object [
    ("type", .string "object"), ("required", .array [.string "tags"]),
    ("allOf", .array [
      .object [("$ref", .string "#/definitions/Base")],
      .object [("properties", .object [("id", .object [("type", .string "boolean")])])]]),
    ("properties", .object [
      ("tags", .object [
        ("type", .string "array"), ("items", .object [("type", .string "string")])]),
      ("owner", .object [("$ref", .string "#/definitions/Base")])])]

theorem resolve_isComposed_mixedObject :
  ∃ type inherited own, ((Resolver.mk household 8).resolve mixedObject).outcome = .ok type ∧
    (Resolver.mk household 8).IsComposed mixedObject type inherited own ∧
    type.properties.map (·.header.membership) =
      [some ⟨"id", false⟩, some ⟨"id", false⟩, some ⟨"id", false⟩, some ⟨"tags", true⟩,
        some ⟨"owner", false⟩]
  := by
  have h : ((Resolver.mk household 8).resolve mixedObject).outcome = .ok _ := rfl
  obtain ⟨inherited, own, hcomposed⟩ := resolve_isComposed _ rfl h
  exact ⟨_, inherited, own, h, hcomposed, rfl⟩

end Resolver

/-! ### Required properties -/

/-- The name is a string in the list of the required properties of a node. -/
def Node.Requires (node : Node) (name : String) : Prop :=
  ∃ names, node.field? "required" = some (.array names) ∧ .string name ∈ names

theorem Node.mem_requiredNames_iff {node : Node} {name : String} :
  name ∈ node.requiredNames ↔ node.Requires name
  := by
  have hstring : ∀ value : Json, value.asString? = some name ↔ .string name = value := by
    intro value
    cases value <;> simp [Json.asString?, eq_comm]
  unfold requiredNames Requires
  cases node.field? "required" with
  | none => simp
  | some value => cases value <;> simp [hstring]

/-- The names that count as required for the properties of a node: only a node of the type
`object` has any. -/
theorem Header.mem_requiredNames_ofNode_iff {node : Node} {name : String} :
  name ∈ (Header.ofNode node).requiredNames ↔
    node.field? "type" = some (.string "object") ∧ node.Requires name
  := by
  have htype : node.isType "object" = true ↔ node.field? "type" = some (.string "object") := by
    unfold Node.isType Node.typeName? Node.text?
    cases node.field? "type" with
    | none => simp
    | some value => cases value <;> simp [Json.asString?]
  unfold Header.ofNode
  rw [← htype, ← Node.mem_requiredNames_iff]
  split <;> simp_all

/-- The last properties of the type are those that the node has itself, in order.  They are
required, and not nullable, if `requires` says so of their names, and else they are nullable. -/
def Descriptor.RequiresOwn (type : Descriptor) (node : Node) (requires : String → Prop) : Prop :=
  ∃ inherited own, type.properties = inherited ++ own ∧
    List.Forall₂ (fun entry property => ∃ isRequired,
      property.header.membership = some ⟨entry.1, isRequired⟩ ∧
      property.header.isNullable = !isRequired ∧ (isRequired = true ↔ requires entry.1))
      (node.properties?.getD []) own

namespace Resolver

/-- An object requires of its own properties those in its list of required ones if its type is
said to be `object`, and none otherwise, whatever it takes from other nodes. -/
theorem resolve_requiresOwn (resolver : Resolver) {node : Node} {type : Descriptor}
    (hshape : classify node = .object) (h : (resolver.resolve node).outcome = .ok type) :
  type.RequiresOwn node fun name =>
    node.field? "type" = some (.string "object") ∧ node.Requires name
  := by
  rw [outcome_resolve] at h
  cases hdepth : resolver.maxDepth with
  | zero => simp [hdepth] at h
  | succ budget =>
    rw [hdepth] at h
    obtain ⟨inherited, own, hproperties, hown⟩ :=
      exists_declares_of_typeWithin hshape h (by omega)
    use inherited, own, hproperties
    apply hown.imp
    rintro entry property ⟨valueType, isRequired, -, hrequired, rfl⟩
    use isRequired
    simp [hrequired, Header.mem_requiredNames_ofNode_iff]

/-- The object requires its tags, but not the owner, and not the property of its bases. -/
theorem resolve_requiresOwn_mixedObject :
  ∃ type, ((Resolver.mk household 8).resolve mixedObject).outcome = .ok type ∧
    type.RequiresOwn mixedObject (fun name =>
      mixedObject.field? "type" = some (.string "object") ∧ mixedObject.Requires name) ∧
    type.properties.map (fun property => (property.header.membership, property.header.isNullable)) =
      [(some ⟨"id", false⟩, true), (some ⟨"id", false⟩, true), (some ⟨"id", false⟩, true),
        (some ⟨"tags", true⟩, false), (some ⟨"owner", false⟩, true)]
  := by
  have h : ((Resolver.mk household 8).resolve mixedObject).outcome = .ok _ := rfl
  exact ⟨_, h, resolve_requiresOwn _ rfl h, rfl⟩

/-- An object that requires its property but does not tell its type. -/
def untypedObject : Node :=
  .object [
    ("required", .array [.string "a"]),
    ("properties", .object [("a", .object [("type", .string "string")])])]

/-- The list of required properties does not count without the type. -/
theorem not_requiresOwn_untypedObject :
  classify untypedObject = .object ∧ untypedObject.Requires "a" ∧
  ∃ type, ((Resolver.mk .empty defaultMaxDepth).resolve untypedObject).outcome = .ok type ∧
    ¬ type.RequiresOwn untypedObject untypedObject.Requires
  := by
  have hrequires : untypedObject.Requires "a" := ⟨_, rfl, List.mem_singleton.mpr rfl⟩
  have h : ((Resolver.mk .empty defaultMaxDepth).resolve untypedObject).outcome = .ok _ := rfl
  refine ⟨rfl, hrequires, _, h, ?_⟩
  rintro ⟨inherited, own, hproperties, hown⟩
  obtain ⟨property, _, ⟨isRequired, hmembership, -, hiff⟩, hnil, rfl⟩ :=
    List.forall₂_cons_left_iff.mp hown
  obtain rfl := List.forall₂_nil_left_iff.mp hnil
  have hlast : (inherited ++ [property]).getLast?.map (·.header.membership) =
      some (some ⟨"a", false⟩) := by
    rw [← hproperties]
    rfl
  obtain rfl : isRequired = false := by simpa [hmembership] using hlast
  simp [hrequires] at hiff

end Resolver

end ApiTypes
