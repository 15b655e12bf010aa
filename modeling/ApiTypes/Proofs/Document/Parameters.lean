import ApiTypes.Proofs.Document.Faults
import ApiTypes.Proofs.Resolve.Depth

/-!
# Parameters and their types

What a parameter says of itself is read from the same node as its type, in another way.  The two
agree: the record of a parameter `AgreesWithType` when its node holds no schema and is no reference,
and otherwise its type is that of the schema, whatever else stands in the node.  This holds of all
parameters of a model, `Document.parametersAgree_of_buildModel`.
-/

namespace ApiTypes

namespace Node

/-- The node is neither a wrapper nor a reference. -/
structure IsPlain (node : Node) : Prop where
  wrapped?_eq : node.wrapped? = none
  reference?_eq : node.reference? = none

theorem classify_ne_wrapper {node : Node} (h : node.wrapped? = none) (inner : Node) :
  classify node ≠ .wrapper inner
  := by
  rw [ne_eq, classify_eq_wrapper_iff, h]
  exact nofun

theorem IsPlain.classify_eq_enumeration_iff {node : Node} (h : node.IsPlain) {values : List Json} :
  classify node = .enumeration values ↔ node.enumValues? = some values
  := by
  grind [classify, classifyByType, h.wrapped?_eq, h.reference?_eq]

end Node

namespace Descriptor

variable {node : Node} {found : List Descriptor}

/-- A type that is put together for a node has the header of the node, unless that is a wrapper. -/
theorem header_assemble (h : node.wrapped? = none) (found : List Descriptor) :
  (assemble node found).header = Header.ofNode node
  := by
  unfold assemble
  cases hshape : classify node with
  | wrapper inner => exact absurd hshape (Node.classify_ne_wrapper h inner)
  | reference | enumeration | primitive | array | dictionary | any | object => rfl

/-- A type that is put together for a plain node is an enumeration of its values. -/
theorem values?_assemble (h : node.IsPlain) (found : List Descriptor) :
  (assemble node found).values? = node.enumValues?
  := by
  unfold assemble
  cases hshape : classify node with
  | wrapper inner => exact absurd hshape (Node.classify_ne_wrapper h.wrapped?_eq inner)
  | enumeration values => exact (h.classify_eq_enumeration_iff.mp hshape).symm
  | reference | primitive | array | dictionary | any | object =>
    cases hvalues : node.enumValues? with
    | none => rfl
    | some values => simp [h.classify_eq_enumeration_iff.mpr hvalues] at hshape

/-- The text of an enumeration of one value is the literal of that value. -/
theorem typeText_of_values?_eq_singleton {type : Descriptor} {value : Json}
    (h : type.values? = some [value]) :
  type.typeText = .ofList (literal value)
  := by
  cases type with
  | enumeration header values =>
    obtain rfl := Option.some.inj h
    rw [typeText, typeChars_enumeration]
    simp [unionText]
  | reference | primitive | array | dictionary | any | object => cases h

end Descriptor

namespace Resolver

variable {resolver : Resolver} {node : Node} {type : Descriptor}

/-- A type is put together for the node that it is the type of. -/
theorem exists_assemble_eq (h : (resolver.resolve node).outcome = .ok type) :
  ∃ found, Descriptor.assemble node found = type
  := by
  rw [outcome_resolve] at h
  cases hdepth : resolver.maxDepth with
  | zero => simp [hdepth] at h
  | succ budget =>
    rw [hdepth, typeWithin_succ] at h
    obtain ⟨found, -, hfound⟩ := Outcome.map_eq_ok_iff.mp h
    exact ⟨found, hfound⟩

/-- A wrapper has the type that the node in it has on its own. -/
theorem resolve_of_wrapper {inner : Node} (h : (resolver.resolve node).outcome = .ok type)
    (hinner : node.wrapped? = some inner) :
  (resolver.resolve inner).outcome = .ok type
  := by
  rw [outcome_resolve] at h ⊢
  cases hdepth : resolver.maxDepth with
  | zero => simp [hdepth] at h
  | succ budget =>
    rw [hdepth, typeWithin_succ_of_wrapper _ (classify_eq_wrapper_iff.mpr hinner)] at h
    apply typeWithin_eq_ok_of_le h
    omega

end Resolver

namespace Document

/-- What a parameter says of itself is what its type says. -/
structure AgreesWithType (parameter : Parameter) : Prop where
  isRequired_eq : parameter.isRequired = !parameter.type.header.isNullable
  cardinality_eq_iff : parameter.cardinality = "" ↔ parameter.isRequired = true
  isSome_singleton_iff : parameter.singleton.isSome = true ↔
    parameter.type.isEnum = true ∧ ∃ value, parameter.type.values? = some [value]
  of_singleton : ∀ value, parameter.singleton = some value →
    parameter.type.values? = some [value] ∧
      parameter.type.typeText = .ofList (Descriptor.literal value)

theorem cardinality_eq_iff (parameter : Parameter) :
  parameter.cardinality = "" ↔ parameter.isRequired = true
  := by
  rw [Parameter.cardinality]
  cases parameter.isRequired <;> simp

namespace Builder

variable {builder : Builder} {document : Json} {options : ModelOptions} {verb : Verb}
  {path : String} {node : Node} {parameter : Parameter}

theorem isRequired_of_parameterOfNode
    (h : (builder.parameterOfNode verb path node).outcome = .ok parameter) :
  parameter.isRequired = node.requiredFlag
  := by
  simp only [parameterOfNode, Report.outcome_bind, Report.outcome_pure,
    Outcome.bind_eq_ok_iff] at h
  obtain ⟨type, -, ⟨⟩⟩ := h
  rfl

/-- A parameter is a singleton when its node has a single value. -/
theorem singleton_of_parameterOfNode
    (h : (builder.parameterOfNode verb path node).outcome = .ok parameter) (value : Json) :
  parameter.singleton = some value ↔ node.enumValues? = some [value]
  := by
  simp only [parameterOfNode, Report.outcome_bind, Report.outcome_pure,
    Outcome.bind_eq_ok_iff] at h
  obtain ⟨type, -, ⟨⟩⟩ := h
  dsimp only
  split
  · next only hvalues => simp [hvalues]
  · next hother =>
    constructor
    · rintro ⟨⟩
    · intro hvalues
      exact absurd hvalues (hother value)

/-- The parameter for a plain node agrees with its type. -/
theorem agreesWithType_of_parameterOfNode
    (h : (builder.parameterOfNode verb path node).outcome = .ok parameter) (hnode : node.IsPlain) :
  AgreesWithType parameter
  := by
  obtain ⟨found, htype⟩ := Resolver.exists_assemble_eq (isParameter_of_parameterOfNode h).resolves
  have hheader : parameter.type.header = Header.ofNode node := by
    rw [← htype, Descriptor.header_assemble hnode.wrapped?_eq]
  have hvalues : parameter.type.values? = node.enumValues? := by
    rw [← htype, Descriptor.values?_assemble hnode]
  have hsingleton (value : Json) :
      parameter.singleton = some value ↔ parameter.type.values? = some [value] := by
    rw [hvalues, singleton_of_parameterOfNode h]
  constructor
  case isRequired_eq =>
    rw [isRequired_of_parameterOfNode h, hheader, Header.ofNode, Bool.not_not]
  case cardinality_eq_iff => apply cardinality_eq_iff
  case isSome_singleton_iff =>
    simp only [Option.isSome_iff_exists, hsingleton, Descriptor.isEnum]
    constructor
    · rintro ⟨value, hvalue⟩
      exact ⟨⟨[value], hvalue⟩, value, hvalue⟩
    · rintro ⟨-, hvalue⟩
      exact hvalue
  case of_singleton =>
    intro value hvalue
    have htypeValues := (hsingleton value).mp hvalue
    exact ⟨htypeValues, Descriptor.typeText_of_values?_eq_singleton htypeValues⟩

end Builder

/-- The parameter of a plain node agrees with its type, and that of a wrapper has the type of the
schema in it. -/
structure IsInAgreement (resolver : Resolver) (node : Node) (parameter : Parameter) : Prop where
  agreesWithType : node.IsPlain → AgreesWithType parameter
  resolves_wrapped : ∀ schema, node.wrapped? = some schema →
    (resolver.resolve schema).outcome = .ok parameter.type

variable {document : Json} {options : ModelOptions} {model : Model}

theorem isWellFormed_of_mem_sites (hdocument : document.isWellFormed = true) :
  ∀ site ∈ sites document, site.operation.isWellFormed = true
  := by
  intro site hsite
  obtain ⟨entry, hentry, hmem⟩ := List.mem_flatMap.mp hsite
  apply isWellFormed_of_mem_sitesOfPath _ hmem
  apply Json.isWellFormed_of_mem_membersOf_field? hdocument hentry

/-- The methods of a model are built for the sites of the document. -/
theorem exists_forall₂_builds (hdocument : document.isWellFormed = true)
    (h : (buildModel document options).outcome = .ok model) :
  ∃ builder : Builder, builder.IsFor document options ∧
    List.Forall₂ builder.Builds (sites document) model.methods
  := by
  obtain ⟨envelope, henvelope, hmodel⟩ := exists_envelope_of_buildModel h
  obtain ⟨-, -, hpaths⟩ := eq_membersOf_of_envelope hdocument henvelope
  use .ofEnvelope envelope options, isFor_ofEnvelope hdocument henvelope
  obtain ⟨-, -, methods, hmethods, rfl⟩ := Builder.outcome_model_eq_ok_iff.mp hmodel
  rw [sites, ← hpaths]
  apply Outcome.forall₂_of_flatCollect hmethods
  intro entry _ found
  apply Builder.forall₂_builds_of_methodsOfPath

/-- The parameters of a model agree with their types. -/
theorem parametersAgree_of_buildModel (hdocument : document.isWellFormed = true)
    (h : (buildModel document options).outcome = .ok model) :
  List.Forall₂
    (fun site method =>
      List.Forall₂ (IsInAgreement (.ofDocument document options.maxDepth))
        (site.parameterNodes document options) method.parameters)
    (sites document) model.methods
  := by
  obtain ⟨builder, hfor, hmethods⟩ := exists_forall₂_builds hdocument h
  have hsites := isWellFormed_of_mem_sites hdocument
  apply ((List.forall₂_and_left _ _).mpr ⟨hsites, hmethods⟩).imp
  rintro site method ⟨hsite, verb, -, hmethod⟩
  obtain ⟨operation, hoperation, parameters, hparameters, _, _, rfl⟩ :=
    Builder.outcome_method_eq_ok_iff.mp hmethod
  rw [Site.parameterNodes, ← (Operation.eq_of_ofJson hsite hoperation).1, ← hfor.parameterNodes_eq]
  apply (Builder.forall₂_parameterOfNode hparameters).imp
  intro node parameter hparameter
  constructor
  · apply Builder.agreesWithType_of_parameterOfNode hparameter
  · intro schema
    rw [← hfor.resolver_eq]
    apply Resolver.resolve_of_wrapper (Builder.isParameter_of_parameterOfNode hparameter).resolves

/-- A document with an operation that has a shared parameter of one value, and one in its body whose
own value is not that of its schema. -/
def versionedPets : Json :=
  .object [
    ("swagger", .string "2.0"),
    ("parameters", .object [
      ("version", .object [
        ("name", .string "version"),
        ("required", .bool true),
        ("enum", .array [.string "v2"])])]),
    ("paths", .object [
      ("/pets", .object [
        ("post", .object [
          ("parameters", .array [
            .object [("$ref", .string "#/parameters/version")],
            .object [
              ("name", .string "pet"),
              ("in", .string "body"),
              ("enum", .array [.null]),
              ("schema", .object [("type", .string "string")])]])])])])]

/-- The singleton in the body is no enumeration, because its type is that of the schema. -/
theorem parametersAgree_of_buildModel_versionedPets :
  ∃ model, (buildModel versionedPets).outcome = .ok model ∧
    List.Forall₂
      (fun site method =>
        List.Forall₂ (IsInAgreement (.ofDocument versionedPets defaultMaxDepth))
          (site.parameterNodes versionedPets {}) method.parameters)
      (sites versionedPets) model.methods ∧
    model.methods.map (fun method => method.parameters.map fun parameter =>
      (parameter.name, parameter.isRequired, parameter.singleton.isSome, parameter.type.isEnum,
        parameter.type.typeText)) =
      [[("version", true, true, true, "\"v2\""), ("pet", false, true, false, "string")]]
  := by
  have hdocument : versionedPets.isWellFormed = true := by decide
  have h : (buildModel versionedPets).outcome = .ok _ := rfl
  exact ⟨_, h, parametersAgree_of_buildModel hdocument h, rfl⟩

end Document

end ApiTypes
