import ApiTypes.Proofs.Document.Faults

/-!
# Excluded parameters

Parameters can ask to be left out of a model.  A model with all parameters is turned into the one
without these by `Document.withoutExcluded`, which only removes parameters of methods.  Building
without them is indeed no more than that, except that it succeeds for some documents that have no
model with all parameters.  The nodes of the excluded parameters are all that such a document is
wrong about: `Document.buildModel_withoutExcluded`.
-/

namespace ApiTypes

namespace Document

/-! ### Removing parameters -/

/-- The nodes for all parameters of the operation of a site and of its path, those that ask to be
left out among them. -/
def Site.allParameterNodes (document : Json) (site : Site) : List Node :=
  site.parameterNodes document { includeExcluded := true }

/-- The parameters of a list that belong to nodes that do not ask to be left out. -/
def keptParameters (nodes : List Node) (parameters : List Parameter) : List Parameter :=
  ((nodes.zip parameters).filter fun (node, _) => !node.flag "x-exclude-from-bindings").map
    Prod.snd

/-- The method without the parameters that ask to be left out. -/
def Site.withoutExcluded (document : Json) (site : Site) (method : Method) : Method :=
  { method with parameters := keptParameters (site.allParameterNodes document) method.parameters }

/-- The model without the parameters that ask to be left out. -/
def withoutExcluded (document : Json) (model : Model) : Model :=
  { model with
    methods := List.zipWith (Site.withoutExcluded document) (sites document) model.methods }

theorem forall₂_keptParameters {R : Node → Parameter → Prop} {nodes : List Node}
    {parameters : List Parameter} (h : List.Forall₂ R nodes parameters) :
  List.Forall₂ R (nodes.filter fun node => !node.flag "x-exclude-from-bindings")
    (keptParameters nodes parameters)
  := by
  induction h with
  | nil => apply List.Forall₂.nil
  | @cons node parameter _ _ hfirst _ ih =>
    by_cases hflag : node.flag "x-exclude-from-bindings" = true
    · simpa [keptParameters, hflag] using ih
    · have hkept := List.Forall₂.cons hfirst ih
      simpa [keptParameters, hflag] using hkept

/-! ### Building -/

namespace Builder

variable {builder : Builder} {document : Json} {maxDepth : Nat} {verb : Verb} {path : String}

/-- The builder that leaves out parameters on request. -/
def excluding (builder : Builder) : Builder :=
  { builder with includeExcluded := false }

section

variable (hfor : builder.IsFor document ⟨maxDepth, true⟩)

include hfor

theorem parameterNodes_excluding (entries : List Node) :
  builder.excluding.parameterNodes entries =
    (builder.parameterNodes entries).filter fun node => !node.flag "x-exclude-from-bindings"
  := by
  have hexcluding : builder.excluding.IsFor document ⟨maxDepth, false⟩ :=
    ⟨hfor.resolver_eq, hfor.parameters_eq, rfl⟩
  simp [hfor.parameterNodes_eq, hexcluding.parameterNodes_eq]

/-- The parameters that are kept are the ones built for their nodes. -/
theorem parameters_excluding {entries : List Node} {parameters : List Parameter}
    (h : (flatCollect (builder.parameter verb path) entries).outcome = .ok parameters) :
  (flatCollect (builder.excluding.parameter verb path) entries).outcome =
    .ok (keptParameters (builder.parameterNodes entries) parameters)
  := by
  rw [outcome_parameters, Outcome.flatCollect_map_eq_ok_iff] at h ⊢
  obtain ⟨found, hfound, rfl⟩ := h
  rw [parameterNodes_excluding hfor, List.flatMap_singleton']
  exact ⟨_, forall₂_keptParameters hfound, List.flatMap_singleton' _⟩

/-- The method for the operation of a site only loses parameters. -/
theorem method_excluding {site : Site} {method : Method}
    (hsite : site.operation.isWellFormed = true)
    (h : (builder.method site.path (Json.itemsOf (site.item.field? "parameters")) verb
      site.operation).outcome = .ok method) :
  (builder.excluding.method site.path (Json.itemsOf (site.item.field? "parameters")) verb
    site.operation).outcome = .ok (site.withoutExcluded document method)
  := by
  obtain ⟨operation, hoperation, parameters, hparameters, replies, hreplies, rfl⟩ :=
    outcome_method_eq_ok_iff.mp h
  have hnodes : site.allParameterNodes document = builder.parameterNodes
      (operation.parameters ++ Json.itemsOf (site.item.field? "parameters")) := by
    rw [hfor.parameterNodes_eq, (Operation.eq_of_ofJson hsite hoperation).1]
    rfl
  apply outcome_method_eq_ok_iff.mpr
  refine ⟨operation, hoperation, _, parameters_excluding hfor hparameters, replies, hreplies, ?_⟩
  rw [Site.withoutExcluded, hnodes]

/-- The methods for a member of a path only lose parameters. -/
theorem methodsOfMember_excluding {item : Json.Members} {member : String × Json}
    {methods : List Method} (hmember : member.2.isWellFormed = true)
    (h : (builder.methodsOfMember path (sharedParameters item) member).outcome = .ok methods) :
  (builder.excluding.methodsOfMember path (sharedParameters item) member).outcome =
    .ok (List.zipWith (Site.withoutExcluded document)
      (if isVerbKey member.1 then some (Site.mk path (.object item) member.1 member.2)
        else none).toList methods)
  := by
  rw [isVerbKey_eq_isSome]
  unfold methodsOfMember at h ⊢
  cases hverb : Verb.ofKey? member.1 with
  | none => rfl
  | some verb =>
    simp only [hverb, Report.outcome_bind, Report.outcome_pure, Outcome.bind_eq_ok_iff] at h ⊢
    obtain ⟨method, hmethod, ⟨⟩⟩ := h
    rw [sharedParameters_eq] at hmethod ⊢
    let site : Site := ⟨path, .object item, member.1, member.2⟩
    have hsite : site.operation.isWellFormed = true := hmember
    exact ⟨_, method_excluding hfor hsite hmethod, rfl⟩

/-- The methods under a path only lose parameters. -/
theorem methodsOfPath_excluding {entry : String × Json} {methods : List Method}
    (hentry : entry.2.isWellFormed = true)
    (h : (builder.methodsOfPath entry).outcome = .ok methods) :
  (builder.excluding.methodsOfPath entry).outcome =
    .ok (List.zipWith (Site.withoutExcluded document) (sitesOfPath entry) methods)
  := by
  obtain ⟨path, value⟩ := entry
  cases value with
  | object item =>
    by_cases hextension : isExtension path
    · simp [methodsOfPath, sitesOfPath, hextension]
    · simp only [methodsOfPath, hextension, Bool.false_eq_true, if_false,
        outcome_flatCollect] at h ⊢
      rw [sitesOfPath, if_neg hextension, List.filterMap_eq_flatMap_toList]
      apply Outcome.flatCollect_zipWith h
      intro member hmember methods hmethods
      have hwellFormed := (Json.isWellFormed_object_iff.mp hentry).2 member hmember
      use (forall₂_methodsOfMember hfor hwellFormed hmethods).length_eq
      apply methodsOfMember_excluding hfor hwellFormed hmethods
  | null | bool | number | string | array =>
    simp [methodsOfPath, sitesOfPath, Json.membersOf, Json.asObject?]

/-- The model only loses parameters. -/
theorem model_excluding
    (hpaths : builder.envelope.paths = Json.membersOf (document.field? "paths"))
    (hdocument : document.isWellFormed = true) {model : Model}
    (h : builder.model.outcome = .ok model) :
  List.Forall₂ (IsMethod document ⟨maxDepth, true⟩) (sites document) model.methods ∧
  builder.excluding.model.outcome = .ok (withoutExcluded document model)
  := by
  have hentries : ∀ entry ∈ builder.envelope.paths, entry.2.isWellFormed = true := by
    rw [hpaths]
    intro entry
    apply Json.isWellFormed_of_mem_membersOf_field? hdocument
  have hsites : sites document = builder.envelope.paths.flatMap sitesOfPath := by
    rw [sites, hpaths]
  obtain ⟨definitions, hdefinitions, methods, hmethods, rfl⟩ := outcome_model_eq_ok_iff.mp h
  constructor
  · rw [hsites]
    apply Outcome.forall₂_of_flatCollect hmethods
    intro entry hentry found
    apply forall₂_methodsOfPath hfor (hentries entry hentry)
  · apply outcome_model_eq_ok_iff.mpr
    refine ⟨definitions, hdefinitions,
      List.zipWith (Site.withoutExcluded document) (sites document) methods, ?_, rfl⟩
    rw [hsites]
    apply Outcome.flatCollect_zipWith hmethods
    intro entry hentry found hfound
    use (forall₂_methodsOfPath hfor (hentries entry hentry) hfound).length_eq
    apply methodsOfPath_excluding hfor (hentries entry hentry) hfound

end

end Builder

/-! ### Faults -/

theorem Check.fault?_includeExcluded (document : Json) (maxDepth : Nat) (check : Check)
    (first second : Bool) :
  check.fault? document ⟨maxDepth, first⟩ = check.fault? document ⟨maxDepth, second⟩
  := by
  cases check <;> rfl

/-- The part is a parameter of a document that asks to be left out. -/
def Check.IsExcluded (document : Json) (check : Check) : Prop :=
  ∃ site ∈ sites document, ∃ verb, Verb.ofKey? site.key = some verb ∧
    ∃ node ∈ site.allParameterNodes document, node.flag "x-exclude-from-bindings" = true ∧
      check = .parameter verb site.path node

/-- The parts of a site are the ones without its excluded parameters, and these. -/
theorem mem_siteChecks_or_isExcluded {document : Json} {maxDepth : Nat} {site : Site}
    (hsite : site ∈ sites document) :
  ∀ check ∈ site.checks document ⟨maxDepth, true⟩,
    check ∈ site.checks document ⟨maxDepth, false⟩ ∨ check.IsExcluded document
  := by
  obtain ⟨-, ⟨verb, hverb⟩, -⟩ := of_mem_sites hsite
  have hkept : ∀ check ∈ site.checks document ⟨maxDepth, false⟩,
      check ∈ site.checks document ⟨maxDepth, false⟩ := fun _ hcheck => hcheck
  rw [Site.forall_mem_checks_iff hverb] at hkept ⊢
  obtain ⟨hoperation, hparameters, hresponses, hreplies⟩ := hkept
  refine ⟨.inl hoperation, ?_, fun entry hentry hkept => .inl (hresponses entry hentry hkept),
    fun entry hentry => .inl (hreplies entry hentry)⟩
  intro node hnode
  by_cases hflag : node.flag "x-exclude-from-bindings" = true
  · right
    exact ⟨site, hsite, verb, hverb, node, hnode, hflag, rfl⟩
  · left
    apply hparameters
    apply List.mem_filter.mpr
    constructor
    · apply (List.mem_filter.mp hnode).1
    · simp [hflag]

/-- The parts of a document are the ones without the excluded parameters, and these. -/
theorem mem_checks_or_isExcluded {document : Json} {maxDepth : Nat} :
  ∀ check ∈ checks document ⟨maxDepth, true⟩,
    check ∈ checks document ⟨maxDepth, false⟩ ∨ check.IsExcluded document
  := by
  intro check hcheck
  simp only [checks, List.mem_cons, List.mem_append, List.mem_flatMap] at hcheck ⊢
  rcases hcheck with rfl | rfl | hdefinition | ⟨site, hsite, hcheck⟩
  · simp
  · simp
  · simp [hdefinition]
  · apply (mem_siteChecks_or_isExcluded hsite check hcheck).imp_left
    intro hkept
    right; right; right
    use site, hsite

/-- Without the parameters that ask to be left out, the model is the one with them but for these
parameters.  When only this model can be built, the error for the other is that the node of such a
parameter does not resolve. -/
theorem buildModel_withoutExcluded {document : Json} {maxDepth : Nat}
    (hdocument : document.isWellFormed = true) :
  (∀ model, (buildModel document ⟨maxDepth, true⟩).outcome = .ok model →
    List.Forall₂ (IsMethod document ⟨maxDepth, true⟩) (sites document) model.methods ∧
    (buildModel document ⟨maxDepth, false⟩).outcome = .ok (withoutExcluded document model)) ∧
  ∀ model error, (buildModel document ⟨maxDepth, false⟩).outcome = .ok model →
    (buildModel document ⟨maxDepth, true⟩).outcome = .error error →
    ∃ site ∈ sites document, ∃ verb, Verb.ofKey? site.key = some verb ∧
      ∃ node ∈ site.allParameterNodes document, node.flag "x-exclude-from-bindings" = true ∧
        ∃ cause, ((Resolver.ofDocument document maxDepth).resolve node).outcome = .error cause ∧
          error = .resolve (.parameter verb site.path ((node.text? "name").getD "")) cause
  := by
  constructor
  · intro model h
    obtain ⟨hchecked, envelope, henvelope, hmodel⟩ := outcome_buildModel_eq_ok_iff.mp h
    obtain ⟨-, -, hpaths⟩ := eq_membersOf_of_envelope hdocument henvelope
    obtain ⟨hmethods, hexcluding⟩ :=
      Builder.model_excluding (isFor_ofEnvelope hdocument henvelope) hpaths hdocument hmodel
    use hmethods
    apply outcome_buildModel_eq_ok_iff.mpr
    use hchecked, envelope, henvelope
    apply hexcluding
  · intro model error hmodel herror
    have hnone := @error?_buildModel document ⟨maxDepth, false⟩ hdocument
    rw [hmodel, Outcome.error?_ok, eq_comm, List.findSome?_eq_none_iff] at hnone
    have hsome := @error?_buildModel document ⟨maxDepth, true⟩ hdocument
    rw [herror, Outcome.error?_error, eq_comm] at hsome
    obtain ⟨check, hcheck, hfault⟩ := List.exists_of_findSome?_eq_some hsome
    rw [Check.fault?_includeExcluded document maxDepth check true false] at hfault
    rcases mem_checks_or_isExcluded check hcheck with hkept | hexcluded
    · simp [hnone check hkept] at hfault
    · obtain ⟨site, hsite, verb, hverb, node, hnode, hflag, rfl⟩ := hexcluded
      refine ⟨site, hsite, verb, hverb, node, hnode, hflag, ?_⟩
      obtain ⟨cause, hcause, rfl⟩ := Option.map_eq_some_iff.mp hfault
      exact ⟨cause, Outcome.error?_eq_some_iff.mp hcause, rfl⟩

/-- A document with a parameter that asks to be left out and is nested more deeply than the one
that does not. -/
def tracedPets : Json :=
  .object [
    ("swagger", .string "2.0"),
    ("paths", .object [
      ("/pets", .object [
        ("get", .object [
          ("parameters", .array [
            .object [
              ("name", .string "trace"),
              ("x-exclude-from-bindings", .bool true),
              ("type", .string "array"),
              ("items", .object [("type", .string "string")])],
            .object [("name", .string "limit"), ("type", .string "integer")]])])])])]

/-- The pets have a model with the trace at depth 2, but only one without it at depth 1. -/
theorem buildModel_withoutExcluded_tracedPets :
  (∃ model, (buildModel tracedPets ⟨2, true⟩).outcome = .ok model ∧
    (buildModel tracedPets ⟨2, false⟩).outcome = .ok (withoutExcluded tracedPets model) ∧
    model.methods.map (fun method => method.parameters.map (·.name)) = [["trace", "limit"]] ∧
    (withoutExcluded tracedPets model).methods.map
      (fun method => method.parameters.map (·.name)) = [["limit"]]) ∧
  (∃ model, (buildModel tracedPets ⟨1, false⟩).outcome = .ok model) ∧
  ∃ error, (buildModel tracedPets ⟨1, true⟩).outcome = .error error ∧
    ∃ site ∈ sites tracedPets, ∃ verb, Verb.ofKey? site.key = some verb ∧
      ∃ node ∈ site.allParameterNodes tracedPets, node.flag "x-exclude-from-bindings" = true ∧
        ∃ cause, ((Resolver.ofDocument tracedPets 1).resolve node).outcome = .error cause ∧
          error = .resolve (.parameter verb site.path ((node.text? "name").getD "")) cause
  := by
  have hdocument : tracedPets.isWellFormed = true := by decide
  have hdeep : (buildModel tracedPets ⟨2, true⟩).outcome = .ok _ := rfl
  have hshallow : (buildModel tracedPets ⟨1, false⟩).outcome = .ok _ := rfl
  have herror : (buildModel tracedPets ⟨1, true⟩).outcome =
      .error (.resolve (.parameter .get "/pets" "trace") (.depthExceeded 1)) := rfl
  constructor
  · exact ⟨_, hdeep, ((buildModel_withoutExcluded hdocument).1 _ hdeep).2, rfl, rfl⟩
  · exact ⟨⟨_, hshallow⟩, _, herror,
      (buildModel_withoutExcluded hdocument).2 _ _ hshallow herror⟩

end Document

end ApiTypes
