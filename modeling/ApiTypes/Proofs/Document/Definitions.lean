import ApiTypes.Proofs.Document.Faults

/-!
# Definitions on their own

The type of a definition can be asked for by its name, or taken from the model of the document.
Both ways agree: a model has for each definition the type that `resolveDefinition` gives, and when
the building of a model fails at a definition, `resolveDefinition` fails for it in the same way and
succeeds for all definitions before it.  This is `Document.resolveDefinition_agrees`.
-/

namespace ApiTypes

namespace Document

variable {document : Json} {options : ModelOptions} {name : String}

/-- The type of a definition is the one that its node resolves to. -/
theorem resolveDefinition_eq (document : Json) (name : String) (maxDepth : Nat) :
  resolveDefinition document name maxDepth =
    match (Context.ofDocument document).get? name with
    | some node =>
      resolving (.definition name) ((Resolver.ofDocument document maxDepth).resolveNamed name node)
    | none => .fail (.unknownDefinition name)
  := by
  unfold resolveDefinition Resolver.resolveDefinition
  cases h : (Context.ofDocument document).get? name <;> simp only [h] <;> rfl

/-- A definition of a document is what its name leads to. -/
theorem get?_ofDocument_of_mem (hdocument : document.isWellFormed = true)
    {entry : String × Node} (hentry : entry ∈ Json.membersOf (document.field? "definitions")) :
  (Context.ofDocument document).get? entry.1 = some entry.2
  := by
  rw [Context.get?_eq, ofDocument_eq]
  apply Named.get?_eq_some_of_mem _ hentry
  apply Json.nodup_names_membersOf
  intro definitions
  apply Json.isWellFormed_of_field? hdocument

/-- A definition of a document resolves by its name as it does in the course of building. -/
theorem resolveDefinition_of_mem (hdocument : document.isWellFormed = true)
    {entry : String × Node} (hentry : entry ∈ Json.membersOf (document.field? "definitions"))
    (maxDepth : Nat) :
  resolveDefinition document entry.1 maxDepth =
    resolving (.definition entry.1)
      ((Resolver.ofDocument document maxDepth).resolveNamed entry.1 entry.2)
  := by
  rw [resolveDefinition_eq, get?_ofDocument_of_mem hdocument hentry]

/-- A definition of a document has the fault that it has as a part of the document. -/
theorem error?_resolveDefinition_of_mem (hdocument : document.isWellFormed = true)
    {entry : String × Node} (hentry : entry ∈ Json.membersOf (document.field? "definitions")) :
  Outcome.error? (resolveDefinition document entry.1 options.maxDepth).outcome =
    (Check.definition entry).fault? document options
  := by
  rw [resolveDefinition_of_mem hdocument hentry, error?_resolving]
  rfl

/-- A name is unknown exactly if the document has no definition of it. -/
theorem resolveDefinition_eq_unknownDefinition_iff {unknown : String} {maxDepth : Nat} :
  (resolveDefinition document name maxDepth).outcome = .error (.unknownDefinition unknown) ↔
    unknown = name ∧ name ∉ (Json.membersOf (document.field? "definitions")).names
  := by
  have hnames : (Context.ofDocument document).names =
      (Json.membersOf (document.field? "definitions")).names := by
    rw [ofDocument_eq]
    rfl
  rw [← hnames, ← Context.get?_eq_none_iff, ← Outcome.error?_eq_some_iff, resolveDefinition_eq]
  cases (Context.ofDocument document).get? name with
  | none => simp [eq_comm]
  | some node => simp [error?_resolving]

/-! ### Definitions in the course of building -/

/-- The definitions of a model are those of the document. -/
theorem exists_isDefinition_of_buildModel {model : Model} (hdocument : document.isWellFormed = true)
    (h : (buildModel document options).outcome = .ok model) {definition : Definition}
    (hdefinition : definition ∈ model.definitions) :
  ∃ entry ∈ Json.membersOf (document.field? "definitions"),
    IsDefinition (.ofDocument document options.maxDepth) entry definition
  := by
  obtain ⟨envelope, henvelope, hmodel⟩ := exists_envelope_of_buildModel h
  have hfor : (Builder.ofEnvelope envelope options).IsFor document options :=
    isFor_ofEnvelope hdocument henvelope
  obtain ⟨hdefinitions, -, -⟩ := eq_membersOf_of_envelope hdocument henvelope
  rw [← hfor.resolver_eq, ← hdefinitions]
  simp only [Builder.model, Report.outcome_bind, Report.outcome_pure, Outcome.bind_eq_ok_iff,
    Builder.outcome_flatCollect] at hmodel
  obtain ⟨definitions, hdefined, methods, -, -, -, ⟨⟩⟩ := hmodel
  obtain ⟨entry, hentry, found, hfound, hmem⟩ :=
    Outcome.exists_mem_of_mem_flatCollect hdefined hdefinition
  obtain ⟨built, hbuilt, ⟨⟩⟩ := Outcome.bind_eq_ok_iff.mp hfound
  obtain rfl := List.mem_singleton.mp hmem
  use entry, hentry
  apply Builder.isDefinition_of_definition hbuilt

/-- No part of a site has the fault of a definition. -/
theorem Site.fault?_ne_definition {site : Site} (hsite : site ∈ sites document)
    (cause : ResolveError) :
  ∀ check ∈ site.checks document options,
    check.fault? document options ≠ some (.resolve (.definition name) cause)
  := by
  obtain ⟨-, ⟨verb, hverb⟩, -⟩ := of_mem_sites hsite
  rw [forall_mem_checks_iff hverb]
  simp [Check.fault?]

/-- The fault of a definition is told of the first definition that has one. -/
theorem exists_definition_of_buildModel_eq_error {cause : ResolveError}
    (hdocument : document.isWellFormed = true)
    (h : (buildModel document options).outcome = .error (.resolve (.definition name) cause)) :
  ∃ before node after,
    Json.membersOf (document.field? "definitions") = before ++ (name, node) :: after ∧
    (Check.definition (name, node)).fault? document options =
      some (.resolve (.definition name) cause) ∧
    ∀ entry ∈ before, (Check.definition entry).fault? document options = none
  := by
  rw [← Outcome.error?_eq_some_iff, error?_buildModel hdocument, checks, Outcome.findSome?_cons,
    Outcome.findSome?_cons, List.findSome?_append, Option.or_eq_some_iff, Option.or_eq_some_iff,
    Option.or_eq_some_iff] at h
  rcases h with hversion | ⟨-, henvelope | ⟨-, hdefinitions | ⟨-, hsites⟩⟩⟩
  · simp [Check.fault?, versionFault?] at hversion
  · simp [Check.fault?] at henvelope
  · rw [List.findSome?_map] at hdefinitions
    obtain ⟨before, ⟨other, node⟩, after, hsplit, hfault, hbefore⟩ :=
      List.findSome?_eq_some_iff.mp hdefinitions
    obtain rfl : other = name := by
      obtain ⟨error, -, herror⟩ := Option.map_eq_some_iff.mp hfault
      simp at herror
      apply herror.1
    exact ⟨before, node, after, hsplit, hfault, hbefore⟩
  · obtain ⟨check, hcheck, hfault⟩ := List.exists_of_findSome?_eq_some hsites
    obtain ⟨site, hsite, hmem⟩ := List.mem_flatMap.mp hcheck
    absurd hfault
    apply Site.fault?_ne_definition hsite cause check hmem

/-- The type of a definition by its name is the one in the model of the document.  When building
fails at a definition, it has the same fault by its name and those before it have none.  The names
that are not known are those that the document has no definition of. -/
theorem resolveDefinition_agrees (hdocument : document.isWellFormed = true) :
  (∀ model, (buildModel document options).outcome = .ok model →
    (∀ definition ∈ model.definitions,
      (resolveDefinition document definition.name options.maxDepth).outcome =
        .ok definition.type) ∧
    ∀ name unknown,
      (resolveDefinition document name options.maxDepth).outcome =
        .error (.unknownDefinition unknown) ↔
      unknown = name ∧ name ∉ (Json.membersOf (document.field? "definitions")).names) ∧
  ∀ name cause,
    (buildModel document options).outcome = .error (.resolve (.definition name) cause) →
    (resolveDefinition document name options.maxDepth).outcome =
      .error (.resolve (.definition name) cause) ∧
    ∃ before node after,
      Json.membersOf (document.field? "definitions") = before ++ (name, node) :: after ∧
      ∀ entry ∈ before, ∃ type,
        (resolveDefinition document entry.1 options.maxDepth).outcome = .ok type
  := by
  constructor
  · intro model hmodel
    constructor
    · intro definition hdefinition
      obtain ⟨entry, hentry, hname, -, htype⟩ :=
        exists_isDefinition_of_buildModel hdocument hmodel hdefinition
      rw [hname, resolveDefinition_of_mem hdocument hentry]
      apply Builder.outcome_resolving_eq_ok_iff.mpr htype
    · intro name unknown
      apply resolveDefinition_eq_unknownDefinition_iff
  · intro name cause herror
    obtain ⟨before, node, after, hsplit, hfault, hbefore⟩ :=
      exists_definition_of_buildModel_eq_error hdocument herror
    have hmem : (name, node) ∈ Json.membersOf (document.field? "definitions") := by
      rw [hsplit]
      apply List.mem_append_right _ List.mem_cons_self
    constructor
    · apply Outcome.error?_eq_some_iff.mp
      rw [← hfault]
      apply error?_resolveDefinition_of_mem hdocument hmem
    · use before, node, after, hsplit
      intro entry hentry
      have hdefinition : entry ∈ Json.membersOf (document.field? "definitions") := by
        rw [hsplit]
        apply List.mem_append_left _ hentry
      apply Outcome.error?_eq_none_iff.mp
      rw [error?_resolveDefinition_of_mem hdocument hdefinition]
      apply hbefore entry hentry

/-- A document with a definition that merges itself, which comes after one that does not. -/
def loopingShop : Json :=
  .object [
    ("swagger", .string "2.0"),
    ("definitions", .object [
      ("Pet", .object [("type", .string "object")]),
      ("Loop", .object [
        ("type", .string "object"),
        ("allOf", .array [.object [("$ref", .string "#/definitions/Loop")]])])])]

theorem resolveDefinition_agrees_loopingShop :
  (∃ model, (buildModel petShop).outcome = .ok model ∧
    model.definitions.map (·.name) = ["Pet"] ∧
    ∀ definition ∈ model.definitions,
      (resolveDefinition petShop definition.name).outcome = .ok definition.type) ∧
  (resolveDefinition loopingShop "Loop").outcome =
    .error (.resolve (.definition "Loop") (.cyclicSchema ["Loop", "Loop"])) ∧
  ∃ before node after,
    Json.membersOf (loopingShop.field? "definitions") = before ++ ("Loop", node) :: after ∧
    ∀ entry ∈ before, ∃ type, (resolveDefinition loopingShop entry.1).outcome = .ok type
  := by
  have hpetShop : petShop.isWellFormed = true := by decide
  have hloopingShop : loopingShop.isWellFormed = true := by decide
  have hmodel : (buildModel petShop).outcome = .ok _ := rfl
  have herror : (buildModel loopingShop).outcome =
      .error (.resolve (.definition "Loop") (.cyclicSchema ["Loop", "Loop"])) := rfl
  constructor
  · obtain ⟨hdefinitions, -⟩ := (@resolveDefinition_agrees petShop {} hpetShop).1 _ hmodel
    exact ⟨_, hmodel, rfl, hdefinitions⟩
  · apply (@resolveDefinition_agrees loopingShop {} hloopingShop).2 _ _ herror

end Document

end ApiTypes
