import ApiTypes.Document.Build
import ApiTypes.Proofs.Document.Reading
import Mathlib.Data.List.Forall2

/-!
# Models as images of documents

The model of a document `IsImage` of it: there is one definition for each member of
`definitions`, and one method for each of `Document.sites`, the members under a path whose keys
are verbs, all in the order of the document.  A method has one parameter for each of
`Site.parameterNodes` and one reply for each of `Site.replySchemas`, again in order, and each of
these has the type that its node resolves to.
-/

namespace ApiTypes

/-- The resolver of the nodes of a document. -/
def Resolver.ofDocument (document : Json) (maxDepth : Nat) : Resolver :=
  ⟨.ofDocument document, maxDepth⟩

namespace Document

/-! ### What a document holds -/

/-- A member of the item of a path. -/
structure Site where
  path : String
  item : Json
  key : String
  operation : Json

/-- The test for a key whose upper case form is the text of a verb. -/
def isVerbKey (key : String) : Bool :=
  Verb.all.any fun verb => verb.text.toList == Text.toUpper key.toList

/-- The members of an object under a path whose keys are verbs, unless the path is an extension. -/
def sitesOfPath (entry : String × Json) : List Site :=
  if isExtension entry.1 then []
  else
    (Json.membersOf (some entry.2)).filterMap fun member =>
      if isVerbKey member.1 then some ⟨entry.1, entry.2, member.1, member.2⟩ else none

/-- The members of a document that make a method. -/
def sites (document : Json) : List Site :=
  (Json.membersOf (document.field? "paths")).flatMap sitesOfPath

/-- The node that a parameter stands for: the shared one of its name when it is a reference, if
there is one. -/
def parameterNode? (document : Json) (entry : Node) : Option Node :=
  match entry.reference? with
  | none => some entry
  | some reference =>
    (Json.membersOf (document.field? "parameters")).get? (lastSegment reference)

/-- The nodes for the parameters of a method: those of the operation and those of its path, but
not those that ask to be left out, unless all are to be included. -/
def Site.parameterNodes (document : Json) (options : ModelOptions) (site : Site) : List Node :=
  ((Json.itemsOf (Operation.field? site.operation "parameters" 3) ++
    Json.itemsOf (site.item.field? "parameters")).filterMap (parameterNode? document)).filter
      fun node => options.includeExcluded || !node.flag "x-exclude-from-bindings"

/-- The code and the schema of a response, if it is no extension and has a schema that is not
null. -/
def replySchema? (entry : String × Json) : Option (String × Node) :=
  if isExtension entry.1 then none
  else ((entry.2.field? "schema").bind Json.nonNull?).map fun schema => (entry.1, schema)

/-- The codes and the schemas for the replies of a method. -/
def Site.replySchemas (site : Site) : List (String × Node) :=
  (Json.membersOf (Operation.field? site.operation "responses" 4)).filterMap replySchema?

/-! ### What a model has of it -/

/-- The definition is the one of a name and a node. -/
structure IsDefinition (resolver : Resolver) (entry : String × Node) (definition : Definition) :
    Prop where
  name_eq : definition.name = entry.1
  description_eq : definition.description = entry.2.description?
  resolves : (resolver.resolveNamed entry.1 entry.2).outcome = .ok definition.type

/-- The parameter is the one of a node. -/
structure IsParameter (resolver : Resolver) (node : Node) (parameter : Parameter) : Prop where
  name_eq : parameter.name = (node.text? "name").getD ""
  location_eq : parameter.location = (node.text? "in").getD ""
  resolves : (resolver.resolve node).outcome = .ok parameter.type

/-- The reply is the one of a code and a schema. -/
structure IsReply (resolver : Resolver) (entry : String × Node) (reply : Reply) : Prop where
  code_eq : reply.code = entry.1
  resolves : (resolver.resolve entry.2).outcome = .ok reply.type

/-- The method is the one of a site. -/
structure IsMethod (document : Json) (options : ModelOptions) (site : Site) (method : Method) :
    Prop where
  path_eq : method.path = site.path
  verb_eq : method.verb.text.toList = Text.toUpper site.key.toList
  parameters : List.Forall₂ (IsParameter (.ofDocument document options.maxDepth))
    (site.parameterNodes document options) method.parameters
  replies : List.Forall₂ (IsReply (.ofDocument document options.maxDepth)) site.replySchemas
    method.replies

/-- The model has, in order, the definitions and the methods of a document. -/
structure IsImage (document : Json) (options : ModelOptions) (model : Model) : Prop where
  definitions : List.Forall₂ (IsDefinition (.ofDocument document options.maxDepth))
    (Json.membersOf (document.field? "definitions")) model.definitions
  methods : List.Forall₂ (IsMethod document options) (sites document) model.methods

/-! ### Building -/

/-- The operations under a path are parts of its value. -/
theorem isWellFormed_of_mem_sitesOfPath {entry : String × Json} {site : Site}
    (hentry : entry.2.isWellFormed = true) (hsite : site ∈ sitesOfPath entry) :
  site.operation.isWellFormed = true
  := by
  rw [sitesOfPath] at hsite
  split at hsite
  · cases hsite
  · obtain ⟨member, hmember, hpicked⟩ := List.mem_filterMap.mp hsite
    obtain ⟨-, ⟨⟩⟩ := Option.ite_none_right_eq_some.mp hpicked
    apply Json.isWellFormed_of_mem_membersOf _ hmember
    rintro value ⟨⟩
    exact hentry

theorem isVerbKey_eq_isSome (key : String) :
  isVerbKey key = (Verb.ofKey? key).isSome
  := by
  rw [Bool.eq_iff_iff, isVerbKey, Verb.ofKey?, List.find?_isSome, List.any_eq_true]

namespace Builder

/-- The builder has the resolver, the parameters and the options for a document. -/
structure IsFor (builder : Builder) (document : Json) (options : ModelOptions) : Prop where
  resolver_eq : builder.resolver = .ofDocument document options.maxDepth
  parameters_eq : builder.envelope.parameters = Json.membersOf (document.field? "parameters")
  includeExcluded_eq : builder.includeExcluded = options.includeExcluded

variable {builder : Builder} {document : Json} {options : ModelOptions} {verb : Verb}
  {path : String}

theorem outcome_flatCollect {α β : Type} (build : α → Building (List β)) (list : List α) :
  (flatCollect build list).outcome = Outcome.flatCollect (fun a => (build a).outcome) list
  := by
  induction list with
  | nil => rfl
  | cons a rest ih =>
    simp only [flatCollect, Outcome.flatCollect, Report.outcome_bind, Report.outcome_pure, ih]
    rfl

theorem outcome_resolving_eq_ok_iff {place : Place} {report : Report ResolveError Descriptor}
    {type : Descriptor} :
  (resolving place report).outcome = .ok type ↔ report.outcome = .ok type
  := Outcome.mapError_eq_ok_iff

theorem outcome_conforming_eq_ok_iff {α : Type} {place : Place} {outcome : Conforms α} {a : α} :
  (conforming place outcome).outcome = .ok a ↔ outcome = .ok a
  := Outcome.mapError_eq_ok_iff

theorem isDefinition_of_definition {entry : String × Node} {definition : Definition}
    (h : (builder.definition entry).outcome = .ok definition) :
  IsDefinition builder.resolver entry definition
  := by
  simp only [Builder.definition, Report.outcome_bind, Report.outcome_pure,
    Outcome.bind_eq_ok_iff, outcome_resolving_eq_ok_iff] at h
  obtain ⟨-, -, type, htype, ⟨⟩⟩ := h
  exact ⟨rfl, rfl, htype⟩

/-! ### Parameters -/

theorem isParameter_of_parameterOfNode {node : Node} {parameter : Parameter}
    (h : (builder.parameterOfNode verb path node).outcome = .ok parameter) :
  IsParameter builder.resolver node parameter
  := by
  simp only [parameterOfNode, Report.outcome_bind, Report.outcome_pure, Outcome.bind_eq_ok_iff,
    outcome_resolving_eq_ok_iff] at h
  obtain ⟨type, htype, ⟨⟩⟩ := h
  exact ⟨rfl, rfl, htype⟩

/-- The nodes that parameters are built for: those that the entries of a list stand for, but not
those that are left out. -/
def parameterNodes (builder : Builder) (entries : List Node) : List Node :=
  (entries.filterMap builder.parameterNode?).filter fun node => !builder.isExcluded node

/-- The parameters of an entry are built for the node that it stands for, unless that is left
out. -/
theorem outcome_parameter (entry : Node) :
  (builder.parameter verb path entry).outcome =
    Outcome.flatCollect (fun node => (builder.parameterOfNode verb path node).outcome.map ([·]))
      ((builder.parameterNode? entry).filter fun node => !builder.isExcluded node).toList
  := by
  unfold parameter
  cases builder.parameterNode? entry with
  | none => rfl
  | some node =>
    by_cases hexcluded : builder.isExcluded node
    · simp [hexcluded, Option.filter]
    · simp only [hexcluded, Option.filter, Bool.not_false, if_true, Option.toList_some,
        Outcome.flatCollect_singleton, Bool.false_eq_true, if_false, Report.outcome_bind,
        Report.outcome_pure, Outcome.bind_ok]

/-- Parameters are built for nodes, one after another. -/
theorem outcome_parameters (entries : List Node) :
  (flatCollect (builder.parameter verb path) entries).outcome =
    Outcome.flatCollect (fun node => (builder.parameterOfNode verb path node).outcome.map ([·]))
      (builder.parameterNodes entries)
  := by
  rw [outcome_flatCollect, parameterNodes, List.filter_filterMap, List.filterMap_eq_flatMap_toList,
    Outcome.flatCollect_flatMap]
  simp only [outcome_parameter]

theorem IsFor.parameterNode?_eq (hfor : builder.IsFor document options) :
  builder.parameterNode? = Document.parameterNode? document
  := by
  funext entry
  unfold Builder.parameterNode? Document.parameterNode?
  cases entry.reference? with
  | none => rfl
  | some reference => exact congrArg (·.get? (lastSegment reference)) hfor.parameters_eq

theorem IsFor.not_isExcluded_eq (hfor : builder.IsFor document options) (node : Node) :
  (!builder.isExcluded node) =
    (options.includeExcluded || !node.flag "x-exclude-from-bindings")
  := by
  rw [isExcluded, hfor.includeExcluded_eq, Bool.not_and, Bool.not_not, Bool.or_comm]

/-- The nodes that parameters are built for are told by the document. -/
theorem IsFor.parameterNodes_eq (hfor : builder.IsFor document options) (entries : List Node) :
  builder.parameterNodes entries =
    (entries.filterMap (Document.parameterNode? document)).filter fun node =>
      options.includeExcluded || !node.flag "x-exclude-from-bindings"
  := by
  simp only [parameterNodes, hfor.parameterNode?_eq, hfor.not_isExcluded_eq]

/-- Parameters are built for the nodes that the entries of a list stand for, in order. -/
theorem forall₂_parameterOfNode {entries : List Node} {found : List Parameter}
    (h : (flatCollect (builder.parameter verb path) entries).outcome = .ok found) :
  List.Forall₂
    (fun node parameter => (builder.parameterOfNode verb path node).outcome = .ok parameter)
    (builder.parameterNodes entries) found
  := by
  rw [outcome_parameters] at h
  obtain ⟨parameters, hparameters, rfl⟩ := Outcome.flatCollect_map_eq_ok_iff.mp h
  rwa [List.flatMap_singleton']

theorem forall₂_parameters {entries : List Node} {found : List Parameter}
    (h : (flatCollect (builder.parameter verb path) entries).outcome = .ok found) :
  List.Forall₂ (IsParameter builder.resolver) (builder.parameterNodes entries) found
  := by
  apply (forall₂_parameterOfNode h).imp
  intro node parameter
  apply isParameter_of_parameterOfNode

/-! ### Replies -/

/-- The schema of a response that is no extension is the one that is read. -/
theorem replySchema?_eq {code : String} {members : Json.Members} {response : Response}
    (hmembers : (Json.object members).isWellFormed = true) (hextension : ¬ isExtension code = true)
    (h : Response.ofMembers members = .ok response) :
  replySchema? (code, .object members) = response.schema.map fun schema => (code, schema)
  := by
  rw [replySchema?, if_neg hextension,
    Response.schema_eq (Json.isWellFormed_object_iff.mp hmembers).1 h]
  rfl

/-- A reply is built for a response that has a schema and is no extension. -/
theorem forall₂_reply {entry : String × Json} {found : List Reply}
    (hresponse : entry.2.isWellFormed = true)
    (h : (builder.reply verb path entry).outcome = .ok found) :
  List.Forall₂ (IsReply builder.resolver) (replySchema? entry).toList found
  := by
  obtain ⟨code, response⟩ := entry
  cases response with
  | object members =>
    by_cases hextension : isExtension code
    · obtain rfl : [] = found := by simpa [reply, hextension] using h
      simp [replySchema?, hextension]
    · simp only [reply, hextension, Bool.false_eq_true, if_false, Report.outcome_bind,
        Outcome.bind_eq_ok_iff, outcome_conforming_eq_ok_iff] at h
      obtain ⟨record, hrecord, h⟩ := h
      rw [replySchema?_eq hresponse hextension hrecord]
      cases hfound : record.schema with
      | none =>
        obtain rfl : [] = found := by simpa [hfound] using h
        apply List.Forall₂.nil
      | some schema =>
        simp only [hfound, Report.outcome_bind, Report.outcome_pure, Outcome.bind_eq_ok_iff,
          outcome_resolving_eq_ok_iff] at h
        obtain ⟨type, htype, ⟨⟩⟩ := h
        apply List.Forall₂.cons _ .nil
        exact ⟨rfl, htype⟩
  | null | bool | number | string | array =>
    obtain rfl : [] = found := by simpa [reply] using h
    simp [replySchema?, Json.field?, Json.asObject?]

/-! ### Methods -/

/-- A method is built of an operation that can be read, whose parameters and replies are built. -/
theorem outcome_method_eq_ok_iff {shared : List Node} {value : Json} {method : Method} :
  (builder.method path shared verb value).outcome = .ok method ↔
    ∃ operation, Operation.ofJson value = .ok operation ∧
      ∃ parameters, (flatCollect (builder.parameter verb path)
        (operation.parameters ++ shared)).outcome = .ok parameters ∧
      ∃ replies, (flatCollect (builder.reply verb path) operation.responses).outcome = .ok replies ∧
        ⟨path, verb, Name.ofMethod verb.text path operation.operationId,
          operation.description.or operation.summary, parameters, replies⟩ = method
  := by
  simp only [Builder.method, Report.outcome_bind, Report.outcome_note, Report.outcome_pure,
    Outcome.ok_bind, Outcome.bind_eq_ok_iff, outcome_conforming_eq_ok_iff, Except.ok.injEq]

/-- A method is built for the site of an operation. -/
theorem isMethod_of_method (hfor : builder.IsFor document options) {site : Site} {method : Method}
    (hsite : site.operation.isWellFormed = true)
    (hverb : Verb.ofKey? site.key = some verb)
    (h : (builder.method site.path (Json.itemsOf (site.item.field? "parameters")) verb
      site.operation).outcome = .ok method) :
  IsMethod document options site method
  := by
  obtain ⟨operation, hoperation, parameters, hparameters, replies, hreplies, rfl⟩ :=
    outcome_method_eq_ok_iff.mp h
  obtain ⟨hown, hresponses⟩ := Operation.eq_of_ofJson hsite hoperation
  constructor
  case path_eq => rfl
  case verb_eq => apply (Verb.toUpper_of_ofKey? hverb).symm
  case parameters =>
    rw [← hfor.resolver_eq, Site.parameterNodes, ← hown, ← hfor.parameterNodes_eq]
    apply forall₂_parameters hparameters
  case replies =>
    rw [outcome_flatCollect, hresponses] at hreplies
    rw [← hfor.resolver_eq, Site.replySchemas, List.filterMap_eq_flatMap_toList]
    apply Outcome.forall₂_of_flatCollect hreplies
    intro entry hentry found
    apply forall₂_reply
    apply Json.isWellFormed_of_mem_membersOf _ hentry
    intro responses
    apply Operation.isWellFormed_of_field? hsite

theorem sharedParameters_eq (item : Json.Members) :
  sharedParameters item = Json.itemsOf (Json.field? (.object item) "parameters")
  := by
  change sharedParameters item = Json.itemsOf (item.get? "parameters")
  unfold sharedParameters
  split
  · next parameters hparameters => rw [hparameters]; rfl
  · next hother =>
    cases hvalue : item.get? "parameters" with
    | none => rfl
    | some value =>
      cases value with
      | array items => absurd hvalue; apply hother
      | null | bool | number | string | object => rfl

/-- The method is built for the operation of a site. -/
def Builds (builder : Builder) (site : Site) (method : Method) : Prop :=
  ∃ verb, Verb.ofKey? site.key = some verb ∧
    (builder.method site.path (Json.itemsOf (site.item.field? "parameters")) verb
      site.operation).outcome = .ok method

/-- A method is built for each member of an object under a path whose key is a verb. -/
theorem forall₂_builds_of_methodsOfMember {item : Json.Members} {member : String × Json}
    {found : List Method}
    (h : (builder.methodsOfMember path (sharedParameters item) member).outcome = .ok found) :
  List.Forall₂ builder.Builds
    (if isVerbKey member.1 then some (Site.mk path (.object item) member.1 member.2)
      else none).toList found
  := by
  rw [isVerbKey_eq_isSome]
  unfold methodsOfMember at h
  cases hverb : Verb.ofKey? member.1 with
  | none =>
    obtain rfl : [] = found := by simpa [hverb] using h
    apply List.Forall₂.nil
  | some verb =>
    simp only [hverb, Report.outcome_bind, Report.outcome_pure, Outcome.bind_eq_ok_iff] at h
    obtain ⟨method, hmethod, ⟨⟩⟩ := h
    rw [sharedParameters_eq] at hmethod
    exact .cons ⟨verb, hverb, hmethod⟩ .nil

/-- Methods are built for the sites under a path. -/
theorem forall₂_builds_of_methodsOfPath {entry : String × Json} {found : List Method}
    (h : (builder.methodsOfPath entry).outcome = .ok found) :
  List.Forall₂ builder.Builds (sitesOfPath entry) found
  := by
  obtain ⟨path, value⟩ := entry
  cases value with
  | object item =>
    by_cases hextension : isExtension path
    · obtain rfl : [] = found := by simpa [methodsOfPath, hextension] using h
      simp [sitesOfPath, hextension]
    · simp only [methodsOfPath, hextension, Bool.false_eq_true, if_false,
        outcome_flatCollect] at h
      rw [sitesOfPath, if_neg hextension, List.filterMap_eq_flatMap_toList]
      apply Outcome.forall₂_of_flatCollect h
      intro member _ found
      apply forall₂_builds_of_methodsOfMember
  | null | bool | number | string | array =>
    obtain rfl : [] = found := by simpa [methodsOfPath] using h
    simp [sitesOfPath, Json.membersOf, Json.asObject?]

/-- A method that is built for a site is the one of the site. -/
theorem forall₂_isMethod_of_builds (hfor : builder.IsFor document options) {sites : List Site}
    {found : List Method} (hsites : ∀ site ∈ sites, site.operation.isWellFormed = true)
    (h : List.Forall₂ builder.Builds sites found) :
  List.Forall₂ (IsMethod document options) sites found
  := by
  apply ((List.forall₂_and_left _ _).mpr ⟨hsites, h⟩).imp
  rintro site method ⟨hsite, verb, hverb, hmethod⟩
  apply isMethod_of_method hfor hsite hverb hmethod

theorem forall₂_methodsOfMember (hfor : builder.IsFor document options) {item : Json.Members}
    {member : String × Json} {found : List Method} (hmember : member.2.isWellFormed = true)
    (h : (builder.methodsOfMember path (sharedParameters item) member).outcome = .ok found) :
  List.Forall₂ (IsMethod document options)
    (if isVerbKey member.1 then some (Site.mk path (.object item) member.1 member.2)
      else none).toList found
  := by
  apply forall₂_isMethod_of_builds hfor _ (forall₂_builds_of_methodsOfMember h)
  intro site hsite
  split at hsite
  · obtain rfl := List.mem_singleton.mp hsite
    exact hmember
  · cases hsite

theorem forall₂_methodsOfPath (hfor : builder.IsFor document options) {entry : String × Json}
    {found : List Method} (hentry : entry.2.isWellFormed = true)
    (h : (builder.methodsOfPath entry).outcome = .ok found) :
  List.Forall₂ (IsMethod document options) (sitesOfPath entry) found
  := by
  apply forall₂_isMethod_of_builds hfor _ (forall₂_builds_of_methodsOfPath h)
  intro site hsite
  apply isWellFormed_of_mem_sitesOfPath hentry hsite

/-- A model is built of its definitions and of the methods under its paths. -/
theorem outcome_model_eq_ok_iff {model : Model} :
  builder.model.outcome = .ok model ↔
    ∃ definitions, Outcome.flatCollect (fun entry => (builder.definition entry).outcome.map ([·]))
        builder.envelope.definitions = .ok definitions ∧
      ∃ methods, Outcome.flatCollect (fun entry => (builder.methodsOfPath entry).outcome)
          builder.envelope.paths = .ok methods ∧
        ⟨builder.envelope.info.title, builder.envelope.info.description, builder.envelope.domain,
          definitions, methods⟩ = model
  := by
  simp only [Builder.model, Report.outcome_bind, Report.outcome_note, Report.outcome_pure,
    Outcome.bind_ok, Outcome.bind_eq_ok_iff, Outcome.map_eq_ok_iff, outcome_flatCollect, true_and,
    exists_const]

end Builder

/-! ### Documents -/

/-- A model is built of a document of the version that is known whose top level can be read. -/
theorem outcome_buildModel_eq_ok_iff {document : Json} {options : ModelOptions} {model : Model} :
  (buildModel document options).outcome = .ok model ↔
    (checkVersion document).outcome = .ok () ∧
    ∃ envelope, Envelope.ofMembers (document.asObject?.getD []) = .ok envelope ∧
      (Builder.ofEnvelope envelope options).model.outcome = .ok model
  := by
  simp only [buildModel, readEnvelope, Report.outcome_bind, Outcome.bind_eq_ok_iff,
    Builder.outcome_conforming_eq_ok_iff]
  constructor
  · rintro ⟨_, hchecked, henvelope⟩
    use hchecked
  · rintro ⟨hchecked, henvelope⟩
    use (), hchecked

/-- The version of a document stays the same whatever happens to its paths. -/
theorem checkVersion_mapPaths (f : String × Json → String × Json) (document : Json) :
  checkVersion (mapPaths f document) = checkVersion document
  := by
  unfold checkVersion
  rw [field?_mapPaths (by decide)]

theorem exists_envelope_of_buildModel {document : Json} {options : ModelOptions} {model : Model}
    (h : (buildModel document options).outcome = .ok model) :
  ∃ envelope, Envelope.ofMembers (document.asObject?.getD []) = .ok envelope ∧
    ((Builder.ofEnvelope envelope options).model).outcome = .ok model
  := (outcome_buildModel_eq_ok_iff.mp h).2

theorem get?_asObject? (document : Json) (name : String) :
  Named.get? (document.asObject?.getD []) name = document.field? name
  := by
  cases document <;> rfl

theorem ofDocument_eq (document : Json) :
  Context.ofDocument document = ⟨Json.membersOf (document.field? "definitions")⟩
  := by
  unfold Context.ofDocument
  cases document.field? "definitions" with
  | none => rfl
  | some value => cases value <;> rfl

theorem nodup_names_asObject? {document : Json} (h : document.isWellFormed = true) :
  (Named.names (document.asObject?.getD [])).Nodup
  := by
  cases document with
  | object members => apply (Json.isWellFormed_object_iff.mp h).1
  | null | bool | number | string | array => apply List.nodup_nil

/-- The model that is built of a document, none of whose objects has two members of one name, is
an image of it.  The values of texts are such documents, by `Json.isWellFormed_of_parse`. -/
theorem isImage_of_buildModel {document : Json} {options : ModelOptions} {model : Model}
    (hdocument : document.isWellFormed = true)
    (h : (buildModel document options).outcome = .ok model) :
  IsImage document options model
  := by
  obtain ⟨envelope, henvelope, hmodel⟩ := exists_envelope_of_buildModel h
  obtain ⟨hdefinitions, hparameters, hpaths⟩ :=
    Envelope.eq_membersOf (nodup_names_asObject? hdocument) henvelope
  rw [get?_asObject?] at hdefinitions hparameters hpaths
  have hfor : (Builder.ofEnvelope envelope options).IsFor document options := by
    constructor
    · rw [Resolver.ofDocument, ofDocument_eq, ← hdefinitions]
      rfl
    · apply hparameters
    · rfl
  simp only [Builder.model, Report.outcome_bind, Report.outcome_pure, Outcome.bind_eq_ok_iff,
    Builder.outcome_flatCollect] at hmodel
  obtain ⟨definitions, hdefined, methods, hmethods, -, -, ⟨⟩⟩ := hmodel
  constructor
  case definitions =>
    rw [← hfor.resolver_eq, ← hdefinitions, ← List.flatMap_singleton' envelope.definitions]
    apply Outcome.forall₂_of_flatCollect hdefined
    intro entry _ found hentry
    obtain ⟨definition, hdefinition, ⟨⟩⟩ := Outcome.bind_eq_ok_iff.mp hentry
    apply List.Forall₂.cons (Builder.isDefinition_of_definition hdefinition) .nil
  case methods =>
    rw [sites, ← hpaths]
    apply Outcome.forall₂_of_flatCollect hmethods
    intro entry hentry found
    apply Builder.forall₂_methodsOfPath hfor
    apply Json.isWellFormed_of_mem_membersOf _ (hpaths ▸ hentry)
    intro paths
    apply Json.isWellFormed_of_field? hdocument

/-- A document with an operation that has parameters and responses of all kinds. -/
def petShop : Json :=
  .object [
    ("swagger", .string "2.0"),
    ("definitions", .object [("Pet", .object [("type", .string "object")])]),
    ("parameters", .object [("limit", .object [("name", .string "limit")])]),
    ("paths", .object [
      ("x-note", .object [("get", .object [])]),
      ("/pets", .object [
        ("parameters", .array [.object [("name", .string "owner")]]),
        ("Get", .object [
          ("parameters", .array [
            .object [("$ref", .string "#/parameters/limit")],
            .object [("$ref", .string "#/parameters/missing")],
            .object [("name", .string "trace"), ("x-exclude-from-bindings", .bool true)]]),
          ("responses", .object [
            ("200", .object [("schema", .object [("$ref", .string "#/definitions/Pet")])]),
            ("204", .object [("description", .string "nothing")]),
            ("x-note", .object [("schema", .object [])])])]),
        ("note", .object [])])])]

theorem isImage_of_buildModel_petShop :
  ∃ model, (buildModel petShop).outcome = .ok model ∧ IsImage petShop {} model ∧
    model.methods.map (fun method => (method.path, method.verb)) = [("/pets", .get)] ∧
    model.methods.map (fun method => method.parameters.map (·.name)) = [["limit", "owner"]] ∧
    model.methods.map (fun method => method.replies.map (·.code)) = [["200"]]
  := by
  have hdocument : petShop.isWellFormed = true := by decide
  have h : (buildModel petShop).outcome = .ok _ := rfl
  exact ⟨_, h, isImage_of_buildModel hdocument h, rfl, rfl, rfl⟩

end Document

end ApiTypes
