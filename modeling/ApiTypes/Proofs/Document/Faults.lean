import ApiTypes.Proofs.Document.Image
import ApiTypes.Proofs.Document.Wording

/-!
# The first fault of a document

The building of a model comes to the parts of a document one after another.  `Document.checks`
lists them in order, and `Check.fault?` is the fault that a part has on its own.  A document has a
model exactly if it `IsSound`, that is if none of its parts has a fault, and otherwise the error is
the fault of the first part that has one: `Document.buildModel_reportsFirstFault`.

What is left out of a model is not among the parts: extensions, paths and responses that are not
objects, keys that are not verbs, and parameters that are unknown or excluded.
-/

namespace ApiTypes

namespace Document

/-! ### The parts of a document -/

/-- The test for a response that is not left out. -/
def isKeptResponse (entry : String × Json) : Bool :=
  !isExtension entry.1 && entry.2.asObject?.isSome

/-- The responses of a site. -/
def Site.responses (site : Site) : Json.Members :=
  Json.membersOf (Operation.field? site.operation "responses" 4)

/-- A part of a document that may be at fault. -/
inductive Check where
  /-- The version of the document. -/
  | version
  /-- The top level of the document. -/
  | envelope
  | definition (entry : String × Node)
  /-- The fields of an operation. -/
  | operation (verb : Verb) (path : String) (value : Json)
  | parameter (verb : Verb) (path : String) (node : Node)
  /-- The fields of a response. -/
  | response (verb : Verb) (path : String) (entry : String × Json)
  /-- The schema of a response. -/
  | reply (verb : Verb) (path : String) (entry : String × Node)

/-- The parts of a response, unless it is left out: its fields, and its schema if there is one. -/
def responseChecks (verb : Verb) (path : String) (entry : String × Json) : List Check :=
  if isKeptResponse entry then
    .response verb path entry :: (replySchema? entry).toList.map (.reply verb path)
  else []

/-- The parts of the operation of a site: its fields, its parameters and those of its path, and its
responses. -/
def Site.checks (document : Json) (options : ModelOptions) (site : Site) : List Check :=
  match Verb.ofKey? site.key with
  | none => []
  | some verb =>
    .operation verb site.path site.operation ::
      ((site.parameterNodes document options).map (.parameter verb site.path) ++
        site.responses.flatMap (responseChecks verb site.path))

/-- The parts of a document, in order. -/
def checks (document : Json) (options : ModelOptions) : List Check :=
  .version :: .envelope ::
    ((Json.membersOf (document.field? "definitions")).map .definition ++
      (sites document).flatMap (Site.checks document options))

/-- The fault of a document that is not of version 2.0, told with the version that it has. -/
def versionFault? (document : Json) : Option DocumentError :=
  if Node.text? document "swagger" = some "2.0" then none
  else some (.unsupportedVersion ((document.field? "swagger").map fun value =>
    value.asString?.getD value.text))

/-- The fault that a part of a document has on its own. -/
def Check.fault? (document : Json) (options : ModelOptions) (check : Check) :
    Option DocumentError :=
  let resolver := Resolver.ofDocument document options.maxDepth
  match check with
  | .version => versionFault? document
  | .envelope =>
    (Outcome.error? (Envelope.ofMembers (document.asObject?.getD []))).map (.malformed .document)
  | .definition (name, node) =>
    (Outcome.error? (resolver.resolveNamed name node).outcome).map (.resolve (.definition name))
  | .operation verb path value =>
    (Outcome.error? (Operation.ofJson value)).map (.malformed (.operation verb path))
  | .parameter verb path node =>
    (Outcome.error? (resolver.resolve node).outcome).map
      (.resolve (.parameter verb path ((node.text? "name").getD "")))
  | .response verb path (code, value) =>
    (Outcome.error? (Response.ofMembers (Json.membersOf value))).map
      (.malformed (.response verb path code))
  | .reply verb path (code, schema) =>
    (Outcome.error? (resolver.resolve schema).outcome).map (.resolve (.response verb path code))

/-- The words for a part of a document that may be at fault, unless it is the version. -/
def Check.location? : Check → Option String
  | .version => none
  | .envelope => some "document"
  | .definition (name, _) => some ("definition " ++ name)
  | .operation verb path _ => some (verb.text ++ " " ++ path)
  | .parameter verb path node =>
    some (verb.text ++ " " ++ path ++ " parameter " ++ (node.text? "name").getD "")
  | .response verb path (code, _) => some (verb.text ++ " " ++ path ++ " response " ++ code)
  | .reply verb path (code, _) => some (verb.text ++ " " ++ path ++ " response " ++ code)

/-- The words for an error name the part of the document that is at fault, and end with it and the
cause. -/
structure Check.IsNamedBy (check : Check) (error : DocumentError) : Prop where
  text_place? : error.place?.map Place.text = check.location?
  message_eq : ∀ location ∈ check.location?, ∃ verdict ∈ ["malformed ", "failed to resolve "],
    ∃ cause, error.cause? = some cause ∧ error.message = verdict ++ location ++ ": " ++ cause

/-- The part is not among those that are left out: an operation stands under a verb in the object
of a path that is no extension, a parameter is neither unknown nor excluded, and a response is an
object and no extension. -/
def Check.IsKept (document : Json) (options : ModelOptions) : Check → Prop
  | .operation verb path value =>
    isExtension path = false ∧ ∃ item key,
      (path, .object item) ∈ Json.membersOf (document.field? "paths") ∧ (key, value) ∈ item ∧
        verb.text.toList = Text.toUpper key.toList
  | .parameter _ _ node =>
    (∃ entry, parameterNode? document entry = some node) ∧
      (options.includeExcluded = true ∨ node.flag "x-exclude-from-bindings" = false)
  | .response _ _ (code, value) => isExtension code = false ∧ ∃ members, value = .object members
  | .reply _ _ (code, _) => isExtension code = false
  | _ => True

/-- The operation of a site can be read, the nodes of its parameters and the schemas of its
responses resolve, and its responses can be read unless they are left out. -/
structure Site.IsSound (document : Json) (options : ModelOptions) (site : Site) : Prop where
  operation : ∃ operation, Operation.ofJson site.operation = .ok operation
  parameters : ∀ node ∈ site.parameterNodes document options, ∃ type,
    ((Resolver.ofDocument document options.maxDepth).resolve node).outcome = .ok type
  responses : ∀ entry ∈ site.responses, isKeptResponse entry = true → ∃ response,
    Response.ofMembers (Json.membersOf entry.2) = .ok response
  replies : ∀ entry ∈ site.replySchemas, ∃ type,
    ((Resolver.ofDocument document options.maxDepth).resolve entry.2).outcome = .ok type

/-- The document is of version 2.0, its top level can be read, and its definitions and its sites
are sound. -/
structure IsSound (document : Json) (options : ModelOptions) : Prop where
  version : document.field? "swagger" = some (.string "2.0")
  envelope : ∃ envelope, Envelope.ofMembers (document.asObject?.getD []) = .ok envelope
  definitions : ∀ entry ∈ Json.membersOf (document.field? "definitions"), ∃ type,
    ((Resolver.ofDocument document options.maxDepth).resolveNamed entry.1 entry.2).outcome =
      .ok type
  sites : ∀ site ∈ sites document, site.IsSound document options

/-! ### Building -/

theorem text?_swagger_eq_iff {document : Json} :
  Node.text? document "swagger" = some "2.0" ↔ document.field? "swagger" = some (.string "2.0")
  := by
  unfold Node.text?
  cases document.field? "swagger" with
  | none => simp
  | some value => cases value <;> simp [Json.asString?]

theorem error?_checkVersion (document : Json) :
  Outcome.error? (checkVersion document).outcome = versionFault? document
  := by
  unfold checkVersion versionFault? Node.text?
  cases document.field? "swagger" with
  | none => rfl
  | some value =>
    cases value with
    | string version =>
      by_cases hversion : version = "2.0"
      · simp [hversion, Json.asString?]
      · simp [hversion, Json.asString?]
    | null | bool | number | array | object => rfl

theorem error?_resolving {place : Place} {report : Report ResolveError Descriptor} :
  Outcome.error? (resolving place report).outcome =
    (Outcome.error? report.outcome).map (.resolve place)
  := Outcome.error?_mapError _ _

theorem error?_conforming {α : Type} {place : Place} {outcome : Conforms α} :
  Outcome.error? (conforming place outcome).outcome =
    (Outcome.error? outcome).map (.malformed place)
  := Outcome.error?_mapError _ _

namespace Builder

variable {builder : Builder} {document : Json} {options : ModelOptions} {verb : Verb}
  {path : String}

theorem error?_definition (hfor : builder.IsFor document options) (entry : String × Node) :
  Outcome.error? (builder.definition entry).outcome =
    (Check.definition entry).fault? document options
  := by
  simp only [Builder.definition, Report.outcome_bind, Report.outcome_note, Report.outcome_pure,
    Outcome.ok_bind, Outcome.error?_bind_ok, error?_resolving, hfor.resolver_eq]
  rfl

theorem error?_parameterOfNode (hfor : builder.IsFor document options) (node : Node) :
  Outcome.error? (builder.parameterOfNode verb path node).outcome =
    (Check.parameter verb path node).fault? document options
  := by
  simp only [parameterOfNode, Report.outcome_bind, Report.outcome_pure, Outcome.error?_bind_ok,
    error?_resolving, hfor.resolver_eq]
  rfl

/-- The fault of parameters is the first one of the nodes that they are built for. -/
theorem error?_parameters (hfor : builder.IsFor document options) (entries : List Node) :
  Outcome.error? (flatCollect (builder.parameter verb path) entries).outcome =
    ((builder.parameterNodes entries).map (Check.parameter verb path)).findSome?
      (Check.fault? document options)
  := by
  rw [outcome_parameters, ← List.flatMap_singleton' ((builder.parameterNodes entries).map _),
    List.flatMap_map]
  apply Outcome.error?_flatCollect
  intro node _
  rw [← Outcome.bind_ok, Outcome.error?_bind_ok, error?_parameterOfNode hfor,
    Outcome.findSome?_cons, List.findSome?_nil, Option.or_none]

/-- The fault of a response is the one of its fields or else of its schema, unless it is left
out. -/
theorem error?_reply (hfor : builder.IsFor document options) {entry : String × Json}
    (hresponse : entry.2.isWellFormed = true) :
  Outcome.error? (builder.reply verb path entry).outcome =
    (responseChecks verb path entry).findSome? (Check.fault? document options)
  := by
  obtain ⟨code, response⟩ := entry
  cases response with
  | object members =>
    by_cases hextension : isExtension code
    · simp [reply, responseChecks, isKeptResponse, hextension]
    · have hkept : isKeptResponse (code, .object members) = true := by
        simp [isKeptResponse, hextension, Json.asObject?]
      rw [responseChecks, if_pos hkept, Outcome.findSome?_cons]
      simp only [reply, hextension, Bool.false_eq_true, if_false, Report.outcome_bind]
      have hfields : (Check.response verb path (code, .object members)).fault? document options =
          Outcome.error? (conforming (.response verb path code)
            (Response.ofMembers members)).outcome := error?_conforming.symm
      rw [hfields]
      apply Outcome.error?_bind
      intro record hrecord
      rw [replySchema?_eq hresponse hextension (outcome_conforming_eq_ok_iff.mp hrecord)]
      cases record.schema with
      | none => rfl
      | some schema =>
        simp only [Report.outcome_bind, Report.outcome_pure, Outcome.error?_bind_ok,
          error?_resolving, hfor.resolver_eq, Option.map_some, Option.toList_some, List.map_cons,
          List.map_nil, Outcome.findSome?_cons, List.findSome?_nil, Option.or_none]
        rfl
  | null | bool | number | string | array =>
    simp [reply, responseChecks, isKeptResponse, Json.asObject?]

/-- The fault of an operation is the one of its fields, or else the first one of its parameters
and its responses. -/
theorem error?_method (hfor : builder.IsFor document options) {site : Site}
    (hsite : site.operation.isWellFormed = true) (hverb : Verb.ofKey? site.key = some verb) :
  Outcome.error? (builder.method site.path (Json.itemsOf (site.item.field? "parameters")) verb
    site.operation).outcome =
      (site.checks document options).findSome? (Check.fault? document options)
  := by
  have hfields : (Check.operation verb site.path site.operation).fault? document options =
      Outcome.error? (conforming (.operation verb site.path)
        (Operation.ofJson site.operation)).outcome := error?_conforming.symm
  simp only [Site.checks, hverb, Outcome.findSome?_cons, List.findSome?_append, hfields]
  simp only [Builder.method, Report.outcome_bind, Report.outcome_note, Report.outcome_pure,
    Outcome.ok_bind]
  apply Outcome.error?_bind
  intro operation hoperation
  obtain ⟨hparameters, hresponses⟩ :=
    Operation.eq_of_ofJson hsite (outcome_conforming_eq_ok_iff.mp hoperation)
  have hreplies :
      Outcome.error? (flatCollect (builder.reply verb site.path) operation.responses).outcome =
        (site.responses.flatMap (responseChecks verb site.path)).findSome?
          (Check.fault? document options) := by
    rw [outcome_flatCollect, hresponses]
    apply Outcome.error?_flatCollect
    intro entry hentry
    apply error?_reply hfor
    apply Json.isWellFormed_of_mem_membersOf _ hentry
    intro responses
    apply Operation.isWellFormed_of_field? hsite
  rw [Site.parameterNodes, ← hparameters, ← hfor.parameterNodes_eq, ← error?_parameters hfor,
    ← hreplies]
  apply Outcome.error?_bind
  intro parameters _
  apply Outcome.error?_bind_ok

/-- The fault of a member of a path is the one of its site, if its key is a verb. -/
theorem error?_methodsOfMember (hfor : builder.IsFor document options) {item : Json.Members}
    {member : String × Json} (hmember : member.2.isWellFormed = true) :
  Outcome.error? (builder.methodsOfMember path (sharedParameters item) member).outcome =
    ((if isVerbKey member.1 then some (Site.mk path (.object item) member.1 member.2)
      else none).toList.flatMap (Site.checks document options)).findSome?
        (Check.fault? document options)
  := by
  rw [isVerbKey_eq_isSome]
  unfold methodsOfMember
  cases hverb : Verb.ofKey? member.1 with
  | none => rfl
  | some verb =>
    let site : Site := ⟨path, .object item, member.1, member.2⟩
    have hsite : site.operation.isWellFormed = true := hmember
    have hkey : Verb.ofKey? site.key = some verb := hverb
    simp only [Report.outcome_bind, Report.outcome_pure, Outcome.error?_bind_ok,
      sharedParameters_eq, Option.isSome_some, if_true, Option.toList_some, List.flatMap_singleton]
    apply error?_method hfor hsite hkey

/-- The fault under a path is the first one of its sites. -/
theorem error?_methodsOfPath (hfor : builder.IsFor document options) {entry : String × Json}
    (hentry : entry.2.isWellFormed = true) :
  Outcome.error? (builder.methodsOfPath entry).outcome =
    ((sitesOfPath entry).flatMap (Site.checks document options)).findSome?
      (Check.fault? document options)
  := by
  obtain ⟨path, value⟩ := entry
  cases value with
  | object item =>
    by_cases hextension : isExtension path
    · simp [methodsOfPath, sitesOfPath, hextension]
    · simp only [methodsOfPath, sitesOfPath, hextension, Bool.false_eq_true, if_false,
        outcome_flatCollect]
      rw [List.filterMap_eq_flatMap_toList, List.flatMap_assoc]
      apply Outcome.error?_flatCollect
      intro member hmember
      apply error?_methodsOfMember hfor
      apply (Json.isWellFormed_object_iff.mp hentry).2 member hmember
  | null | bool | number | string | array =>
    simp [methodsOfPath, sitesOfPath, Json.membersOf, Json.asObject?]

/-- The fault of a model is the first one of its definitions, or else of its paths. -/
theorem error?_model (hfor : builder.IsFor document options)
    (hpaths : ∀ entry ∈ builder.envelope.paths, entry.2.isWellFormed = true) :
  Outcome.error? builder.model.outcome =
    (builder.envelope.definitions.map Check.definition ++
      (builder.envelope.paths.flatMap sitesOfPath).flatMap (Site.checks document options)).findSome?
        (Check.fault? document options)
  := by
  simp only [model, Report.outcome_bind, Report.outcome_note, Report.outcome_pure, Outcome.ok_bind,
    outcome_flatCollect, List.findSome?_append]
  rw [List.flatMap_assoc, List.map_eq_flatMap, ← Outcome.error?_flatCollect]
  · apply Outcome.error?_bind
    intro definitions _
    rw [Outcome.error?_bind_ok]
    apply Outcome.error?_flatCollect
    intro entry hentry
    apply error?_methodsOfPath hfor (hpaths entry hentry)
  · intro entry _
    simp only [Outcome.error?_bind_ok, error?_definition hfor, Outcome.findSome?_cons,
      List.findSome?_nil, Option.or_none]

end Builder

/-- The definitions, the parameters and the paths of the top level are those of the document. -/
theorem eq_membersOf_of_envelope {document : Json} {envelope : Envelope}
    (hdocument : document.isWellFormed = true)
    (h : Envelope.ofMembers (document.asObject?.getD []) = .ok envelope) :
  envelope.definitions = Json.membersOf (document.field? "definitions") ∧
  envelope.parameters = Json.membersOf (document.field? "parameters") ∧
  envelope.paths = Json.membersOf (document.field? "paths")
  := by
  have hread := Envelope.eq_membersOf (nodup_names_asObject? hdocument) h
  simpa only [get?_asObject?] using hread

theorem isFor_ofEnvelope {document : Json} {envelope : Envelope} {options : ModelOptions}
    (hdocument : document.isWellFormed = true)
    (h : Envelope.ofMembers (document.asObject?.getD []) = .ok envelope) :
  (Builder.ofEnvelope envelope options).IsFor document options
  := by
  obtain ⟨hdefinitions, hparameters, -⟩ := eq_membersOf_of_envelope hdocument h
  constructor
  · rw [Resolver.ofDocument, ofDocument_eq, ← hdefinitions]
    rfl
  · apply hparameters
  · rfl

/-- The error of building a model is the first fault of a part of the document. -/
theorem error?_buildModel {document : Json} {options : ModelOptions}
    (hdocument : document.isWellFormed = true) :
  Outcome.error? (buildModel document options).outcome =
    (checks document options).findSome? (Check.fault? document options)
  := by
  have henvelope : Check.envelope.fault? document options =
      Outcome.error? (readEnvelope document).outcome := error?_conforming.symm
  have hversion : Check.version.fault? document options =
      Outcome.error? (checkVersion document).outcome := (error?_checkVersion document).symm
  simp only [checks, Outcome.findSome?_cons, henvelope, hversion]
  simp only [buildModel, Report.outcome_bind]
  apply Outcome.error?_bind
  intro _ _
  apply Outcome.error?_bind
  intro envelope hread
  have henvelope := Builder.outcome_conforming_eq_ok_iff.mp hread
  obtain ⟨hdefinitions, -, hpaths⟩ := eq_membersOf_of_envelope hdocument henvelope
  rw [sites, ← hdefinitions, ← hpaths]
  apply Builder.error?_model (isFor_ofEnvelope hdocument henvelope)
  change ∀ entry ∈ envelope.paths, _
  rw [hpaths]
  intro entry
  apply Json.isWellFormed_of_mem_membersOf_field? hdocument

/-! ### Documents without faults -/

/-- A site stands under a verb in the object of a path that is no extension. -/
theorem of_mem_sites {document : Json} {site : Site} (h : site ∈ sites document) :
  isExtension site.path = false ∧ (∃ verb, Verb.ofKey? site.key = some verb) ∧
    ∃ item, (site.path, .object item) ∈ Json.membersOf (document.field? "paths") ∧
      (site.key, site.operation) ∈ item
  := by
  obtain ⟨⟨path, value⟩, hentry, hsite⟩ := List.mem_flatMap.mp h
  rw [sitesOfPath] at hsite
  split at hsite
  · simp at hsite
  · next hextension =>
    obtain ⟨member, hmember, hpicked⟩ := List.mem_filterMap.mp hsite
    split at hpicked
    · next hverb =>
      obtain rfl := Option.some.inj hpicked
      refine ⟨by simpa using hextension, ?_, ?_⟩
      · apply Option.isSome_iff_exists.mp
        rw [← isVerbKey_eq_isSome]
        apply hverb
      · cases value with
        | object item => use item, hentry, hmember
        | null | bool | number | string | array => simp [Json.membersOf, Json.asObject?] at hmember
    · simp at hpicked

/-- A response with a schema is not left out. -/
theorem isKeptResponse_of_replySchema? {entry : String × Json} {reply : String × Node}
    (h : replySchema? entry = some reply) :
  isKeptResponse entry = true ∧ entry.1 = reply.1
  := by
  obtain ⟨code, response⟩ := entry
  rw [replySchema?] at h
  split at h
  · simp at h
  · next hextension =>
    obtain ⟨schema, hschema, rfl⟩ := Option.map_eq_some_iff.mp h
    cases response with
    | object members => simp [isKeptResponse, hextension, Json.asObject?]
    | null | bool | number | string | array => simp [Json.field?, Json.asObject?] at hschema

theorem forall_mem_responseChecks_iff {verb : Verb} {path : String} {entry : String × Json}
    {P : Check → Prop} :
  (∀ check ∈ responseChecks verb path entry, P check) ↔
    (isKeptResponse entry = true → P (.response verb path entry)) ∧
    ∀ reply, replySchema? entry = some reply → P (.reply verb path reply)
  := by
  rw [responseChecks]
  by_cases hkept : isKeptResponse entry = true
  · simp only [hkept, if_true, List.forall_mem_cons, List.forall_mem_map, Option.mem_toList,
      forall_const]
  · have hnone : replySchema? entry = none := by
      by_contra hsome
      obtain ⟨reply, hreply⟩ := Option.ne_none_iff_exists'.mp hsome
      apply hkept (isKeptResponse_of_replySchema? hreply).1
    simp [hkept, hnone]

/-- What holds of the parts of a site holds of its operation, of its parameters and of its
responses. -/
theorem Site.forall_mem_checks_iff {document : Json} {options : ModelOptions} {site : Site}
    {verb : Verb} (hverb : Verb.ofKey? site.key = some verb) {P : Check → Prop} :
  (∀ check ∈ site.checks document options, P check) ↔
    P (.operation verb site.path site.operation) ∧
    (∀ node ∈ site.parameterNodes document options, P (.parameter verb site.path node)) ∧
    (∀ entry ∈ site.responses, isKeptResponse entry = true → P (.response verb site.path entry)) ∧
    ∀ entry ∈ site.replySchemas, P (.reply verb site.path entry)
  := by
  have hreplies : (∀ entry ∈ site.replySchemas, P (.reply verb site.path entry)) ↔
      ∀ entry ∈ site.responses, ∀ reply, replySchema? entry = some reply →
        P (.reply verb site.path reply) := by
    simp only [replySchemas, List.mem_filterMap]
    grind [Site.responses]
  rw [hreplies]
  simp only [checks, hverb, List.forall_mem_cons, List.forall_mem_append, List.forall_mem_map,
    List.forall_mem_flatMap, forall_mem_responseChecks_iff, forall_and]

theorem fault?_version_eq_none_iff {document : Json} {options : ModelOptions} :
  Check.version.fault? document options = none ↔
    document.field? "swagger" = some (.string "2.0")
  := by
  rw [← text?_swagger_eq_iff]
  simp [Check.fault?, versionFault?]

/-- A site is sound when none of its parts has a fault. -/
theorem Site.isSound_iff {document : Json} {options : ModelOptions} {site : Site} {verb : Verb}
    (hverb : Verb.ofKey? site.key = some verb) :
  site.IsSound document options ↔
    ∀ check ∈ site.checks document options, check.fault? document options = none
  := by
  rw [forall_mem_checks_iff hverb]
  simp only [Check.fault?, Option.map_eq_none_iff, Outcome.error?_eq_none_iff]
  constructor
  · rintro ⟨hoperation, hparameters, hresponses, hreplies⟩
    exact ⟨hoperation, hparameters, hresponses, hreplies⟩
  · rintro ⟨hoperation, hparameters, hresponses, hreplies⟩
    exact ⟨hoperation, hparameters, hresponses, hreplies⟩

/-- A document is sound when none of its parts has a fault. -/
theorem isSound_iff {document : Json} {options : ModelOptions} :
  IsSound document options ↔
    ∀ check ∈ checks document options, check.fault? document options = none
  := by
  have hsites : (∀ site ∈ sites document, site.IsSound document options) ↔
      ∀ site ∈ sites document, ∀ check ∈ site.checks document options,
        check.fault? document options = none := by
    apply forall₂_congr
    intro site hsite
    obtain ⟨-, ⟨verb, hverb⟩, -⟩ := of_mem_sites hsite
    apply Site.isSound_iff hverb
  simp only [checks, List.forall_mem_cons, List.forall_mem_append, List.forall_mem_map,
    List.forall_mem_flatMap, fault?_version_eq_none_iff, ← hsites]
  simp only [Check.fault?, Option.map_eq_none_iff, Outcome.error?_eq_none_iff]
  constructor
  · rintro ⟨hversion, henvelope, hdefinitions, hsound⟩
    exact ⟨hversion, henvelope, hdefinitions, hsound⟩
  · rintro ⟨hversion, henvelope, hdefinitions, hsound⟩
    exact ⟨hversion, henvelope, hdefinitions, hsound⟩

/-- The parts of a site are not left out. -/
theorem Site.isKept_of_mem_checks {document : Json} {options : ModelOptions} {site : Site}
    (hsite : site ∈ sites document) :
  ∀ check ∈ site.checks document options, check.IsKept document options
  := by
  obtain ⟨hpath, ⟨verb, hverb⟩, item, hitem, hmember⟩ := of_mem_sites hsite
  rw [forall_mem_checks_iff hverb]
  refine ⟨?_, ?_, ?_, ?_⟩
  · use hpath, item, site.key, hitem, hmember
    apply (Verb.toUpper_of_ofKey? hverb).symm
  · intro node hnode
    obtain ⟨hpicked, hincluded⟩ := List.mem_filter.mp hnode
    obtain ⟨entry, -, hentry⟩ := List.mem_filterMap.mp hpicked
    constructor
    · use entry
    · simpa using hincluded
  · rintro ⟨code, response⟩ - hkept
    simp only [isKeptResponse, Bool.and_eq_true, Bool.not_eq_true'] at hkept
    obtain ⟨members, hmembers⟩ := Option.isSome_iff_exists.mp hkept.2
    use hkept.1, members
    apply Json.asObject?_eq_some_iff.mp hmembers
  · rintro ⟨code, schema⟩ hreply
    obtain ⟨entry, -, hentry⟩ := List.mem_filterMap.mp hreply
    obtain ⟨hkept, rfl⟩ := isKeptResponse_of_replySchema? hentry
    simp only [isKeptResponse, Bool.and_eq_true, Bool.not_eq_true'] at hkept
    apply hkept.1

/-- What is left out of a model is not among the parts. -/
theorem isKept_of_mem_checks {document : Json} {options : ModelOptions} :
  ∀ check ∈ checks document options, check.IsKept document options
  := by
  simp only [checks, List.forall_mem_cons, List.forall_mem_append, List.forall_mem_map,
    List.forall_mem_flatMap]
  refine ⟨trivial, trivial, fun _ _ => trivial, ?_⟩
  intro site hsite
  apply Site.isKept_of_mem_checks hsite

/-- The place of a fault is told by the words for the part that has it. -/
theorem text_place?_of_fault? {document : Json} {options : ModelOptions} {check : Check}
    {error : DocumentError} (h : check.fault? document options = some error) :
  error.place?.map Place.text = check.location?
  := by
  cases check with
  | version =>
    simp only [Check.fault?, versionFault?, Option.ite_none_left_eq_some, Option.some.injEq] at h
    obtain ⟨-, rfl⟩ := h
    rfl
  | envelope | definition | operation | parameter | response | reply =>
    obtain ⟨cause, -, rfl⟩ := Option.map_eq_some_iff.mp h
    rfl

theorem isNamedBy_of_fault? {document : Json} {options : ModelOptions} {check : Check}
    {error : DocumentError} (h : check.fault? document options = some error) :
  check.IsNamedBy error
  := by
  have hplace := text_place?_of_fault? h
  use hplace
  intro location hlocation
  rw [Option.mem_def, ← hplace, Option.map_eq_some_iff] at hlocation
  obtain ⟨place, hplace, rfl⟩ := hlocation
  apply DocumentError.exists_message_eq hplace

/-- The error of building a model is the fault of a part that comes after none with a fault. -/
theorem outcome_buildModel_eq_error_iff {document : Json} {options : ModelOptions}
    {error : DocumentError} (hdocument : document.isWellFormed = true) :
  (buildModel document options).outcome = .error error ↔
    ∃ before check after, checks document options = before ++ check :: after ∧
      (∀ earlier ∈ before, earlier.fault? document options = none) ∧
      check.fault? document options = some error
  := by
  rw [← Outcome.error?_eq_some_iff, error?_buildModel hdocument, List.findSome?_eq_some_iff]
  constructor
  · rintro ⟨before, check, after, hchecks, herror, hbefore⟩
    use before, check, after
  · rintro ⟨before, check, after, hchecks, hbefore, herror⟩
    use before, check, after

/-- A model is built of a sound document, none of whose objects has two members of one name, and of
no other.  The error for any other is the fault of the first part that has one, and names that part.
What is left out of a model is not among the parts. -/
theorem buildModel_reportsFirstFault {document : Json} {options : ModelOptions}
    (hdocument : document.isWellFormed = true) :
  ((∃ model, (buildModel document options).outcome = .ok model) ↔ IsSound document options) ∧
  (∀ error, (buildModel document options).outcome = .error error ↔
    ∃ before check after, checks document options = before ++ check :: after ∧
      (∀ earlier ∈ before, earlier.fault? document options = none) ∧
      check.fault? document options = some error) ∧
  (∀ (check : Check) error, check.fault? document options = some error → check.IsNamedBy error) ∧
  ∀ check ∈ checks document options, check.IsKept document options
  := by
  refine ⟨?_, fun error => outcome_buildModel_eq_error_iff hdocument,
    fun check error => isNamedBy_of_fault?, isKept_of_mem_checks⟩
  rw [← Outcome.error?_eq_none_iff, error?_buildModel hdocument, isSound_iff,
    List.findSome?_eq_none_iff]

/-- A document in which the response under a code is at fault, and so are other parts that come
after it or are left out. -/
def faultyShop : Json :=
  .object [
    ("swagger", .string "2.0"),
    ("definitions", .object [("Pet", .object [("type", .string "object")])]),
    ("paths", .object [
      ("x-note", .object [("get", .string "none")]),
      ("/pets", .object [
        ("Get", .object [
          ("responses", .object [
            ("x-note", .object [("description", .bool false)]),
            ("200", .object [("description", .bool true)])])]),
        ("note", .string "none"),
        ("put", .string "none")])])]

theorem buildModel_reportsFirstFault_faultyShop :
  let error : DocumentError := .malformed (.response .get "/pets" "200")
    ⟨[.key "description"], .otherKind (.bool true) .string⟩
  faultyShop.isWellFormed = true ∧ ¬ IsSound faultyShop {} ∧
  (∃ before check after, checks faultyShop {} = before ++ check :: after ∧
    (∀ earlier ∈ before, earlier.fault? faultyShop {} = none) ∧
    check.fault? faultyShop {} = some error ∧ check.location? = some "GET /pets response 200") ∧
  error.message = "malformed GET /pets response 200: at JSON path description → " ++
    "invalid type: boolean `true`, expected a string"
  := by
  intro error
  have hdocument : faultyShop.isWellFormed = true := by decide
  obtain ⟨hok, herror, hnamed, -⟩ := @buildModel_reportsFirstFault faultyShop {} hdocument
  have h : (buildModel faultyShop).outcome = .error error := rfl
  obtain ⟨before, check, after, hchecks, hbefore, hfault⟩ := (herror _).mp h
  refine ⟨hdocument, ?_, ⟨before, check, after, hchecks, hbefore, hfault, ?_⟩, rfl⟩
  · intro hsound
    obtain ⟨model, hmodel⟩ := hok.mpr hsound
    simp [h] at hmodel
  · rw [← (hnamed check error hfault).text_place?]
    rfl

end Document

end ApiTypes
