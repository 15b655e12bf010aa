import ApiTypes.Document.Envelope
import ApiTypes.Document.Error
import ApiTypes.Document.Model
import ApiTypes.Name.Method
import ApiTypes.Resolver

/-!
# Building the model of a document

`buildModel` is the model of a document: of all its definitions in order, and of the
operations under each path in order.  `resolveDefinition` is the type of one definition on
its own.  Either reports the first fault it comes to.
-/

namespace ApiTypes

/-- What a model is built with: the depth that nodes are resolved to, and whether parameters
are kept that ask to be left out. -/
structure ModelOptions where
  maxDepth : Nat := defaultMaxDepth
  includeExcluded : Bool := false

/-- A computation on a document. -/
abbrev Building (α : Type) := Report DocumentError α

namespace Document

/-- The test for a key that belongs to a vendor extension. -/
def isExtension (key : String) : Bool :=
  ['x', '-'].isPrefixOf key.toList

/-- The check that a document is of version 2.0. -/
def checkVersion (document : Json) : Building Unit :=
  match document.field? "swagger" with
  | some (.string version) =>
    if version = "2.0" then pure () else .fail (.unsupportedVersion (some version))
  | some value => .fail (.unsupportedVersion (some value.text))
  | none => .fail (.unsupportedVersion none)

/-- The outcome of reading a part of a document. -/
def conforming {α : Type} (place : Place) (outcome : Conforms α) : Building α :=
  .ofExcept (outcome.mapError (.malformed place))

/-- The outcome of resolving a part of a document. -/
def resolving {α : Type} (place : Place) (report : Report ResolveError α) : Building α :=
  report.mapError (.resolve place)

/-- The top level of a document, which is an object. -/
def readEnvelope (document : Json) : Building Envelope :=
  conforming .document (Envelope.ofMembers (document.asObject?.getD []))

/-- What a document is built from: its top level, the resolver of its nodes, and the
options. -/
structure Builder where
  envelope : Envelope
  resolver : Resolver
  includeExcluded : Bool

namespace Builder

/-- The builder for the top level of a document. -/
def ofEnvelope (envelope : Envelope) (options : ModelOptions) : Builder where
  envelope := envelope
  resolver := ⟨⟨envelope.definitions⟩, options.maxDepth⟩
  includeExcluded := options.includeExcluded

/-- The model of a definition. -/
def definition (builder : Builder) (entry : String × Node) : Building Definition := do
  Report.note (.resolving entry.1)
  let type ← resolving (.definition entry.1) (builder.resolver.resolveNamed entry.1 entry.2)
  return ⟨entry.1, entry.2.description?, type⟩

/-- The node of a parameter, looked up among the shared ones when it is a reference. -/
def parameterNode? (builder : Builder) (parameter : Node) : Option Node :=
  match parameter.reference? with
  | none => some parameter
  | some reference => builder.envelope.parameters.get? (lastSegment reference)

/-- The test for a parameter that is left out on request. -/
def isExcluded (builder : Builder) (node : Node) : Bool :=
  node.flag "x-exclude-from-bindings" && !builder.includeExcluded

/-- The model of the parameter that a node describes. -/
def parameterOfNode (builder : Builder) (verb : Verb) (path : String) (node : Node) :
    Building Parameter := do
  let name := (node.text? "name").getD ""
  let type ← resolving (.parameter verb path name) (builder.resolver.resolve node)
  return {
    name := name
    location := (node.text? "in").getD ""
    singleton := match node.enumValues? with
      | some [value] => some value
      | _ => none
    isRequired := node.requiredFlag
    type := type }

/-- The models of a parameter: none when it is left out, and one otherwise. -/
def parameter (builder : Builder) (verb : Verb) (path : String) (entry : Node) :
    Building (List Parameter) := do
  match builder.parameterNode? entry with
  | none =>
    Report.note (.unknownParameter (operationText verb path) (entry.reference?.getD ""))
    return []
  | some node =>
    if builder.isExcluded node then
      Report.note (.excluded (operationText verb path) (node.text? "name"))
      return []
    else
      return [← builder.parameterOfNode verb path node]

/-- The models of a response: none when it is an extension, is not an object, or has no
schema. -/
def reply (builder : Builder) (verb : Verb) (path : String) (entry : String × Json) :
    Building (List Reply) := do
  match entry with
  | (code, .object members) =>
    if isExtension code then return []
    else
      let place := Place.response verb path code
      let response ← conforming place (Response.ofMembers members)
      match response.schema with
      | none => return []
      | some schema =>
        let type ← resolving place (builder.resolver.resolve schema)
        return [⟨code, response.description, type⟩]
  | _ => return []

/-- The lists computed for the members of a list, one after another. -/
def flatCollect {α β : Type} (build : α → Building (List β)) : List α → Building (List β)
  | [] => pure []
  | a :: rest => do
    let found ← build a
    let more ← flatCollect build rest
    return found ++ more

/-- The method for an operation on a path, whose parameters come before the ones that its
path shares. -/
def method (builder : Builder) (path : String) (shared : List Node) (verb : Verb) (value : Json) :
    Building Method := do
  Report.note (.buildingMethod (operationText verb path))
  let operation ← conforming (.operation verb path) (Operation.ofJson value)
  let parameters ← flatCollect (builder.parameter verb path) (operation.parameters ++ shared)
  let replies ← flatCollect (builder.reply verb path) operation.responses
  return {
    path := path
    verb := verb
    name := Name.ofMethod verb.text path operation.operationId
    summary := operation.description.or operation.summary
    parameters := parameters
    replies := replies }

/-- The methods for a member of a path: one when its key is a verb, and none otherwise. -/
def methodsOfMember (builder : Builder) (path : String) (shared : List Node)
    (entry : String × Json) : Building (List Method) := do
  match Verb.ofKey? entry.1 with
  | none => return []
  | some verb => return [← builder.method path shared verb entry.2]

/-- The parameters that the operations on a path share. -/
def sharedParameters (item : Json.Members) : List Node :=
  match item.get? "parameters" with
  | some (.array parameters) => parameters
  | _ => []

/-- The methods for the operations on a path: none when it is an extension or not an object. -/
def methodsOfPath (builder : Builder) (entry : String × Json) : Building (List Method) :=
  match entry with
  | (path, .object item) =>
    if isExtension path then pure []
    else flatCollect (builder.methodsOfMember path (sharedParameters item)) item
  | _ => pure []

/-- The model of the document. -/
def model (builder : Builder) : Building Model := do
  let definitions ← flatCollect (fun entry => do return [← builder.definition entry])
    builder.envelope.definitions
  let methods ← flatCollect builder.methodsOfPath builder.envelope.paths
  Report.note (.built definitions.length methods.length)
  return {
    title := builder.envelope.info.title
    description := builder.envelope.info.description
    domain := builder.envelope.domain
    definitions := definitions
    methods := methods }

end Builder

end Document

/-- The model of a document. -/
def buildModel (document : Json) (options : ModelOptions := {}) : Building Model := do
  Document.checkVersion document
  let envelope ← Document.readEnvelope document
  (Document.Builder.ofEnvelope envelope options).model

/-- The type of the first definition of a name in a document. -/
def resolveDefinition (document : Json) (name : String) (maxDepth : Nat := defaultMaxDepth) :
    Building Descriptor :=
  let resolver : Resolver := ⟨.ofDocument document, maxDepth⟩
  match resolver.resolveDefinition name with
  | some report => Document.resolving (.definition name) report
  | none => .fail (.unknownDefinition name)

end ApiTypes
