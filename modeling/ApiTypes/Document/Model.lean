import ApiTypes.Descriptor
import ApiTypes.Document.Verb
import ApiTypes.Name.CamelCase

/-!
# The model of a document

A `Model` has the types of the definitions of a document and a `Method` for each of its
operations.  `Model.toJson` is the record that templates are filled in from: what they ask
for more than once, such as the name of a parameter in camel case or a flag for each place a
parameter is sent in, is derived there.
-/

namespace ApiTypes

open Descriptor (optional)

/-- A named definition with its type. -/
structure Definition where
  name : String
  description : Option String
  type : Descriptor

/-- A parameter of a method.  It is a singleton when it can take no other value. -/
structure Parameter where
  name : String
  location : String
  singleton : Option Json
  isRequired : Bool
  type : Descriptor

/-- The type of what a method answers under a code. -/
structure Reply where
  code : String
  description : Option String
  type : Descriptor

/-- The method for an operation. -/
structure Method where
  path : String
  verb : Verb
  name : String
  summary : Option String
  parameters : List Parameter
  replies : List Reply

/-- The definitions and the methods of a document. -/
structure Model where
  title : Option String
  description : Option String
  domain : String
  definitions : List Definition
  methods : List Method

/-- The record of a definition. -/
def Definition.toJson (definition : Definition) : Json :=
  .object <|
    [("name", .string definition.name)] ++
    optional "description" (definition.description.map .string) ++
    [("tsType", definition.type.toJson)]

/-- The mark after the name of a parameter, which an optional one has. -/
def Parameter.cardinality (parameter : Parameter) : String :=
  if parameter.isRequired then "" else "?"

/-- The record of a parameter. -/
def Parameter.toJson (parameter : Parameter) : Json :=
  .object <|
    [("name", .string parameter.name),
      ("camelCaseName", .string (Name.camelCase parameter.name)),
      ("in", .string parameter.location),
      ("isBodyParameter", .bool (parameter.location == "body")),
      ("isPathParameter", .bool (parameter.location == "path")),
      ("isQueryParameter", .bool (parameter.location == "query")),
      ("isHeaderParameter", .bool (parameter.location == "header")),
      ("isFormParameter", .bool (parameter.location == "formData")),
      ("isSingleton", .bool parameter.singleton.isSome)] ++
    optional "singleton" parameter.singleton ++
    [("isRequired", .bool parameter.isRequired),
      ("cardinality", .string parameter.cardinality),
      ("tsType", parameter.type.toJson)]

/-- The record of a reply. -/
def Reply.toJson (reply : Reply) : Json :=
  .object <|
    [("code", .string reply.code)] ++
    optional "description" (reply.description.map .string) ++
    [("tsType", reply.type.toJson)]

/-- The test for a code of success. -/
def Reply.isSuccess (reply : Reply) : Bool :=
  reply.code.toList.head? == some '2'

/-- The type of a successful answer: of the first reply with a code of success, or else of
the default one. -/
def Method.successType? (method : Method) : Option Descriptor :=
  ((method.replies.find? Reply.isSuccess).or
    (method.replies.find? (·.code == "default"))).map Reply.type

/-- The record of a method. -/
def Method.toJson (method : Method) : Json :=
  .object <|
    [("path", .string method.path),
      ("method", .string method.verb.text),
      ("methodName", .string method.name),
      ("isGET", .bool (method.verb == .get)),
      ("isPOST", .bool (method.verb == .post))] ++
    optional "summary" (method.summary.map .string) ++
    [("parameters", .array (method.parameters.map Parameter.toJson)),
      ("responses", .array (method.replies.map Reply.toJson))] ++
    optional "successType" (method.successType?.map Descriptor.toJson)

/-- The record of a model. -/
def Model.toJson (model : Model) : Json :=
  .object <|
    optional "title" (model.title.map .string) ++
    optional "description" (model.description.map .string) ++
    [("domain", .string model.domain),
      ("definitions", .array (model.definitions.map Definition.toJson)),
      ("methods", .array (model.methods.map Method.toJson))]

end ApiTypes
