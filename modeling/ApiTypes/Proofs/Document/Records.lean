import ApiTypes.Document.Model
import ApiTypes.Proofs.Descriptor.Records

/-!
# Records of models

A `ModelRecord` has all that a template is told of a model, as a `TypeRecord` has of a type, and so
have the records of the parts of a model.  Each field is on its own there, also one that a model
derives from others.  The text of a record determines it, and so the model that is written in it:
`Model.isDetermined_by_text`.
-/

namespace ApiTypes

/-! ### Fields -/

/-- What a template is told of a definition. -/
structure DefinitionRecord where
  name : String
  description : Option String
  type : TypeRecord

/-- What a template is told of a parameter. -/
structure ParameterRecord where
  name : String
  camelCaseName : String
  location : String
  isBody : Bool
  isPath : Bool
  isQuery : Bool
  isHeader : Bool
  isForm : Bool
  isSingleton : Bool
  singleton : Option Json
  isRequired : Bool
  cardinality : String
  type : TypeRecord

/-- What a template is told of a reply. -/
structure ReplyRecord where
  code : String
  description : Option String
  type : TypeRecord

/-- What a template is told of a method. -/
structure MethodRecord where
  path : String
  verb : String
  name : String
  isGet : Bool
  isPost : Bool
  summary : Option String
  parameters : List ParameterRecord
  replies : List ReplyRecord
  successType : Option TypeRecord

/-- What a template is told of a model. -/
structure ModelRecord where
  title : Option String
  description : Option String
  domain : String
  definitions : List DefinitionRecord
  methods : List MethodRecord

/-- How the record of a definition is written. -/
def DefinitionRecord.form : RecordForm DefinitionRecord where
  fields record :=
    [("name", some (.string record.name)),
      ("description", record.description.map .string),
      ("tsType", some record.type.toJson)]
  names_eq _ _ := rfl
  nodup_names _ := by simp [Named.names]
  fields_injective := by
    rintro ⟨⟩ ⟨⟩ h
    simpa [Option.map_inj_right, List.map_inj_right] using h

/-- How the record of a parameter is written. -/
def ParameterRecord.form : RecordForm ParameterRecord where
  fields record :=
    [("name", some (.string record.name)),
      ("camelCaseName", some (.string record.camelCaseName)),
      ("in", some (.string record.location)),
      ("isBodyParameter", some (.bool record.isBody)),
      ("isPathParameter", some (.bool record.isPath)),
      ("isQueryParameter", some (.bool record.isQuery)),
      ("isHeaderParameter", some (.bool record.isHeader)),
      ("isFormParameter", some (.bool record.isForm)),
      ("isSingleton", some (.bool record.isSingleton)),
      ("singleton", record.singleton),
      ("isRequired", some (.bool record.isRequired)),
      ("cardinality", some (.string record.cardinality)),
      ("tsType", some record.type.toJson)]
  names_eq _ _ := rfl
  nodup_names _ := by simp [Named.names]
  fields_injective := by
    rintro ⟨⟩ ⟨⟩ h
    simpa [Option.map_inj_right, List.map_inj_right] using h

/-- How the record of a reply is written. -/
def ReplyRecord.form : RecordForm ReplyRecord where
  fields record :=
    [("code", some (.string record.code)),
      ("description", record.description.map .string),
      ("tsType", some record.type.toJson)]
  names_eq _ _ := rfl
  nodup_names _ := by simp [Named.names]
  fields_injective := by
    rintro ⟨⟩ ⟨⟩ h
    simpa [Option.map_inj_right, List.map_inj_right] using h

/-- How the record of a method is written. -/
def MethodRecord.form : RecordForm MethodRecord where
  fields record :=
    [("path", some (.string record.path)),
      ("method", some (.string record.verb)),
      ("methodName", some (.string record.name)),
      ("isGET", some (.bool record.isGet)),
      ("isPOST", some (.bool record.isPost)),
      ("summary", record.summary.map .string),
      ("parameters", some (.array (record.parameters.map ParameterRecord.form.toJson))),
      ("responses", some (.array (record.replies.map ReplyRecord.form.toJson))),
      ("successType", record.successType.map TypeRecord.toJson)]
  names_eq _ _ := rfl
  nodup_names _ := by simp [Named.names]
  fields_injective := by
    rintro ⟨⟩ ⟨⟩ h
    simpa [Option.map_inj_right, List.map_inj_right] using h

/-- How the record of a model is written. -/
def ModelRecord.form : RecordForm ModelRecord where
  fields record :=
    [("title", record.title.map .string),
      ("description", record.description.map .string),
      ("domain", some (.string record.domain)),
      ("definitions", some (.array (record.definitions.map DefinitionRecord.form.toJson))),
      ("methods", some (.array (record.methods.map MethodRecord.form.toJson)))]
  names_eq _ _ := rfl
  nodup_names _ := by simp [Named.names]
  fields_injective := by
    rintro ⟨⟩ ⟨⟩ h
    simpa [Option.map_inj_right, List.map_inj_right] using h

/-! ### Records of parts -/

/-- The record of a definition. -/
def Definition.toRecord (definition : Definition) : DefinitionRecord where
  name := definition.name
  description := definition.description
  type := definition.type.toRecord

/-- The record of a parameter. -/
def Parameter.toRecord (parameter : Parameter) : ParameterRecord where
  name := parameter.name
  camelCaseName := Name.camelCase parameter.name
  location := parameter.location
  isBody := parameter.location == "body"
  isPath := parameter.location == "path"
  isQuery := parameter.location == "query"
  isHeader := parameter.location == "header"
  isForm := parameter.location == "formData"
  isSingleton := parameter.singleton.isSome
  singleton := parameter.singleton
  isRequired := parameter.isRequired
  cardinality := parameter.cardinality
  type := parameter.type.toRecord

/-- The record of a reply. -/
def Reply.toRecord (reply : Reply) : ReplyRecord where
  code := reply.code
  description := reply.description
  type := reply.type.toRecord

/-- The record of a method. -/
def Method.toRecord (method : Method) : MethodRecord where
  path := method.path
  verb := method.verb.text
  name := method.name
  isGet := method.verb == .get
  isPost := method.verb == .post
  summary := method.summary
  parameters := method.parameters.map Parameter.toRecord
  replies := method.replies.map Reply.toRecord
  successType := method.successType?.map Descriptor.toRecord

/-- The record of a model. -/
def Model.toRecord (model : Model) : ModelRecord where
  title := model.title
  description := model.description
  domain := model.domain
  definitions := model.definitions.map Definition.toRecord
  methods := model.methods.map Method.toRecord

/-! ### Values -/

@[simp]
theorem Definition.toJson_toRecord (definition : Definition) :
  DefinitionRecord.form.toJson definition.toRecord = definition.toJson
  := by
  rw [RecordForm.toJson, toJson]
  simp [DefinitionRecord.form, toRecord, present, Descriptor.optional]

@[simp]
theorem Parameter.toJson_toRecord (parameter : Parameter) :
  ParameterRecord.form.toJson parameter.toRecord = parameter.toJson
  := by
  rw [RecordForm.toJson, toJson]
  simp [ParameterRecord.form, toRecord, present, Descriptor.optional]

@[simp]
theorem Reply.toJson_toRecord (reply : Reply) :
  ReplyRecord.form.toJson reply.toRecord = reply.toJson
  := by
  rw [RecordForm.toJson, toJson]
  simp [ReplyRecord.form, toRecord, present, Descriptor.optional]

@[simp]
theorem Method.toJson_toRecord (method : Method) :
  MethodRecord.form.toJson method.toRecord = method.toJson
  := by
  rw [RecordForm.toJson, toJson]
  simp [MethodRecord.form, toRecord, present, Descriptor.optional, Function.comp_def]

/-- A model is written as its record is. -/
@[simp]
theorem Model.toJson_toRecord (model : Model) :
  ModelRecord.form.toJson model.toRecord = model.toJson
  := by
  rw [RecordForm.toJson, toJson]
  simp [ModelRecord.form, toRecord, present, Descriptor.optional, Function.comp_def]

/-! ### What determines what -/

theorem Definition.toRecord_injective :
  Function.Injective toRecord
  := by
  rintro ⟨⟩ ⟨⟩ h
  simpa [toRecord] using h

theorem Parameter.toRecord_injective :
  Function.Injective toRecord
  := by
  rintro ⟨⟩ ⟨⟩ h
  simp_all [toRecord]

theorem Reply.toRecord_injective :
  Function.Injective toRecord
  := by
  rintro ⟨⟩ ⟨⟩ h
  simpa [toRecord] using h

theorem Method.toRecord_injective :
  Function.Injective toRecord
  := by
  rintro ⟨path, verb, name, summary, parameters, replies⟩ other h
  have hverb : verb = other.verb := Verb.eq_of_text_eq (congrArg MethodRecord.verb h)
  have hparameters : parameters = other.parameters :=
    Parameter.toRecord_injective.list_map (congrArg MethodRecord.parameters h)
  have hreplies : replies = other.replies :=
    Reply.toRecord_injective.list_map (congrArg MethodRecord.replies h)
  cases other
  simp_all [toRecord]

theorem Model.toRecord_injective :
  Function.Injective toRecord
  := by
  rintro ⟨⟩ ⟨⟩ h
  simpa [toRecord, Definition.toRecord_injective.list_map.eq_iff,
    Method.toRecord_injective.list_map.eq_iff] using h

theorem Model.toJson_injective :
  Function.Injective toJson
  := by
  intro model other h
  apply toRecord_injective
  apply ModelRecord.form.toJson_injective
  rw [toJson_toRecord, toJson_toRecord, h]

/-- The text of what a template is told determines it, and so it determines the type or the model
that it is told of.  What is left out is never taken for anything else, however deep. -/
theorem Model.isDetermined_by_text :
  Function.Injective (fun record : TypeRecord => record.toJson.text) ∧
    Function.Injective (fun record : ModelRecord => (ModelRecord.form.toJson record).text) ∧
    Function.Injective (fun type : Descriptor => type.toJson.text) ∧
    Function.Injective (fun model : Model => model.toJson.text)
  := by
  refine ⟨?_, ?_, ?_, ?_⟩
  · apply Json.text_injective.comp TypeRecord.toJson_injective
  · apply Json.text_injective.comp ModelRecord.form.toJson_injective
  · apply Json.text_injective.comp Descriptor.toJson_injective
  · apply Json.text_injective.comp Model.toJson_injective

end ApiTypes
