import ApiTypes.Schema.Node

/-!
# Shapes

`classify` decides from the fields of a node which `Shape` of type it describes.  The fields
are asked for in a fixed order: a wrapper comes before a reference, a reference before an
enumeration, and the name of the type is read last.
-/

namespace ApiTypes

/-- The primitive types of the model; integers are numbers. -/
inductive Primitive where
  | string
  | number
  | boolean
deriving DecidableEq

/-- The name of a primitive type in the model. -/
def Primitive.typeText : Primitive → String
  | .string => "string"
  | .number => "number"
  | .boolean => "boolean"

/-- The primitive type of a name in a schema. -/
def Primitive.ofName? (name : String) : Option Primitive :=
  if name = "string" then some .string
  else if name = "number" ∨ name = "integer" then some .number
  else if name = "boolean" then some .boolean
  else none

/-- What a node describes. -/
inductive Shape where
  | wrapper (inner : Node)
  | reference (target : String)
  | enumeration (values : List Json)
  | primitive (type : Primitive)
  | array (items : Node)
  | dictionary (values : Node)
  | any
  | object

/-- The word for a shape. -/
def Shape.label : Shape → String
  | .wrapper _ => "wrapper"
  | .reference _ => "ref"
  | .enumeration _ => "enum"
  | .primitive _ => "primitive"
  | .array _ => "array"
  | .dictionary _ => "dictionary"
  | .any => "any"
  | .object => "object"

/-- The test for a node with a title and a least number of items but nothing else to tell
its type. -/
def Node.isLoose (node : Node) : Bool :=
  (node.minItems?).any Double.isNonneg && node.has "title" && !node.has "$ref"

/-- The node for the values of a dictionary, which only a node of type `object` describes. -/
def Node.dictionaryValues? (node : Node) : Option Node :=
  if node.isType "object" then node.additionalProperties? else none

/-- The shape of a node that is neither a wrapper, a reference nor an enumeration. -/
def classifyByType (node : Node) : Shape :=
  match node.typeName?.bind Primitive.ofName? with
  | some type => .primitive type
  | none =>
    if node.isType "array" then .array node.items
    else
      match node.dictionaryValues? with
      | some values => .dictionary values
      | none => if node.isLoose then .any else .object

/-- The shape of a node. -/
def classify (node : Node) : Shape :=
  match node.wrapped? with
  | some inner => .wrapper inner
  | none =>
    match node.reference? with
    | some reference => .reference (lastSegment reference)
    | none =>
      match node.enumValues? with
      | some values => .enumeration values
      | none => classifyByType node

theorem classify_eq_wrapper_iff {node inner : Node} :
  classify node = .wrapper inner ↔ node.wrapped? = some inner
  := by
  grind [classify, classifyByType]

theorem typeName?_of_classify_eq_array {node items : Node} (h : classify node = .array items) :
  node.typeName? = some "array" ∧ items = node.items
  := by
  grind [classify, classifyByType, Node.isType]

theorem additionalProperties?_of_classify_eq_dictionary {node values : Node}
    (h : classify node = .dictionary values) :
  node.additionalProperties? = some values
  := by
  grind [classify, classifyByType, Node.dictionaryValues?]

end ApiTypes
