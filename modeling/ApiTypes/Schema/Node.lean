import ApiTypes.Json

/-!
# Schema nodes

A schema node is any JSON value.  Which of its fields are there decides what it describes,
so the readers of its fields take a field of the wrong shape for a missing one.
`Node.empty` is the node without fields, and `lastSegment` the part of a reference that
names a definition.
-/

namespace ApiTypes

/-- A node of a schema. -/
abbrev Node := Json

namespace Node

/-- The node without fields. -/
def empty : Node := .null

/-- The test for a field of any shape. -/
def has (node : Node) (name : String) : Bool :=
  (node.field? name).isSome

/-- The text of a field. -/
def text? (node : Node) (name : String) : Option String := do
  (← node.field? name).asString?

/-- The test for a field that is literally true. -/
def flag (node : Node) (name : String) : Bool :=
  match node.field? name with
  | some (.bool b) => b
  | _ => false

/-- The node that a wrapper holds. -/
def wrapped? (node : Node) : Option Node :=
  node.field? "schema"

/-- The text of a reference. -/
def reference? (node : Node) : Option String :=
  text? node "$ref"

/-- The values of an enumeration. -/
def enumValues? (node : Node) : Option (List Json) := do
  (← node.field? "enum").asArray?

/-- The name of the type of a node. -/
def typeName? (node : Node) : Option String :=
  text? node "type"

/-- The test for the name of the type of a node. -/
def isType (node : Node) (name : String) : Bool :=
  typeName? node == some name

/-- The node for the items of an array, empty when it is missing. -/
def items (node : Node) : Node :=
  (node.field? "items").getD empty

/-- The node for the values of a dictionary. -/
def additionalProperties? (node : Node) : Option Node :=
  node.field? "additionalProperties"

/-- The nodes for the properties of an object. -/
def properties? (node : Node) : Option Json.Members := do
  (← node.field? "properties").asObject?

/-- The strings in the list of the required properties. -/
def requiredNames (node : Node) : List String :=
  match node.field? "required" with
  | some (.array names) => names.filterMap Json.asString?
  | _ => []

/-- The field that marks a node as required, where `0`, the empty text and null count as
false and a list or an object as true. -/
def requiredFlag (node : Node) : Bool :=
  match node.field? "required" with
  | none => false
  | some .null => false
  | some (.bool b) => b
  | some (.number n) => !n.isZero
  | some (.string s) => s != ""
  | some (.array _) => true
  | some (.object _) => true

/-- The nodes that an object takes properties from. -/
def allOf (node : Node) : List Node :=
  match node.field? "allOf" with
  | some (.array entries) => entries
  | _ => []

/-- The description of a node. -/
def description? (node : Node) : Option String :=
  text? node "description"

/-- The least number of items. -/
def minItems? (node : Node) : Option Double :=
  match node.field? "minItems" with
  | some (.number n) => n.toDouble?
  | _ => none

@[simp]
theorem field?_empty (name : String) :
  empty.field? name = none
  := rfl

end Node

/-- The part of a reference after its last slash. -/
def lastSegment (reference : String) : String :=
  .ofList (reference.toList.reverse.takeWhile (· != '/')).reverse

end ApiTypes
