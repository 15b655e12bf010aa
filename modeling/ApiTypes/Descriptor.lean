import ApiTypes.Json.Text
import ApiTypes.Schema.Shape

/-!
# Descriptors

A `Descriptor` is the type that a schema node resolves to, of one of seven kinds, under a
`Header` with what the node says of itself whatever its shape.  `Descriptor.typeText` is the
text of the type, and the flags `isRef`, `isObject`, `isArray`, `isDictionary` and
`isAtomic` are read off that text.  `Descriptor.toJson` is the record of all of this.
-/

namespace ApiTypes

/-- The place of a type among the properties of an object. -/
structure Membership where
  name : String
  isRequired : Bool
deriving DecidableEq

/-- What a type carries whatever its kind; `membership` is there exactly for a property. -/
structure Header where
  description : Option String
  isNullable : Bool
  requiredNames : List String
  membership : Option Membership
deriving DecidableEq

namespace Header

/-- The header of a node.  The names of required properties count only under the type
`object`. -/
def ofNode (node : Node) : Header where
  description := node.description?
  isNullable := !node.requiredFlag
  requiredNames := if node.isType "object" then node.requiredNames else []
  membership := none

/-- The test for a required property. -/
def requires (header : Header) (name : String) : Bool :=
  header.requiredNames.contains name

/-- The header of the property of a name; a property is nullable unless it is required. -/
def attach (name : String) (isRequired : Bool) (header : Header) : Header :=
  { header with isNullable := !isRequired, membership := some ⟨name, isRequired⟩ }

end Header

/-- A resolved type. -/
inductive Descriptor where
  | reference (header : Header) (target : String)
  | enumeration (header : Header) (values : List Json)
  | primitive (header : Header) (type : Primitive)
  | array (header : Header) (element : Descriptor)
  | dictionary (header : Header) (element : Descriptor)
  | any (header : Header)
  | object (header : Header) (properties : List Descriptor)

namespace Descriptor

/-- The header of a type. -/
def header : Descriptor → Header
  | .reference header _ => header
  | .enumeration header _ => header
  | .primitive header _ => header
  | .array header _ => header
  | .dictionary header _ => header
  | .any header => header
  | .object header _ => header

/-- The same type under a changed header. -/
def mapHeader (f : Header → Header) : Descriptor → Descriptor
  | .reference header target => .reference (f header) target
  | .enumeration header values => .enumeration (f header) values
  | .primitive header type => .primitive (f header) type
  | .array header element => .array (f header) element
  | .dictionary header element => .dictionary (f header) element
  | .any header => .any (f header)
  | .object header properties => .object (f header) properties

/-- The type as the property of a name. -/
def attach (name : String) (isRequired : Bool) (type : Descriptor) : Descriptor :=
  type.mapHeader (·.attach name isRequired)

/-- The name of the definition that a reference leads to. -/
def target? : Descriptor → Option String
  | .reference _ target => some target
  | _ => none

/-- The values of an enumeration. -/
def values? : Descriptor → Option (List Json)
  | .enumeration _ values => some values
  | _ => none

/-- The type of the items of an array or the values of a dictionary. -/
def element? : Descriptor → Option Descriptor
  | .array _ element => some element
  | .dictionary _ element => some element
  | _ => none

/-- The properties of an object, none for any other type. -/
def properties : Descriptor → List Descriptor
  | .object _ properties => properties
  | _ => []

@[simp]
theorem header_mapHeader (f : Header → Header) (type : Descriptor) :
  (type.mapHeader f).header = f type.header
  := by
  cases type <;> rfl

@[simp]
theorem element?_mapHeader (f : Header → Header) (type : Descriptor) :
  (type.mapHeader f).element? = type.element?
  := by
  cases type <;> rfl

@[simp]
theorem properties_mapHeader (f : Header → Header) (type : Descriptor) :
  (type.mapHeader f).properties = type.properties
  := by
  cases type <;> rfl

/-! ### The text of a type -/

/-- The text of a value of an enumeration: its JSON text, but without a fraction when it is
a whole double below `10 ^ 21`. -/
def literal : Json → List Char
  | .number (.double x) =>
    match x.toInt? with
    | some n => if n.natAbs < 1000000000000000000000 then Double.signedChars n else x.chars
    | none => x.chars
  | value => value.chars

/-- The text of an enumeration: its literals with bars between them. -/
def unionText : List Json → List Char
  | [] => "never".toList
  | values => List.intercalate " | ".toList (values.map literal)

/-- The name by which an array or a dictionary refers to the type of its elements, given the
target and the text of that type. -/
def nameText (target? : Option String) (text : List Char) : List Char :=
  match target? with
  | some target => if target ≠ "" then target.toList else text
  | none => text

/-- The characters of the text of a type. -/
def typeChars : Descriptor → List Char
  | .reference _ _ => "ref".toList
  | .enumeration _ values => unionText values
  | .primitive _ type => type.typeText.toList
  | .array _ element => "Array<".toList ++ nameText element.target? element.typeChars ++ ['>']
  | .dictionary _ element =>
    "Dictionary<".toList ++ nameText element.target? element.typeChars ++ ['>']
  | .any _ => "any".toList
  | .object _ _ => "object".toList

@[simp]
theorem typeChars_reference (header : Header) (target : String) :
  (reference header target).typeChars = "ref".toList
  := rfl

@[simp]
theorem typeChars_enumeration (header : Header) (values : List Json) :
  (enumeration header values).typeChars = unionText values
  := rfl

@[simp]
theorem typeChars_primitive (header : Header) (type : Primitive) :
  (primitive header type).typeChars = type.typeText.toList
  := rfl

@[simp]
theorem typeChars_array (header : Header) (element : Descriptor) :
  (array header element).typeChars =
    "Array<".toList ++ nameText element.target? element.typeChars ++ ['>']
  := rfl

@[simp]
theorem typeChars_dictionary (header : Header) (element : Descriptor) :
  (dictionary header element).typeChars =
    "Dictionary<".toList ++ nameText element.target? element.typeChars ++ ['>']
  := rfl

@[simp]
theorem typeChars_any (header : Header) :
  (any header).typeChars = "any".toList
  := rfl

@[simp]
theorem typeChars_object (header : Header) (properties : List Descriptor) :
  (object header properties).typeChars = "object".toList
  := rfl

/-- The text of a type. -/
def typeText (type : Descriptor) : String :=
  .ofList type.typeChars

/-- The name by which an array or a dictionary refers to a type: the target of a reference,
or else its text. -/
def elementName (type : Descriptor) : String :=
  .ofList (nameText type.target? type.typeChars)

/-! ### Flags -/

/-- The test for an enumeration. -/
def isEnum (type : Descriptor) : Bool :=
  type.values?.isSome

/-- The flag of a text that is the one of a reference. -/
def isRef (type : Descriptor) : Bool :=
  type.typeChars == "ref".toList

/-- The flag of a text that is the one of an object. -/
def isObject (type : Descriptor) : Bool :=
  type.typeChars == "object".toList

/-- The flag of a text that starts like the one of an array. -/
def isArray (type : Descriptor) : Bool :=
  "Array<".toList.isPrefixOf type.typeChars

/-- The flag of a text that starts like the one of a dictionary. -/
def isDictionary (type : Descriptor) : Bool :=
  "Dictionary<".toList.isPrefixOf type.typeChars

/-- The flag of an enumeration, and of the text of a primitive type or of `any`. -/
def isAtomic (type : Descriptor) : Bool :=
  type.isEnum || ["string", "number", "boolean", "any"].any (type.typeChars == ·.toList)

/-! ### The record of a type -/

/-- The member of a name, if it has a value. -/
def optional (name : String) (value? : Option Json) : Json.Members :=
  match value? with
  | some value => [(name, value)]
  | none => []

/-- The members of the record of a type, given those of its element and its properties. -/
def members (type : Descriptor) (element? : Option Json) (properties : List Json) :
    Json.Members :=
  optional "description" (type.header.description.map .string) ++
  [("tsType", .string type.typeText)] ++
  optional "target" (type.target?.map .string) ++
  [("isEnum", .bool type.isEnum)] ++
  optional "enum" (type.values?.map .array) ++
  [("isNullable", .bool type.header.isNullable),
    ("requiredPropertyNames", .array (type.header.requiredNames.map .string))] ++
  optional "elementType" element? ++
  (if properties.isEmpty then [] else [("properties", .array properties)]) ++
  optional "name" (type.header.membership.map fun membership => .string membership.name) ++
  optional "isRequired"
    (type.header.membership.map fun membership => .bool membership.isRequired) ++
  [("isRef", .bool type.isRef), ("isObject", .bool type.isObject),
    ("isArray", .bool type.isArray), ("isDictionary", .bool type.isDictionary),
    ("isAtomic", .bool type.isAtomic)]

mutual

/-- The record of a type. -/
def toJson : Descriptor → Json
  | .array header element => .object (members (.array header element) (some element.toJson) [])
  | .dictionary header element =>
    .object (members (.dictionary header element) (some element.toJson) [])
  | .object header properties =>
    .object (members (.object header properties) none (listToJson properties))
  | type => .object (members type none [])

/-- The records of types. -/
def listToJson : List Descriptor → List Json
  | [] => []
  | type :: rest => type.toJson :: listToJson rest

end

end Descriptor

end ApiTypes
