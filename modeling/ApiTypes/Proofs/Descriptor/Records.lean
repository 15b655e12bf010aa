import ApiTypes.Proofs.Descriptor.Flags
import ApiTypes.Proofs.Json.Text

/-!
# Records of types

A `TypeRecord` has all that a template is told of a type, each field on its own, whether or not
there is a type that they go together in.  Fields without a value are left out of its members, and
still the members tell all of its fields, since these have different names and stand in one order:
`TypeRecord.toJson_injective`.  `Descriptor.toRecord` is the record that a type is written as, and
`TypeRecord.toDescriptor?` reads the type back.
-/

namespace ApiTypes

/-! ### Fields -/

/-- The value of a list that is left out when it is empty. -/
def nonempty? : List Json → Option Json
  | [] => none
  | items => some (.array items)

theorem nonempty?_injective :
  Function.Injective nonempty?
  := by
  rintro (_ | ⟨item, rest⟩) (_ | ⟨other, more⟩) h <;> simp_all [nonempty?]

/-- The members of a record: the fields that have a value, in order. -/
def present (fields : Named (Option Json)) : Json.Members :=
  fields.flatMap fun (name, value?) => Descriptor.optional name value?

theorem sublist_names_present (fields : Named (Option Json)) :
  (present fields).names.Sublist fields.names
  := by
  induction fields with
  | nil => apply List.Sublist.refl
  | cons field rest ih =>
    obtain ⟨name, value?⟩ := field
    cases value? with
    | none => apply ih.cons
    | some value => apply ih.cons_cons

/-- The members of a record are without those of a name that is not among its fields. -/
theorem present_ne_cons {fields : Named (Option Json)} {name : String} (h : name ∉ fields.names)
    (value : Json) (rest : Json.Members) :
  present fields ≠ (name, value) :: rest
  := by
  intro heq
  apply h
  apply (sublist_names_present fields).subset
  simp [heq, Named.names]

/-- The members of a record tell which of its fields have a value, since no two fields have one
name. -/
theorem present_inj {fields others : Named (Option Json)} (h : present fields = present others)
    (hnames : fields.names = others.names) (hnodup : fields.names.Nodup) :
  fields = others
  := by
  induction fields generalizing others with
  | nil => exact (List.map_eq_nil_iff.mp hnames.symm).symm
  | cons field rest ih =>
    obtain ⟨_, value?⟩ := field
    obtain ⟨⟨name, other?⟩, more, rfl, rfl, hmore⟩ := List.map_eq_cons_iff.mp hnames.symm
    obtain ⟨hname, hrest⟩ := List.nodup_cons.mp hnodup
    cases value? with
    | none =>
      cases other? with
      | none =>
        have hpresent : present rest = present more := h
        rw [ih hpresent hmore.symm hrest]
      | some other =>
        absurd h
        apply present_ne_cons hname
    | some value =>
      cases other? with
      | none =>
        have hpresent : present more = (name, value) :: present rest := h.symm
        absurd hpresent
        apply present_ne_cons
        rwa [Named.names, hmore]
      | some other =>
        obtain ⟨hvalue, hpresent⟩ := List.cons.inj h
        obtain ⟨-, rfl⟩ := Prod.mk.inj hvalue
        rw [ih hpresent hmore.symm hrest]

/-- How records of a kind are written: with fields of different names, always in one order, that
tell all of the record. -/
structure RecordForm (α : Type) where
  fields : α → Named (Option Json)
  names_eq : ∀ record other, (fields record).names = (fields other).names
  nodup_names : ∀ record, (fields record).names.Nodup
  fields_injective : Function.Injective fields

namespace RecordForm

variable {α : Type}

/-- The value of a record. -/
def toJson (form : RecordForm α) (record : α) : Json :=
  .object (present (form.fields record))

theorem toJson_injective (form : RecordForm α) :
  Function.Injective form.toJson
  := by
  intro record other h
  apply form.fields_injective
  apply present_inj (Json.object.inj h) (form.names_eq record other) (form.nodup_names record)

@[simp]
theorem toJson_eq_toJson_iff {form : RecordForm α} {record other : α} :
  form.toJson record = form.toJson other ↔ record = other
  := form.toJson_injective.eq_iff

end RecordForm

/-! ### Records -/

/-- What a template is told of a type. -/
structure TypeRecord where
  description : Option String
  tsType : String
  target : Option String
  isEnum : Bool
  values : Option (List Json)
  isNullable : Bool
  requiredNames : List String
  element : Option TypeRecord
  properties : List TypeRecord
  name : Option String
  isRequired : Option Bool
  isRef : Bool
  isObject : Bool
  isArray : Bool
  isDictionary : Bool
  isAtomic : Bool

namespace TypeRecord

/-- The fields of a record, given the values of its element and its properties. -/
def fields (record : TypeRecord) (element? : Option Json) (properties : List Json) :
    Named (Option Json) :=
  [("description", record.description.map .string),
    ("tsType", some (.string record.tsType)),
    ("target", record.target.map .string),
    ("isEnum", some (.bool record.isEnum)),
    ("enum", record.values.map .array),
    ("isNullable", some (.bool record.isNullable)),
    ("requiredPropertyNames", some (.array (record.requiredNames.map .string))),
    ("elementType", element?),
    ("properties", nonempty? properties),
    ("name", record.name.map .string),
    ("isRequired", record.isRequired.map .bool),
    ("isRef", some (.bool record.isRef)),
    ("isObject", some (.bool record.isObject)),
    ("isArray", some (.bool record.isArray)),
    ("isDictionary", some (.bool record.isDictionary)),
    ("isAtomic", some (.bool record.isAtomic))]

mutual

/-- The value of a record. -/
def toJson : TypeRecord → Json
  | record@{ element, properties, .. } =>
    .object (present (record.fields (elementToJson element) (listToJson properties)))

/-- The value of the record of an element. -/
def elementToJson : Option TypeRecord → Option Json
  | none => none
  | some record => some record.toJson

/-- The values of records. -/
def listToJson : List TypeRecord → List Json
  | [] => []
  | record :: rest => record.toJson :: listToJson rest

end

theorem nodup_names_fields (record : TypeRecord) (element? : Option Json)
    (properties : List Json) :
  (record.fields element? properties).names.Nodup
  := by
  simp [fields, Named.names]

theorem toJson_eq (record : TypeRecord) :
  record.toJson =
    .object (present (record.fields (elementToJson record.element) (listToJson record.properties)))
  := by
  cases record
  rfl

/-- A record is determined by its fields if its element and its properties are by their values. -/
theorem eq_of_fields_eq {record other : TypeRecord} {element? otherElement? : Option Json}
    {properties otherProperties : List Json}
    (h : record.fields element? properties = other.fields otherElement? otherProperties)
    (helement : element? = otherElement? → record.element = other.element)
    (hproperties : properties = otherProperties → record.properties = other.properties) :
  record = other
  := by
  cases record
  cases other
  simp only [fields, List.cons.injEq, Prod.mk.injEq, Option.some.injEq, Json.string.injEq,
    Json.bool.injEq, Json.array.injEq, Option.map_inj_right, List.map_inj_right, imp_self,
    implies_true, nonempty?_injective.eq_iff, true_and, and_true] at h
  grind

mutual

theorem toJson_inj : ∀ {record other : TypeRecord}, record.toJson = other.toJson → record = other
  | { element, properties, .. }, other, h => by
    rw [toJson_eq, toJson_eq] at h
    have hfields := present_inj (Json.object.inj h) rfl (nodup_names_fields _ _ _)
    apply eq_of_fields_eq hfields
    · apply elementToJson_inj
    · apply listToJson_inj

theorem elementToJson_inj :
    ∀ {element other : Option TypeRecord}, elementToJson element = elementToJson other →
      element = other
  | none, none, _ => rfl
  | some _, some _, h => by
    rw [toJson_inj (Option.some.inj h)]

theorem listToJson_inj :
    ∀ {records others : List TypeRecord}, listToJson records = listToJson others → records = others
  | [], [], _ => rfl
  | _ :: _, _ :: _, h => by
    obtain ⟨hrecord, hrest⟩ := List.cons.inj h
    rw [toJson_inj hrecord, listToJson_inj hrest]

end

theorem toJson_injective :
  Function.Injective toJson
  := by
  intro record other
  apply toJson_inj

@[simp]
theorem toJson_eq_toJson_iff {record other : TypeRecord} :
  record.toJson = other.toJson ↔ record = other
  := toJson_injective.eq_iff

end TypeRecord

namespace Descriptor

/-- The record of a type, given those of its element and its properties. -/
def recordOf (type : Descriptor) (element : Option TypeRecord) (properties : List TypeRecord) :
    TypeRecord where
  description := type.header.description
  tsType := type.typeText
  target := type.target?
  isEnum := type.isEnum
  values := type.values?
  isNullable := type.header.isNullable
  requiredNames := type.header.requiredNames
  element := element
  properties := properties
  name := type.header.membership.map Membership.name
  isRequired := type.header.membership.map Membership.isRequired
  isRef := type.isRef
  isObject := type.isObject
  isArray := type.isArray
  isDictionary := type.isDictionary
  isAtomic := type.isAtomic

mutual

/-- The record of a type. -/
def toRecord : Descriptor → TypeRecord
  | .array header element => recordOf (.array header element) (some element.toRecord) []
  | .dictionary header element => recordOf (.dictionary header element) (some element.toRecord) []
  | .object header properties => recordOf (.object header properties) none (listToRecord properties)
  | type => recordOf type none []

/-- The records of types. -/
def listToRecord : List Descriptor → List TypeRecord
  | [] => []
  | type :: rest => type.toRecord :: listToRecord rest

end

theorem members_eq (type : Descriptor) (element? : Option Json) (properties : List Json)
    (element : Option TypeRecord) (records : List TypeRecord) :
  type.members element? properties =
    present ((type.recordOf element records).fields element? properties)
  := by
  have hproperties : (if properties.isEmpty then [] else [("properties", .array properties)]) =
      optional "properties" (nonempty? properties) := by
    cases properties <;> rfl
  rw [members, hproperties]
  simp [TypeRecord.fields, recordOf, present, optional, Function.comp_def]

mutual

/-- A type is written as its record is. -/
@[simp]
theorem toJson_toRecord : ∀ type : Descriptor, type.toRecord.toJson = type.toJson
  | .array _ element => by
    rw [toJson, members_eq, ← toJson_toRecord element]
    rfl
  | .dictionary _ element => by
    rw [toJson, members_eq, ← toJson_toRecord element]
    rfl
  | .object _ properties => by
    rw [toJson, members_eq, ← listToJson_listToRecord properties]
    rfl
  | .reference .. | .enumeration .. | .primitive .. | .any _ => by
    rw [toJson, members_eq]
    · rfl
    all_goals simp

theorem listToJson_listToRecord :
    ∀ types : List Descriptor, TypeRecord.listToJson (listToRecord types) = listToJson types
  | [] => rfl
  | type :: rest => by
    rw [listToRecord, TypeRecord.listToJson, listToJson, toJson_toRecord type,
      listToJson_listToRecord rest]

end

end Descriptor

/-! ### Reading types back -/

namespace TypeRecord

/-- The place of the type among the properties of an object. -/
def membership (record : TypeRecord) : Option Membership := do
  return ⟨← record.name, ← record.isRequired⟩

/-- What the type carries whatever its kind. -/
def header (record : TypeRecord) : Header where
  description := record.description
  isNullable := record.isNullable
  requiredNames := record.requiredNames
  membership := record.membership

/-- The atomic type of a record. -/
def toAtomic (record : TypeRecord) : Descriptor :=
  match record.values, Primitive.ofName? record.tsType with
  | some values, _ => .enumeration record.header values
  | none, some type => .primitive record.header type
  | none, none => .any record.header

/-- The type of a record, given those of its element and its properties.  The flag that is set
tells the kind. -/
def typeOf (record : TypeRecord) (element? : Option Descriptor)
    (properties? : Option (List Descriptor)) : Option Descriptor :=
  if record.isRef then record.target.map (.reference record.header)
  else if record.isObject then properties?.map (.object record.header)
  else if record.isArray then element?.map (.array record.header)
  else if record.isDictionary then element?.map (.dictionary record.header)
  else some record.toAtomic

mutual

/-- The type of a record, if it is the record of one. -/
def toDescriptor? : TypeRecord → Option Descriptor
  | record@{ element, properties, .. } =>
    record.typeOf (elementToDescriptor? element) (listToDescriptor? properties)

/-- The type of the record of an element. -/
def elementToDescriptor? : Option TypeRecord → Option Descriptor
  | none => none
  | some record => record.toDescriptor?

/-- The types of records. -/
def listToDescriptor? : List TypeRecord → Option (List Descriptor)
  | [] => some []
  | record :: rest => do return (← record.toDescriptor?) :: (← listToDescriptor? rest)

end

end TypeRecord

namespace Descriptor

theorem header_recordOf (type : Descriptor) (element : Option TypeRecord)
    (properties : List TypeRecord) :
  (type.recordOf element properties).header = type.header
  := by
  have hmembership : (type.recordOf element properties).membership = type.header.membership := by
    cases h : type.header.membership <;> simp [TypeRecord.membership, recordOf, h]
  rw [TypeRecord.header, hmembership]
  rfl

/-- The type of a record is read by the flag of its kind. -/
theorem typeOf_recordOf (type : Descriptor) (element : Option TypeRecord)
    (properties : List TypeRecord) (element? : Option Descriptor)
    (properties? : Option (List Descriptor)) :
  (type.recordOf element properties).typeOf element? properties? =
    match type.flag with
    | .ref => type.target?.map (.reference type.header)
    | .object => properties?.map (.object type.header)
    | .array => element?.map (.array type.header)
    | .dictionary => element?.map (.dictionary type.header)
    | .atomic => some (type.recordOf element properties).toAtomic
  := by
  have hflags (flag : Flag) : type.hasFlag flag = decide (flag = type.flag) := by
    rw [Bool.eq_iff_iff, hasFlag_iff, decide_eq_true_iff]
  have href : type.isRef = decide (.ref = type.flag) := hflags .ref
  have hobject : type.isObject = decide (.object = type.flag) := hflags .object
  have harray : type.isArray = decide (.array = type.flag) := hflags .array
  have hdictionary : type.isDictionary = decide (.dictionary = type.flag) := hflags .dictionary
  rw [TypeRecord.typeOf, header_recordOf]
  simp only [recordOf, href, hobject, harray, hdictionary]
  cases type.flag <;> rfl

theorem toAtomic_recordOf {type : Descriptor} (h : type.flag = .atomic)
    (element : Option TypeRecord) (properties : List TypeRecord) :
  (type.recordOf element properties).toAtomic = type
  := by
  rw [TypeRecord.toAtomic, header_recordOf]
  cases type with
  | primitive header type => cases type <;> rfl
  | enumeration | any => rfl
  | reference | array | dictionary | object => simp [flag] at h

mutual

/-- A type is read back off its record. -/
theorem toDescriptor?_toRecord : ∀ type : Descriptor, type.toRecord.toDescriptor? = some type
  | .array _ element => by
    apply (typeOf_recordOf _ _ _ _ _).trans
    exact congrArg (Option.map _) (toDescriptor?_toRecord element)
  | .dictionary _ element => by
    apply (typeOf_recordOf _ _ _ _ _).trans
    exact congrArg (Option.map _) (toDescriptor?_toRecord element)
  | .object _ properties => by
    apply (typeOf_recordOf _ _ _ _ _).trans
    exact congrArg (Option.map _) (listToDescriptor?_listToRecord properties)
  | .reference .. => typeOf_recordOf _ _ _ _ _
  | .enumeration .. | .primitive .. | .any _ => by
    apply (typeOf_recordOf _ _ _ _ _).trans
    exact congrArg some (toAtomic_recordOf rfl none [])

theorem listToDescriptor?_listToRecord :
    ∀ types : List Descriptor, TypeRecord.listToDescriptor? (listToRecord types) = some types
  | [] => rfl
  | type :: rest => by
    rw [listToRecord, TypeRecord.listToDescriptor?, toDescriptor?_toRecord type,
      listToDescriptor?_listToRecord rest]
    rfl

end

theorem toRecord_injective :
  Function.Injective toRecord
  := by
  intro type other h
  apply Option.some.inj
  rw [← toDescriptor?_toRecord type, h, toDescriptor?_toRecord]

@[simp]
theorem toRecord_eq_toRecord_iff {type other : Descriptor} :
  type.toRecord = other.toRecord ↔ type = other
  := toRecord_injective.eq_iff

theorem toJson_injective :
  Function.Injective toJson
  := by
  intro type other h
  apply toRecord_injective
  apply TypeRecord.toJson_injective
  rw [toJson_toRecord, toJson_toRecord, h]

end Descriptor

end ApiTypes
