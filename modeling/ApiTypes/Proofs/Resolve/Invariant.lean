import ApiTypes.Proofs.Descriptor.Flags
import ApiTypes.Proofs.Json.Height
import ApiTypes.Proofs.Resolve.Merging

/-!
# The invariant of resolved types

`type.Occurs isProperty part` says that `part` is found in `type`, as a property of an object
or else as the whole type or the type of elements.  A type that a node resolves to, and every
type that occurs in it, `IsConsistent`: its flags, its text and its fields go together, and it
has a membership exactly when it occurs as a property.

Most of this holds of any type whatever.  What has to be carried along a resolution is that
memberships are given to properties and to nothing else, which is `WellPlaced`.
-/

namespace ApiTypes

namespace Descriptor

/-- The type `part` is found in `type`; `isProperty` tells whether it is a property there. -/
inductive Occurs (type : Descriptor) : Bool → Descriptor → Prop
  | self : Occurs type false type
  | element {isProperty : Bool} {part element : Descriptor} (h : Occurs type isProperty part)
      (helement : part.element? = some element) : Occurs type false element
  | property {isProperty : Bool} {part property : Descriptor} (h : Occurs type isProperty part)
      (hproperty : property ∈ part.properties) : Occurs type true property

/-- The flags, the text and the fields of a type go together. -/
structure IsConsistent (type : Descriptor) (isProperty : Bool) : Prop where
  existsUnique_flag : ∃! flag, type.hasFlag flag = true
  isEnum_iff : type.isEnum = true ↔ ∃ values, type.values? = some values
  isAtomic_of_isEnum : type.isEnum = true → type.isAtomic = true
  isRef_iff : type.isRef = true ↔ ∃ target, type.target? = some target
  isArray_or_isDictionary_iff :
    type.isArray = true ∨ type.isDictionary = true ↔ ∃ element, type.element? = some element
  typeText_of_isArray : ∀ element, type.isArray = true → type.element? = some element →
    type.typeText = "Array<" ++ element.elementName ++ ">"
  typeText_of_isDictionary : ∀ element, type.isDictionary = true → type.element? = some element →
    type.typeText = "Dictionary<" ++ element.elementName ++ ">"
  isObject_of_properties : type.properties ≠ [] → type.isObject = true
  typeText_ne_empty : type.typeText ≠ ""
  membership_iff : (∃ membership, type.header.membership = some membership) ↔ isProperty = true
  isNullable_of_membership : ∀ membership, type.header.membership = some membership →
    type.header.isNullable = !membership.isRequired

/-- The type has a membership exactly if it is a property, and is nullable as that says; and
so on for its element and its properties. -/
inductive WellPlaced : Bool → Descriptor → Prop
  | intro {isProperty : Bool} {type : Descriptor}
      (hmembership : type.header.membership.isSome = isProperty)
      (hnullable : ∀ membership, type.header.membership = some membership →
        type.header.isNullable = !membership.isRequired)
      (helement : ∀ element, type.element? = some element → WellPlaced false element)
      (hproperties : ∀ property ∈ type.properties, WellPlaced true property) :
      WellPlaced isProperty type

namespace WellPlaced

variable {isProperty : Bool} {type part : Descriptor}

/-- A type without a membership is well placed where it is no property. -/
theorem of_membership_eq_none (h : type.header.membership = none)
    (helement : ∀ element, type.element? = some element → WellPlaced false element)
    (hproperties : ∀ property ∈ type.properties, WellPlaced true property) :
  WellPlaced false type
  := by
  apply WellPlaced.intro _ _ helement hproperties
  · simp [h]
  · simp [h]

theorem of_occurs {place : Bool} (h : WellPlaced false type) (hpart : type.Occurs place part) :
  WellPlaced place part
  := by
  induction hpart with
  | self => apply h
  | element _ helement ih =>
    obtain ⟨-, -, hrest, -⟩ := ih
    apply hrest _ helement
  | property _ hproperty ih =>
    obtain ⟨-, -, -, hrest⟩ := ih
    apply hrest _ hproperty

theorem properties (h : WellPlaced isProperty type) :
  ∀ property ∈ type.properties, WellPlaced true property
  := by
  obtain ⟨-, -, -, hproperties⟩ := h
  apply hproperties

/-- A type is well placed as a property once it is attached. -/
theorem attach (h : WellPlaced isProperty type) (name : String) (isRequired : Bool) :
  WellPlaced true (type.attach name isRequired)
  := by
  obtain ⟨-, -, helement, hproperties⟩ := h
  constructor
  · simp [Descriptor.attach, Header.attach]
  · intro membership hmembership
    obtain rfl : ⟨name, isRequired⟩ = membership := by
      simpa [Descriptor.attach, Header.attach] using hmembership
    simp [Descriptor.attach, Header.attach]
  · simpa [Descriptor.attach] using helement
  · simpa [Descriptor.attach] using hproperties

/-- A type that is well placed is consistent. -/
theorem isConsistent (h : WellPlaced isProperty type) :
  type.IsConsistent isProperty
  := by
  obtain ⟨hmembership, hnullable, -, -⟩ := h
  constructor
  case existsUnique_flag => apply existsUnique_hasFlag
  case isEnum_iff => simp [isEnum, Option.isSome_iff_exists]
  case isAtomic_of_isEnum =>
    intro henum
    simp [isAtomic, henum]
  case isRef_iff =>
    rw [isRef_iff]
    cases type <;> simp [target?]
  case isArray_or_isDictionary_iff =>
    rw [isArray_iff, isDictionary_iff]
    cases type <;> simp [element?]
  case typeText_of_isArray =>
    intro element harray helement
    obtain ⟨header, inner, rfl⟩ := type.isArray_iff.mp harray
    obtain rfl := Option.some.inj helement
    apply typeText_array
  case typeText_of_isDictionary =>
    intro element hdictionary helement
    obtain ⟨header, inner, rfl⟩ := type.isDictionary_iff.mp hdictionary
    obtain rfl := Option.some.inj helement
    apply typeText_dictionary
  case isObject_of_properties =>
    rw [isObject_iff]
    cases type <;> simp [Descriptor.properties]
  case typeText_ne_empty =>
    intro hempty
    apply type.typeChars_ne_nil
    simpa [typeText] using hempty
  case membership_iff => rw [← hmembership, Option.isSome_iff_exists]
  case isNullable_of_membership => apply hnullable

end WellPlaced

end Descriptor

/-! ### Resolution -/

namespace Node

/-- The node that is left after following every wrapper that it starts with. -/
def unwrapped (node : Node) : Node :=
  match _ : node.wrapped? with
  | some inner => unwrapped inner
  | none => node
termination_by node.height
decreasing_by apply Json.height_lt_of_field? ‹node.wrapped? = some inner›

theorem unwrapped_of_wrapper {node inner : Node} (h : classify node = .wrapper inner) :
  node.unwrapped = inner.unwrapped
  := by
  rw [unwrapped]
  split
  · next found hfound =>
    have hinner := classify_eq_wrapper_iff.mp h
    rw [hfound] at hinner
    rw [Option.some.inj hinner]
  · next hnone => simp [classify_eq_wrapper_iff.mp h] at hnone

theorem unwrapped_of_not_wrapper {node : Node} (h : ∀ inner, classify node ≠ .wrapper inner) :
  node.unwrapped = node
  := by
  rw [unwrapped]
  split
  · next inner hinner =>
    absurd classify_eq_wrapper_iff.mpr hinner
    apply h
  · rfl

end Node

namespace Resolver

open Descriptor

variable {resolver : Resolver} {budget : Nat} {merging : List String} {node : Node}
  {type : Descriptor}

/-- The parts of an object contribute properties that are well placed when the types of its
nodes are. -/
theorem wellPlaced_of_mem_contributions {context : Context}
    {visit : List String → Node → Except ResolveError Descriptor}
    (hvisit : ∀ merging inner type, visit merging inner = .ok type → WellPlaced false type)
    {part : Part} (hpart : part ∈ node.objectParts) {found : List Descriptor}
    (h : contributions context visit merging part = .ok found) :
  ∀ property ∈ found, WellPlaced true property
  := by
  intro property hproperty
  cases part with
  | node inner role =>
    obtain ⟨type, htype, rfl⟩ := Outcome.map_eq_ok_iff.mp h
    have hplaced := hvisit _ _ _ htype
    rcases Node.node_mem_objectParts.mp hpart with ⟨-, -, rfl⟩ | ⟨name, -, rfl⟩
    · apply hplaced.properties _ hproperty
    · obtain rfl := List.mem_singleton.mp hproperty
      apply hplaced.attach
  | merge name =>
    rw [contributions] at h
    split at h
    · simp at h
    · obtain ⟨definition, -, first, hfirst, hmem⟩ :=
        Outcome.exists_mem_of_mem_flatCollect h hproperty
      obtain ⟨type, htype, rfl⟩ := Outcome.map_eq_ok_iff.mp hfirst
      apply (hvisit _ _ _ htype).properties _ hmem

/-- Whatever a node resolves to is well placed. -/
theorem wellPlaced_of_typeWithin (h : resolver.typeWithin budget merging node = .ok type) :
  WellPlaced false type
  := by
  induction budget generalizing merging node type with
  | zero => simp at h
  | succ budget ih =>
    cases hshape : classify node with
    | wrapper inner =>
      rw [typeWithin_succ_of_wrapper _ hshape] at h
      apply ih h
    | array items =>
      rw [typeWithin_succ_of_array _ hshape] at h
      obtain ⟨element, helement, rfl⟩ := Outcome.map_eq_ok_iff.mp h
      apply WellPlaced.of_membership_eq_none rfl
      · rintro _ ⟨⟩
        apply ih helement
      · simp [Descriptor.properties]
    | dictionary values =>
      rw [typeWithin_succ_of_dictionary _ hshape] at h
      obtain ⟨element, helement, rfl⟩ := Outcome.map_eq_ok_iff.mp h
      apply WellPlaced.of_membership_eq_none rfl
      · rintro _ ⟨⟩
        apply ih helement
      · simp [Descriptor.properties]
    | object =>
      rw [typeWithin_succ_of_object _ hshape] at h
      obtain ⟨found, hfound, rfl⟩ := Outcome.map_eq_ok_iff.mp h
      apply WellPlaced.of_membership_eq_none rfl
      · simp [element?]
      · intro property hproperty
        obtain ⟨part, hpart, first, hfirst, hmem⟩ :=
          Outcome.exists_mem_of_mem_flatCollect hfound hproperty
        apply wellPlaced_of_mem_contributions (fun _ _ _ => ih) hpart hfirst _ hmem
    | reference | enumeration | primitive | any =>
      obtain rfl : Descriptor.assemble node [] = type := by
        simpa [typeWithin_succ, Node.parts, hshape, Except.map] using h
      apply WellPlaced.of_membership_eq_none <;>
        simp [Descriptor.assemble, hshape, Descriptor.header, element?, Descriptor.properties,
          Header.ofNode]

/-- The flag of the type that a node resolves to is the one for the shape behind its
wrappers. -/
theorem flag?_eq_of_typeWithin (h : resolver.typeWithin budget merging node = .ok type) :
  (classify node.unwrapped).flag? = some type.flag
  := by
  induction budget generalizing merging node type with
  | zero => simp at h
  | succ budget ih =>
    cases hshape : classify node with
    | wrapper inner =>
      rw [typeWithin_succ_of_wrapper _ hshape] at h
      rw [Node.unwrapped_of_wrapper hshape]
      apply ih h
    | reference | enumeration | primitive | array | dictionary | any | object =>
      obtain ⟨found, -, rfl⟩ := Outcome.map_eq_ok_iff.mp h
      rw [Node.unwrapped_of_not_wrapper (by simp [hshape]), hshape, Descriptor.assemble, hshape]
      rfl

/-- Every type that occurs in what a node resolves to is consistent, and the flag that is set
on the whole type is the one for the shape of the node behind its wrappers. -/
theorem isConsistent_of_resolve (h : (resolver.resolve node).outcome = .ok type) :
  (∀ isProperty part, type.Occurs isProperty part → part.IsConsistent isProperty) ∧
  ∃ flag, (classify node.unwrapped).flag? = some flag ∧ type.hasFlag flag = true
  := by
  rw [outcome_resolve] at h
  constructor
  · intro isProperty part hpart
    apply ((wellPlaced_of_typeWithin h).of_occurs hpart).isConsistent
  · use type.flag, flag?_eq_of_typeWithin h
    apply (type.hasFlag_iff _).mpr rfl

/-- A wrapper around an object with a list of a union of texts. -/
def wrappedUnions : Node :=
  .object [("schema", .object [("type", .string "object"), ("required", .array [.string "kinds"]),
    ("properties", .object [("kinds", .object [("type", .string "array"),
      ("items", .object [("enum", .array [.string "Array<x>", .string "ref"])])])])])]

theorem isConsistent_of_resolve_wrappedUnions :
  ∃ type, ((Resolver.mk .empty 8).resolve wrappedUnions).outcome = .ok type ∧
    (∀ isProperty part, type.Occurs isProperty part → part.IsConsistent isProperty) ∧
    type.isObject = true
  := by
  have h : ((Resolver.mk .empty 8).resolve wrappedUnions).outcome = .ok _ := rfl
  obtain ⟨hconsistent, -⟩ := isConsistent_of_resolve h
  exact ⟨_, h, hconsistent, rfl⟩

end Resolver

end ApiTypes
