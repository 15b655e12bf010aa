import ApiTypes.Proofs.Resolve.Merging

/-!
# Rewordings

The type of a node comes from the fields in `Node.keywords`, whatever their order.
`node.Reworded other` says that one change in the wording leads from `node` to `other`: members
trade places, members that are no keywords change, anything changes beside the node of a wrapper,
or a node that is held within is reworded.  No such change to a node or to the definitions has a
say in what the node resolves to: `Resolver.resolve_eq_of_reworded`.

The proof looks at a rewording field by field.  A reworded node has the shape and the header that
it had before, and parts that are reworded themselves.
-/

namespace ApiTypes

open Relation

namespace Node

/-- The fields that have a say in the type of a node. -/
def keywords : List String :=
  ["schema", "$ref", "enum", "type", "items", "additionalProperties", "properties", "required",
    "allOf", "description", "title", "minItems"]

/-- The keywords whose value is a node. -/
def holders : List String :=
  ["schema", "items", "additionalProperties"]

/-- One change in the wording of a node, which may be that of a node within. -/
inductive Reworded : Node → Node → Prop
  /-- Members of different names trade places. -/
  | permuted {members others : Json.Members} (hnames : members.names.Nodup)
      (h : members.Perm others) : Reworded (.object members) (.object others)
  /-- Members that are no keywords come in the place of such members. -/
  | replaced (before old new after : Json.Members)
      (h : ∀ entry ∈ old ++ new, entry.1 ∉ keywords) :
    Reworded (.object (before ++ old ++ after)) (.object (before ++ new ++ after))
  /-- Members come in the place of others beside the node of a wrapper, but not references. -/
  | besideSchema (before old new after : Json.Members)
      (hschema : "schema" ∈ (before ++ after).names)
      (h : ∀ entry ∈ old ++ new, entry.1 ∉ ["schema", "$ref"]) :
    Reworded (.object (before ++ old ++ after)) (.object (before ++ new ++ after))
  /-- The node in a wrapper, of the items of an array or of the values of a dictionary is
  reworded. -/
  | held (before after : Json.Members) {name : String} (hname : name ∈ holders)
      {inner other : Node} (h : Reworded inner other) :
    Reworded (.object (before ++ (name, inner) :: after))
      (.object (before ++ (name, other) :: after))
  /-- An entry of `allOf` is reworded. -/
  | entry (before after : Json.Members) (first last : List Node) {inner other : Node}
      (h : Reworded inner other) :
    Reworded (.object (before ++ ("allOf", .array (first ++ inner :: last)) :: after))
      (.object (before ++ ("allOf", .array (first ++ other :: last)) :: after))
  /-- The node of a property is reworded. -/
  | property (before after first last : Json.Members) (name : String) {inner other : Node}
      (h : Reworded inner other) :
    Reworded (.object (before ++ ("properties", .object (first ++ (name, inner) :: last)) :: after))
      (.object (before ++ ("properties", .object (first ++ (name, other) :: last)) :: after))

/-! ### Fields -/

/-- What a rewording makes of the value of a field. -/
inductive FieldReworded (name : String) : Option Json → Option Json → Prop
  | same (value? : Option Json) : FieldReworded name value? value?
  | held (hname : name ∈ holders) {inner other : Node} (h : inner.Reworded other) :
    FieldReworded name (some inner) (some other)
  | entry (hname : name = "allOf") (first last : List Node) {inner other : Node}
      (h : inner.Reworded other) :
    FieldReworded name (some (.array (first ++ inner :: last)))
      (some (.array (first ++ other :: last)))
  | property (hname : name = "properties") (first last : Json.Members) (property : String)
      {inner other : Node} (h : inner.Reworded other) :
    FieldReworded name (some (.object (first ++ (property, inner) :: last)))
      (some (.object (first ++ (property, other) :: last)))

/-- A field is reworded with the value of a member. -/
theorem FieldReworded.of_member {member name : String} {value other : Json}
    (before after : Json.Members) (h : FieldReworded member (some value) (some other)) :
  FieldReworded name (Json.field? (.object (before ++ (member, value) :: after)) name)
    (Json.field? (.object (before ++ (member, other) :: after)) name)
  := by
  change FieldReworded name (Named.get? (before ++ (member, value) :: after) name)
    (Named.get? (before ++ (member, other) :: after) name)
  rw [Named.get?_append, Named.get?_append, Named.get?_cons, Named.get?_cons]
  by_cases hname : name = member
  · subst hname
    rw [if_pos rfl, if_pos rfl]
    cases Named.get? before name with
    | none => apply h
    | some first => apply FieldReworded.same
  · rw [if_neg hname, if_neg hname]
    apply FieldReworded.same

/-- A keyword keeps its value in a rewording, but for nodes within.  In a wrapper, this goes for
its node and a reference alone. -/
theorem Reworded.field? {node other : Node} (h : node.Reworded other) (name : String)
    (hname : name ∈ keywords) (hbare : name ∈ ["schema", "$ref"] ∨ node.field? "schema" = none) :
  FieldReworded name (node.field? name) (other.field? name)
  := by
  cases h with
  | @permuted members others hnames h =>
    have hvalue : Json.field? (.object members) name = Json.field? (.object others) name :=
      Named.get?_eq_of_perm hnames h name
    rw [hvalue]
    apply FieldReworded.same
  | replaced before old new after h =>
    have hvalue : Json.field? (.object (before ++ old ++ after)) name =
        Json.field? (.object (before ++ new ++ after)) name := by
      apply Named.get?_replaced
      rintro entry hentry rfl
      apply h entry hentry hname
    rw [hvalue]
    apply FieldReworded.same
  | besideSchema before old new after hschema h =>
    have hspared : name ∈ ["schema", "$ref"] := by
      apply hbare.resolve_right
      intro hmissing
      have hnone := Named.get?_eq_none_iff.mp hmissing
      simp only [Named.names, List.map_append, List.mem_append] at hnone hschema
      grind
    have hvalue : Json.field? (.object (before ++ old ++ after)) name =
        Json.field? (.object (before ++ new ++ after)) name := by
      apply Named.get?_replaced
      rintro entry hentry rfl
      apply h entry hentry hspared
    rw [hvalue]
    apply FieldReworded.same
  | held before after hname h => apply FieldReworded.of_member before after (.held hname h)
  | entry before after first last h =>
    apply FieldReworded.of_member before after (.entry rfl first last h)
  | property before after first last name h =>
    apply FieldReworded.of_member before after (.property rfl first last name h)

/-- A field that holds no nodes keeps its value. -/
theorem FieldReworded.eq {name : String} {value? other? : Option Json}
    (h : FieldReworded name value? other?) (hname : name ∉ "allOf" :: "properties" :: holders) :
  value? = other?
  := by
  cases h with
  | same => rfl
  | held hholder | entry hholder | property hholder =>
    absurd hname
    simp [hholder]

/-- The node in a field, if there is one, is reworded, if at all. -/
theorem FieldReworded.none_or_some {name : String} {value? other? : Option Json}
    (h : FieldReworded name value? other?) (hname : name ∈ holders) :
  (value? = none ∧ other? = none) ∨
    ∃ inner reworded, value? = some inner ∧ other? = some reworded ∧ ReflGen Reworded inner reworded
  := by
  cases h with
  | same =>
    cases value? with
    | none => exact .inl ⟨rfl, rfl⟩
    | some value => exact .inr ⟨value, value, rfl, rfl, .refl⟩
  | held _ h => exact .inr ⟨_, _, rfl, rfl, .single h⟩
  | entry hother | property hother => simp [hother, holders] at hname

theorem forall₂_of_one {α : Type} {R : α → α → Prop} (hrefl : ∀ a, R a a) (first last : List α)
    {a b : α} (h : R a b) :
  List.Forall₂ R (first ++ a :: last) (first ++ b :: last)
  := by
  have hsame (list : List α) : List.Forall₂ R list list :=
    List.forall₂_same.mpr fun other _ => hrefl other
  apply List.rel_append (hsame first)
  apply List.Forall₂.cons h (hsame last)

/-- The entries of `allOf` are reworded, if at all. -/
theorem FieldReworded.forall₂_allOf {node other : Node}
    (h : FieldReworded "allOf" (node.field? "allOf") (other.field? "allOf")) :
  List.Forall₂ (ReflGen Reworded) node.allOf other.allOf
  := by
  unfold allOf
  generalize node.field? "allOf" = value?, other.field? "allOf" = other? at h ⊢
  cases h with
  | same => apply List.forall₂_same.mpr fun _ _ => .refl
  | entry _ first last h => apply forall₂_of_one (fun _ => .refl) first last (.single h)
  | held hname | property hname => simp [holders] at hname

/-- A property keeps its name, and its node is reworded, if at all. -/
def PropertyReworded (property other : String × Node) : Prop :=
  property.1 = other.1 ∧ ReflGen Reworded property.2 other.2

/-- The properties are reworded, if at all. -/
theorem FieldReworded.forall₂_properties? {node other : Node}
    (h : FieldReworded "properties" (node.field? "properties") (other.field? "properties")) :
  List.Forall₂ PropertyReworded (node.properties?.getD []) (other.properties?.getD [])
  := by
  unfold properties?
  generalize node.field? "properties" = value?, other.field? "properties" = other? at h ⊢
  have hrefl (property : String × Node) : PropertyReworded property property := ⟨rfl, .refl⟩
  cases h with
  | same => apply List.forall₂_same.mpr fun property _ => hrefl property
  | property _ first last name h =>
    change List.Forall₂ PropertyReworded (first ++ (name, _) :: last) (first ++ (name, _) :: last)
    apply forall₂_of_one hrefl first last
    exact ⟨rfl, .single h⟩
  | held hname | entry hname => simp [holders] at hname

/-! ### Shapes and headers -/

variable {node other : Node}

theorem Reworded.reference?_eq (h : node.Reworded other) :
  node.reference? = other.reference?
  := by
  have hfield : node.field? "$ref" = other.field? "$ref" :=
    (h.field? "$ref" (by decide) (.inl (by decide))).eq (by decide)
  rw [reference?, reference?, text?, text?, hfield]

/-- The node in a wrapper is reworded, if at all, and no other node becomes a wrapper. -/
theorem Reworded.wrapped?_none_or_some (h : node.Reworded other) :
  (node.wrapped? = none ∧ other.wrapped? = none) ∨
    ∃ inner reworded, node.wrapped? = some inner ∧ other.wrapped? = some reworded ∧
      ReflGen Reworded inner reworded
  := (h.field? "schema" (by decide) (.inl (by decide))).none_or_some (by decide)

/-- The header of a node that is no wrapper stays the same. -/
theorem Reworded.ofNode_eq (h : node.Reworded other) (hwrapped : node.wrapped? = none) :
  Header.ofNode node = Header.ofNode other
  := by
  have hfield (name : String) (hname : name ∈ ["type", "required", "description"]) :
      node.field? name = other.field? name := by
    apply (h.field? name _ (.inr hwrapped)).eq
    · revert name; decide
    · revert name; decide
  simp [Header.ofNode, description?, requiredFlag, requiredNames, isType, typeName?, text?, hfield]

/-- Shapes are the same, but that a node in them may be reworded. -/
inductive ShapeReworded : Shape → Shape → Prop
  | same (shape : Shape) : ShapeReworded shape shape
  | wrapper {inner other : Node} (h : ReflGen Reworded inner other) :
    ShapeReworded (.wrapper inner) (.wrapper other)
  | array {items other : Node} (h : ReflGen Reworded items other) :
    ShapeReworded (.array items) (.array other)
  | dictionary {values other : Node} (h : ReflGen Reworded values other) :
    ShapeReworded (.dictionary values) (.dictionary other)

theorem Reworded.items (h : node.Reworded other) (hwrapped : node.wrapped? = none) :
  ReflGen Reworded node.items other.items
  := by
  rw [Node.items, Node.items]
  rcases (h.field? "items" (by decide) (.inr hwrapped)).none_or_some (by decide) with
    ⟨hnode, hother⟩ | ⟨inner, reworded, hnode, hother, hinner⟩
  · rw [hnode, hother]
  · rw [hnode, hother]
    apply hinner

/-- A node that is neither a wrapper, a reference nor an enumeration keeps its shape. -/
theorem Reworded.shapeReworded_classifyByType (h : node.Reworded other)
    (hwrapped : node.wrapped? = none) :
  ShapeReworded (classifyByType node) (classifyByType other)
  := by
  have hfield (name : String) (hname : name ∈ ["type", "title", "$ref", "minItems"]) :
      node.field? name = other.field? name := by
    apply (h.field? name _ (.inr hwrapped)).eq
    · revert name; decide
    · revert name; decide
  have hname : node.typeName? = other.typeName? := by simp [typeName?, text?, hfield]
  have htype (name : String) : node.isType name = other.isType name := by rw [isType, isType, hname]
  have hloose : node.isLoose = other.isLoose := by simp [isLoose, minItems?, has, hfield]
  have hvalues := (h.field? "additionalProperties" (by decide) (.inr hwrapped)).none_or_some
    (by decide)
  rw [classifyByType, classifyByType, hname, htype, hloose]
  cases other.typeName?.bind Primitive.ofName? with
  | some type => apply ShapeReworded.same
  | none =>
    by_cases harray : other.isType "array"
    · simp only [harray, if_true]
      apply ShapeReworded.array (h.items hwrapped)
    by_cases hobject : other.isType "object"
    · simp only [dictionaryValues?, harray, hobject, htype, if_true, additionalProperties?]
      rcases hvalues with ⟨hnode, hother⟩ | ⟨values, reworded, hnode, hother, hvalues⟩
      · rw [hnode, hother]
        apply ShapeReworded.same
      · rw [hnode, hother]
        apply ShapeReworded.dictionary hvalues
    · simp only [dictionaryValues?, harray, hobject, htype]
      apply ShapeReworded.same

/-- A node keeps its shape in a rewording. -/
theorem Reworded.shapeReworded (h : node.Reworded other) :
  ShapeReworded (classify node) (classify other)
  := by
  rw [classify, classify, h.reference?_eq]
  rcases h.wrapped?_none_or_some with ⟨hnode, hother⟩ | ⟨inner, reworded, hnode, hother, hinner⟩
  · simp only [hnode, hother]
    have henum : node.field? "enum" = other.field? "enum" :=
      (h.field? "enum" (by decide) (.inr hnode)).eq (by decide)
    rw [enumValues?, enumValues?, henum]
    cases other.reference? with
    | some reference => apply ShapeReworded.same
    | none =>
      cases other.field? "enum" >>= Json.asArray? with
      | some values => apply ShapeReworded.same
      | none => apply h.shapeReworded_classifyByType hnode
  · simp only [hnode, hother]
    apply ShapeReworded.wrapper hinner

/-! ### Parts -/

/-- A part is the same, but that the node in it may be reworded. -/
inductive PartReworded : Part → Part → Prop
  | node {inner other : Node} (h : ReflGen Reworded inner other) (role : Role) :
    PartReworded (.node inner role) (.node other role)
  | merge (name : String) : PartReworded (.merge name) (.merge name)

theorem partReworded_entryPart {entry reworded : Node}
    (h : ReflGen Reworded entry reworded) :
  PartReworded entry.entryPart reworded.entryPart
  := by
  have hreference : entry.reference? = reworded.reference? := by
    cases h with
    | refl => rfl
    | single h => apply h.reference?_eq
  rw [entryPart, entryPart, hreference]
  cases reworded.reference? with
  | some reference => apply PartReworded.merge
  | none => apply PartReworded.node h

/-- The parts of an object are reworded, if at all. -/
theorem Reworded.forall₂_objectParts (h : node.Reworded other) (hwrapped : node.wrapped? = none) :
  List.Forall₂ PartReworded node.objectParts other.objectParts
  := by
  have hallOf := (h.field? "allOf" (by decide) (.inr hwrapped)).forall₂_allOf
  have hproperties := (h.field? "properties" (by decide) (.inr hwrapped)).forall₂_properties?
  rw [objectParts, objectParts, h.ofNode_eq hwrapped]
  apply List.rel_append
  · apply List.forall₂_map_left_iff.mpr (List.forall₂_map_right_iff.mpr _)
    apply hallOf.imp
    intro entry reworded
    apply partReworded_entryPart
  · apply List.forall₂_map_left_iff.mpr (List.forall₂_map_right_iff.mpr _)
    apply hproperties.imp
    rintro ⟨name, value⟩ ⟨_, reworded⟩ ⟨rfl, hvalue⟩
    apply PartReworded.node hvalue

/-- The parts of a node are reworded, if at all. -/
theorem Reworded.forall₂_parts (h : node.Reworded other) :
  List.Forall₂ PartReworded node.parts other.parts
  := by
  have hshape := h.shapeReworded
  have hone {inner reworded : Node} (hinner : ReflGen Reworded inner reworded) :
      List.Forall₂ PartReworded [.node inner .whole] [.node reworded .whole] :=
    .cons (.node hinner .whole) .nil
  unfold parts
  generalize hnode : classify node = shape, classify other = reworded at hshape ⊢
  cases hshape with
  | wrapper hinner | array hinner | dictionary hinner => apply hone hinner
  | same =>
    cases shape with
    | wrapper | array | dictionary => apply hone .refl
    | object =>
      apply h.forall₂_objectParts
      cases hwrapped : node.wrapped? with
      | none => rfl
      | some inner => simp [classify_eq_wrapper_iff.mpr hwrapped] at hnode
    | reference | enumeration | primitive | any => apply List.Forall₂.nil

/-- The types of the parts of a node that is no wrapper are put together as before. -/
theorem Reworded.assemble_eq (h : node.Reworded other) (hwrapped : node.wrapped? = none) :
  Descriptor.assemble node = Descriptor.assemble other
  := by
  have hshape := h.shapeReworded
  funext found
  unfold Descriptor.assemble
  rw [h.ofNode_eq hwrapped]
  generalize hnode : classify node = shape, classify other = reworded at hshape ⊢
  cases hshape with
  | wrapper => simp [classify_eq_wrapper_iff.mp hnode] at hwrapped
  | array | dictionary | same => rfl

end Node

/-- The same names stand for definitions that may be reworded. -/
def Context.Reworded (context other : Context) : Prop :=
  List.Forall₂ (fun entry reworded => entry.1 = reworded.1 ∧
    ReflTransGen Node.Reworded entry.2 reworded.2) context.entries other.entries

theorem Context.Reworded.matching {context other : Context} (h : context.Reworded other)
    (name : String) :
  List.Forall₂ (ReflTransGen Node.Reworded) (context.matching name) (other.matching name)
  := by
  obtain ⟨entries⟩ := context
  obtain ⟨others⟩ := other
  simp only [Context.Reworded] at h
  induction h with
  | nil => apply List.Forall₂.nil
  | @cons entry reworded _ _ hentry _ ih =>
    by_cases hname : entry.1 = name
    · have hother : reworded.1 = name := hentry.1 ▸ hname
      simp only [Context.matching, List.filter_cons, hname, hother, beq_self_eq_true, if_true]
      apply List.Forall₂.cons hentry.2 ih
    · have hother : reworded.1 ≠ name := hentry.1 ▸ hname
      simp only [Context.matching, List.filter_cons, hname, hother, beq_iff_eq, if_false]
      apply ih

namespace Resolver

variable {resolver : Resolver} {budget : Nat} {merging : List String} {node other : Node}

/-- A part that is reworded contributes the same when the node in it has the same type. -/
theorem contributions_eq_of_partReworded {part reworded : Part}
    (h : Node.PartReworded part reworded)
    (hinner : ∀ {inner other}, Relation.ReflGen Node.Reworded inner other →
      resolver.typeWithin budget merging inner = resolver.typeWithin budget merging other) :
  contributions resolver.context (resolver.typeWithin budget) merging part =
    contributions resolver.context (resolver.typeWithin budget) merging reworded
  := by
  cases h with
  | node h role => rw [contributions, contributions, hinner h]
  | merge name => rfl

/-- A rewording of a node leaves its outcome as it is, whatever the names that are being merged. -/
theorem typeWithin_eq_of_reworded (h : node.Reworded other) :
  resolver.typeWithin budget merging node = resolver.typeWithin budget merging other
  := by
  induction budget generalizing merging node other with
  | zero => rfl
  | succ budget ih =>
    have hinner {inner reworded : Node} (hinner : ReflGen Node.Reworded inner reworded) :
        resolver.typeWithin budget merging inner = resolver.typeWithin budget merging reworded := by
      cases hinner with
      | refl => rfl
      | single hinner => apply ih hinner
    rcases h.wrapped?_none_or_some with ⟨hwrapped, -⟩ | ⟨inner, reworded, hnode, hother, hheld⟩
    · rw [typeWithin_succ, typeWithin_succ, h.assemble_eq hwrapped]
      congr 1
      apply Outcome.flatCollect_eq_of_forall₂
      apply h.forall₂_parts.imp
      intro part reworded hpart
      apply contributions_eq_of_partReworded hpart hinner
    · rw [typeWithin_succ_of_wrapper _ (classify_eq_wrapper_iff.mpr hnode),
        typeWithin_succ_of_wrapper _ (classify_eq_wrapper_iff.mpr hother)]
      apply hinner hheld

theorem typeWithin_eq_of_rewordings (h : ReflTransGen Node.Reworded node other) :
  resolver.typeWithin budget merging node = resolver.typeWithin budget merging other
  := by
  induction h with
  | refl => rfl
  | tail _ hlast ih => rw [ih, typeWithin_eq_of_reworded hlast]

/-- Rewordings of the definitions leave the outcome of a node as it is. -/
theorem typeWithin_eq_of_rewordedContext {context other : Context} {maxDepth : Nat}
    (h : context.Reworded other) :
  (Resolver.mk context maxDepth).typeWithin budget merging node =
    (Resolver.mk other maxDepth).typeWithin budget merging node
  := by
  induction budget generalizing merging node with
  | zero => rfl
  | succ budget ih =>
    apply (agreesUnless_typeWithin_succ (P := fun _ => False) _ _).eq
    · intro inner _
      left
      apply ih
    · intro name _
      left
      rw [contributions, contributions]
      split
      · rfl
      · apply Outcome.flatCollect_eq_of_forall₂
        apply (h.matching name).imp
        intro definition reworded hdefinition
        rw [ih, typeWithin_eq_of_rewordings hdefinition]

/-- A node resolves in the same way, to a type or to an error, when it and the definitions are
reworded in any number of places. -/
theorem resolve_eq_of_rewordings {context other : Context} {node reworded : Node} (maxDepth : Nat)
    (hcontext : context.Reworded other) (hnode : ReflTransGen Node.Reworded node reworded) :
  ((Resolver.mk context maxDepth).resolve node).outcome =
    ((Resolver.mk other maxDepth).resolve reworded).outcome
  := by
  rw [outcome_resolve, outcome_resolve, typeWithin_eq_of_rewordedContext hcontext,
    typeWithin_eq_of_rewordings hnode]

/-- A definition within a wrapper. -/
def wrappedPet : Context where
  entries := [("Pet", .object [
    ("schema", .object [
      ("type", .string "object"),
      ("properties", .object [("id", .object [("type", .string "string")])])])])]

/-- The same definition with a format, and with a description beside the node in the wrapper. -/
def annotatedPet : Context where
  entries := [("Pet", .object [
    ("description", .string "a pet"),
    ("schema", .object [
      ("type", .string "object"),
      ("properties", .object [
        ("id", .object [("type", .string "string"), ("format", .string "uuid")])])])])]

theorem reworded_annotatedPet :
  wrappedPet.Reworded annotatedPet
  := by
  have hid : Node.Reworded (.object [("type", .string "string")])
      (.object [("type", .string "string"), ("format", .string "uuid")]) :=
    .replaced [("type", .string "string")] [] [("format", .string "uuid")] [] (by decide)
  have hobject := Node.Reworded.property [("type", .string "object")] [] [] [] "id" hid
  have hschema := @Node.Reworded.held [] [] "schema" (by decide) _ _ hobject
  have hpet := Node.Reworded.besideSchema [] [] [("description", .string "a pet")]
    [("schema", .object [
      ("type", .string "object"),
      ("properties", .object [
        ("id", .object [("type", .string "string"), ("format", .string "uuid")])])])]
    (by decide) (by decide)
  apply List.Forall₂.cons ⟨rfl, (ReflTransGen.single hschema).tail hpet⟩ .nil

/-- An object that takes its properties from a definition. -/
def dog : Node :=
  .object [("title", .string "Dog"), ("allOf", .array [.object [("$ref", .string "Pet")]])]

/-- The same object with its members in another order. -/
def turnedDog : Node :=
  .object [("allOf", .array [.object [("$ref", .string "Pet")]]), ("title", .string "Dog")]

theorem resolve_eq_of_rewordings_annotatedPet :
  wrappedPet.Reworded annotatedPet ∧ ReflTransGen Node.Reworded dog turnedDog ∧
    ∃ type, ((Resolver.mk wrappedPet 8).resolve dog).outcome = .ok type ∧
      ((Resolver.mk annotatedPet 8).resolve turnedDog).outcome = .ok type
  := by
  have hnode : ReflTransGen Node.Reworded dog turnedDog :=
    .single (.permuted (by decide) (List.Perm.swap _ _ _))
  have htype : ((Resolver.mk wrappedPet 8).resolve dog).outcome = .ok _ := rfl
  refine ⟨reworded_annotatedPet, hnode, _, htype, ?_⟩
  rw [← resolve_eq_of_rewordings 8 reworded_annotatedPet hnode]
  apply htype

end Resolver

end ApiTypes
