import ApiTypes.Proofs.Document.Reading
import ApiTypes.Proofs.Document.Wording

/-!
# Demands on the parts of a value

A `Demand` is an expectation of the part of a value that a path leads to.  What is demanded of a
value that stands for a record is listed by `Layout.demands`: what its members have to be, one
after another in the order of the value, each with all its parts.  Reading a record gives the
mismatch of the first demand that is not met, `Layout.error?_record`, and the path of a demand
leads to the part of the value that it is about, `Layout.leads_demands`.  The words of such a
mismatch name this path, and the type of that part or its length: `Demand.IsToldBy`.
-/

namespace ApiTypes

/-- What a part of a value has to be. -/
inductive Expectation where
  | string
  /-- A string or null. -/
  | text
  | sequence
  | map
  /-- An object, or a list of the fields of a record, of which there are at least `required` and
  at most `most`. -/
  | record (name : String) (required most : Nat)

namespace Expectation

/-- The test for a value that is as expected. -/
def admits : Expectation → Json → Bool
  | .string, .string _ => true
  | .text, .null => true
  | .text, .string _ => true
  | .sequence, .array _ => true
  | .map, .object _ => true
  | .record _ _ _, .object _ => true
  | .record _ required most, .array items => required ≤ items.length && items.length ≤ most
  | _, _ => false

/-- The form that is named when a value is of another kind. -/
def form : Expectation → Form
  | .string => .string
  | .text => .string
  | .sequence => .sequence
  | .map => .map
  | .record name _ _ => .record name

/-- How a value is not as expected: by its length when it is a list of fields, and by its kind
otherwise. -/
def detail : Expectation → Json → Detail
  | .record name required most, .array items =>
    if items.length < required then .missingItem items.length name most
    else .extraItems items.length
  | expectation, value => .otherKind value expectation.form

/-- The words for what is expected. -/
def words : Expectation → String
  | .string | .text => "a string"
  | .sequence => "a sequence"
  | .map => "a map"
  | .record name _ _ => "struct " ++ name

/-- The names of the types of values that may be as expected. -/
def typeNames : Expectation → List String
  | .string => ["string"]
  | .text => ["null", "string"]
  | .sequence => ["sequence"]
  | .map => ["map"]
  | .record _ _ _ => ["map", "sequence"]

/-- The words say how a value is not as expected: they name the length of a list of fields that is
too short or too long, and for a value of another type this type and what was expected. -/
inductive IsComplaint : Expectation → Json → String → Prop
  | tooShort {name : String} {required most : Nat} {items : List Json}
      (hlength : items.length < required) :
    IsComplaint (.record name required most) (.array items)
      ("invalid length " ++ Nat.repr items.length ++ ", expected struct " ++ name ++ " with " ++
        Nat.repr most ++ " elements")
  | tooLong {name : String} {required most : Nat} {items : List Json}
      (hlength : most < items.length) :
    IsComplaint (.record name required most) (.array items)
      ("invalid length " ++ Nat.repr items.length ++ ", expected fewer elements in array")
  | otherType {expectation : Expectation} {value : Json}
      (htype : value.typeName ∉ expectation.typeNames) :
    IsComplaint expectation value
      ("invalid type: " ++ value.typeName ++ value.shown ++ ", expected " ++ expectation.words)

variable {expectation : Expectation} {value : Json}

theorem message_form (expectation : Expectation) :
  expectation.form.message = expectation.words
  := by
  cases expectation <;> rfl

section

-- Only a list of fields is told by its length.
variable (hfields : ∀ name required most items,
    expectation = .record name required most → value ≠ .array items)

include hfields

theorem detail_eq_otherKind :
  expectation.detail value = .otherKind value expectation.form
  := by
  unfold detail
  split
  · next name required most items => exact absurd rfl (hfields name required most items rfl)
  · rfl

theorem typeName_mem_typeNames_iff :
  value.typeName ∈ expectation.typeNames ↔ expectation.admits value = true
  := by
  cases value with
  | number n => cases n <;> cases expectation <;> simp [typeNames, Json.typeName, admits]
  | array items =>
    cases expectation with
    | record name required most => exact absurd rfl (hfields name required most items rfl)
    | string | text | sequence | map => simp [typeNames, Json.typeName, admits]
  | null | bool | string | object => cases expectation <;> simp [typeNames, Json.typeName, admits]

end

/-- The words for the detail of a value that is not as expected say how it is not. -/
theorem isComplaint_message (h : expectation.admits value = false) :
  IsComplaint expectation value (expectation.detail value).message
  := by
  by_cases hfields : ∀ name required most items,
      expectation = .record name required most → value ≠ .array items
  · rw [detail_eq_otherKind hfields, message_otherKind, message_form]
    apply IsComplaint.otherType
    rw [typeName_mem_typeNames_iff hfields, h]
    simp
  · simp only [not_forall, not_not] at hfields
    obtain ⟨name, required, most, items, rfl, rfl⟩ := hfields
    rw [detail]
    by_cases hlength : items.length < required
    · rw [if_pos hlength]
      apply IsComplaint.tooShort hlength
    · rw [if_neg hlength]
      apply IsComplaint.tooLong
      simp only [admits, Bool.and_eq_false_iff, decide_eq_false_iff_not] at h
      omega

end Expectation

/-- An expectation of the part of a value that a path leads to. -/
structure Demand where
  path : List Step := []
  value : Json
  expectation : Expectation

namespace Demand

/-- The demand on the part of a value that a step leads to, as one on that value. -/
def within (step : Step) (demand : Demand) : Demand :=
  { demand with path := step :: demand.path }

/-- The test for a demand that is met. -/
def isMet (demand : Demand) : Bool :=
  demand.expectation.admits demand.value

/-- The mismatch of a demand that is not met. -/
def mismatch (demand : Demand) : Mismatch :=
  ⟨demand.path, demand.expectation.detail demand.value⟩

/-- The mismatch of a demand, unless it is met. -/
def mismatch? (demand : Demand) : Option Mismatch :=
  if demand.isMet then none else some demand.mismatch

@[simp]
theorem isMet_within (step : Step) (demand : Demand) :
  (demand.within step).isMet = demand.isMet
  := rfl

theorem mismatch?_within (step : Step) (demand : Demand) :
  (demand.within step).mismatch? =
    demand.mismatch?.map fun mismatch => { mismatch with path := step :: mismatch.path }
  := by
  unfold mismatch?
  rw [isMet_within]
  split <;> rfl

theorem mismatch?_eq_none_iff {demand : Demand} :
  demand.mismatch? = none ↔ demand.isMet = true
  := by
  simp [mismatch?]

theorem mismatch?_eq_some_iff {demand : Demand} {mismatch : Mismatch} :
  demand.mismatch? = some mismatch ↔ demand.isMet = false ∧ demand.mismatch = mismatch
  := by
  simp [mismatch?]

/-- All demands are met. -/
def AreMet (demands : List Demand) : Prop :=
  ∀ demand ∈ demands, demand.isMet = true

/-- The mismatch of the first demand that is not met. -/
def first? (demands : List Demand) : Option Mismatch :=
  demands.findSome? mismatch?

theorem first?_eq_none_iff {demands : List Demand} :
  first? demands = none ↔ AreMet demands
  := by
  simp only [first?, List.findSome?_eq_none_iff, mismatch?_eq_none_iff, AreMet]

theorem first?_eq_some_iff {demands : List Demand} {mismatch : Mismatch} :
  first? demands = some mismatch ↔
    ∃ before demand after, demands = before ++ demand :: after ∧ AreMet before ∧
      demand.isMet = false ∧ demand.mismatch = mismatch
  := by
  rw [first?, List.findSome?_eq_some_iff]
  simp only [mismatch?_eq_none_iff, mismatch?_eq_some_iff, AreMet]
  constructor
  · rintro ⟨before, demand, after, hdemands, ⟨hunmet, hmismatch⟩, hbefore⟩
    use before, demand, after
  · rintro ⟨before, demand, after, hdemands, hbefore, hunmet, hmismatch⟩
    use before, demand, after

@[simp]
theorem first?_nil :
  first? [] = none
  := rfl

@[simp]
theorem first?_append (before after : List Demand) :
  first? (before ++ after) = (first? before).or (first? after)
  := List.findSome?_append

theorem first?_cons (demand : Demand) (rest : List Demand) :
  first? (demand :: rest) = demand.mismatch?.or (first? rest)
  := Outcome.findSome?_cons mismatch? demand rest

@[simp]
theorem first?_singleton (demand : Demand) :
  first? [demand] = demand.mismatch?
  := by
  rw [first?_cons, first?_nil, Option.or_none]

theorem first?_map_within (step : Step) (demands : List Demand) :
  first? (demands.map (within step)) =
    (first? demands).map fun mismatch => { mismatch with path := step :: mismatch.path }
  := by
  have hstep : mismatch? ∘ within step =
      Option.map (fun mismatch => { mismatch with path := step :: mismatch.path }) ∘ mismatch? :=
    funext (mismatch?_within step)
  rw [first?, first?, List.findSome?_map, hstep, List.map_findSome?]

/-- The path of a demand leads from a value to what the demand is about, and its steps are plain. -/
structure LeadsFrom (value : Json) (demand : Demand) : Prop where
  at?_eq : value.at? demand.path = some demand.value
  isPlain : demand.path.all Step.isPlain = true

/-- The path of each demand leads from a well-formed value to what the demand is about. -/
def Leads (demands : Json → List Demand) : Prop :=
  ∀ value, value.isWellFormed = true → ∀ demand ∈ demands value, demand.LeadsFrom value

theorem leadsFrom_self (value : Json) (expectation : Expectation) :
  LeadsFrom value { value := value, expectation := expectation }
  := ⟨by rw [Json.at?], rfl⟩

theorem LeadsFrom.within_key {members : Json.Members} {value : Json} {name : String}
    {demand : Demand} (hname : (Step.key name).isPlain = true)
    (hvalue : members.get? name = some value) (h : demand.LeadsFrom value) :
  (demand.within (.key name)).LeadsFrom (.object members)
  where
  at?_eq := by
    have hfield : (Json.object members).field? name = some value := hvalue
    simp only [within, Json.at?, hfield, Option.bind_some, h.at?_eq]
  isPlain := by simp only [within, List.all_cons, hname, h.isPlain, Bool.and_self]

theorem LeadsFrom.within_index {items : List Json} {item : Json} {position : Nat} {demand : Demand}
    (hitem : items[position]? = some item) (h : demand.LeadsFrom item) :
  (demand.within (.index position)).LeadsFrom (.array items)
  where
  at?_eq := by simp only [within, Json.at?, Json.asArray?, hitem, Option.bind_some, h.at?_eq]
  isPlain := by simp only [within, List.all_cons, Step.isPlain, h.isPlain, Bool.and_self]

/-! ### Words -/

/-- A mismatch tells how a demand is not met: in its words stand the path to what the demand is
about, which no other plain path is told by, and how this is not as expected. -/
structure IsToldBy (demand : Demand) (mismatch : Mismatch) : Prop where
  isPathText : IsPathText demand.path (pathText mismatch.path)
  eq_path : ∀ path, IsPathText path (pathText mismatch.path) → path.all Step.isPlain = true →
    path = demand.path
  isComplaint : demand.expectation.IsComplaint demand.value mismatch.detail.message
  message_eq : mismatch.message =
    "at JSON path " ++ pathText mismatch.path ++ " → " ++ mismatch.detail.message

/-- A demand that is not met is told by its mismatch. -/
theorem isToldBy_mismatch {demand : Demand} (hunmet : demand.isMet = false)
    (hplain : demand.path.all Step.isPlain = true) :
  demand.IsToldBy demand.mismatch
  := by
  have hpath : IsPathText demand.path (pathText demand.mismatch.path) := isPathText_iff.mpr rfl
  refine ⟨hpath, ?_, Expectation.isComplaint_message hunmet, rfl⟩
  intro path hother hother'
  apply hother.eq_of_isPlain hother' hpath hplain

end Demand

open Demand

/-! ### Strings, lists and objects -/

/-- A string or null is demanded. -/
def textDemands (value : Json) : List Demand :=
  [{ value := value, expectation := .text }]

/-- A list is demanded. -/
def listDemands (value : Json) : List Demand :=
  [{ value := value, expectation := .sequence }]

/-- An object is demanded. -/
def objectDemands (value : Json) : List Demand :=
  [{ value := value, expectation := .map }]

/-- A string is demanded at a position. -/
def stringDemand (entry : Json × Nat) : Demand :=
  .within (.index entry.2) { value := entry.1, expectation := .string }

/-- A list is demanded, and that all its items are strings. -/
def textsDemands (value : Json) : List Demand :=
  { value := value, expectation := .sequence } ::
    (Json.itemsOf (some value)).zipIdx.map stringDemand

theorem areMet_textDemands_iff {value : Json} :
  AreMet (textDemands value) ↔ value = .null ∨ ∃ s, value = .string s
  := by
  cases value <;> simp [AreMet, textDemands, isMet, Expectation.admits]

theorem areMet_listDemands_iff {value : Json} :
  AreMet (listDemands value) ↔ ∃ items, value = .array items
  := by
  cases value <;> simp [AreMet, listDemands, isMet, Expectation.admits]

theorem areMet_objectDemands_iff {value : Json} :
  AreMet (objectDemands value) ↔ ∃ members, value = .object members
  := by
  cases value <;> simp [AreMet, objectDemands, isMet, Expectation.admits]

theorem isMet_stringDemand_iff {entry : Json × Nat} :
  (stringDemand entry).isMet = true ↔ ∃ s, entry.1 = .string s
  := by
  obtain ⟨value, position⟩ := entry
  cases value <;> simp [stringDemand, isMet, within, Expectation.admits]

theorem areMet_textsDemands_iff {value : Json} :
  AreMet (textsDemands value) ↔
    ∃ items, value = .array items ∧ ∀ item ∈ items, ∃ s, item = .string s
  := by
  simp only [AreMet, textsDemands, List.forall_mem_cons, List.forall_mem_map,
    isMet_stringDemand_iff]
  cases value with
  | array items =>
    have hitems : (∀ entry ∈ items.zipIdx, ∃ s, entry.1 = .string s) ↔
        ∀ item ∈ items, ∃ s, item = .string s := by
      conv_rhs => rw [← List.zipIdx_map_fst 0 items]
      rw [List.forall_mem_map]
    simpa [isMet, Expectation.admits, Json.itemsOf, Json.asArray?] using hitems
  | null | bool | number | string | object => simp [isMet, Expectation.admits]

theorem leads_textDemands : Leads textDemands := by simp [Leads, textDemands, leadsFrom_self]

theorem leads_listDemands : Leads listDemands := by simp [Leads, listDemands, leadsFrom_self]

theorem leads_objectDemands : Leads objectDemands := by simp [Leads, objectDemands, leadsFrom_self]

theorem leads_textsDemands : Leads textsDemands := by
  intro value _
  rw [textsDemands, List.forall_mem_cons, List.forall_mem_map]
  use leadsFrom_self _ _
  rintro ⟨item, position⟩ hitem
  cases value with
  | array items =>
    apply LeadsFrom.within_index (List.mem_zipIdx_iff_getElem?.mp hitem)
    apply leadsFrom_self
  | null | bool | number | string | object => simp [Json.itemsOf, Json.asArray?] at hitem

namespace Conforms

theorem error?_within {α : Type} {step : Step} {outcome : Conforms α} {demands : List Demand}
    (h : Outcome.error? outcome = first? demands) :
  Outcome.error? (within step outcome) = first? (demands.map (Demand.within step))
  := by
  rw [within, Outcome.error?_mapError, h, first?_map_within]

theorem error?_text? (value : Json) :
  Outcome.error? (text? value) = first? (textDemands value)
  := by
  cases value <;> rfl

theorem error?_items (value : Json) :
  Outcome.error? (items value) = first? (listDemands value)
  := by
  cases value <;> rfl

theorem error?_members (value : Json) :
  Outcome.error? (members value) = first? (objectDemands value)
  := by
  cases value <;> rfl

theorem error?_textsFrom (position : Nat) (items : List Json) :
  Outcome.error? (textsFrom position items) = first? ((items.zipIdx position).map stringDemand)
  := by
  induction items generalizing position with
  | nil => rfl
  | cons item rest ih =>
    rw [List.zipIdx_cons, List.map_cons, first?_cons, ← ih]
    have hitem : Outcome.error? (within (.index position) (text item)) =
        (stringDemand (item, position)).mismatch? := by
      cases item <;> rfl
    rw [← hitem]
    apply Outcome.error?_bind
    intro first _
    apply Outcome.error?_bind_ok

theorem error?_texts (value : Json) :
  Outcome.error? (texts value) = first? (textsDemands value)
  := by
  cases value with
  | array items => apply error?_textsFrom 0 items
  | null | bool | number | string | object => rfl

end Conforms

/-! ### Members of objects -/

/-- The fields of a record with what is demanded of them, in order. -/
abbrev Fields := Named (Json → List Demand)

namespace Fields

/-- What is demanded of the value of a member, which is nothing if it is not a field. -/
def valueDemands (fields : Fields) (member : String × Json) : List Demand :=
  (fields.get? member.1).elim [] fun demands => demands member.2

/-- What is demanded of the members of an object. -/
def membersDemands (fields : Fields) (members : Json.Members) : List Demand :=
  members.flatMap fun member => (fields.valueDemands member).map (Demand.within (.key member.1))

variable {α : Type} {fields : Fields} {set : α → String × Json → Conforms α}

/-- A record is read of the members of an object as they are demanded, if each of them is. -/
theorem error?_fold
    (hset : ∀ record member, Outcome.error? (set record member) =
      first? (fields.valueDemands member)) (record : α) (members : Json.Members) :
  Outcome.error? (Conforms.fold set record members) = first? (fields.membersDemands members)
  := by
  induction members generalizing record with
  | nil => rfl
  | cons member rest ih =>
    rw [membersDemands, List.flatMap_cons, first?_append,
      ← Conforms.error?_within (hset record member)]
    apply Outcome.error?_bind
    intro next _
    apply ih

/-- Demands on the members of an object are met when those on its fields are. -/
theorem areMet_membersDemands_iff (hfields : fields.names.Nodup) {members : Json.Members}
    (hmembers : members.names.Nodup) :
  AreMet (fields.membersDemands members) ↔
    ∀ field ∈ fields, ∀ value ∈ members.get? field.1, AreMet (field.2 value)
  := by
  simp only [membersDemands, AreMet, List.forall_mem_flatMap, List.forall_mem_map, isMet_within]
  constructor
  · rintro hmet ⟨name, demands⟩ hfield value hvalue
    have hdemands := hmet (name, value) (Named.mem_of_get? hvalue)
    rw [valueDemands, Named.get?_eq_some_of_mem hfields hfield] at hdemands
    apply hdemands
  · rintro hmet ⟨name, value⟩ hmember
    rw [valueDemands]
    cases hfield : fields.get? name with
    | none => simp
    | some demands =>
      apply hmet (name, demands) (Named.mem_of_get? hfield)
      apply Named.get?_eq_some_of_mem hmembers hmember

/-- The paths of demands on members lead to what they are about, if those of their values do and
the names of the fields are plain. -/
theorem leads_membersDemands (hplain : (fields.names.map Step.key).all Step.isPlain = true)
    (hfields : ∀ field ∈ fields, Leads field.2) :
  Leads fun value => fields.membersDemands (Json.membersOf (some value))
  := by
  intro value hvalue demand hdemand
  obtain ⟨⟨name, found⟩, hmember, hdemand⟩ := List.mem_flatMap.mp hdemand
  obtain ⟨inner, hinner, rfl⟩ := List.mem_map.mp hdemand
  cases value with
  | object members =>
    obtain ⟨hnames, hvalues⟩ := Json.isWellFormed_object_iff.mp hvalue
    rw [valueDemands] at hinner
    cases hget : fields.get? name with
    | none => simp [hget] at hinner
    | some demands =>
      rw [hget] at hinner
      have hfield : (name, demands) ∈ fields := Named.mem_of_get? hget
      apply LeadsFrom.within_key _ (Named.get?_eq_some_of_mem hnames hmember)
      · apply hfields (name, demands) hfield found _ inner hinner
        apply hvalues (name, found) hmember
      · apply List.all_eq_true.mp hplain
        apply List.mem_map_of_mem
        apply List.mem_map_of_mem hfield
  | null | bool | number | string | array => simp [Json.membersOf, Json.asObject?] at hmember

end Fields

/-! ### Records -/

/-- How a record is written: the name under which it is asked for, how many of its fields a list of
them has at least, and its fields. -/
structure Layout where
  name : String
  required : Nat
  fields : Fields

namespace Layout

/-- An object or a list of fields is demanded. -/
def demand (layout : Layout) (value : Json) : Demand where
  value := value
  expectation := .record layout.name layout.required layout.fields.length

/-- What is demanded of the item at a position of a list, which is a field: nothing if the list
ends before it. -/
def itemDemands (items : List Json) (entry : (String × (Json → List Demand)) × Nat) :
    List Demand :=
  items[entry.2]?.elim [] fun item => (entry.1.2 item).map (Demand.within (.index entry.2))

/-- What is demanded of a list of fields: of its items from a position on, and then of its
length. -/
def demandsFrom (layout : Layout) (items : List Json) (position : Nat) : List Demand :=
  ((layout.fields.drop position).zipIdx position).flatMap (itemDemands items) ++
    [layout.demand (.array items)]

/-- What is demanded of a value that stands for a record. -/
def demands (layout : Layout) (value : Json) : List Demand :=
  match value with
  | .object members => layout.fields.membersDemands members
  | .array items => layout.demandsFrom items 0
  | value => [layout.demand value]

section Items

variable {α β : Type} {items : List Json} {position : Nat} {read : Json → Conforms β}
  {field : String × (Json → List Demand)} {next : β → Conforms α} (layout : Layout)

theorem mismatch?_demand_array :
  (layout.demand (.array items)).mismatch? =
    if items.length < layout.required then
      some ⟨[], .missingItem items.length layout.name layout.fields.length⟩
    else if items.length ≤ layout.fields.length then none
    else some ⟨[], .extraItems items.length⟩
  := by
  simp only [Demand.mismatch?, Demand.isMet, Demand.mismatch, demand, Expectation.admits,
    Expectation.detail]
  grind

/-- What is demanded from a position on is what is demanded of the item there and from the next
position on. -/
theorem first?_demandsFrom (hfield : layout.fields[position]? = some field) :
  first? (layout.demandsFrom items position) =
    (first? (itemDemands items (field, position))).or
      (first? (layout.demandsFrom items (position + 1)))
  := by
  obtain ⟨hposition, rfl⟩ := List.getElem?_eq_some_iff.mp hfield
  rw [demandsFrom, List.drop_eq_getElem_cons hposition, List.zipIdx_cons, List.flatMap_cons,
    List.append_assoc, first?_append]
  rfl

/-- Behind the last item, only the length of a list is demanded. -/
theorem demandsFrom_of_length_le (hposition : items.length ≤ position) :
  layout.demandsFrom items position = [layout.demand (.array items)]
  := by
  have hnil : ((layout.fields.drop position).zipIdx position).flatMap (itemDemands items) = [] := by
    apply List.flatMap_eq_nil_iff.mpr
    intro entry hentry
    have hbehind : items.length ≤ entry.2 :=
      Nat.le_trans hposition (List.le_snd_of_mem_zipIdx hentry)
    rw [itemDemands, List.getElem?_eq_none hbehind, Option.elim_none]
  rw [demandsFrom, hnil, List.nil_append]

/-- The item of a field that may not be missing is read as it is demanded. -/
theorem error?_item (hfield : layout.fields[position]? = some field)
    (hread : ∀ item, Outcome.error? (read item) = first? (field.2 item))
    (hrequired : position < layout.required) (hposition : position ≤ items.length)
    (hnext : position < items.length → ∀ value,
      Outcome.error? (next value) = first? (layout.demandsFrom items (position + 1))) :
  Outcome.error? (do
    let item ← Conforms.item layout.name layout.fields.length items position
    let value ← Conforms.within (.index position) (read item)
    next value) = first? (layout.demandsFrom items position)
  := by
  rw [Conforms.item]
  cases hitem : items[position]? with
  | some item =>
    have hshort : position < items.length := (List.getElem?_eq_some_iff.mp hitem).1
    rw [first?_demandsFrom layout hfield, itemDemands, hitem]
    simp only [Option.elim_some, ← Conforms.error?_within (hread item), Outcome.ok_bind]
    apply Outcome.error?_bind
    intro value _
    apply hnext hshort
  | none =>
    have hend : items.length = position := by
      have := List.getElem?_eq_none_iff.mp hitem
      omega
    have hshort : items.length < layout.required := hend ▸ hrequired
    rw [demandsFrom_of_length_le layout (Nat.le_of_eq hend), first?_singleton,
      mismatch?_demand_array, if_pos hshort, hend]
    rfl

/-- The item of a field that may be missing is read as it is demanded. -/
theorem error?_itemOr {missing : β} (hfield : layout.fields[position]? = some field)
    (hread : ∀ item, Outcome.error? (read item) = first? (field.2 item))
    (hnext : ∀ value,
      Outcome.error? (next value) = first? (layout.demandsFrom items (position + 1))) :
  Outcome.error? (Operation.itemOr missing read items position >>= next) =
    first? (layout.demandsFrom items position)
  := by
  rw [first?_demandsFrom layout hfield, itemDemands, Operation.itemOr]
  cases items[position]? with
  | some item =>
    simp only [Option.elim_some, ← Conforms.error?_within (hread item)]
    apply Outcome.error?_bind
    intro value _
    apply hnext
  | none =>
    simp only [Option.elim_none, first?_nil, Option.none_or, Outcome.ok_bind, hnext]

/-- Once all fields are read, a list must not go on. -/
theorem error?_noMoreThan {value : α} (hrequired : layout.required ≤ items.length) :
  Outcome.error? (do
    Conforms.noMoreThan layout.fields.length items
    return value) = first? (layout.demandsFrom items layout.fields.length)
  := by
  have hdemands : layout.demandsFrom items layout.fields.length =
      [layout.demand (.array items)] := by
    rw [demandsFrom, List.drop_length]
    rfl
  rw [hdemands, first?_singleton, mismatch?_demand_array, if_neg (Nat.not_lt.mpr hrequired),
    Conforms.noMoreThan]
  by_cases hlength : items.length ≤ layout.fields.length
  · rw [if_pos hlength, if_pos hlength]
    rfl
  · rw [if_neg hlength, if_neg hlength]
    rfl

end Items

/-- Demands on a list of fields are met when those on its items are and its length is right. -/
theorem areMet_demands_array_iff (layout : Layout) {items : List Json} :
  AreMet (layout.demands (.array items)) ↔
    (∀ entry ∈ layout.fields.zipIdx, ∀ item ∈ items[entry.2]?, AreMet (entry.1.2 item)) ∧
    layout.required ≤ items.length ∧ items.length ≤ layout.fields.length
  := by
  have hitem : ∀ entry : (String × (Json → List Demand)) × Nat,
      (∀ demand ∈ itemDemands items entry, demand.isMet = true) ↔
        ∀ item ∈ items[entry.2]?, AreMet (entry.1.2 item) := by
    intro entry
    rw [itemDemands]
    cases items[entry.2]? with
    | none => simp
    | some item => simp [AreMet]
  simp only [AreMet, demands, demandsFrom, List.forall_mem_append, List.forall_mem_flatMap,
    List.drop_zero, hitem]
  simp [demand, isMet, Expectation.admits]

/-- Only objects and lists are as it is demanded of a record. -/
theorem exists_of_areMet_demands {layout : Layout} {value : Json}
    (hmet : AreMet (layout.demands value)) :
  (∃ members, value = .object members) ∨ ∃ items, value = .array items
  := by
  cases value with
  | object members => exact .inl ⟨members, rfl⟩
  | array items => exact .inr ⟨items, rfl⟩
  | null | bool | number | string =>
    simp [AreMet, demands, demand, isMet, Expectation.admits] at hmet

variable {α : Type} {set : α → String × Json → Conforms α} (layout : Layout)

/-- A record is read as it is demanded, if its members and its items are. -/
theorem error?_record {record : α} {ofItems : List Json → Conforms α}
    (hset : ∀ record member, Outcome.error? (set record member) =
      first? (layout.fields.valueDemands member))
    (hitems : ∀ items, Outcome.error? (ofItems items) = first? (layout.demandsFrom items 0))
    (value : Json) :
  Outcome.error? (Conforms.record layout.name (Conforms.fold set record) ofItems value) =
    first? (layout.demands value)
  := by
  cases value with
  | object members => apply Fields.error?_fold hset
  | array items => apply hitems
  | null | bool | number | string => rfl

/-- The paths of demands on a record lead to what they are about, if those of its fields do and
their names are plain. -/
theorem leads_demands (hplain : (layout.fields.names.map Step.key).all Step.isPlain = true)
    (hfields : ∀ field ∈ layout.fields, Leads field.2) :
  Leads layout.demands
  := by
  intro value hvalue
  cases value with
  | object members => apply Fields.leads_membersDemands hplain hfields _ hvalue
  | array items =>
    have hitems := Json.isWellFormed_array_iff.mp hvalue
    simp only [demands, demandsFrom, List.forall_mem_append, List.forall_mem_flatMap]
    constructor
    · rintro ⟨field, position⟩ hentry demand hdemand
      have hfield : field ∈ layout.fields := List.fst_mem_of_mem_zipIdx hentry
      rw [itemDemands] at hdemand
      cases hitem : items[position]? with
      | none => simp [hitem] at hdemand
      | some item =>
        rw [hitem] at hdemand
        obtain ⟨inner, hinner, rfl⟩ := List.mem_map.mp hdemand
        apply LeadsFrom.within_index hitem
        apply hfields field hfield item (hitems item (List.mem_of_getElem? hitem)) inner hinner
    · simp [demand, leadsFrom_self]
  | null | bool | number | string => simp [demands, demand, leadsFrom_self]

end Layout

end ApiTypes
