import ApiTypes.Proofs.Document.Demands
import ApiTypes.Proofs.Document.Faults

/-!
# The grammar of documents and operations

`Envelope.IsDescribedBy` and `Operation.IsDescribedBy` say of which form the top level of a
document and an operation are.  Exactly values of this form are read as such records, and for any
other value the mismatch is the one of the first part that is not as it should be:
`Document.buildModel_pointsAtFirstUnmet`.
-/

namespace ApiTypes

open Demand

/-- A field is missing, null or a string. -/
def IsOptionalText (field? : Option Json) : Prop :=
  ∀ value ∈ field?, value = .null ∨ ∃ s, value = .string s

/-- A field is missing or a list of strings. -/
def IsOptionalTexts (field? : Option Json) : Prop :=
  ∀ value ∈ field?, ∃ items, value = .array items ∧ ∀ item ∈ items, ∃ s, item = .string s

/-- A field is missing or a list. -/
def IsOptionalArray (field? : Option Json) : Prop :=
  ∀ value ∈ field?, ∃ items, value = .array items

/-- A field is missing or an object. -/
def IsOptionalObject (field? : Option Json) : Prop :=
  ∀ value ∈ field?, ∃ members, value = .object members

/-- A mismatch is the one of the first demand that is not met, its path leads to the part of the
value that this demand is about, and its words tell this path and how that part is not as
demanded. -/
def IsFirstUnmet (value : Json) (demands : List Demand) (mismatch : Mismatch) : Prop :=
  ∃ before demand after, demands = before ++ demand :: after ∧ AreMet before ∧
    demand.isMet = false ∧ demand.mismatch = mismatch ∧
    value.at? mismatch.path = some demand.value ∧ demand.IsToldBy mismatch

/-- What is first of demands whose paths lead to what they are about. -/
theorem first?_eq_some_iff_isFirstUnmet {demands : Json → List Demand} (hleads : Leads demands)
    {value : Json} (hvalue : value.isWellFormed = true) {mismatch : Mismatch} :
  first? (demands value) = some mismatch ↔ IsFirstUnmet value (demands value) mismatch
  := by
  rw [first?_eq_some_iff]
  constructor
  · rintro ⟨before, demand, after, hdemands, hbefore, hunmet, rfl⟩
    have hmem : demand ∈ demands value := by
      rw [hdemands]
      apply List.mem_append_right _ List.mem_cons_self
    obtain ⟨hvalueAt, hplain⟩ := hleads value hvalue demand hmem
    exact ⟨before, demand, after, hdemands, hbefore, hunmet, rfl, hvalueAt,
      isToldBy_mismatch hunmet hplain⟩
  · rintro ⟨before, demand, after, hdemands, hbefore, hunmet, hmismatch, -⟩
    use before, demand, after

/-! ### Titles -/

namespace Info

/-- The fields of a title. -/
def layout : Layout where
  name := "Info"
  required := 2
  fields := [("title", textDemands), ("description", textDemands)]

/-- A title is an object whose fields are strings, or the list of both fields. -/
inductive IsDescribedBy : Json → Prop
  | members {members : Json.Members} (htitle : IsOptionalText (members.get? "title"))
      (hdescription : IsOptionalText (members.get? "description")) :
    IsDescribedBy (.object members)
  | items {title description : Json} (htitle : IsOptionalText (some title))
      (hdescription : IsOptionalText (some description)) :
    IsDescribedBy (.array [title, description])

theorem error?_set (info : Info) (member : String × Json) :
  Outcome.error? (set info member) = first? (layout.fields.valueDemands member)
  := by
  unfold set
  split
  · next value => exact (Outcome.error?_bind_ok _ _).trans (Conforms.error?_text? value)
  · next value => exact (Outcome.error?_bind_ok _ _).trans (Conforms.error?_text? value)
  · next htitle hdescription =>
    obtain ⟨name, value⟩ := member
    simp_all [layout, Fields.valueDemands, Named.get?_cons]

theorem error?_ofItems (items : List Json) :
  Outcome.error? (ofItems items) = first? (layout.demandsFrom items 0)
  := by
  apply layout.error?_item rfl Conforms.error?_text? (by decide) (Nat.zero_le _)
  intro hfirst title
  apply layout.error?_item rfl Conforms.error?_text? (by decide) hfirst
  intro hsecond description
  apply layout.error?_noMoreThan hsecond

theorem error?_ofJson (value : Json) :
  Outcome.error? (ofJson value) = first? (layout.demands value)
  := layout.error?_record error?_set error?_ofItems value

theorem leads_demands : Leads layout.demands := by
  apply layout.leads_demands (by decide)
  simp [layout, leads_textDemands]

/-- What is demanded of a title is met by the values that describe one. -/
theorem areMet_demands_iff {value : Json} (hvalue : value.isWellFormed = true) :
  AreMet (layout.demands value) ↔ IsDescribedBy value
  := by
  cases value with
  | object members =>
    rw [Layout.demands, Fields.areMet_membersDemands_iff (by decide)
      (Json.isWellFormed_object_iff.mp hvalue).1]
    simp only [layout, List.forall_mem_cons, List.not_mem_nil, false_imp_iff, implies_true,
      and_true, areMet_textDemands_iff]
    constructor
    · rintro ⟨htitle, hdescription⟩
      apply IsDescribedBy.members htitle hdescription
    · rintro ⟨htitle, hdescription⟩
      exact ⟨htitle, hdescription⟩
  | array items =>
    rw [Layout.areMet_demands_array_iff]
    simp only [layout, List.zipIdx_cons, List.zipIdx_nil, List.forall_mem_cons, List.not_mem_nil,
      false_imp_iff, implies_true, and_true, areMet_textDemands_iff]
    constructor
    · rintro ⟨⟨htitle, hdescription⟩, hleast, hmost⟩
      obtain ⟨title, description, rfl⟩ := List.length_eq_two.mp (Nat.le_antisymm hmost hleast)
      apply IsDescribedBy.items htitle hdescription
    · intro hitems
      cases hitems with
      | items htitle hdescription => exact ⟨⟨htitle, hdescription⟩, Nat.le_refl 2, Nat.le_refl 2⟩
  | null | bool | number | string =>
    constructor
    · intro hmet
      rcases Layout.exists_of_areMet_demands hmet with ⟨_, ⟨⟩⟩ | ⟨_, ⟨⟩⟩
    · rintro ⟨⟩

end Info

/-! ### Top levels -/

namespace Envelope

/-- The fields of the top level of a document. -/
def fields : Fields := [
  ("info", Info.layout.demands),
  ("host", textDemands),
  ("basePath", textDemands),
  ("schemes", textsDemands),
  ("definitions", objectDemands),
  ("parameters", objectDemands),
  ("paths", objectDemands)]

/-- What is demanded of the top level of a document. -/
def demands (document : Json) : List Demand :=
  fields.membersDemands (document.asObject?.getD [])

/-- The fields of the top level of a document are of the right form, and there may be others. -/
structure IsDescribedBy (document : Json) : Prop where
  info : ∀ value ∈ document.field? "info", Info.IsDescribedBy value
  host : IsOptionalText (document.field? "host")
  basePath : IsOptionalText (document.field? "basePath")
  schemes : IsOptionalTexts (document.field? "schemes")
  definitions : IsOptionalObject (document.field? "definitions")
  parameters : IsOptionalObject (document.field? "parameters")
  paths : IsOptionalObject (document.field? "paths")

theorem error?_set (envelope : Envelope) (member : String × Json) :
  Outcome.error? (set envelope member) = first? (fields.valueDemands member)
  := by
  unfold set
  split
  · next value => exact (Outcome.error?_bind_ok _ _).trans (Info.error?_ofJson value)
  · next value => exact (Outcome.error?_bind_ok _ _).trans (Conforms.error?_text? value)
  · next value => exact (Outcome.error?_bind_ok _ _).trans (Conforms.error?_text? value)
  · next value => exact (Outcome.error?_bind_ok _ _).trans (Conforms.error?_texts value)
  · next value => exact (Outcome.error?_bind_ok _ _).trans (Conforms.error?_members value)
  · next value => exact (Outcome.error?_bind_ok _ _).trans (Conforms.error?_members value)
  · next value => exact (Outcome.error?_bind_ok _ _).trans (Conforms.error?_members value)
  · obtain ⟨name, value⟩ := member
    simp_all [fields, Fields.valueDemands, Named.get?_cons]

theorem error?_ofMembers (document : Json) :
  Outcome.error? (ofMembers (document.asObject?.getD [])) = first? (demands document)
  := Fields.error?_fold error?_set {} _

theorem leads_demands : Leads demands := by
  apply Fields.leads_membersDemands (by decide)
  simp [fields, Info.leads_demands, leads_textDemands, leads_textsDemands, leads_objectDemands]

/-- What is demanded of the top level is met by the documents that describe one. -/
theorem areMet_demands_iff {document : Json} (hdocument : document.isWellFormed = true) :
  AreMet (demands document) ↔ IsDescribedBy document
  := by
  have hinfo : (∀ value ∈ document.field? "info", AreMet (Info.layout.demands value)) ↔
      ∀ value ∈ document.field? "info", Info.IsDescribedBy value := by
    apply forall₂_congr
    intro value hvalue
    apply Info.areMet_demands_iff
    apply Json.isWellFormed_of_field? hdocument hvalue
  rw [demands, Fields.areMet_membersDemands_iff (by decide)
    (Document.nodup_names_asObject? hdocument)]
  simp only [fields, List.forall_mem_cons, List.not_mem_nil, false_imp_iff, implies_true, and_true,
    Document.get?_asObject?, hinfo, areMet_textDemands_iff, areMet_textsDemands_iff,
    areMet_objectDemands_iff]
  constructor
  · rintro ⟨hinfo, hhost, hbasePath, hschemes, hdefinitions, hparameters, hpaths⟩
    exact ⟨hinfo, hhost, hbasePath, hschemes, hdefinitions, hparameters, hpaths⟩
  · rintro ⟨hinfo, hhost, hbasePath, hschemes, hdefinitions, hparameters, hpaths⟩
    exact ⟨hinfo, hhost, hbasePath, hschemes, hdefinitions, hparameters, hpaths⟩

end Envelope

/-! ### Operations -/

namespace Operation

/-- The fields of an operation, the last two of which may be missing from a list. -/
def layout : Layout where
  name := "Operation"
  required := 3
  fields := [
    ("operationId", textDemands),
    ("summary", textDemands),
    ("description", textDemands),
    ("parameters", listDemands),
    ("responses", objectDemands)]

/-- An operation is an object whose fields are of the right form, or a list of them. -/
inductive IsDescribedBy : Json → Prop
  | members {members : Json.Members} (hoperationId : IsOptionalText (members.get? "operationId"))
      (hsummary : IsOptionalText (members.get? "summary"))
      (hdescription : IsOptionalText (members.get? "description"))
      (hparameters : IsOptionalArray (members.get? "parameters"))
      (hresponses : IsOptionalObject (members.get? "responses")) :
    IsDescribedBy (.object members)
  | items {operationId summary description : Json} {rest : List Json}
      (hoperationId : IsOptionalText (some operationId)) (hsummary : IsOptionalText (some summary))
      (hdescription : IsOptionalText (some description)) (hparameters : IsOptionalArray rest[0]?)
      (hresponses : IsOptionalObject rest[1]?) (hlength : rest.length ≤ 2) :
    IsDescribedBy (.array (operationId :: summary :: description :: rest))

theorem error?_set (operation : Operation) (member : String × Json) :
  Outcome.error? (set operation member) = first? (layout.fields.valueDemands member)
  := by
  unfold set
  split
  · next value => exact (Outcome.error?_bind_ok _ _).trans (Conforms.error?_text? value)
  · next value => exact (Outcome.error?_bind_ok _ _).trans (Conforms.error?_text? value)
  · next value => exact (Outcome.error?_bind_ok _ _).trans (Conforms.error?_text? value)
  · next value => exact (Outcome.error?_bind_ok _ _).trans (Conforms.error?_items value)
  · next value => exact (Outcome.error?_bind_ok _ _).trans (Conforms.error?_members value)
  · obtain ⟨name, value⟩ := member
    simp_all [layout, Fields.valueDemands, Named.get?_cons]

theorem error?_ofItems (items : List Json) :
  Outcome.error? (ofItems items) = first? (layout.demandsFrom items 0)
  := by
  apply layout.error?_item rfl Conforms.error?_text? (by decide) (Nat.zero_le _)
  intro hfirst operationId
  apply layout.error?_item rfl Conforms.error?_text? (by decide) hfirst
  intro hsecond summary
  apply layout.error?_item rfl Conforms.error?_text? (by decide) hsecond
  intro hthird description
  apply layout.error?_itemOr rfl Conforms.error?_items
  intro parameters
  apply layout.error?_itemOr rfl Conforms.error?_members
  intro responses
  apply layout.error?_noMoreThan hthird

theorem error?_ofJson (value : Json) :
  Outcome.error? (ofJson value) = first? (layout.demands value)
  := layout.error?_record error?_set error?_ofItems value

theorem leads_demands : Leads layout.demands := by
  apply layout.leads_demands (by decide)
  simp [layout, leads_textDemands, leads_listDemands, leads_objectDemands]

/-- What is demanded of an operation is met by the values that describe one. -/
theorem areMet_demands_iff {value : Json} (hvalue : value.isWellFormed = true) :
  AreMet (layout.demands value) ↔ IsDescribedBy value
  := by
  cases value with
  | object members =>
    rw [Layout.demands, Fields.areMet_membersDemands_iff (by decide)
      (Json.isWellFormed_object_iff.mp hvalue).1]
    simp only [layout, List.forall_mem_cons, List.not_mem_nil, false_imp_iff, implies_true,
      and_true, areMet_textDemands_iff, areMet_listDemands_iff, areMet_objectDemands_iff]
    constructor
    · rintro ⟨hoperationId, hsummary, hdescription, hparameters, hresponses⟩
      apply IsDescribedBy.members hoperationId hsummary hdescription hparameters hresponses
    · rintro ⟨hoperationId, hsummary, hdescription, hparameters, hresponses⟩
      exact ⟨hoperationId, hsummary, hdescription, hparameters, hresponses⟩
  | array items =>
    rw [Layout.areMet_demands_array_iff]
    simp only [layout, List.zipIdx_cons, List.zipIdx_nil, List.forall_mem_cons, List.not_mem_nil,
      false_imp_iff, implies_true, and_true, areMet_textDemands_iff, areMet_listDemands_iff,
      areMet_objectDemands_iff]
    constructor
    · rintro ⟨⟨hoperationId, hsummary, hdescription, hparameters, hresponses⟩, hleast, hmost⟩
      rcases items with _ | ⟨operationId, _ | ⟨summary, _ | ⟨description, rest⟩⟩⟩
      · simp at hleast
      · simp at hleast
      · simp at hleast
      · apply IsDescribedBy.items hoperationId hsummary hdescription hparameters hresponses
        simp only [List.length_cons, List.length_nil] at hmost
        omega
    · intro hitems
      cases hitems with
      | items hoperationId hsummary hdescription hparameters hresponses hlength =>
        refine ⟨⟨hoperationId, hsummary, hdescription, hparameters, hresponses⟩, ?_⟩
        simp only [List.length_cons, List.length_nil]
        omega
  | null | bool | number | string =>
    constructor
    · intro hmet
      rcases Layout.exists_of_areMet_demands hmet with ⟨_, ⟨⟩⟩ | ⟨_, ⟨⟩⟩
    · rintro ⟨⟩

end Operation

/-! ### Mismatches of documents -/

namespace Document

variable {document : Json} {options : ModelOptions}

/-- Only the top level is at fault as a document. -/
theorem fault?_eq_malformed_document_iff {check : Check} {mismatch : Mismatch} :
  check.fault? document options = some (.malformed .document mismatch) ↔
    check = .envelope ∧ first? (Envelope.demands document) = some mismatch
  := by
  rw [← Envelope.error?_ofMembers]
  cases check <;> simp [Check.fault?, versionFault?]

/-- Only operations are at fault as such. -/
theorem fault?_eq_malformed_operation_iff {check : Check} {verb : Verb} {path : String}
    {mismatch : Mismatch} :
  check.fault? document options = some (.malformed (.operation verb path) mismatch) ↔
    ∃ value, check = .operation verb path value ∧
      first? (Operation.layout.demands value) = some mismatch
  := by
  simp only [← Operation.error?_ofJson]
  cases check <;> simp [Check.fault?, versionFault?]
  grind

/-- The operations of a well-formed document are well formed. -/
theorem isWellFormed_of_operation_mem_checks (hdocument : document.isWellFormed = true)
    {verb : Verb} {path : String} {value : Json}
    (hcheck : .operation verb path value ∈ checks document options) :
  value.isWellFormed = true
  := by
  obtain ⟨-, item, key, hitem, hvalue, -⟩ := isKept_of_mem_checks _ hcheck
  have hpath : (Json.object item).isWellFormed = true := by
    apply Json.isWellFormed_of_mem_membersOf _ hitem
    intro paths
    apply Json.isWellFormed_of_field? hdocument
  apply (Json.isWellFormed_object_iff.mp hpath).2 _ hvalue

/-- The top level is at fault when it is not as demanded, as only the version comes before it. -/
theorem outcome_buildModel_eq_malformed_document_iff (hdocument : document.isWellFormed = true)
    (hversion : document.field? "swagger" = some (.string "2.0")) {mismatch : Mismatch} :
  (buildModel document options).outcome = .error (.malformed .document mismatch) ↔
    first? (Envelope.demands document) = some mismatch
  := by
  rw [outcome_buildModel_eq_error_iff hdocument]
  constructor
  · rintro ⟨before, check, after, -, -, hfault⟩
    apply (fault?_eq_malformed_document_iff.mp hfault).2
  · intro hmismatch
    refine ⟨[.version], .envelope, _, rfl, ?_, ?_⟩
    · simpa using fault?_version_eq_none_iff.mpr hversion
    · apply fault?_eq_malformed_document_iff.mpr
      exact ⟨rfl, hmismatch⟩

/-- The top level of a document of version 2.0 is at fault unless it is of the form that
describes one, and an operation is read unless it is not of the form that describes one.  The
mismatch is then the one of the first part, in the order of the value, that is not as demanded,
and tells its path and how it is not.  A model fails for such an operation when no part before it
has a fault. -/
theorem buildModel_pointsAtFirstUnmet (hdocument : document.isWellFormed = true)
    (hversion : document.field? "swagger" = some (.string "2.0")) :
  ((∀ place mismatch, (buildModel document options).outcome = .error (.malformed place mismatch) →
    place.text ≠ "document") ↔ Envelope.IsDescribedBy document) ∧
  (∀ place mismatch, place.text = "document" →
    ((buildModel document options).outcome = .error (.malformed place mismatch) ↔
      IsFirstUnmet document (Envelope.demands document) mismatch)) ∧
  (∀ value, value.isWellFormed = true →
    ((∃ operation, Operation.ofJson value = .ok operation) ↔ Operation.IsDescribedBy value) ∧
    ∀ mismatch, Operation.ofJson value = .error mismatch ↔
      IsFirstUnmet value (Operation.layout.demands value) mismatch) ∧
  ∀ verb path mismatch,
    (buildModel document options).outcome = .error (.malformed (.operation verb path) mismatch) ↔
      ∃ before value after,
        checks document options = before ++ .operation verb path value :: after ∧
        (∀ earlier ∈ before, earlier.fault? document options = none) ∧
        IsFirstUnmet value (Operation.layout.demands value) mismatch
  := by
  refine ⟨?_, ?_, ?_, ?_⟩
  · rw [← Envelope.areMet_demands_iff hdocument, ← first?_eq_none_iff,
      Option.eq_none_iff_forall_ne_some]
    constructor
    · intro hnone mismatch hmismatch
      apply hnone .document mismatch _ rfl
      apply (outcome_buildModel_eq_malformed_document_iff hdocument hversion).mpr hmismatch
    · intro hnone place mismatch hfailed hplace
      obtain rfl := Place.text_eq_document_iff.mp hplace
      apply hnone mismatch
      apply (outcome_buildModel_eq_malformed_document_iff hdocument hversion).mp hfailed
  · intro place mismatch hplace
    obtain rfl := Place.text_eq_document_iff.mp hplace
    rw [outcome_buildModel_eq_malformed_document_iff hdocument hversion,
      first?_eq_some_iff_isFirstUnmet Envelope.leads_demands hdocument]
  · intro value hvalue
    constructor
    · rw [← Operation.areMet_demands_iff hvalue, ← first?_eq_none_iff, ← Operation.error?_ofJson,
        Outcome.error?_eq_none_iff]
    · intro mismatch
      rw [← first?_eq_some_iff_isFirstUnmet Operation.leads_demands hvalue,
        ← Operation.error?_ofJson, Outcome.error?_eq_some_iff]
  · intro verb path mismatch
    have hfirst : ∀ value, .operation verb path value ∈ checks document options →
        (first? (Operation.layout.demands value) = some mismatch ↔
          IsFirstUnmet value (Operation.layout.demands value) mismatch) := by
      intro value hcheck
      apply first?_eq_some_iff_isFirstUnmet Operation.leads_demands
      apply isWellFormed_of_operation_mem_checks hdocument hcheck
    rw [outcome_buildModel_eq_error_iff hdocument]
    simp only [fault?_eq_malformed_operation_iff]
    constructor
    · rintro ⟨before, _, after, hchecks, hbefore, value, rfl, hmismatch⟩
      use before, value, after, hchecks, hbefore
      apply (hfirst value _).mp hmismatch
      simp [hchecks]
    · rintro ⟨before, value, after, hchecks, hbefore, hunmet⟩
      use before, .operation verb path value, after, hchecks, hbefore, value, rfl
      apply (hfirst value _).mpr hunmet
      simp [hchecks]

/-- A document whose title is a list that ends too early.  What comes before it is in order, and
what comes after it is not. -/
def untitledShop : Json :=
  .object [
    ("swagger", .string "2.0"),
    ("note", .bool true),
    ("host", .null),
    ("schemes", .array [.string "https"]),
    ("info", .array [.string "Shop"]),
    ("basePath", .bool true)]

/-- An operation of which neither the parameters nor the responses may be null. -/
def nullOperation : Json :=
  .object [("summary", .null), ("parameters", .null), ("responses", .null)]

/-- A document with an operation that is not of the right form, after one that is. -/
def nullShop : Json :=
  .object [
    ("swagger", .string "2.0"),
    ("info", .array [.string "Shop", .null]),
    ("paths", .object [
      ("/pets", .object [
        ("get", .array [.null, .null, .string "all pets"]),
        ("put", nullOperation)])])]

theorem buildModel_pointsAtFirstUnmet_nullShop :
  let untitled : Mismatch := ⟨[.key "info"], .missingItem 1 "Info" 2⟩
  let null : Mismatch := ⟨[.key "parameters"], .otherKind .null .sequence⟩
  ¬ Envelope.IsDescribedBy untitledShop ∧
  IsFirstUnmet untitledShop (Envelope.demands untitledShop) untitled ∧
  untitled.message =
    "at JSON path info → invalid length 1, expected struct Info with 2 elements" ∧
  Envelope.IsDescribedBy nullShop ∧ ¬ Operation.IsDescribedBy nullOperation ∧
  (∃ before value after, checks nullShop {} = before ++ .operation .put "/pets" value :: after ∧
    (∀ earlier ∈ before, earlier.fault? nullShop {} = none) ∧
    IsFirstUnmet value (Operation.layout.demands value) null) ∧
  null.message = "at JSON path parameters → invalid type: null, expected a sequence"
  := by
  intro untitled null
  have huntitledShop : untitledShop.isWellFormed = true := by decide
  have hnullShop : nullShop.isWellFormed = true := by decide
  have hnullOperation : nullOperation.isWellFormed = true := by decide
  have htitle : (buildModel untitledShop).outcome = .error (.malformed .document untitled) := rfl
  have hput : (buildModel nullShop).outcome =
      .error (.malformed (.operation .put "/pets") null) := rfl
  have hread : Operation.ofJson nullOperation = .error null := rfl
  obtain ⟨huntitled, hfirst, -⟩ := @buildModel_pointsAtFirstUnmet untitledShop {} huntitledShop rfl
  obtain ⟨htitled, -, hoperations, hunmet⟩ :=
    @buildModel_pointsAtFirstUnmet nullShop {} hnullShop rfl
  refine ⟨?_, (hfirst .document _ rfl).mp htitle, rfl, htitled.mp ?_, ?_, (hunmet _ _ _).mp hput,
    rfl⟩
  · intro hdescribed
    apply huntitled.mpr hdescribed .document untitled htitle rfl
  · intro place mismatch hfailed
    obtain ⟨rfl, -⟩ : .operation .put "/pets" = place ∧ null = mismatch := by
      simpa [hput] using hfailed
    simp [Place.text_eq_document_iff]
  · intro hdescribed
    obtain ⟨operation, hoperation⟩ := (hoperations _ hnullOperation).1.mpr hdescribed
    simp [hread] at hoperation

end Document

end ApiTypes
