import ApiTypes.Document.Envelope
import ApiTypes.Proofs.Json.WellFormed
import ApiTypes.Proofs.Outcome

/-!
# Records read from JSON

A record that is read from an object has in each field what the member of its name gives,
wherever that member stands, provided that the names of the object are distinct.  So the fields
of an `Envelope`, an `Operation` and a `Response` are those of the value that they are read from.
-/

namespace ApiTypes

namespace Json

/-- The members of an object that may be missing. -/
def membersOf (value? : Option Json) : Members :=
  (value?.bind asObject?).getD []

/-- The items of a list that may be missing. -/
def itemsOf (value? : Option Json) : List Json :=
  (value?.bind asArray?).getD []

/-- The object with its members changed; anything else is left alone. -/
def mapMembers (f : Members → Members) : Json → Json
  | .object members => .object (f members)
  | value => value

/-- The value, unless it is null. -/
def nonNull? : Json → Option Json
  | .null => none
  | value => some value

theorem isWellFormed_of_mem_membersOf {value? : Option Json} {entry : String × Json}
    (h : ∀ value, value? = some value → value.isWellFormed = true)
    (hentry : entry ∈ membersOf value?) :
  entry.2.isWellFormed = true
  := by
  cases hvalue : value? with
  | none => simp [membersOf, hvalue] at hentry
  | some value =>
    cases value with
    | object members =>
      rw [hvalue] at hentry
      apply (isWellFormed_object_iff.mp (h _ hvalue)).2 entry hentry
    | null | bool | number | string | array => simp [membersOf, hvalue, asObject?] at hentry

theorem isWellFormed_of_mem_membersOf_field? {value : Json} {name : String} {entry : String × Json}
    (h : value.isWellFormed = true) (hentry : entry ∈ membersOf (value.field? name)) :
  entry.2.isWellFormed = true
  := by
  apply isWellFormed_of_mem_membersOf _ hentry
  intro field
  apply isWellFormed_of_field? h

theorem nodup_names_membersOf {value? : Option Json}
    (h : ∀ value, value? = some value → value.isWellFormed = true) :
  (membersOf value?).names.Nodup
  := by
  cases hvalue : value? with
  | none => apply List.nodup_nil
  | some value =>
    cases value with
    | object members => apply (isWellFormed_object_iff.mp (h _ hvalue)).1
    | null | bool | number | string | array => apply List.nodup_nil

end Json

namespace Conforms

variable {α β : Type} {set : α → String × Json → Conforms α} {name : String}
  {read : Json → Conforms β} {field : α → β} {record result : α} {members : Json.Members}

theorem asObject?_of_members {value : Json} {members : Json.Members}
    (h : Conforms.members value = .ok members) :
  value.asObject? = some members
  := by
  cases value with
  | object _ =>
    obtain ⟨⟩ := h
    rfl
  | null | bool | number | string | array => simp [Conforms.members, mismatch] at h

theorem asArray?_of_items {value : Json} {items : List Json}
    (h : Conforms.items value = .ok items) :
  value.asArray? = some items
  := by
  cases value with
  | array _ =>
    obtain ⟨⟩ := h
    rfl
  | null | bool | number | string | object => simp [Conforms.items, mismatch] at h

theorem fold_cons_eq_ok_iff {member : String × Json} {rest : Json.Members} :
  fold set record (member :: rest) = .ok result ↔
    ∃ next, set record member = .ok next ∧ fold set next rest = .ok result
  := by
  simp only [fold, within, Outcome.bind_eq_ok_iff, Outcome.mapError_eq_ok_iff]

/-- When members are changed in such a way that each of them makes a changed record of a changed
one, then a changed record is read. -/
theorem fold_map (change : α → α) {changed : String × Json → String × Json}
    (h : ∀ member ∈ members, ∀ record next, set record member = .ok next →
      set (change record) (changed member) = .ok (change next))
    (hfold : fold set record members = .ok result) :
  fold set (change record) (members.map changed) = .ok (change result)
  := by
  induction members generalizing record with
  | nil =>
    obtain rfl : record = result := by simpa [fold] using hfold
    rfl
  | cons member rest ih =>
    obtain ⟨hmember, hrest⟩ := List.forall_mem_cons.mp h
    obtain ⟨next, hset, hnext⟩ := fold_cons_eq_ok_iff.mp hfold
    apply fold_cons_eq_ok_iff.mpr
    use change next, hmember record next hset
    apply ih hrest hnext

/-- When members are changed in such a way that each of them makes a changed record of a changed
one, and fails as it did before, then a changed record is read, or reading fails as before. -/
theorem fold_map_eq (change : α → α) {changed : String × Json → String × Json}
    (hname : ∀ member, (changed member).1 = member.1)
    (h : ∀ record member, set (change record) (changed member) = (set record member).map change) :
  fold set (change record) (members.map changed) = (fold set record members).map change
  := by
  induction members generalizing record with
  | nil => rfl
  | cons member rest ih =>
    rw [List.map_cons, fold, fold, hname, h]
    cases set record member with
    | error mismatch => rfl
    | ok next => apply ih

/-- A field has the value that is given to it in the object that the record is read from, whatever
value it had there. -/
theorem fold_insert (change : α → α) {value : Json}
    (hvalue : ∀ record, set record (name, value) = .ok (change record))
    (hold : ∀ record old next, set record (name, old) = .ok next → change next = change record)
    (hother : ∀ record other old next, other ≠ name → set record (other, old) = .ok next →
      set (change record) (other, old) = .ok (change next))
    (hnames : members.names.Nodup) (hfold : fold set record members = .ok result) :
  fold set record (Named.insert name value members) = .ok (change result)
  := by
  induction members generalizing record with
  | nil =>
    obtain rfl : record = result := by simpa [fold] using hfold
    apply fold_cons_eq_ok_iff.mpr
    use change record, hvalue record
    rfl
  | cons member rest ih =>
    obtain ⟨other, old⟩ := member
    obtain ⟨hmissing, hrest⟩ := List.nodup_cons.mp hnames
    obtain ⟨next, hset, hnext⟩ := fold_cons_eq_ok_iff.mp hfold
    rw [Named.insert]
    split
    · next hname =>
      subst hname
      apply fold_cons_eq_ok_iff.mpr
      use change record, hvalue record
      -- The name does not come again, so that all members that are left keep the change.
      rw [← hold record old next hset, ← List.map_id rest]
      apply fold_map change _ hnext
      rintro ⟨later, value⟩ hmember record next hset
      apply hother record later value next _ hset
      rintro rfl
      apply hmissing (List.mem_map.mpr ⟨_, hmember, rfl⟩)
    · apply fold_cons_eq_ok_iff.mpr
      use next, hset
      apply ih hrest hnext

/-- The field of a record is read from the member of a name, and no other member changes it. -/
structure Reads (set : α → String × Json → Conforms α) (name : String) (read : Json → Conforms β)
    (field : α → β) : Prop where
  of_eq : ∀ record value next, set record (name, value) = .ok next → read value = .ok (field next)
  of_ne : ∀ record other value next, other ≠ name → set record (other, value) = .ok next →
    field next = field record

/-- What a field of a record is read as from an object with distinct names. -/
theorem Reads.of_fold (h : Reads set name read field) (hnames : members.names.Nodup)
    (hfold : fold set record members = .ok result) :
  (∀ value, members.get? name = some value → read value = .ok (field result)) ∧
  (members.get? name = none → field result = field record)
  := by
  induction members generalizing record with
  | nil =>
    obtain rfl : record = result := by simpa [fold] using hfold
    simp
  | cons member rest ih =>
    obtain ⟨other, value⟩ := member
    obtain ⟨hother, hrest⟩ := List.nodup_cons.mp hnames
    obtain ⟨next, hset, hnext⟩ := Outcome.bind_eq_ok_iff.mp hfold
    replace hset := Outcome.mapError_eq_ok_iff.mp hset
    obtain ⟨hsome, hnone⟩ := ih hrest hnext
    by_cases hname : other = name
    · subst hname
      -- The name does not come again, so that the field is left alone from here on.
      have hlast := hnone (Named.get?_eq_none_iff.mpr hother)
      simp only [Named.get?_cons, if_pos]
      constructor
      · rintro _ ⟨⟩
        rw [hlast]
        apply h.of_eq _ _ _ hset
      · simp
    · rw [Named.get?_cons, if_neg (Ne.symm hname)]
      use hsome
      intro hmissing
      rw [hnone hmissing]
      apply h.of_ne _ _ _ _ hname hset

/-- A field that is empty at first has the list that is read, if there is one. -/
theorem Reads.eq_getD {read : Json → Conforms (List β)} {view : Json → Option (List β)}
    {field : α → List β} (h : Reads set name read field)
    (hread : ∀ {value list}, read value = .ok list → view value = some list)
    (hnames : members.names.Nodup) (hfold : fold set record members = .ok result)
    (hrecord : field record = []) :
  field result = ((members.get? name).bind view).getD []
  := by
  obtain ⟨hsome, hnone⟩ := h.of_fold hnames hfold
  cases hvalue : members.get? name with
  | none =>
    rw [hnone hvalue, hrecord]
    rfl
  | some value =>
    rw [Option.bind_some, hread (hsome value hvalue)]
    rfl

end Conforms

open Conforms

/-! ### Envelopes -/

/-- The member at the top level of a document, with every path changed. -/
def Document.mapPathsTop (f : String × Json → String × Json) (member : String × Json) :
    String × Json :=
  if member.1 = "paths" then (member.1, member.2.mapMembers (List.map f)) else member

/-- The document with every path changed. -/
def Document.mapPaths (f : String × Json → String × Json) (document : Json) : Json :=
  document.mapMembers (List.map (mapPathsTop f))

/-- All fields of a document but the paths stay the same. -/
theorem Document.field?_mapPaths {f : String × Json → String × Json} {document : Json}
    {name : String} (hname : name ≠ "paths") :
  (mapPaths f document).field? name = document.field? name
  := by
  cases document with
  | object members =>
    change Named.get? (members.map (mapPathsTop f)) name = Named.get? members name
    induction members with
    | nil => rfl
    | cons member rest ih =>
      obtain ⟨other, value⟩ := member
      rw [List.map_cons, mapPathsTop]
      split
      · next hother =>
        obtain rfl : other = "paths" := hother
        rw [Named.get?_cons, Named.get?_cons, if_neg hname, if_neg hname, ih]
      · rw [Named.get?_cons, Named.get?_cons, ih]
  | null | bool | number | string | array => rfl

namespace Envelope

/-- What a member of the top level of a document does to the record of it. -/
theorem set_eq_ok_iff {record next : Envelope} {name : String} {value : Json} :
  set record (name, value) = .ok next ↔
    (name = "info" ∧ ∃ info, Info.ofJson value = .ok info ∧ { record with info := info } = next) ∨
    (name = "host" ∧ ∃ host, text? value = .ok host ∧ { record with host := host } = next) ∨
    (name = "basePath" ∧
      ∃ basePath, text? value = .ok basePath ∧ { record with basePath := basePath } = next) ∨
    (name = "schemes" ∧
      ∃ schemes, texts value = .ok schemes ∧ { record with schemes := schemes } = next) ∨
    (name = "definitions" ∧ ∃ definitions, Conforms.members value = .ok definitions ∧
      { record with definitions := definitions } = next) ∨
    (name = "parameters" ∧ ∃ parameters, Conforms.members value = .ok parameters ∧
      { record with parameters := parameters } = next) ∨
    (name = "paths" ∧
      ∃ paths, Conforms.members value = .ok paths ∧ { record with paths := paths } = next) ∨
    (name ∉ ["info", "host", "basePath", "schemes", "definitions", "parameters", "paths"] ∧
      record = next)
  := by
  unfold set
  split <;> simp_all [Outcome.fmap_eq_ok_iff]

theorem reads_definitions :
  Reads set "definitions" Conforms.members definitions
  where
  of_eq := by grind [set_eq_ok_iff]
  of_ne := by grind [set_eq_ok_iff]

theorem reads_parameters :
  Reads set "parameters" Conforms.members parameters
  where
  of_eq := by grind [set_eq_ok_iff]
  of_ne := by grind [set_eq_ok_iff]

theorem reads_paths :
  Reads set "paths" Conforms.members paths
  where
  of_eq := by grind [set_eq_ok_iff]
  of_ne := by grind [set_eq_ok_iff]

/-- The definitions, the parameters and the paths are those of the object that is read. -/
theorem eq_membersOf {members : Json.Members} {envelope : Envelope} (hnames : members.names.Nodup)
    (h : ofMembers members = .ok envelope) :
  envelope.definitions = Json.membersOf (members.get? "definitions") ∧
  envelope.parameters = Json.membersOf (members.get? "parameters") ∧
  envelope.paths = Json.membersOf (members.get? "paths")
  := ⟨reads_definitions.eq_getD asObject?_of_members hnames h rfl,
    reads_parameters.eq_getD asObject?_of_members hnames h rfl,
    reads_paths.eq_getD asObject?_of_members hnames h rfl⟩

section

variable {f : String × Json → String × Json}

/-- The record with every path changed. -/
def mapPaths (f : String × Json → String × Json) (envelope : Envelope) : Envelope :=
  { envelope with paths := envelope.paths.map f }

theorem set_mapPathsTop (record : Envelope) (member : String × Json) :
  set (record.mapPaths f) (Document.mapPathsTop f member) = (set record member).map (mapPaths f)
  := by
  obtain ⟨name, value⟩ := member
  rw [Document.mapPathsTop]
  split
  · next hname =>
    obtain rfl : name = "paths" := hname
    cases value <;> rfl
  · next hname =>
    unfold set
    split
    case h_7 heq =>
      absurd hname
      exact congrArg Prod.fst heq
    case h_8 => rfl
    all_goals
      rw [bind_pure_comp, bind_pure_comp, Outcome.map_fmap]
      rfl

/-- The top level is read as before but for the paths. -/
theorem ofMembers_mapPaths (document : Json) :
  ofMembers ((Document.mapPaths f document).asObject?.getD []) =
    (ofMembers (document.asObject?.getD [])).map (mapPaths f)
  := by
  have hmembers : (Document.mapPaths f document).asObject?.getD [] =
      (document.asObject?.getD []).map (Document.mapPathsTop f) := by
    cases document <;> rfl
  rw [hmembers]
  change fold set (mapPaths f {}) _ = (fold set {} _).map (mapPaths f)
  apply fold_map_eq (mapPaths f)
  · intro member
    rw [Document.mapPathsTop]
    split <;> rfl
  · apply set_mapPathsTop

end

end Envelope

/-! ### Operations -/

namespace Operation

/-- What a member of an operation does to the record of it. -/
theorem set_eq_ok_iff {record next : Operation} {name : String} {value : Json} :
  set record (name, value) = .ok next ↔
    (name = "operationId" ∧ ∃ operationId, text? value = .ok operationId ∧
      { record with operationId := operationId } = next) ∨
    (name = "summary" ∧
      ∃ summary, text? value = .ok summary ∧ { record with summary := summary } = next) ∨
    (name = "description" ∧ ∃ description, text? value = .ok description ∧
      { record with description := description } = next) ∨
    (name = "parameters" ∧ ∃ parameters, Conforms.items value = .ok parameters ∧
      { record with parameters := parameters } = next) ∨
    (name = "responses" ∧ ∃ responses, Conforms.members value = .ok responses ∧
      { record with responses := responses } = next) ∨
    (name ∉ ["operationId", "summary", "description", "parameters", "responses"] ∧ record = next)
  := by
  unfold set
  split <;> simp_all [Outcome.fmap_eq_ok_iff]

theorem reads_parameters :
  Reads set "parameters" Conforms.items parameters
  where
  of_eq := by grind [set_eq_ok_iff]
  of_ne := by grind [set_eq_ok_iff]

theorem reads_responses :
  Reads set "responses" Conforms.members responses
  where
  of_eq := by grind [set_eq_ok_iff]
  of_ne := by grind [set_eq_ok_iff]

/-- The field of an operation, which is an object, or else the list of its fields. -/
def field? (operation : Json) (name : String) (position : Nat) : Option Json :=
  match operation with
  | .array fields => fields[position]?
  | _ => operation.field? name

theorem isWellFormed_of_field? {operation value : Json} {name : String} {position : Nat}
    (h : operation.isWellFormed = true) (hvalue : field? operation name position = some value) :
  value.isWellFormed = true
  := by
  cases operation with
  | array fields => apply Json.isWellFormed_array_iff.mp h value (List.mem_of_getElem? hvalue)
  | object members => apply Json.isWellFormed_of_field? h hvalue
  | null | bool | number | string => simp [field?, Json.field?, Json.asObject?] at hvalue

/-- A field that may be missing from a list has the list that is read, if there is one. -/
theorem eq_getD_of_itemOr {α : Type} {read : Json → Conforms (List α)}
    {view : Json → Option (List α)} {list : List Json} {position : Nat} {found : List α}
    (hread : ∀ {value list}, read value = .ok list → view value = some list)
    (h : itemOr [] read list position = .ok found) :
  found = (list[position]?.bind view).getD []
  := by
  unfold itemOr at h
  cases hitem : list[position]? with
  | none =>
    rw [hitem] at h
    obtain ⟨⟩ := h
    rfl
  | some item =>
    rw [hitem] at h
    rw [Option.bind_some, hread (Outcome.mapError_eq_ok_iff.mp h)]
    rfl

/-- The parameters and the responses of an operation that is written as a list. -/
theorem eq_of_ofItems {list : List Json} {operation : Operation}
    (h : ofItems list = .ok operation) :
  operation.parameters = Json.itemsOf list[3]? ∧ operation.responses = Json.membersOf list[4]?
  := by
  simp only [ofItems, Outcome.bind_eq_ok_iff] at h
  obtain ⟨-, -, -, -, -, -, -, -, -, -, -, -, parameters, hparameters, responses, hresponses, -, -,
    ⟨⟩⟩ := h
  constructor
  · apply eq_getD_of_itemOr asArray?_of_items hparameters
  · apply eq_getD_of_itemOr asObject?_of_members hresponses

/-- The parameters and the responses are those of the value that is read. -/
theorem eq_of_ofJson {value : Json} {operation : Operation} (hvalue : value.isWellFormed = true)
    (h : ofJson value = .ok operation) :
  operation.parameters = Json.itemsOf (field? value "parameters" 3) ∧
  operation.responses = Json.membersOf (field? value "responses" 4)
  := by
  cases value with
  | object members =>
    have hnames := (Json.isWellFormed_object_iff.mp hvalue).1
    constructor
    · apply reads_parameters.eq_getD asArray?_of_items hnames h rfl
    · apply reads_responses.eq_getD asObject?_of_members hnames h rfl
  | array list => apply eq_of_ofItems h
  | null | bool | number | string => simp [ofJson, record, mismatch] at h

end Operation

/-! ### Responses -/

namespace Response

/-- What a member of a response does to the record of it. -/
theorem set_eq_ok_iff {record next : Response} {name : String} {value : Json} :
  set record (name, value) = .ok next ↔
    (name = "description" ∧ ∃ description, text? value = .ok description ∧
      { record with description := description } = next) ∨
    (name = "schema" ∧ { record with schema := value.nonNull? } = next) ∨
    (name ∉ ["description", "schema"] ∧ record = next)
  := by
  unfold set
  split <;> simp_all [Outcome.fmap_eq_ok_iff, Json.nonNull?]

theorem reads_schema :
  Reads set "schema" (fun value => .ok value.nonNull?) schema
  where
  of_eq := by grind [set_eq_ok_iff]
  of_ne := by grind [set_eq_ok_iff]

/-- The schema is the one of the object that is read, unless it is null. -/
theorem schema_eq {members : Json.Members} {response : Response} (hnames : members.names.Nodup)
    (h : ofMembers members = .ok response) :
  response.schema = (members.get? "schema").bind Json.nonNull?
  := by
  obtain ⟨hsome, hnone⟩ := reads_schema.of_fold hnames h
  cases hvalue : members.get? "schema" with
  | none => apply hnone hvalue
  | some value => simpa using (hsome value hvalue).symm

end Response

end ApiTypes
