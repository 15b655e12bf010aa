import ApiTypes.Proofs.Document.Faults

/-!
# Shared parameters

Parameters can be shared by the operations on a path, and by references to the ones at the top
level.  `Document.unshared` writes them out: every operation has its own list of parameters, which
holds no references.  This is no more than a change of notation, since the model stays the same:
`Document.buildModel_unshared`.
-/

namespace ApiTypes

namespace Document

/-! ### Writing parameters out -/

/-- The parameters of an operation followed by those that its path shares, each reference replaced
by the parameter at the top level, or left out if there is none of that name. -/
def unsharedParameters (document : Json) (shared : List Node) (own? : Option Json) : List Node :=
  (Json.itemsOf own? ++ shared).filterMap (parameterNode? document)

/-- The operation, given the parameters that its path shares, with all its parameters written
out. -/
def unsharedOperation (document : Json) (shared : List Node) : Json → Json :=
  Json.mapMembers fun members =>
    members.insert "parameters"
      (.array (unsharedParameters document shared (members.get? "parameters")))

/-- The member of a path, given the parameters that the path shares, with the parameters of an
operation written out.  The list of the shared parameters goes. -/
def unsharedMember? (document : Json) (shared : List Node) (member : String × Json) :
    Option (String × Json) :=
  if isVerbKey member.1 then some (member.1, unsharedOperation document shared member.2)
  else if member.1 = "parameters" && member.2.asArray?.isSome then none
  else some member

/-- The path with the parameters of its operations written out. -/
def unsharedPath (document : Json) (entry : String × Json) : String × Json :=
  (entry.1, entry.2.mapMembers fun item =>
    item.filterMap (unsharedMember? document (Builder.sharedParameters item)))

/-- The member at the top level of a document with the parameters of all operations written out. -/
def unsharedTop (document : Json) (member : String × Json) : String × Json :=
  if member.1 = "paths" then (member.1, member.2.mapMembers (List.map (unsharedPath document)))
  else member

/-- The document with the parameters of all operations written out. -/
def unshared (document : Json) : Json :=
  document.mapMembers (List.map (unsharedTop document))

/-! ### Reading -/

theorem unshared_eq (document : Json) :
  unshared document = mapPaths (unsharedPath document) document
  := rfl

/-- Other parameters are read of an operation when they are put in the place of its own. -/
theorem Operation.ofJson_insert {members : Json.Members} {operation : Operation}
    (hnames : members.names.Nodup) (h : Operation.ofJson (.object members) = .ok operation)
    (parameters : List Node) :
  Operation.ofJson (.object (members.insert "parameters" (.array parameters))) =
    .ok { operation with parameters := parameters }
  := by
  apply Conforms.fold_insert (fun record => { record with parameters := parameters }) _ _ _ hnames h
  · intro record
    rfl
  · intro record old next hset
    obtain ⟨own, -, rfl⟩ : ∃ own, Conforms.items old = .ok own ∧
        { record with parameters := own } = next := by
      simpa using Operation.set_eq_ok_iff.mp hset
    rfl
  · intro record other old next hname hset
    apply Operation.set_eq_ok_iff.mpr
    have := Operation.set_eq_ok_iff.mp hset
    grind

/-! ### Building -/

namespace Builder

variable {builder : Builder} {document : Json} {options : ModelOptions} {verb : Verb}
  {path : String}

/-- Nodes without references stand for themselves. -/
theorem filterMap_parameterNode?_eq {nodes : List Node}
    (h : ∀ node ∈ nodes, node.reference? = none) :
  nodes.filterMap (Document.parameterNode? document) = nodes
  := by
  rw [List.filterMap_congr (g := some)]
  · apply List.filterMap_some
  · intro node hnode
    rw [Document.parameterNode?, h node hnode]

/-- A path has no shared parameters when they are written out. -/
theorem sharedParameters_unsharedPath (shared : List Node) (item : Json.Members) :
  sharedParameters (item.filterMap (unsharedMember? document shared)) = []
  := by
  unfold sharedParameters
  split
  · next parameters hparameters =>
    obtain ⟨member, -, hmember⟩ := List.mem_filterMap.mp (Named.mem_of_get? hparameters)
    have hverb : isVerbKey "parameters" = false := by decide
    grind [unsharedMember?, Json.asArray?]
  · rfl

section

variable (hshared : ∀ entry ∈ Json.membersOf (document.field? "parameters"),
  Node.reference? entry.2 = none)

include hshared

/-- Written out, parameters are without references when this goes for the ones at the top level. -/
theorem reference?_of_mem_unsharedParameters {shared : List Node} {own? : Option Json} :
  ∀ node ∈ unsharedParameters document shared own?, node.reference? = none
  := by
  intro node hnode
  obtain ⟨entry, -, hentry⟩ := List.mem_filterMap.mp hnode
  rw [Document.parameterNode?] at hentry
  split at hentry
  · next hreference =>
    obtain rfl := Option.some.inj hentry
    apply hreference
  · apply hshared _ (Named.mem_of_get? hentry)

/-- The method for an operation is the same when its parameters are written out. -/
theorem method_unsharedOperation (hfor : builder.IsFor document options)
    {members : Json.Members} (hmembers : (Json.object members).isWellFormed = true)
    {shared : List Node} {method : Method}
    (h : (builder.method path shared verb (.object members)).outcome = .ok method) :
  (builder.method path [] verb (unsharedOperation document shared (.object members))).outcome =
    .ok method
  := by
  obtain ⟨operation, hoperation, parameters, hparameters, hreplies⟩ :=
    outcome_method_eq_ok_iff.mp h
  have hnames := (Json.isWellFormed_object_iff.mp hmembers).1
  have hown : operation.parameters = Json.itemsOf (members.get? "parameters") :=
    (Operation.eq_of_ofJson hmembers hoperation).1
  let written := unsharedParameters document shared (members.get? "parameters")
  have hnodes :
      builder.parameterNodes (written ++ []) =
        builder.parameterNodes (operation.parameters ++ shared) := by
    rw [hfor.parameterNodes_eq, hfor.parameterNodes_eq, List.append_nil, hown,
      filterMap_parameterNode?_eq (reference?_of_mem_unsharedParameters hshared)]
    rfl
  apply outcome_method_eq_ok_iff.mpr
  use { operation with parameters := written }, Operation.ofJson_insert hnames hoperation written
  refine ⟨parameters, ?_, hreplies⟩
  rw [outcome_parameters] at hparameters ⊢
  rw [hnodes]
  apply hparameters

/-- The methods for a member of a path are the same when parameters are written out. -/
theorem methodsOfMember_unshared (hfor : builder.IsFor document options)
    {shared : List Node} {member : String × Json} (hmember : member.2.isWellFormed = true)
    (hoperation : isVerbKey member.1 = true → ∃ members, member.2 = .object members)
    {methods : List Method}
    (h : (builder.methodsOfMember path shared member).outcome = .ok methods) :
  Outcome.flatCollect (fun member => (builder.methodsOfMember path [] member).outcome)
      (unsharedMember? document shared member).toList = .ok methods
  := by
  obtain ⟨key, value⟩ := member
  rw [unsharedMember?]
  by_cases hverb : isVerbKey key = true
  · obtain ⟨members, rfl⟩ := hoperation hverb
    simp only [hverb, if_true, Option.toList_some, Outcome.flatCollect_singleton]
    rw [isVerbKey_eq_isSome] at hverb
    obtain ⟨verb, hverb⟩ := Option.isSome_iff_exists.mp hverb
    simp only [methodsOfMember, hverb, Report.outcome_bind, Report.outcome_pure,
      Outcome.bind_eq_ok_iff] at h ⊢
    obtain ⟨method, hmethod, hmethods⟩ := h
    use method, method_unsharedOperation hshared hfor hmember hmethod
  · have hnone : Verb.ofKey? key = none := by
      rw [isVerbKey_eq_isSome] at hverb
      simpa using hverb
    obtain rfl : [] = methods := by simpa [methodsOfMember, hnone] using h
    rw [if_neg hverb]
    split
    · rfl
    · simp [methodsOfMember, hnone, Outcome.flatCollect_singleton]

/-- The methods under a path are the same when parameters are written out. -/
theorem methodsOfPath_unsharedPath (hfor : builder.IsFor document options)
    {entry : String × Json} (hentry : entry.2.isWellFormed = true)
    (hoperations : ∀ site ∈ sitesOfPath entry, ∃ members, site.operation = .object members)
    {methods : List Method} (h : (builder.methodsOfPath entry).outcome = .ok methods) :
  (builder.methodsOfPath (unsharedPath document entry)).outcome = .ok methods
  := by
  obtain ⟨path, value⟩ := entry
  cases value with
  | object item =>
    simp only [unsharedPath, Json.mapMembers, methodsOfPath] at h ⊢
    by_cases hextension : isExtension path
    · simpa only [hextension, if_true] using h
    · simp only [hextension, Bool.false_eq_true, if_false, outcome_flatCollect,
        sharedParameters_unsharedPath] at h ⊢
      rw [List.filterMap_eq_flatMap_toList, Outcome.flatCollect_flatMap]
      apply Outcome.flatCollect_eq_ok_of_forall _ h
      intro member hmember methods
      apply methodsOfMember_unshared hshared hfor
      · apply (Json.isWellFormed_object_iff.mp hentry).2 member hmember
      · intro hverb
        apply hoperations ⟨path, .object item, member.1, member.2⟩
        rw [sitesOfPath, if_neg hextension]
        apply List.mem_filterMap.mpr
        use member, hmember, if_pos hverb
  | null | bool | number | string | array => apply h

end

end Builder

/-- The model of a document stays the same when the parameters of all operations are written out,
provided that all operations are objects and that no parameter at the top level is a reference. -/
theorem buildModel_unshared {document : Json} {options : ModelOptions} {model : Model}
    (hdocument : document.isWellFormed = true)
    (hoperations : ∀ site ∈ sites document, ∃ members, site.operation = .object members)
    (hshared : ∀ entry ∈ Json.membersOf (document.field? "parameters"),
      Node.reference? entry.2 = none)
    (h : (buildModel document options).outcome = .ok model) :
  (buildModel (unshared document) options).outcome = .ok model
  := by
  obtain ⟨hchecked, envelope, henvelope, hmodel⟩ := outcome_buildModel_eq_ok_iff.mp h
  obtain ⟨definitions, hdefinitions, methods, hmethods, rfl⟩ :=
    Builder.outcome_model_eq_ok_iff.mp hmodel
  have hfor := @isFor_ofEnvelope _ _ options hdocument henvelope
  obtain ⟨-, -, hpaths⟩ := eq_membersOf_of_envelope hdocument henvelope
  let written := envelope.mapPaths (unsharedPath document)
  -- The methods are built with other paths, which nothing but the model itself looks at.
  have hbuilder : (Builder.ofEnvelope written options).methodsOfPath =
      (Builder.ofEnvelope envelope options).methodsOfPath := rfl
  have hwritten := Envelope.ofMembers_mapPaths (f := unsharedPath document) document
  rw [henvelope] at hwritten
  apply outcome_buildModel_eq_ok_iff.mpr
  rw [unshared_eq, checkVersion_mapPaths]
  use hchecked, written, hwritten
  apply Builder.outcome_model_eq_ok_iff.mpr
  refine ⟨definitions, hdefinitions, methods, ?_, rfl⟩
  change Outcome.flatCollect _ (envelope.paths.map (unsharedPath document)) = _
  rw [hbuilder, Outcome.flatCollect_map]
  apply Outcome.flatCollect_eq_ok_of_forall _ hmethods
  intro entry hentry found
  replace hentry : entry ∈ Json.membersOf (document.field? "paths") := hpaths ▸ hentry
  apply Builder.methodsOfPath_unsharedPath hshared hfor
  · apply Json.isWellFormed_of_mem_membersOf_field? hdocument hentry
  · intro site hsite
    apply hoperations site (List.mem_flatMap.mpr ⟨entry, hentry, hsite⟩)

/-- The pets take a parameter by reference, one that is unknown, one that is left out, and one that
the path shares. -/
theorem buildModel_unshared_petShop :
  ∃ model, (buildModel petShop).outcome = .ok model ∧
    (buildModel (unshared petShop)).outcome = .ok model ∧
    (sites (unshared petShop)).map (fun site => site.item.field? "parameters") = [none] ∧
    (sites (unshared petShop)).map (fun site => site.operation.field? "parameters") =
      [some (.array [
        .object [("name", .string "limit")],
        .object [("name", .string "trace"), ("x-exclude-from-bindings", .bool true)],
        .object [("name", .string "owner")]])]
  := by
  have hdocument : petShop.isWellFormed = true := by decide
  have hoperations : ∀ site ∈ sites petShop, ∃ members, site.operation = .object members := by
    intro site hsite
    obtain rfl := List.mem_singleton.mp hsite
    exact ⟨_, rfl⟩
  have hshared : ∀ entry ∈ Json.membersOf (petShop.field? "parameters"),
      Node.reference? entry.2 = none := by
    decide
  have h : (buildModel petShop).outcome = .ok _ := rfl
  exact ⟨_, h, buildModel_unshared hdocument hoperations hshared h, rfl, rfl⟩

end Document

end ApiTypes
