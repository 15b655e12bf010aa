import ApiTypes.Proofs.Resolve.Composition
import ApiTypes.Proofs.Resolve.Cycles
import Mathlib.Data.List.MinMax
import Mathlib.Order.Nat

/-!
# The height of the merge expansion

In the merge expansion of a node, every reference in an `allOf` gives way to the definitions of
its name, at no cost in levels.  `context.HasExpansionHeight node height` says that the expansion
has so many levels: one for the node, and those of the tallest among the nodes in
`context.below node`.

A node that reaches no cycle of merges has exactly one such height.  It is the least limit of
depth under which the node resolves, and the type that the node resolves to has at most that many
levels: `Resolver.resolve_ok_iff_expansionHeight_le`.
-/

namespace ApiTypes

namespace Context

/-- The nodes that an entry of `allOf` stands for: all definitions of the name that it refers to,
or else the entry itself. -/
def entryNodes (context : Context) (entry : Node) : List Node :=
  match entry.reference? with
  | some reference => context.matching (lastSegment reference)
  | none => [entry]

/-- The nodes one level below a node in its merge expansion. -/
def below (context : Context) (node : Node) : List Node :=
  match classify node with
  | .wrapper inner => [inner]
  | .array items => [items]
  | .dictionary values => [values]
  | .object =>
    node.allOf.flatMap context.entryNodes ++ (node.properties?.getD []).map Prod.snd
  | _ => []

/-- The merge expansion of a node has so many levels: one more than the greatest height among the
nodes below, zero if there are none. -/
inductive HasExpansionHeight (context : Context) : Node → Nat → Prop
  | intro {node : Node} {height : Node → Nat}
      (h : ∀ inner ∈ context.below node, HasExpansionHeight context inner (height inner)) :
      HasExpansionHeight context node (1 + ((context.below node).map height).foldr max 0)

variable {context : Context} {node inner : Node}

theorem mem_entryNodes_iff {entry : Node} :
  inner ∈ context.entryNodes entry ↔
    (entry.reference? = none ∧ inner = entry) ∨
    ∃ reference, entry.reference? = some reference ∧
      inner ∈ context.matching (lastSegment reference)
  := by
  unfold entryNodes
  cases entry.reference? with
  | none => simp
  | some reference => simp

theorem below_of_object (h : classify node = .object) :
  context.below node =
    node.allOf.flatMap context.entryNodes ++ (node.properties?.getD []).map Prod.snd
  := by
  rw [below, h]

/-- A node that is held is below, at the same level as the definitions that are merged. -/
theorem mem_below_of_holds (h : node.Holds inner) :
  inner ∈ context.below node
  := by
  cases h with
  | wrapper h => simp [below, h]
  | items h => simp [below, h]
  | values h => simp [below, h]
  | entry h hentry hplain =>
    rw [below_of_object h]
    apply List.mem_append_left
    apply List.mem_flatMap_of_mem hentry
    apply mem_entryNodes_iff.mpr
    left
    use hplain
  | @property name h hproperty =>
    rw [below_of_object h]
    apply List.mem_append_right
    apply List.mem_map.mpr
    use (name, inner), hproperty

theorem mem_below_of_inherits {name : String} (h : node.Inherits name)
    (hdefinition : inner ∈ context.matching name) :
  inner ∈ context.below node
  := by
  obtain ⟨hshape, entry, hentry, reference, hreference, rfl⟩ := h
  rw [below_of_object hshape]
  apply List.mem_append_left
  apply List.mem_flatMap_of_mem hentry
  apply mem_entryNodes_iff.mpr
  right
  use reference, hreference

/-- A node below is held, or is a definition of a name that is inherited from. -/
theorem holds_or_inherits_of_mem_below (h : inner ∈ context.below node) :
  node.Holds inner ∨ ∃ name, node.Inherits name ∧ inner ∈ context.matching name
  := by
  cases hshape : classify node with
  | wrapper =>
    obtain rfl : inner = _ := by simpa [below, hshape] using h
    left
    apply Node.Holds.wrapper hshape
  | array =>
    obtain rfl : inner = _ := by simpa [below, hshape] using h
    left
    apply Node.Holds.items hshape
  | dictionary =>
    obtain rfl : inner = _ := by simpa [below, hshape] using h
    left
    apply Node.Holds.values hshape
  | object =>
    rw [below_of_object hshape] at h
    rcases List.mem_append.mp h with h | h
    · obtain ⟨entry, hentry, hinner⟩ := List.mem_flatMap.mp h
      rcases mem_entryNodes_iff.mp hinner with ⟨hplain, rfl⟩ | ⟨reference, hreference, hmatching⟩
      · left
        apply Node.Holds.entry hshape hentry hplain
      · right
        use lastSegment reference
        exact ⟨⟨hshape, entry, hentry, reference, hreference, rfl⟩, hmatching⟩
    · obtain ⟨⟨name, value⟩, hproperty, rfl⟩ := List.mem_map.mp h
      left
      apply Node.Holds.property hshape hproperty
  | reference | enumeration | primitive | any => simp [below, hshape] at h

namespace HasExpansionHeight

variable {height other : Nat}

/-- A node has at most one height. -/
theorem unique (h : context.HasExpansionHeight node height)
    (hother : context.HasExpansionHeight node other) :
  height = other
  := by
  induction h generalizing other with
  | @intro node heights h ih =>
    obtain ⟨hothers⟩ := hother
    congr 2
    apply List.map_congr_left
    intro inner hinner
    apply ih inner hinner (hothers inner hinner)

theorem one_le (h : context.HasExpansionHeight node height) :
  1 ≤ height
  := by
  cases h
  apply Nat.le_add_right

/-- A node below has a smaller height. -/
theorem exists_lt_of_mem_below (h : context.HasExpansionHeight node height)
    (hinner : inner ∈ context.below node) :
  ∃ lower < height, context.HasExpansionHeight inner lower
  := by
  obtain ⟨h⟩ := h
  refine ⟨_, ?_, h inner hinner⟩
  apply Nat.lt_one_add_iff.mpr
  apply List.le_max_of_le (List.mem_map_of_mem hinner) (Nat.le_refl _)

/-- A node whose nodes below have bounded heights has a height one greater at most. -/
theorem exists_le_of_forall_mem_below {bound : Nat}
    (h : ∀ inner ∈ context.below node, ∃ height ≤ bound, context.HasExpansionHeight inner height) :
  ∃ height ≤ bound + 1, context.HasExpansionHeight node height
  := by
  choose! height hbound hheight using h
  use 1 + ((context.below node).map height).foldr max 0
  constructor
  · rw [Nat.add_comm]
    apply Nat.succ_le_succ
    apply List.max_le_of_forall_le
    intro level hlevel
    obtain ⟨inner, hinner, rfl⟩ := List.mem_map.mp hlevel
    apply hbound inner hinner
  · apply HasExpansionHeight.intro hheight

end HasExpansionHeight

end Context

/-! ### The levels of a type -/

namespace Descriptor

mutual

/-- The number of levels of a type, counted through elements and properties. -/
def levels : Descriptor → Nat
  | .array _ element => element.levels + 1
  | .dictionary _ element => element.levels + 1
  | .object _ properties => listLevels properties + 1
  | _ => 1

/-- The greatest number of levels among types, zero if there are none. -/
def listLevels : List Descriptor → Nat
  | [] => 0
  | type :: rest => max type.levels (listLevels rest)

end

theorem listLevels_le_iff {types : List Descriptor} {bound : Nat} :
  listLevels types ≤ bound ↔ ∀ type ∈ types, type.levels ≤ bound
  := by
  induction types with
  | nil => simp [listLevels]
  | cons first rest ih => rw [listLevels, Nat.max_le, ih, List.forall_mem_cons]

@[simp]
theorem levels_attach (name : String) (isRequired : Bool) (type : Descriptor) :
  (type.attach name isRequired).levels = type.levels
  := by
  cases type <;> simp [attach, mapHeader, levels]

/-- A property has fewer levels than the type that it belongs to. -/
theorem levels_lt_of_mem_properties {type property : Descriptor}
    (h : property ∈ type.properties) :
  property.levels < type.levels
  := by
  cases type with
  | object header properties =>
    rw [levels]
    apply Nat.lt_succ_of_le
    apply listLevels_le_iff.mp (Nat.le_refl _) property h
  | reference | enumeration | primitive | array | dictionary | any => simp [properties] at h

end Descriptor

namespace Resolver

variable {resolver : Resolver} {budget : Nat} {merging : List String} {node : Node}
  {type : Descriptor}

/-! ### Levels that a resolution takes -/

/-- A node that resolves has a height that its budget allows for. -/
theorem exists_hasExpansionHeight_of_typeWithin
    (h : resolver.typeWithin budget merging node = .ok type) :
  ∃ height ≤ budget, resolver.context.HasExpansionHeight node height
  := by
  induction budget generalizing merging node type with
  | zero => simp at h
  | succ budget ih =>
    apply Context.HasExpansionHeight.exists_le_of_forall_mem_below
    intro inner hinner
    rcases Context.holds_or_inherits_of_mem_below hinner with hholds | ⟨name, hname, hdefinition⟩
    · obtain ⟨innerType, htype⟩ := exists_typeWithin_of_holds h hholds
      apply ih htype
    · obtain ⟨base, hbase⟩ := exists_typeWithin_of_inherits h hname hdefinition
      apply ih hbase

/-- A node is not cut off when its budget allows for its height. -/
theorem typeWithin_ne_depthExceeded_of_height_le {height : Nat}
    (h : resolver.context.HasExpansionHeight node height) (hle : height ≤ budget) (limit : Nat) :
  resolver.typeWithin budget merging node ≠ .error (.depthExceeded limit)
  := by
  induction budget generalizing merging node height with
  | zero =>
    have := h.one_le
    omega
  | succ budget ih =>
    -- The node that is cut off would be below, where a smaller budget is enough.
    have hbelow {inner : Node} (hinner : inner ∈ resolver.context.below node)
        (names : List String) :
        resolver.typeWithin budget names inner ≠ .error (.depthExceeded limit) := by
      obtain ⟨lower, hlower, hheight⟩ := h.exists_lt_of_mem_below hinner
      apply ih hheight
      omega
    intro herror
    rcases typeWithin_succ_eq_error herror with ⟨inner, hholds, hinner⟩ | ⟨name, -, -, hcycle⟩ |
      ⟨name, hname, -, definition, hdefinition, hfailed⟩
    · apply hbelow (Context.mem_below_of_holds hholds) _ hinner
    · simp at hcycle
    · apply hbelow (Context.mem_below_of_inherits hname hdefinition) _ hfailed

/-- What a part contributes to an object has no more levels than the types of nodes have. -/
theorem levels_le_of_mem_contributions {context : Context}
    {visit : List String → Node → Except ResolveError Descriptor} {bound : Nat}
    (hvisit : ∀ merging inner type, visit merging inner = .ok type → type.levels ≤ bound)
    {part : Part} {found : List Descriptor}
    (h : contributions context visit merging part = .ok found) :
  ∀ property ∈ found, property.levels ≤ bound
  := by
  have hproperties {merging : List String} {inner : Node} {base : Descriptor}
      (hbase : visit merging inner = .ok base) :
      ∀ property ∈ base.properties, property.levels ≤ bound := by
    intro property hproperty
    apply Nat.le_of_lt
    apply Nat.lt_of_lt_of_le (Descriptor.levels_lt_of_mem_properties hproperty)
    apply hvisit _ _ _ hbase
  intro property hproperty
  cases part with
  | node inner role =>
    obtain ⟨type, htype, rfl⟩ := Outcome.map_eq_ok_iff.mp h
    cases role with
    | whole =>
      obtain rfl := List.mem_singleton.mp hproperty
      apply hvisit _ _ _ htype
    | inherited => apply hproperties htype property hproperty
    | property name isRequired =>
      obtain rfl := List.mem_singleton.mp hproperty
      rw [Descriptor.levels_attach]
      apply hvisit _ _ _ htype
  | merge name =>
    rw [contributions] at h
    split at h
    · simp at h
    · obtain ⟨definition, -, first, hfirst, hmem⟩ :=
        Outcome.exists_mem_of_mem_flatCollect h hproperty
      obtain ⟨base, hbase, rfl⟩ := Outcome.map_eq_ok_iff.mp hfirst
      apply hproperties hbase property hmem

/-- A type has no more levels than its node may take. -/
theorem levels_le_of_typeWithin (h : resolver.typeWithin budget merging node = .ok type) :
  type.levels ≤ budget
  := by
  induction budget generalizing merging node type with
  | zero => simp at h
  | succ budget ih =>
    cases hshape : classify node with
    | wrapper inner =>
      rw [typeWithin_succ_of_wrapper _ hshape] at h
      apply Nat.le_succ_of_le (ih h)
    | array items =>
      rw [typeWithin_succ_of_array _ hshape] at h
      obtain ⟨element, helement, rfl⟩ := Outcome.map_eq_ok_iff.mp h
      apply Nat.succ_le_succ (ih helement)
    | dictionary values =>
      rw [typeWithin_succ_of_dictionary _ hshape] at h
      obtain ⟨element, helement, rfl⟩ := Outcome.map_eq_ok_iff.mp h
      apply Nat.succ_le_succ (ih helement)
    | object =>
      rw [typeWithin_succ_of_object _ hshape] at h
      obtain ⟨found, hfound, rfl⟩ := Outcome.map_eq_ok_iff.mp h
      apply Nat.succ_le_succ
      apply Descriptor.listLevels_le_iff.mpr
      intro property hproperty
      obtain ⟨part, -, first, hfirst, hmem⟩ :=
        Outcome.exists_mem_of_mem_flatCollect hfound hproperty
      apply levels_le_of_mem_contributions (fun _ _ _ => ih) hfirst property hmem
    | reference | enumeration | primitive | any =>
      obtain ⟨found, -, rfl⟩ := Outcome.map_eq_ok_iff.mp h
      simp [Descriptor.assemble, hshape, Descriptor.levels]

variable {context : Context}

/-- A node that reaches no cycle of merges resolves, unless it is cut off. -/
theorem exists_typeUnder_of_isAcyclicFrom (hacyclic : context.IsAcyclicFrom node) {limit : Nat}
    (h : typeUnder context [] node limit ≠ .error (.depthExceeded limit)) :
  ∃ type, typeUnder context [] node limit = .ok type
  := by
  have hdetects :
      (Resolver.mk context limit).DetectsCycles node (typeUnder context [] node limit) :=
    detectsCycles_typeWithin Context.allLead_nil
  rcases hdetects.1 hacyclic with hok | hcut
  · apply hok
  · absurd hcut
    apply h

/-- A node that reaches no cycle of merges has a height. -/
theorem exists_hasExpansionHeight (hacyclic : context.IsAcyclicFrom node) :
  ∃ height, context.HasExpansionHeight node height
  := by
  let bound := (context.unmerged []).card * context.height + node.height
  have hcut : typeUnder context [] node bound ≠ .error (.depthExceeded bound) := by
    apply typeWithin_ne_depthExceeded
    apply Nat.le_refl
  obtain ⟨type, htype⟩ := exists_typeUnder_of_isAcyclicFrom hacyclic hcut
  obtain ⟨height, -, hheight⟩ := exists_hasExpansionHeight_of_typeWithin htype
  use height, hheight

/-- A node that reaches no cycle of merges resolves under the limits of its height or more. -/
theorem exists_typeUnder_iff_height_le (hacyclic : context.IsAcyclicFrom node) {height limit : Nat}
    (hheight : context.HasExpansionHeight node height) :
  (∃ type, typeUnder context [] node limit = .ok type) ↔ height ≤ limit
  := by
  constructor
  · rintro ⟨type, htype⟩
    obtain ⟨other, hother, hothers⟩ := exists_hasExpansionHeight_of_typeWithin htype
    rw [hheight.unique hothers]
    apply hother
  · intro hlimit
    apply exists_typeUnder_of_isAcyclicFrom hacyclic
    apply typeWithin_ne_depthExceeded_of_height_le hheight hlimit

/-- A node that reaches no cycle of merges takes as many levels as its merge expansion has: it
resolves under every limit of that height or more, is cut off under every smaller one, and
resolves to a type with no more levels. -/
theorem resolve_ok_iff_expansionHeight_le (context : Context) (node : Node)
    (hacyclic : context.IsAcyclicFrom node) :
  ∃ height, (∀ other, context.HasExpansionHeight node other ↔ other = height) ∧
    ∀ limit,
      ((∃ type, ((Resolver.mk context limit).resolve node).outcome = .ok type) ↔
        height ≤ limit) ∧
      (limit < height →
        ((Resolver.mk context limit).resolve node).outcome = .error (.depthExceeded limit)) ∧
      ∀ type, ((Resolver.mk context limit).resolve node).outcome = .ok type →
        type.levels ≤ height
  := by
  obtain ⟨height, hheight⟩ := exists_hasExpansionHeight hacyclic
  use height
  constructor
  · intro other
    constructor
    · intro hother
      apply hother.unique hheight
    · rintro rfl
      apply hheight
  · intro limit
    have houtcome : ((Resolver.mk context limit).resolve node).outcome =
        typeUnder context [] node limit := outcome_resolve _ node
    have hok : (∃ type, typeUnder context [] node limit = .ok type) ↔ height ≤ limit :=
      exists_typeUnder_iff_height_le hacyclic hheight
    rw [houtcome]
    refine ⟨hok, ?_, ?_⟩
    · intro hlimit
      by_contra hcut
      have := hok.mp (exists_typeUnder_of_isAcyclicFrom hacyclic hcut)
      omega
    · intro type htype
      -- The type is the one under the least limit, where its node may take `height` levels.
      obtain ⟨least, hleast⟩ :=
        (exists_typeUnder_iff_height_le hacyclic hheight).mpr (Nat.le_refl height)
      have hsame : typeUnder context [] node limit = typeUnder context [] node height := by
        apply typeUnder_eq_of_le (hok.mp ⟨type, htype⟩)
        simp [hleast]
      obtain rfl : type = least := by simpa [htype, hleast] using hsame
      apply levels_le_of_typeWithin hleast

/-- A wrapper around an object that inherits from two definitions and has an array of whatever as
a property. -/
def wrappedHeir : Node :=
  .object [("schema", .object [
    ("allOf", .array [.object [("$ref", .string "#/definitions/Base")]]),
    ("properties", .object [("rows", .object [("type", .string "array")])])])]

theorem resolve_ok_iff_expansionHeight_le_wrappedHeir :
  household.IsAcyclicFrom wrappedHeir ∧ household.HasExpansionHeight wrappedHeir 4 ∧
    ((Resolver.mk household 3).resolve wrappedHeir).outcome = .error (.depthExceeded 3) ∧
    ∃ type, ((Resolver.mk household 4).resolve wrappedHeir).outcome = .ok type ∧ type.levels ≤ 4
  := by
  have hcut : ((Resolver.mk household 3).resolve wrappedHeir).outcome =
      .error (.depthExceeded 3) := rfl
  have hok : ((Resolver.mk household 4).resolve wrappedHeir).outcome = .ok _ := rfl
  have hacyclic : household.IsAcyclicFrom wrappedHeir := by
    intro name hreaches
    rw [outcome_resolve] at hok
    apply not_isCyclic_of_reaches hok hreaches
  obtain ⟨height, hheight, hlimit⟩ :=
    resolve_ok_iff_expansionHeight_le household wrappedHeir hacyclic
  have hle : height ≤ 4 := (hlimit 4).1.mp ⟨_, hok⟩
  have hlt : ¬ height ≤ 3 := by
    intro hle
    obtain ⟨type, htype⟩ := (hlimit 3).1.mpr hle
    rw [hcut] at htype
    simp at htype
  obtain rfl : height = 4 := by omega
  exact ⟨hacyclic, (hheight 4).mpr rfl, hcut, _, hok, (hlimit 4).2.2 _ hok⟩

end Resolver

end ApiTypes
