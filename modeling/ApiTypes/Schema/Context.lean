import ApiTypes.Schema.Node

/-!
# Definitions

A `Context` holds the named definitions that references lead to, in order.  Several may
share a name: `Context.matching` gives all of them and `Context.get?` the first.
-/

namespace ApiTypes

/-- The named definitions of a document, in order. -/
structure Context where
  entries : List (String × Node)

namespace Context

/-- The context without definitions. -/
def empty : Context := ⟨[]⟩

/-- The definitions of a document, none when they are not an object. -/
def ofDocument (document : Json) : Context :=
  match document.field? "definitions" with
  | some (.object members) => ⟨members⟩
  | _ => empty

/-- The names of the definitions, in order. -/
def names (context : Context) : List String :=
  context.entries.map Prod.fst

/-- The definitions of a name, in order. -/
def matching (context : Context) (name : String) : List Node :=
  (context.entries.filter (·.1 == name)).map Prod.snd

/-- The first definition of a name. -/
def get? (context : Context) (name : String) : Option Node :=
  (context.matching name).head?

/-- The first definition of a name is the one that a look-up finds. -/
theorem get?_eq (context : Context) (name : String) :
  context.get? name = Named.get? context.entries name
  := by
  obtain ⟨entries⟩ := context
  induction entries with
  | nil => rfl
  | cons entry rest ih =>
    obtain ⟨other, node⟩ := entry
    simp only [get?, matching] at ih
    by_cases h : other = name
    · simp [get?, matching, Named.get?_cons, h]
    · simp [get?, matching, Named.get?_cons, h, Ne.symm h, ih]

theorem mem_matching {context : Context} {name : String} {node : Node} :
  node ∈ context.matching name ↔ (name, node) ∈ context.entries
  := by
  simp [matching]

theorem matching_eq_nil_iff {context : Context} {name : String} :
  context.matching name = [] ↔ name ∉ context.names
  := by
  simp only [matching, names, List.map_eq_nil_iff, List.filter_eq_nil_iff, List.mem_map]
  grind

theorem get?_eq_none_iff {context : Context} {name : String} :
  context.get? name = none ↔ name ∉ context.names
  := by
  rw [get?, List.head?_eq_none_iff, matching_eq_nil_iff]

end Context

end ApiTypes
