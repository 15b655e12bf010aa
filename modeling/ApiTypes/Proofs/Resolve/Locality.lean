import ApiTypes.Proofs.Resolve.Merging

/-!
# Locality in the definitions

What a node resolves to depends on the definitions of the names that it reaches, and on no
others: `Resolver.resolve_eq_of_matching_eq`.  A reference outside `allOf` reaches nothing, so
the definition that it names can be changed or left out, and definitions of different names can
trade places.
-/

namespace ApiTypes

open Relation

namespace Node

/-- A node merges a name at the top or within a node that it holds. -/
theorem merges_iff {node : Node} {name : String} :
  node.Merges name ↔
    .merge name ∈ node.parts ∨ ∃ inner role, .node inner role ∈ node.parts ∧ inner.Merges name
  := by
  rw [← inherits_iff_mem_parts]
  constructor
  · rintro ⟨object, hwithin, hobject⟩
    rcases ReflTransGen.cases_head_iff.mp hwithin with rfl | ⟨inner, hholds, hrest⟩
    · left
      apply hobject
    · right
      obtain ⟨role, hpart⟩ := hholds.exists_mem_parts
      use inner, role, hpart, object, hrest
  · rintro (hname | ⟨inner, role, hpart, hinner⟩)
    · apply hname.merges
    · apply (Holds.of_mem_parts hpart).merges hinner

end Node

namespace Context

variable {context other : Context} {name : String}

theorem matching_append (before after : List (String × Node)) (name : String) :
  matching ⟨before ++ after⟩ name = matching ⟨before⟩ name ++ matching ⟨after⟩ name
  := by
  simp [matching]

theorem matching_eq_nil_of_forall_ne {entries : List (String × Node)}
    (h : ∀ entry ∈ entries, entry.1 ≠ name) :
  matching ⟨entries⟩ name = []
  := by
  simpa [matching, List.filter_eq_nil_iff] using h

/-- Definitions of other names can be put in the place of definitions of other names. -/
theorem matching_replaced {before old new after : List (String × Node)}
    (h : ∀ entry ∈ old ++ new, entry.1 ≠ name) :
  matching ⟨before ++ old ++ after⟩ name = matching ⟨before ++ new ++ after⟩ name
  := by
  have hold : matching ⟨old⟩ name = [] :=
    matching_eq_nil_of_forall_ne fun entry hentry => h entry (List.mem_append_left _ hentry)
  have hnew : matching ⟨new⟩ name = [] :=
    matching_eq_nil_of_forall_ne fun entry hentry => h entry (List.mem_append_right _ hentry)
  simp only [matching_append, hold, hnew]

/-- Neighbouring definitions of different names can trade places. -/
theorem matching_swapped {before after : List (String × Node)} {first second : String × Node}
    (h : first.1 ≠ second.1) (name : String) :
  matching ⟨before ++ [first, second] ++ after⟩ name =
    matching ⟨before ++ [second, first] ++ after⟩ name
  := by
  have hpair : matching ⟨[first, second]⟩ name = matching ⟨[second, first]⟩ name := by
    by_cases hfirst : first.1 = name
    · have hsecond : second.1 ≠ name := hfirst ▸ h.symm
      simp [matching, hfirst, hsecond]
    · simp [matching, hfirst, List.filter_cons]
  simp only [matching_append, hpair]

end Context

namespace Resolver

variable {resolver other : Resolver} {budget : Nat} {merging : List String} {node : Node}

/-- A node has the same outcome with the same definitions of the names that it reaches,
whatever the names that are being merged. -/
theorem typeWithin_eq_of_matching_eq (hdepth : resolver.maxDepth = other.maxDepth)
    (h : ∀ name, resolver.context.Reaches node name →
      resolver.context.matching name = other.context.matching name) :
  resolver.typeWithin budget merging node = other.typeWithin budget merging node
  := by
  induction budget generalizing merging node with
  | zero => rw [typeWithin_zero, typeWithin_zero, hdepth]
  | succ budget ih =>
    apply (agreesUnless_typeWithin_succ (P := fun _ => False) _ _).eq
    · intro inner hinner
      left
      apply ih
      intro name hname
      apply h name (.of_holds hinner hname)
    · intro name hname
      have hmatching := h name (.of_merges hname.merges)
      by_cases hmem : name ∈ merging
      · rw [contributions, if_pos hmem, contributions, if_pos hmem]
        apply Outcome.AgreesUnless.refl
      · apply agreesUnless_contributions_merge hmem hmem hmatching
        intro definition hdefinition
        left
        apply ih
        intro next hnext
        apply h next (.of_inherits hname hdefinition hnext)

/-- A node resolves in the same way, to a type or to an error, under all definitions that are
the same for the names that it reaches.  So definitions of names that it does not reach can be
added, left out and changed, and definitions of different names can trade places. -/
theorem resolve_eq_of_matching_eq (context : Context) (node : Node) (maxDepth : Nat) :
  (∀ other : Context,
    (∀ name, context.Reaches node name → context.matching name = other.matching name) →
    ((Resolver.mk context maxDepth).resolve node).outcome =
      ((Resolver.mk other maxDepth).resolve node).outcome) ∧
  (∀ before old new after, context.entries = before ++ old ++ after →
    (∀ entry ∈ old ++ new, ¬ context.Reaches node entry.1) →
    ((Resolver.mk context maxDepth).resolve node).outcome =
      ((Resolver.mk ⟨before ++ new ++ after⟩ maxDepth).resolve node).outcome) ∧
  (∀ before first second after, context.entries = before ++ [first, second] ++ after →
    first.1 ≠ second.1 →
    ((Resolver.mk context maxDepth).resolve node).outcome =
      ((Resolver.mk ⟨before ++ [second, first] ++ after⟩ maxDepth).resolve node).outcome)
  := by
  have hlocal (other : Context)
      (h : ∀ name, context.Reaches node name → context.matching name = other.matching name) :
      ((Resolver.mk context maxDepth).resolve node).outcome =
        ((Resolver.mk other maxDepth).resolve node).outcome := by
    rw [outcome_resolve, outcome_resolve]
    apply typeWithin_eq_of_matching_eq
    · rfl
    · apply h
  obtain ⟨entries⟩ := context
  refine ⟨hlocal, ?_, ?_⟩
  · rintro before old new after rfl hentries
    apply hlocal
    intro name hname
    apply Context.matching_replaced
    rintro entry hentry rfl
    apply hentries entry hentry hname
  · rintro before first second after rfl hne
    apply hlocal
    intro name _
    apply Context.matching_swapped hne

/-- A definition with a property that refers to another definition. -/
def referring : String × Node :=
  ("A", .object [("properties",
    .object [("other", .object [("$ref", .string "#/definitions/B")])])])

/-- A definition that merges itself. -/
def selfMerging : String × Node :=
  ("B", Node.heir "#/definitions/B")

/-- A definition is not reached through a property that refers to it. -/
theorem not_reaches_referring :
  ¬ Context.Reaches ⟨[referring, selfMerging]⟩ (Node.heir "#/definitions/A") "B"
  := by
  have hreference (name : String) :
      ¬ Node.Merges (.object [("$ref", .string "#/definitions/B")]) name := by
    have hparts : Node.parts (.object [("$ref", .string "#/definitions/B")]) = [] := rfl
    rw [Node.merges_iff, hparts]
    simp
  have hreferring (name : String) : ¬ Node.Merges referring.2 name := by
    have hparts : Node.parts referring.2 =
        [.node (.object [("$ref", .string "#/definitions/B")]) (.property "other" false)] := rfl
    rw [Node.merges_iff, hparts]
    simp [hreference]
  have hheir (name : String) (h : Node.Merges (Node.heir "#/definitions/A") name) : name = "A" := by
    have hparts : Node.parts (Node.heir "#/definitions/A") = [.merge "A"] := rfl
    rw [Node.merges_iff, hparts] at h
    simpa using h
  rintro ⟨first, hfirst, hrest⟩
  obtain rfl := hheir first hfirst
  rcases ReflTransGen.cases_head_iff.mp hrest with
    hsame | ⟨next, ⟨definition, hdefinition, hnext⟩, -⟩
  · simp at hsame
  · obtain rfl : definition = referring.2 := by
      simpa [Context.matching, referring, selfMerging] using hdefinition
    apply hreferring next hnext

theorem resolve_eq_of_matching_eq_referring :
  ((Resolver.mk ⟨[referring, selfMerging]⟩ 8).resolve (Node.heir "#/definitions/A")).outcome =
    ((Resolver.mk ⟨[referring]⟩ 8).resolve (Node.heir "#/definitions/A")).outcome
  := by
  obtain ⟨-, hreplace, -⟩ :=
    resolve_eq_of_matching_eq ⟨[referring, selfMerging]⟩ (Node.heir "#/definitions/A") 8
  apply hreplace [referring] [selfMerging] [] [] rfl
  simpa [selfMerging] using not_reaches_referring

end Resolver

end ApiTypes
