import ApiTypes.Proofs.Outcome
import ApiTypes.Resolver

/-!
# The parts of a node

`Node.parts node` lists in order what the type of a node is put together from: nodes that it
holds, each in a `Role`, and names of definitions to merge.  `Resolver.typeWithin` is the
outcome of resolving a node, as a function of the levels that are left and of the names that
are being merged: every part of the node contributes types, and `Descriptor.assemble` puts
them together.
-/

namespace ApiTypes

/-- What the type of a node is taken for where the node is held. -/
inductive Role where
  /-- It is the type of a wrapper, of the items of an array or of the values of a
  dictionary. -/
  | whole
  /-- Its properties are those of an object. -/
  | inherited
  /-- It is the type of a property. -/
  | property (name : String) (isRequired : Bool)

/-- The types that a type contributes in a role. -/
def Role.contribution : Role → Descriptor → List Descriptor
  | .whole, type => [type]
  | .inherited, type => type.properties
  | .property name isRequired, type => [type.attach name isRequired]

/-- A part of a node. -/
inductive Part where
  | node (inner : Node) (role : Role)
  | merge (name : String)

namespace Node

/-- The part of an object for an entry of `allOf`. -/
def entryPart (entry : Node) : Part :=
  match entry.reference? with
  | some reference => .merge (lastSegment reference)
  | none => .node entry .inherited

/-- The part of an object for one of its own properties. -/
def propertyPart (header : Header) (property : String × Node) : Part :=
  .node property.2 (.property property.1 (header.requires property.1))

/-- The parts of an object. -/
def objectParts (node : Node) : List Part :=
  node.allOf.map entryPart ++
    (node.properties?.getD []).map (propertyPart (Header.ofNode node))

/-- The parts of a node. -/
def parts (node : Node) : List Part :=
  match classify node with
  | .wrapper inner => [.node inner .whole]
  | .array items => [.node items .whole]
  | .dictionary values => [.node values .whole]
  | .object => node.objectParts
  | _ => []

end Node

/-- The type of a node whose parts contribute the types in `found`. -/
def Descriptor.assemble (node : Node) (found : List Descriptor) : Descriptor :=
  let header := Header.ofNode node
  match classify node with
  | .wrapper _ => found.headD (.any header)
  | .reference target => .reference header target
  | .enumeration values => .enumeration header values
  | .primitive type => .primitive header type
  | .array _ => .array header (found.headD (.any header))
  | .dictionary _ => .dictionary header (found.headD (.any header))
  | .any => .any header
  | .object => .object header found

namespace Resolver

/-- The types that a part contributes while the names in `merging` are merged, where `visit`
gives the types of nodes. -/
def contributions (context : Context) (visit : List String → Node → Except ResolveError Descriptor)
    (merging : List String) : Part → Except ResolveError (List Descriptor)
  | .node inner role => (visit merging inner).map role.contribution
  | .merge name =>
    if name ∈ merging then .error (.cyclicSchema (merging ++ [name]))
    else
      Outcome.flatCollect
        (fun definition => (visit (merging ++ [name]) definition).map (·.properties))
        (context.matching name)

/-- The outcome of resolving a node that may take `budget` more levels while the names in
`merging` are merged. -/
def typeWithin (resolver : Resolver) : Nat → List String → Node → Except ResolveError Descriptor
  | 0, _, _ => .error (.depthExceeded resolver.maxDepth)
  | budget + 1, merging, node =>
    (Outcome.flatCollect
      (contributions resolver.context (resolver.typeWithin budget) merging) node.parts).map
        (Descriptor.assemble node)

variable (resolver : Resolver) {budget : Nat} {merging : List String} {node : Node}

@[simp]
theorem typeWithin_zero :
  resolver.typeWithin 0 merging node = .error (.depthExceeded resolver.maxDepth)
  := rfl

theorem typeWithin_succ :
  resolver.typeWithin (budget + 1) merging node =
    (Outcome.flatCollect
      (contributions resolver.context (resolver.typeWithin budget) merging) node.parts).map
        (Descriptor.assemble node)
  := rfl

/-- A single part in the role of the whole type contributes that type. -/
theorem flatCollect_contributions_whole
    {context : Context} {visit : List String → Node → Except ResolveError Descriptor}
    (merging : List String) (inner : Node) :
  Outcome.flatCollect (contributions context visit merging) [.node inner .whole] =
    (visit merging inner).map ([·])
  := Outcome.flatCollect_singleton _ _

/-- The type of a node with a single part, of which it takes the whole type. -/
theorem typeWithin_succ_of_parts_eq {inner : Node} (h : node.parts = [.node inner .whole]) :
  resolver.typeWithin (budget + 1) merging node =
    (resolver.typeWithin budget merging inner).map fun type => Descriptor.assemble node [type]
  := by
  rw [typeWithin_succ, h, flatCollect_contributions_whole, Outcome.map_map]

/-- A wrapper has the type of the node in it. -/
theorem typeWithin_succ_of_wrapper {inner : Node} (h : classify node = .wrapper inner) :
  resolver.typeWithin (budget + 1) merging node = resolver.typeWithin budget merging inner
  := by
  have hparts : node.parts = [.node inner .whole] := by simp [Node.parts, h]
  simp only [typeWithin_succ_of_parts_eq resolver hparts, Descriptor.assemble, h, List.headD_cons,
    Outcome.map_id]

theorem typeWithin_succ_of_array {items : Node} (h : classify node = .array items) :
  resolver.typeWithin (budget + 1) merging node =
    (resolver.typeWithin budget merging items).map (.array (Header.ofNode node))
  := by
  have hparts : node.parts = [.node items .whole] := by simp [Node.parts, h]
  simp only [typeWithin_succ_of_parts_eq resolver hparts, Descriptor.assemble, h, List.headD_cons]

theorem typeWithin_succ_of_dictionary {values : Node} (h : classify node = .dictionary values) :
  resolver.typeWithin (budget + 1) merging node =
    (resolver.typeWithin budget merging values).map (.dictionary (Header.ofNode node))
  := by
  have hparts : node.parts = [.node values .whole] := by simp [Node.parts, h]
  simp only [typeWithin_succ_of_parts_eq resolver hparts, Descriptor.assemble, h, List.headD_cons]

theorem typeWithin_succ_of_object (h : classify node = .object) :
  resolver.typeWithin (budget + 1) merging node =
    (Outcome.flatCollect
      (contributions resolver.context (resolver.typeWithin budget) merging) node.objectParts).map
        (.object (Header.ofNode node))
  := by
  have hassemble : Descriptor.assemble node = .object (Header.ofNode node) := by
    funext found
    simp [Descriptor.assemble, h]
  simp only [typeWithin_succ, Node.parts, h, hassemble]

end Resolver

end ApiTypes
