import ApiTypes.Descriptor
import ApiTypes.Resolve.Walk
import ApiTypes.Schema.Context

/-!
# Resolving schema nodes

A `Resolver` turns schema nodes into descriptors: the definitions of its context are what
`allOf` merges from, and `maxDepth` is the number of levels that it goes down.  A reference
is kept as a reference, except as an entry of `allOf`, where the properties of every
definition of its name are put in its place.  A definition that is merged while it is being
merged is a cycle.  `Resolver.resolve` resolves a node, `Resolver.resolveNamed` a node as
the definition of a name, and `Resolver.resolveDefinition` the first definition of a name.
-/

namespace ApiTypes

/-- The depth to which nodes are resolved unless asked otherwise. -/
def defaultMaxDepth : Nat := 128

/-- The definitions to merge from and the depth to go down. -/
structure Resolver where
  context : Context
  maxDepth : Nat := defaultMaxDepth

namespace Resolver

/-- The properties of every definition of a name. -/
def mergeDefinitions (context : Context) (visit : Node → Walker Descriptor) (name : String) :
    Walker (List Descriptor) := do
  let walk ← Walker.current
  if name ∈ walk.merging then
    Walker.fail (.cyclicSchema (walk.merging ++ [name]))
  else
    let found := context.matching name
    let properties ← Walker.merging name <|
      Walker.flatCollect (fun definition => do return (← visit definition).properties) found
    Walker.noteWhen found.isEmpty (.nothingMerged name)
    return properties

/-- The properties that an entry of `allOf` contributes. -/
def inheritedProperties (context : Context) (visit : Node → Walker Descriptor) (entry : Node) :
    Walker (List Descriptor) :=
  match entry.reference? with
  | some reference => mergeDefinitions context visit (lastSegment reference)
  | none => do return (← visit entry).properties

/-- A property of an object with the given header. -/
def ownProperty (visit : Node → Walker Descriptor) (header : Header) (property : String × Node) :
    Walker (List Descriptor) := do
  let type ← visit property.2
  return [type.attach property.1 (header.requires property.1)]

/-- The properties of an object: those of the entries of `allOf` in order, and then its own. -/
def collectProperties (context : Context) (visit : Node → Walker Descriptor) (header : Header)
    (node : Node) : Walker (List Descriptor) := do
  let inherited ← Walker.flatCollect (inheritedProperties context visit) node.allOf
  let own ← Walker.flatCollect (ownProperty visit header) (node.properties?.getD [])
  return inherited ++ own

/-- The type of a node, given how to come by the types of the nodes that it holds.  A
wrapper has the type of the node in it and nothing of its own. -/
def resolveShape (context : Context) (visit : Node → Walker Descriptor) (node : Node) :
    Walker Descriptor := do
  let header := Header.ofNode node
  let shape := classify node
  Walker.note (.classified shape.label (← Walker.current).depth)
  match shape with
  | .wrapper inner => visit inner
  | .reference target => return .reference header target
  | .enumeration values => return .enumeration header values
  | .primitive type => return .primitive header type
  | .array items => return .array header (← visit items)
  | .dictionary values => return .dictionary header (← visit values)
  | .any => return .any header
  | .object => return .object header (← collectProperties context visit header node)

/-- The type of a node that may take `budget` more levels. -/
def resolveWithin (resolver : Resolver) : Nat → Node → Walker Descriptor
  | 0, _ => do
    let walk ← Walker.current
    Walker.note (.entered walk.depth walk.merging)
    Walker.fail (.depthExceeded resolver.maxDepth)
  | budget + 1, node => do
    let walk ← Walker.current
    Walker.note (.entered walk.depth walk.merging)
    Walker.deeper (resolveShape resolver.context (resolver.resolveWithin budget) node)

/-- The type of a node that a walk comes to. -/
def resolveNode (resolver : Resolver) (node : Node) : Walker Descriptor where
  run walk := (resolver.resolveWithin (resolver.maxDepth - walk.depth) node).run walk

/-- The type of a node. -/
def resolve (resolver : Resolver) (node : Node) : Report ResolveError Descriptor :=
  ((resolver.resolveNode node).run ⟨0, []⟩).1

/-- The type of a node that is the definition of a name, so that merging that name is a
cycle. -/
def resolveNamed (resolver : Resolver) (name : String) (node : Node) :
    Report ResolveError Descriptor :=
  ((resolver.resolveNode node).run ⟨0, [name]⟩).1

/-- The type of the first definition of a name, if there is one. -/
def resolveDefinition (resolver : Resolver) (name : String) :
    Option (Report ResolveError Descriptor) :=
  (resolver.context.get? name).map (resolver.resolveNamed name)

end Resolver

end ApiTypes
