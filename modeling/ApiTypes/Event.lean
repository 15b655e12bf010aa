/-!
# Events

An `Event` is something that the building of a model takes note of: what it comes to, and
what it leaves out.  Most events make a line of the log.
-/

namespace ApiTypes

/-- Something that the building of a model takes note of. -/
inductive Event where
  /-- A walk comes to a node at a depth, while it merges the named definitions. -/
  | entered (depth : Nat) (merging : List String)
  /-- The node at a depth has the shape with the given label. -/
  | classified (label : String) (depth : Nat)
  /-- There is no definition of a name to merge. -/
  | nothingMerged (name : String)
  /-- A definition is about to be resolved. -/
  | resolving (name : String)
  /-- The method of an operation is about to be built. -/
  | buildingMethod (operation : String)
  /-- A parameter of an operation is left out on request. -/
  | excluded (operation : String) (name : Option String)
  /-- A parameter of an operation is left out because its reference leads nowhere. -/
  | unknownParameter (operation : String) (reference : String)
  /-- A model with so many definitions and methods is complete. -/
  | built (definitions : Nat) (methods : Nat)
  /-- The answer has been written to a file. -/
  | wrote (path : String)
deriving DecidableEq

end ApiTypes
