import ApiTypes.Report

/-!
# Walks

A `Walk` is the state that the resolution of a node carries along: how deep it is, and the
names of the definitions that it is merging, the outermost first.  A `Walker α` computes an
`α` in the course of a walk; it takes note of events and may fail with a `ResolveError`, and
it hands on the walk in any case.  `Walker.deeper` and `Walker.merging` change the walk for
a part of the computation and change it back after.
-/

namespace ApiTypes

/-- Why a node has no type. -/
inductive ResolveError where
  /-- The definitions of the chain merge one another, from the first to the last. -/
  | cyclicSchema (chain : List String)
  /-- The node nests deeper than allowed. -/
  | depthExceeded (maxDepth : Nat)
deriving DecidableEq

/-- The words for an error. -/
def ResolveError.message : ResolveError → String
  | .cyclicSchema chain => "cyclic allOf merge: " ++ String.intercalate " -> " chain
  | .depthExceeded maxDepth =>
    "schema nesting exceeds the maximum depth of " ++ Nat.repr maxDepth

/-- The state of a walk. -/
structure Walk where
  depth : Nat
  merging : List String
deriving DecidableEq

/-- A computation in the course of a walk. -/
structure Walker (α : Type) where
  run : Walk → Report ResolveError α × Walk

namespace Walker

variable {α β : Type}

/-- The computation that goes on with `next` after `first`, unless that fails. -/
def bind (first : Walker α) (next : α → Walker β) : Walker β where
  run walk :=
    match first.run walk with
    | (⟨events, .ok a⟩, walk) =>
      let (report, walk) := (next a).run walk
      (⟨events ++ report.events, report.outcome⟩, walk)
    | (⟨events, .error error⟩, walk) => (⟨events, .error error⟩, walk)

instance : Monad Walker where
  pure a := ⟨fun walk => (⟨[], .ok a⟩, walk)⟩
  bind := bind

/-- The state of the walk. -/
def current : Walker Walk where
  run walk := (⟨[], .ok walk⟩, walk)

/-- The computation that takes note of an event. -/
def note (event : Event) : Walker Unit where
  run walk := (⟨[event], .ok ()⟩, walk)

/-- The computation that takes note of an event under a condition. -/
def noteWhen (condition : Bool) (event : Event) : Walker Unit :=
  if condition then note event else pure ()

/-- The computation that fails. -/
def fail (error : ResolveError) : Walker α where
  run walk := (⟨[], .error error⟩, walk)

/-- A computation one level deeper. -/
def deeper (inner : Walker α) : Walker α where
  run walk :=
    let (report, after) := inner.run { walk with depth := walk.depth + 1 }
    (report, { after with depth := after.depth - 1 })

/-- A computation within the merging of a definition. -/
def merging (name : String) (inner : Walker α) : Walker α where
  run walk :=
    let (report, after) := inner.run { walk with merging := walk.merging ++ [name] }
    (report, { after with merging := after.merging.dropLast })

/-- The lists computed for the members of a list, one after another. -/
def flatCollect (visit : α → Walker (List β)) : List α → Walker (List β)
  | [] => pure []
  | a :: rest => do
    let found ← visit a
    let more ← flatCollect visit rest
    return found ++ more

/-! ### Running -/

@[simp]
theorem run_pure (a : α) (walk : Walk) :
  (pure a : Walker α).run walk = (⟨[], .ok a⟩, walk)
  := rfl

@[simp]
theorem run_current (walk : Walk) :
  current.run walk = (⟨[], .ok walk⟩, walk)
  := rfl

@[simp]
theorem run_note (event : Event) (walk : Walk) :
  (note event).run walk = (⟨[event], .ok ()⟩, walk)
  := rfl

@[simp]
theorem run_fail (error : ResolveError) (walk : Walk) :
  (fail error : Walker α).run walk = (⟨[], .error error⟩, walk)
  := rfl

/-- What comes after a computation that succeeds runs on the walk that it hands on. -/
theorem run_bind_of_ok {first : Walker α} {walk after : Walk} {events : List Event} {a : α}
    (h : first.run walk = (⟨events, .ok a⟩, after)) (next : α → Walker β) :
  (first >>= next).run walk =
    (⟨events ++ ((next a).run after).1.events, ((next a).run after).1.outcome⟩,
      ((next a).run after).2)
  := by
  change (bind first next).run walk = _
  simp [bind, h]

/-- Nothing comes after a computation that fails. -/
theorem run_bind_of_error {first : Walker α} {walk after : Walk} {events : List Event}
    {error : ResolveError} (h : first.run walk = (⟨events, .error error⟩, after))
    (next : α → Walker β) :
  (first >>= next).run walk = (⟨events, .error error⟩, after)
  := by
  change (bind first next).run walk = _
  simp [bind, h]

@[simp]
theorem run_deeper (inner : Walker α) (walk : Walk) :
  (deeper inner).run walk =
    ((inner.run { walk with depth := walk.depth + 1 }).1,
      { (inner.run { walk with depth := walk.depth + 1 }).2 with
        depth := (inner.run { walk with depth := walk.depth + 1 }).2.depth - 1 })
  := rfl

@[simp]
theorem run_merging (name : String) (inner : Walker α) (walk : Walk) :
  (merging name inner).run walk =
    ((inner.run { walk with merging := walk.merging ++ [name] }).1,
      { (inner.run { walk with merging := walk.merging ++ [name] }).2 with
        merging := (inner.run { walk with merging := walk.merging ++ [name] }).2.merging.dropLast })
  := rfl

end Walker

end ApiTypes
