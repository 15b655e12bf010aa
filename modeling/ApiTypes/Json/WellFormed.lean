import ApiTypes.Json

/-!
# Objects with distinct names

`Json.isWellFormed` tests that no object within a value has two members of one name.
-/

namespace ApiTypes.Json

mutual

/-- The test for a value all of whose objects have distinct names. -/
def isWellFormed : Json → Bool
  | .array items => allWellFormed items
  | .object members => decide (Named.names members).Nodup && membersWellFormed members
  | _ => true

/-- The test for a list of values all of whose objects have distinct names. -/
def allWellFormed : List Json → Bool
  | [] => true
  | item :: rest => isWellFormed item && allWellFormed rest

/-- The test for members all of whose values have objects with distinct names. -/
def membersWellFormed : List (String × Json) → Bool
  | [] => true
  | (_, value) :: rest => isWellFormed value && membersWellFormed rest

end

end ApiTypes.Json
