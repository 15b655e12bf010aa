import ApiTypes.Double
import ApiTypes.Named

/-!
# JSON values

`Json` is a JSON value whose objects keep their members in order and whose numbers are
integers or doubles, the two kept apart: `1` and `1.0` differ.  `Json.Members` is the list
of the members of an object, and `Json.field?` looks a field up in it.
-/

namespace ApiTypes

/-- A JSON number: an integer, or a double when its text has a fraction or an exponent or is
too large for 64 bits. -/
inductive Number where
  | int (n : Int)
  | double (x : Double)
deriving DecidableEq

namespace Number

/-- The double nearest to a number. -/
def toDouble? : Number → Option Double
  | .int n => Double.ofInt? n
  | .double x => some x

/-- The test for zero. -/
def isZero : Number → Bool
  | .int n => n == 0
  | .double x => x.isZero

end Number

/-- A JSON value. -/
inductive Json where
  | null
  | bool (b : Bool)
  | number (n : Number)
  | string (s : String)
  | array (items : List Json)
  | object (members : List (String × Json))
deriving Inhabited

namespace Json

/-- The members of an object, in order. -/
abbrev Members := Named Json

/-- The members of an object. -/
def asObject? : Json → Option Members
  | .object members => some members
  | _ => none

/-- The items of an array. -/
def asArray? : Json → Option (List Json)
  | .array items => some items
  | _ => none

/-- The characters of a string value. -/
def asString? : Json → Option String
  | .string s => some s
  | _ => none

/-- The value of a field of an object; anything else has no fields. -/
def field? (value : Json) (name : String) : Option Json := do
  (← value.asObject?).get? name

theorem asObject?_eq_some_iff {value : Json} {members : Members} :
  value.asObject? = some members ↔ value = .object members
  := by
  cases value <;> simp [asObject?]

end Json

end ApiTypes
