import ApiTypes.Json.Text
import ApiTypes.Text.Quoted

/-!
# Mismatches

A `Mismatch` says which part of a JSON value is not of the form that was asked for, and how:
the path to the part and a `Detail`.  `Conforms α` is the outcome of reading a value of the
type `α` from JSON. Its readers give the first mismatch in the order in which a value holds
its members.
-/

namespace ApiTypes

/-- A step from a value to a part of it. -/
inductive Step where
  | key (name : String)
  | index (position : Nat)
deriving DecidableEq

/-- The text of a path: keys with points between them, and positions in brackets. -/
def pathText (path : List Step) : String :=
  match path with
  | [] => "."
  | first :: rest =>
    (match first with
      | .key name => name
      | .index position => "[" ++ Nat.repr position ++ "]") ++
    String.join (rest.map fun
      | .key name => "." ++ name
      | .index position => "[" ++ Nat.repr position ++ "]")

/-- What a value was expected to be. -/
inductive Form where
  | string
  | sequence
  | map
  | record (name : String)
deriving DecidableEq

/-- The words for a form. -/
def Form.message : Form → String
  | .string => "a string"
  | .sequence => "a sequence"
  | .map => "a map"
  | .record name => "struct " ++ name

/-- How a value is not of the form that was expected. -/
inductive Detail where
  /-- The value is of another kind. -/
  | otherKind (found : Json) (expected : Form)
  /-- A list ends before the item at a position of a record with so many fields. -/
  | missingItem (position : Nat) (record : String) (fields : Nat)
  /-- A list is longer than the record that it stands for. -/
  | extraItems (length : Nat)

/-- The words for the kind of a value, with the value when it is simple. -/
def kindText : Json → String
  | .null => "null"
  | .bool b => "boolean `" ++ (if b then "true" else "false") ++ "`"
  | .number (.int n) => "integer `" ++ (Json.number (.int n)).text ++ "`"
  | .number (.double x) => "floating point `" ++ (Json.number (.double x)).text ++ "`"
  | .string s => "string " ++ Text.quoted s
  | .array _ => "sequence"
  | .object _ => "map"

/-- The words for a detail. -/
def Detail.message : Detail → String
  | .otherKind found expected =>
    "invalid type: " ++ kindText found ++ ", expected " ++ expected.message
  | .missingItem position record fields =>
    "invalid length " ++ Nat.repr position ++ ", expected struct " ++ record ++ " with " ++
      Nat.repr fields ++ " elements"
  | .extraItems length =>
    "invalid length " ++ Nat.repr length ++ ", expected fewer elements in array"

/-- A part of a value that is not of the form that was expected. -/
structure Mismatch where
  path : List Step
  detail : Detail

/-- The words for a mismatch. -/
def Mismatch.message (mismatch : Mismatch) : String :=
  "at JSON path " ++ pathText mismatch.path ++ " → " ++ mismatch.detail.message

/-- The outcome of reading a value. -/
abbrev Conforms (α : Type) := Except Mismatch α

namespace Conforms

/-- The outcome of reading the part of a value that a step leads to. -/
def within {α : Type} (step : Step) (outcome : Conforms α) : Conforms α :=
  outcome.mapError fun mismatch => { mismatch with path := step :: mismatch.path }

/-- The mismatch of a value as a whole. -/
def mismatch {α : Type} (detail : Detail) : Conforms α :=
  .error ⟨[], detail⟩

/-- The string that a value is. -/
def text : Json → Conforms String
  | .string s => .ok s
  | value => mismatch (.otherKind value .string)

/-- The string that a value is, unless it is null. -/
def text? : Json → Conforms (Option String)
  | .null => .ok none
  | value => some <$> text value

/-- The items of a list. -/
def items : Json → Conforms (List Json)
  | .array items => .ok items
  | value => mismatch (.otherKind value .sequence)

/-- The strings of a list, the first of which is the item at a position. -/
def textsFrom (position : Nat) : List Json → Conforms (List String)
  | [] => .ok []
  | item :: rest => do
    let first ← within (.index position) (text item)
    let more ← textsFrom (position + 1) rest
    return first :: more

/-- The strings of a list. -/
def texts (value : Json) : Conforms (List String) := do
  textsFrom 0 (← items value)

/-- The members of an object. -/
def members : Json → Conforms Json.Members
  | .object members => .ok members
  | value => mismatch (.otherKind value .map)

/-- The item at a position of the list that stands for a record with so many fields. -/
def item (record : String) (fields : Nat) (list : List Json) (position : Nat) : Conforms Json :=
  match list[position]? with
  | some item => .ok item
  | none => mismatch (.missingItem position record fields)

/-- The check that a list is no longer than the record that it stands for. -/
def noMoreThan (fields : Nat) (list : List Json) : Conforms Unit :=
  if list.length ≤ fields then .ok () else mismatch (.extraItems list.length)

/-- The record read by giving the members of an object to `set`, one after another. -/
def fold {α : Type} (set : α → String × Json → Conforms α) : α → Json.Members → Conforms α
  | record, [] => .ok record
  | record, member :: rest => do fold set (← within (.key member.1) (set record member)) rest

/-- A record written as an object, or as the list of its fields. -/
def record {α : Type} (name : String) (ofMembers : Json.Members → Conforms α)
    (ofItems : List Json → Conforms α) : Json → Conforms α
  | .object members => ofMembers members
  | .array items => ofItems items
  | value => mismatch (.otherKind value (.record name))

end Conforms

end ApiTypes
