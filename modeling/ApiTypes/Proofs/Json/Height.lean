import ApiTypes.Json
import Mathlib.Tactic.Common

/-!
# The height of JSON values

`Json.height` is the number of levels of a value: one for a scalar, and one more than the
tallest of its values for an array or an object.  A value within another is less high.
-/

namespace ApiTypes.Json

mutual

/-- The number of levels of a value. -/
def height : Json → Nat
  | .array items => itemsHeight items + 1
  | .object members => membersHeight members + 1
  | _ => 1

/-- The greatest height among values, zero if there are none. -/
def itemsHeight : List Json → Nat
  | [] => 0
  | item :: rest => max item.height (itemsHeight rest)

/-- The greatest height among the values of members, zero if there are none. -/
def membersHeight : List (String × Json) → Nat
  | [] => 0
  | (_, value) :: rest => max value.height (membersHeight rest)

end

theorem one_le_height (value : Json) :
  1 ≤ value.height
  := by
  cases value <;> simp [height]

theorem height_le_itemsHeight {item : Json} {items : List Json} (h : item ∈ items) :
  item.height ≤ itemsHeight items
  := by
  induction items with
  | nil => simp at h
  | cons first rest ih =>
    rw [itemsHeight]
    rcases List.mem_cons.mp h with rfl | h
    · apply Nat.le_max_left
    · apply Nat.le_trans (ih h) (Nat.le_max_right _ _)

theorem height_le_membersHeight {name : String} {value : Json} {members : List (String × Json)}
    (h : (name, value) ∈ members) :
  value.height ≤ membersHeight members
  := by
  induction members with
  | nil => simp at h
  | cons first rest ih =>
    obtain ⟨other, old⟩ := first
    rw [membersHeight]
    rcases List.mem_cons.mp h with h | h
    · obtain ⟨rfl, rfl⟩ := Prod.mk.inj h
      apply Nat.le_max_left
    · apply Nat.le_trans (ih h) (Nat.le_max_right _ _)

theorem height_lt_of_mem_array {item : Json} {items : List Json} (h : item ∈ items) :
  item.height < (array items).height
  := by
  rw [height]
  apply Nat.lt_succ_of_le (height_le_itemsHeight h)

theorem height_lt_of_mem_object {name : String} {value : Json} {members : List (String × Json)}
    (h : (name, value) ∈ members) :
  value.height < (object members).height
  := by
  rw [height]
  apply Nat.lt_succ_of_le (height_le_membersHeight h)

/-- A field is less high than the value that has it. -/
theorem height_lt_of_field? {value field : Json} {name : String}
    (h : value.field? name = some field) :
  field.height < value.height
  := by
  cases value with
  | object members => apply height_lt_of_mem_object (Named.mem_of_get? h)
  | null | bool | number | string | array => simp [field?, asObject?] at h

end ApiTypes.Json
