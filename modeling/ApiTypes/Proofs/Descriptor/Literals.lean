import ApiTypes.Proofs.Descriptor.Unions
import ApiTypes.Proofs.Double.Whole
import ApiTypes.Proofs.Json.Height

/-!
# Whole doubles in enumerations

`Json.plain` replaces every whole double below `10 ^ 21` within a value by the integer of its
shortest digits, padded with zeros.  The literals of an enumeration are the texts of its plain
values as long as no whole double stands within an array or an object, and as long as each is equal
to its integer, `Descriptor.unionText_eq_plainUnion_iff`: a double within another value is written
with a fraction or an exponent, and one that is a value itself with all its digits, which are more
than those that are needed to read it back once it is above `2 ^ 53`.
-/

namespace ApiTypes

/-- A whole double below `10 ^ 21` as the integer of its padded digits. -/
def Number.plain : Number → Number
  | .int n => .int n
  | .double x => if x.isWhole then .int x.padded else .double x

namespace Json

mutual

/-- The value with an integer for every whole double within it. -/
def plain : Json → Json
  | .number n => .number n.plain
  | .array items => .array (plainItems items)
  | .object members => .object (plainMembers members)
  | value => value

/-- The plain items of an array. -/
def plainItems : List Json → List Json
  | [] => []
  | item :: rest => item.plain :: plainItems rest

/-- The plain members of an object. -/
def plainMembers : List (String × Json) → List (String × Json)
  | [] => []
  | (name, value) :: rest => (name, value.plain) :: plainMembers rest

end

/-- The double is the value, or is within one of its items or members. -/
inductive Contains (x : Double) : Json → Prop where
  | self : Contains x (.number (.double x))
  | item {item : Json} {items : List Json} (hmem : item ∈ items) (h : Contains x item) :
    Contains x (.array items)
  | member {name : String} {value : Json} {members : List (String × Json)}
    (hmem : (name, value) ∈ members) (h : Contains x value) : Contains x (.object members)

variable {x y : Double} {value : Json} {items : List Json} {members : List (String × Json)}

/-! ### Doubles within a value -/

theorem contains_double_iff :
  (number (.double y)).Contains x ↔ x = y
  := by
  constructor
  · rintro ⟨⟩
    rfl
  · rintro rfl
    exact .self

theorem contains_array_iff :
  (array items).Contains x ↔ ∃ item ∈ items, item.Contains x
  := by
  constructor
  · rintro ⟨⟩
    exact ⟨_, ‹_›, ‹_›⟩
  · rintro ⟨item, hmem, h⟩
    exact .item hmem h

theorem contains_object_iff :
  (object members).Contains x ↔ ∃ entry ∈ members, entry.2.Contains x
  := by
  constructor
  · rintro ⟨⟩
    exact ⟨_, ‹_›, ‹_›⟩
  · rintro ⟨⟨name, value⟩, hmem, h⟩
    exact .member hmem h

/-- The test for a value without whole doubles. -/
def IsPlain (value : Json) : Prop :=
  ∀ x : Double, value.Contains x → x.isWhole = false

theorem isPlain_double_iff :
  (number (.double x)).IsPlain ↔ x.isWhole = false
  := by
  simp only [IsPlain, contains_double_iff, forall_eq]

theorem isPlain_array_iff :
  (array items).IsPlain ↔ ∀ item ∈ items, item.IsPlain
  := by
  simp only [IsPlain, contains_array_iff, forall_exists_index, and_imp]
  exact ⟨fun h item hmem x hx => h x item hmem hx, fun h x item hmem hx => h item hmem x hx⟩

theorem isPlain_object_iff :
  (object members).IsPlain ↔ ∀ entry ∈ members, entry.2.IsPlain
  := by
  simp only [IsPlain, contains_object_iff, forall_exists_index, and_imp]
  exact ⟨fun h entry hmem x hx => h x entry hmem hx, fun h x entry hmem hx => h entry hmem x hx⟩

/-! ### Plain values -/

theorem plainItems_eq_self_iff :
  plainItems items = items ↔ ∀ item ∈ items, item.plain = item
  := by
  induction items with
  | nil => simp [plainItems]
  | cons item rest ih => simp [plainItems, ih]

theorem plainMembers_eq_self_iff :
  plainMembers members = members ↔ ∀ entry ∈ members, entry.2.plain = entry.2
  := by
  induction members with
  | nil => simp [plainMembers]
  | cons entry rest ih =>
    obtain ⟨name, value⟩ := entry
    simp [plainMembers, ih]

/-- A value is left as it is when no whole double stands within it, and then only. -/
theorem plain_eq_self_iff (value : Json) :
  value.plain = value ↔ value.IsPlain
  := by
  induction hheight : value.height using Nat.strongRecOn generalizing value with
  | ind height ih =>
    subst hheight
    cases value with
    | null | bool | string =>
      simp only [plain, true_iff]
      rintro x ⟨⟩
    | number n =>
      cases n with
      | int n =>
        simp only [plain, Number.plain, true_iff]
        rintro x ⟨⟩
      | double x =>
        rw [isPlain_double_iff, plain, Number.plain]
        cases x.isWhole <;> simp
    | array items =>
      rw [plain, array.injEq, plainItems_eq_self_iff, isPlain_array_iff]
      apply forall₂_congr
      intro item hitem
      exact ih _ (height_lt_of_mem_array hitem) item rfl
    | object members =>
      rw [plain, object.injEq, plainMembers_eq_self_iff, isPlain_object_iff]
      apply forall₂_congr
      intro entry hentry
      exact ih _ (height_lt_of_mem_object hentry) entry.2 rfl

/-! ### Literals -/

theorem written_double_of_not_isWhole (h : x.isWhole = false) :
  (number (.double x)).written = number (.double x)
  := by
  rcases written_eq_or (number (.double x)) with hwritten | ⟨y, n, hy, hvalue, hlt, -⟩
  · exact hwritten
  · cases hy
    rw [Double.isWhole_iff.mpr ⟨n, hvalue, hlt⟩] at h
    cases h

/-- The literal of a plain value is its text. -/
theorem written_plain (value : Json) :
  value.plain.written = value.plain
  := by
  cases value with
  | null | bool | string | array | object => rfl
  | number n =>
    cases n with
    | int n => rfl
    | double x =>
      rw [plain, Number.plain]
      split
      · rfl
      · next h => exact written_double_of_not_isWhole (Bool.eq_false_iff.mpr h)

/-- A value that is no double is written plainly when there is no whole double in it. -/
theorem written_eq_plain_iff_of_ne (hwritten : value.written = value)
    (hne : ∀ x : Double, value ≠ number (.double x)) :
  value.written = value.plain ↔ ∀ x : Double, value.Contains x → x.isWhole = true →
    value = number (.double x) ∧ (x.padded : ℚ) = x.value
  := by
  rw [hwritten, eq_comm, plain_eq_self_iff, IsPlain]
  apply forall₂_congr
  intro x hx
  simp only [hne x, false_and, imp_false, Bool.not_eq_true]

/-- A double is written plainly when it is not whole or is equal to its integer. -/
theorem written_eq_plain_iff_of_double (x : Double) :
  (number (.double x)).written = (number (.double x)).plain ↔
    (x.isWhole = true → (x.padded : ℚ) = x.value)
  := by
  rw [plain, Number.plain]
  cases hwhole : x.isWhole with
  | false => simp [written_double_of_not_isWhole hwhole]
  | true =>
    obtain ⟨n, hvalue, hlt⟩ := Double.isWhole_iff.mp hwhole
    rw [written_double hvalue hlt, hvalue, if_pos rfl, number.injEq, Number.int.injEq, eq_comm]
    norm_cast
    simp

/-- A value is written plainly when every whole double in it is the value itself and equal to its
integer. -/
theorem written_eq_plain_iff (value : Json) :
  value.written = value.plain ↔ ∀ x : Double, value.Contains x → x.isWhole = true →
    value = number (.double x) ∧ (x.padded : ℚ) = x.value
  := by
  cases value with
  | null | bool | string | array | object => exact written_eq_plain_iff_of_ne rfl nofun
  | number n =>
    cases n with
    | int n => exact written_eq_plain_iff_of_ne rfl nofun
    | double x =>
      rw [written_eq_plain_iff_of_double]
      simp only [contains_double_iff, forall_eq, true_and]

/-- The literal of a value is the text of the plain value in the same cases. -/
theorem literal_eq_chars_plain_iff (value : Json) :
  Descriptor.literal value = value.plain.chars ↔ ∀ x : Double, value.Contains x →
    x.isWhole = true → value = number (.double x) ∧ (x.padded : ℚ) = x.value
  := by
  rw [literal_eq, chars_injective.eq_iff, written_eq_plain_iff]

end Json

namespace Descriptor

variable {values : List Json}

/-! ### Unions of plain values -/

/-- The texts of the plain values with bars between them. -/
def plainUnion (values : List Json) : List Char :=
  List.intercalate " | ".toList (values.map (·.plain.chars))

theorem literal_plain (value : Json) :
  literal value.plain = value.plain.chars
  := by
  rw [Json.literal_eq, Json.written_plain]

theorem unionText_map_plain (h : values ≠ []) :
  unionText (values.map Json.plain) = plainUnion values
  := by
  cases values with
  | nil => exact absurd rfl h
  | cons value rest =>
    simp only [unionText, plainUnion, List.map_cons, List.map_map, Function.comp_def, literal_plain]

/-- The literals of an enumeration are the texts of its plain values when each literal is. -/
theorem unionText_eq_plainUnion_iff (h : values ≠ []) :
  unionText values = plainUnion values ↔ ∀ value ∈ values, literal value = value.plain.chars
  := by
  rw [← unionText_map_plain h, unionText_eq_iff, List.forall₂_map_right_iff, List.forall₂_same]
  simp only [← Json.literal_eq_literal_iff, literal_plain]

/-- The text of an enumeration is that of its plain values when every whole double in them is a
value itself and equal to its integer of padded digits, and then only.  The literal of a whole
double writes its value in full, and below `2 ^ 53` that is the integer. -/
theorem typeChars_enumeration_eq_plainUnion_iff (header : Header) (h : values ≠ []) :
  ((enumeration header values).typeChars = plainUnion values ↔
      ∀ value ∈ values, ∀ x : Double, value.Contains x → x.isWhole = true →
        value = .number (.double x) ∧ (x.padded : ℚ) = x.value) ∧
    ∀ (x : Double) (n : Int), x.value = n → n.natAbs < 10 ^ 21 →
      literal (.number (.double x)) = Double.signedChars n ∧
      Double.signedChars x.padded =
        (if x.isZero then ['0'] else (if x.negative then ['-'] else []) ++ x.paddedDigits) ∧
      (n.natAbs < 2 ^ 53 → x.padded = n)
  := by
  constructor
  · rw [typeChars_enumeration, unionText_eq_plainUnion_iff h]
    simp only [Json.literal_eq_chars_plain_iff]
  · intro x n hvalue hlt
    refine ⟨?_, ?_, fun hlt => Double.padded_eq_of_lt hlt hvalue⟩
    · rw [Json.literal_eq, Json.written_double hvalue hlt]
      rfl
    · cases hzero : x.isZero with
      | true => exact Double.signedChars_padded_of_isZero hzero
      | false => exact Double.signedChars_padded hzero (Double.abs_value_of_value_eq hvalue)

/-- The double nearest to an integer, as a value. -/
def nearestDouble (n : Int) : Json :=
  .number (.double ((Double.ofInt? n).getD default))

theorem typeChars_enumeration_eq_plainUnion_iff_three :
  [nearestDouble 3] ≠ [] ∧ ((Double.ofInt? 3).getD default).value = (3 : Int) ∧
    (enumeration ⟨none, true, [], none⟩ [nearestDouble 3]).typeChars = "3".toList
  := by
  have hne : [nearestDouble 3] ≠ [] := nofun
  have hvalue : ((Double.ofInt? 3).getD default).value = (3 : Int) :=
    Double.toInt?_eq_some_iff.mp (by decide +kernel)
  obtain ⟨hplain, hwhole⟩ := typeChars_enumeration_eq_plainUnion_iff ⟨none, true, [], none⟩ hne
  obtain ⟨-, -, hpadded⟩ := hwhole _ 3 hvalue (by decide)
  refine ⟨hne, hvalue, (hplain.mpr ?_).trans (by decide +kernel)⟩
  rintro value hmem x hx -
  rw [List.mem_singleton.mp hmem, nearestDouble] at hx ⊢
  rw [Json.contains_double_iff.mp hx, hpadded (by decide), hvalue]
  exact ⟨rfl, rfl⟩

/-- A double in an array keeps its fraction, and a great one the digits that may be spared. -/
theorem typeChars_enumeration_ne_plainUnion :
  (enumeration ⟨none, true, [], none⟩ [.array [nearestDouble 1]]).typeChars = "[1.0]".toList ∧
    plainUnion [.array [nearestDouble 1]] = "[1]".toList ∧
    (enumeration ⟨none, true, [], none⟩ [nearestDouble (2 ^ 55)]).typeChars =
      "36028797018963968".toList ∧
    plainUnion [nearestDouble (2 ^ 55)] = "36028797018963970".toList
  := by
  decide +kernel

end Descriptor

end ApiTypes
