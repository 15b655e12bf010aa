import ApiTypes.Descriptor
import ApiTypes.Proofs.Json.Text

/-!
# Texts of enumerations

The text of an enumeration tells its values, `Descriptor.typeText_enumeration_eq_iff`: enumerations
have one text when their values are alike in turn, and then only.  Each literal is the JSON text of
a value, so that a bar between quotation marks is never taken for one between literals.  Values that
are `Json.Alike` are equal, but that a whole double is like the integer of its value as long as it
is below `10 ^ 21`, and one zero like the other.
-/

namespace ApiTypes

namespace Json

/-! ### Values with one literal -/

/-- The values are equal, or they are numbers of equal value that are written without a
fraction. -/
inductive Alike : Json → Json → Prop where
  | refl (value : Json) : Alike value value
  | intDouble {n : Int} {x : Double} (hvalue : x.value = n) (hlt : n.natAbs < 10 ^ 21) :
    Alike (number (.int n)) (number (.double x))
  | doubleInt {n : Int} {x : Double} (hvalue : x.value = n) (hlt : n.natAbs < 10 ^ 21) :
    Alike (number (.double x)) (number (.int n))
  | zeros {x y : Double} (hx : x.isZero = true) (hy : y.isZero = true) :
    Alike (number (.double x)) (number (.double y))

/-- The value with the JSON text that is the literal of a value. -/
def written : Json → Json
  | number (.double x) =>
    match x.toInt? with
    | some n => if n.natAbs < 10 ^ 21 then number (.int n) else number (.double x)
    | none => number (.double x)
  | value => value

variable {value other : Json} {x y : Double} {n : Int}

theorem literal_eq (value : Json) :
  Descriptor.literal value = value.written.chars
  := by
  have hbound : 1000000000000000000000 = 10 ^ 21 := rfl
  cases value with
  | number n =>
    cases n with
    | int n => rfl
    | double x =>
      unfold Descriptor.literal written
      rw [hbound]
      dsimp only
      cases x.toInt? with
      | none => rfl
      | some n =>
        dsimp only
        split <;> rfl
  | null | bool | string | array | object => rfl

theorem written_double (hvalue : x.value = n) (hlt : n.natAbs < 10 ^ 21) :
  (number (.double x)).written = number (.int n)
  := by
  simp only [written, Double.toInt?_eq_some_iff.mpr hvalue, if_pos hlt]

/-- A value has its own text for a literal, unless it is a whole double. -/
theorem written_eq_or (value : Json) :
  value.written = value ∨ ∃ (x : Double) (n : Int), value = number (.double x) ∧ x.value = n ∧
    n.natAbs < 10 ^ 21 ∧ value.written = number (.int n)
  := by
  fun_cases written value with
  | case1 x n hint hlt => exact .inr ⟨x, n, rfl, Double.toInt?_eq_some_iff.mp hint, hlt, rfl⟩
  | case2 | case3 | case4 => exact .inl rfl

/-- The literals of alike values are the same. -/
theorem Alike.written_eq (h : Alike value other) :
  value.written = other.written
  := by
  cases h with
  | refl => rfl
  | intDouble hvalue hlt =>
    rw [written_double hvalue hlt]
    rfl
  | doubleInt hvalue hlt =>
    rw [written_double hvalue hlt]
    rfl
  | zeros hx hy =>
    have hx := Double.value_of_isZero hx
    have hy := Double.value_of_isZero hy
    rw [written_double (n := 0) (by simpa using hx) (by decide),
      written_double (n := 0) (by simpa using hy) (by decide)]

/-- Values with one literal are alike. -/
theorem alike_of_written_eq (h : value.written = other.written) :
  Alike value other
  := by
  rcases value.written_eq_or with hvalue | ⟨x, n, rfl, hx, hlt, hvalue⟩
  · rcases other.written_eq_or with hother | ⟨y, m, rfl, hy, hlt, hother⟩
    · rw [← hvalue, h, hother]
      apply Alike.refl
    · rw [← hvalue, h, hother]
      apply Alike.intDouble hy hlt
  · rcases other.written_eq_or with hother | ⟨y, m, rfl, hy, hlt', hother⟩
    · rw [← hother, ← h, hvalue]
      apply Alike.doubleInt hx hlt
    · obtain rfl : n = m := by
        rw [hvalue, hother] at h
        cases h
        rfl
      rcases Double.value_eq_value_iff.mp (hx.trans hy.symm) with rfl | ⟨hzero, hzero'⟩
      · apply Alike.refl
      · apply Alike.zeros hzero hzero'

theorem written_eq_written_iff :
  value.written = other.written ↔ Alike value other
  := ⟨alike_of_written_eq, Alike.written_eq⟩

theorem literal_eq_literal_iff :
  Descriptor.literal value = Descriptor.literal other ↔ Alike value other
  := by
  rw [literal_eq, literal_eq, chars_injective.eq_iff, written_eq_written_iff]

end Json

/-! ### Unions -/

namespace Descriptor

variable {value other : Json} {values others : List Json}

/-- The literals after the first, each with the bar before it. -/
def moreLiterals : List Json → List Char
  | [] => []
  | value :: rest => ' ' :: '|' :: ' ' :: literal value ++ moreLiterals rest

theorem endsNumber_moreLiterals (values : List Json) :
  EndsNumber (moreLiterals values)
  := by
  cases values with
  | nil => exact endsNumber_nil
  | cons value rest => exact endsNumber_cons rfl _

theorem unionText_cons (value : Json) (rest : List Json) :
  unionText (value :: rest) = literal value ++ moreLiterals rest
  := by
  induction rest generalizing value with
  | nil =>
    rw [unionText, List.map_singleton, List.intercalate_singleton, moreLiterals, List.append_nil]
    exact nofun
  | cons next rest ih =>
    have htail : unionText (value :: next :: rest) =
        literal value ++ " | ".toList ++ unionText (next :: rest) := by
      simp only [unionText, List.map_cons, List.intercalate_cons_cons]
    rw [htail, ih, moreLiterals]
    simp

/-- A literal tells its value up to likeness, and where the literals after it start. -/
theorem alike_and_moreLiterals_eq
    (h : literal value ++ moreLiterals values = literal other ++ moreLiterals others) :
  Json.Alike value other ∧ moreLiterals values = moreLiterals others
  := by
  rw [Json.literal_eq, Json.literal_eq] at h
  obtain ⟨hwritten, hmore⟩ := Json.isDetermined value.written other.written _ _
    (endsNumber_moreLiterals values) (endsNumber_moreLiterals others) h
  exact ⟨Json.alike_of_written_eq hwritten, hmore⟩

/-- The literals of an enumeration are told one after another. -/
theorem forall₂_alike_of_literals_eq
    (h : literal value ++ moreLiterals values = literal other ++ moreLiterals others) :
  List.Forall₂ Json.Alike (value :: values) (other :: others)
  := by
  obtain ⟨hvalue, hmore⟩ := alike_and_moreLiterals_eq h
  induction values generalizing value other others with
  | nil =>
    cases others with
    | nil => exact .cons hvalue .nil
    | cons next others => cases hmore
  | cons next values ih =>
    cases others with
    | nil => cases hmore
    | cons next' others =>
      have hrest : literal next ++ moreLiterals values = literal next' ++ moreLiterals others := by
        simpa [moreLiterals] using hmore
      obtain ⟨hnext, hmore⟩ := alike_and_moreLiterals_eq hrest
      exact .cons hvalue (ih hrest hnext hmore)

theorem unionText_cons_ne_never (value : Json) (rest : List Json) :
  unionText (value :: rest) ≠ "never".toList
  := by
  intro h
  rw [unionText_cons, Json.literal_eq] at h
  cases hwritten : value.written with
  | number n =>
    rw [hwritten] at h
    exact absurd (Number.isNumeral_of_chars_append_eq_cons h) (by decide)
  | bool b =>
    rw [hwritten] at h
    cases b <;> cases h
  | null | string | array | object =>
    rw [hwritten] at h
    cases h

theorem map_literal_eq (h : List.Forall₂ Json.Alike values others) :
  values.map literal = others.map literal
  := by
  induction h with
  | nil => rfl
  | cons hvalue _ ih =>
    rw [List.map_cons, List.map_cons, ih, Json.literal_eq_literal_iff.mpr hvalue]

/-- Enumerations have one text when their values are alike in turn, and then only. -/
theorem unionText_eq_iff :
  unionText values = unionText others ↔ List.Forall₂ Json.Alike values others
  := by
  constructor
  · intro h
    cases values with
    | nil =>
      cases others with
      | nil => exact .nil
      | cons other others => exact absurd h.symm (unionText_cons_ne_never other others)
    | cons value values =>
      cases others with
      | nil => exact absurd h (unionText_cons_ne_never value values)
      | cons other others =>
        rw [unionText_cons, unionText_cons] at h
        exact forall₂_alike_of_literals_eq h
  · intro h
    have hmap := map_literal_eq h
    cases h with
    | nil => rfl
    | cons => simp only [unionText, hmap]

/-- The text of an enumeration tells its values, and is `never` when there are none. -/
theorem typeText_enumeration_eq_iff (header header' : Header) (values others : List Json) :
  ((enumeration header values).typeText = (enumeration header' others).typeText ↔
      List.Forall₂ Json.Alike values others) ∧
    ((enumeration header values).typeText = "never" ↔ values = [])
  := by
  constructor
  · rw [typeText, typeText, String.ofList_inj]
    exact unionText_eq_iff
  · constructor
    · intro h
      cases values with
      | nil => rfl
      | cons value values =>
        have htext : unionText (value :: values) = "never".toList := by
          rw [← h, typeText, String.toList_ofList, typeChars_enumeration]
        exact absurd htext (unionText_cons_ne_never value values)
    · rintro rfl
      rfl

end Descriptor

end ApiTypes
