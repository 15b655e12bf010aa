import ApiTypes.Descriptor
import ApiTypes.Proofs.Double.Text
import Mathlib.Logic.ExistsUnique
import Mathlib.Tactic.Common

/-!
# Flags of types

The flags of a type are read off its text, and yet exactly one of them is set, the one of its
kind: `Descriptor.hasFlag_iff`.  The text of an enumeration is what has to be told apart from
the texts of other types.  It starts with the text of a value, and that with a character that
no other type starts with, whatever the value is.
-/

namespace ApiTypes

/-! ### Texts of values -/

/-- The text starts with a character unlike the first one of `ref`, `object`, `Array<` and
`Dictionary<`. -/
def StartsLiteral (text : List Char) : Prop :=
  ∃ c rest, text = c :: rest ∧ c ∉ ['r', 'o', 'A', 'D']

namespace StartsLiteral

theorem cons {c : Char} (h : c ∉ ['r', 'o', 'A', 'D']) (rest : List Char) :
  StartsLiteral (c :: rest)
  := ⟨c, rest, rfl, h⟩

theorem of_isDigit {c : Char} (h : c.isDigit) (rest : List Char) :
  StartsLiteral (c :: rest)
  := by
  apply cons
  intro hc
  simp only [List.mem_cons, List.not_mem_nil, or_false] at hc
  rcases hc with rfl | rfl | rfl | rfl <;> revert h <;> decide

theorem append {text : List Char} (h : StartsLiteral text) (more : List Char) :
  StartsLiteral (text ++ more)
  := by
  obtain ⟨c, rest, rfl, hc⟩ := h
  apply cons hc

theorem toDigits (n : Nat) :
  StartsLiteral (Nat.toDigits 10 n)
  := by
  have hdigit : ∀ c ∈ Nat.toDigits 10 n, c.isDigit := fun c hc =>
    Nat.isDigit_of_mem_toDigits (by decide) (by decide) hc
  rcases h : Nat.toDigits 10 n with _ | ⟨c, rest⟩
  · simp at h
  · apply of_isDigit
    apply hdigit
    simp [h]

theorem signedChars (n : Int) :
  StartsLiteral (Double.signedChars n)
  := by
  unfold Double.signedChars
  split
  · apply cons
    decide
  · apply toDigits

theorem layOut {digits : List Char} (h : ∀ d ∈ digits, d.isDigit) (point : Int) :
  StartsLiteral (Double.layOut digits point)
  := by
  obtain ⟨c, rest, htext, hc⟩ := Double.exists_layOut_eq_cons h point
  rw [htext]
  rcases hc with hc | rfl | rfl
  · apply of_isDigit hc
  · apply cons (by decide)
  · apply cons (by decide)

theorem double (x : Double) :
  StartsLiteral x.chars
  := by
  unfold Double.chars
  cases x.negative with
  | false =>
    simp only [Bool.false_eq_true, if_false, List.nil_append]
    split
    · apply cons
      decide
    · apply layOut
      intro d
      apply Double.isDigit_of_mem_pointed
  | true =>
    simp only [if_true]
    split
    · apply cons
      decide
    · apply cons
      decide

theorem value (v : Json) :
  StartsLiteral v.chars
  := by
  cases v with
  | null => apply cons (by decide)
  | bool b => cases b <;> apply cons (by decide)
  | number n =>
    cases n with
    | int n => apply signedChars
    | double x => apply double
  | string s => apply cons (by decide)
  | array items => apply cons (by decide)
  | object members => apply cons (by decide)

theorem literal (v : Json) :
  StartsLiteral (Descriptor.literal v)
  := by
  unfold Descriptor.literal
  split
  · next x =>
    split
    · split
      · apply signedChars
      · apply double
    · apply double
  · apply value

/-- The text of an enumeration starts like its first value, or like `never`. -/
theorem unionText (values : List Json) :
  StartsLiteral (Descriptor.unionText values)
  := by
  rcases values with _ | ⟨v, rest⟩
  · apply cons
    decide
  · rcases rest with _ | ⟨w, rest⟩
    · apply (literal v).append []
    · apply (literal v).append

end StartsLiteral

/-! ### Kinds -/

/-- The flags for the kinds of types. -/
inductive Descriptor.Flag where
  | ref
  | object
  | array
  | dictionary
  | atomic
deriving DecidableEq

/-- The flag for a shape, none for a wrapper, which has the type of the node in it. -/
def Shape.flag? : Shape → Option Descriptor.Flag
  | .wrapper _ => none
  | .reference _ => some .ref
  | .enumeration _ => some .atomic
  | .primitive _ => some .atomic
  | .array _ => some .array
  | .dictionary _ => some .dictionary
  | .any => some .atomic
  | .object => some .object

namespace Descriptor

/-- The test for a flag of a type. -/
def hasFlag (type : Descriptor) : Flag → Bool
  | .ref => type.isRef
  | .object => type.isObject
  | .array => type.isArray
  | .dictionary => type.isDictionary
  | .atomic => type.isAtomic

/-- The flag for the kind of a type. -/
def flag : Descriptor → Flag
  | .reference _ _ => .ref
  | .enumeration _ _ => .atomic
  | .primitive _ _ => .atomic
  | .array _ _ => .array
  | .dictionary _ _ => .dictionary
  | .any _ => .atomic
  | .object _ _ => .object

theorem hasFlag_enumeration_iff {header : Header} {values : List Json} {flag : Flag} :
  (enumeration header values).hasFlag flag = true ↔ flag = .atomic
  := by
  obtain ⟨c, rest, htext, hc⟩ := StartsLiteral.unionText values
  have htype : (enumeration header values).typeChars = c :: rest := htext
  simp only [List.mem_cons, List.not_mem_nil, or_false, not_or] at hc
  obtain ⟨hr, ho, hA, hD⟩ := hc
  cases flag with
  | ref => simp [hasFlag, isRef, htype, hr]
  | object => simp [hasFlag, isObject, htype, ho]
  | array => simp [hasFlag, isArray, htype, List.isPrefixOf, Ne.symm hA]
  | dictionary => simp [hasFlag, isDictionary, htype, List.isPrefixOf, Ne.symm hD]
  | atomic => simp [hasFlag, isAtomic, isEnum, values?]

/-- A type has the flag of its kind and no other. -/
theorem hasFlag_iff (type : Descriptor) (flag : Flag) :
  type.hasFlag flag = true ↔ flag = type.flag
  := by
  cases type with
  | enumeration header values => apply hasFlag_enumeration_iff
  | primitive header type =>
    cases type <;> cases flag <;>
      simp [hasFlag, Descriptor.flag, isRef, isObject, isArray, isDictionary, isAtomic,
        Primitive.typeText, List.isPrefixOf]
  | reference | array | dictionary | any | object =>
    cases flag <;>
      simp [hasFlag, Descriptor.flag, isRef, isObject, isArray, isDictionary, isAtomic, isEnum,
        values?, List.isPrefixOf]

theorem existsUnique_hasFlag (type : Descriptor) :
  ∃! flag, type.hasFlag flag = true
  := ⟨type.flag, (type.hasFlag_iff _).mpr rfl, fun flag h => (type.hasFlag_iff flag).mp h⟩

theorem isRef_iff (type : Descriptor) :
  type.isRef = true ↔ ∃ header target, type = reference header target
  := by
  apply (type.hasFlag_iff .ref).trans
  cases type <;> simp [flag]

theorem isObject_iff (type : Descriptor) :
  type.isObject = true ↔ ∃ header properties, type = object header properties
  := by
  apply (type.hasFlag_iff .object).trans
  cases type <;> simp [flag]

theorem isArray_iff (type : Descriptor) :
  type.isArray = true ↔ ∃ header element, type = array header element
  := by
  apply (type.hasFlag_iff .array).trans
  cases type <;> simp [flag]

theorem isDictionary_iff (type : Descriptor) :
  type.isDictionary = true ↔ ∃ header element, type = dictionary header element
  := by
  apply (type.hasFlag_iff .dictionary).trans
  cases type <;> simp [flag]

/-- The text of an array or a dictionary has the name of its element between brackets. -/
theorem typeText_array (header : Header) (element : Descriptor) :
  (array header element).typeText = "Array<" ++ element.elementName ++ ">"
  := by
  apply String.toList_injective
  simp [typeText, elementName]

theorem typeText_dictionary (header : Header) (element : Descriptor) :
  (dictionary header element).typeText = "Dictionary<" ++ element.elementName ++ ">"
  := by
  apply String.toList_injective
  simp [typeText, elementName]

theorem typeChars_ne_nil (type : Descriptor) :
  type.typeChars ≠ []
  := by
  cases type with
  | enumeration header values =>
    obtain ⟨c, rest, htext, -⟩ := StartsLiteral.unionText values
    simp [htext]
  | primitive header type => cases type <;> simp [Primitive.typeText]
  | reference | array | dictionary | any | object => simp

end Descriptor

end ApiTypes
