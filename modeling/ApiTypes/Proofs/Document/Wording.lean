import ApiTypes.Document.Error
import Mathlib.Data.List.Induction

/-!
# Errors in words

The words for an error name its place, the part of a document that it is about, and the words for
a mismatch name the path to a part of a value and the kind of that part.  `IsPathText` says how the
text of a path is put together from its steps.  As long as no key looks like a step itself, it is
the text of no other path: `IsPathText.eq_of_isPlain`.
-/

namespace ApiTypes

/-! ### Places -/

namespace Place

/-- Only the document as a whole is told as such: the words for a definition go on otherwise, and
those for operations start with the upper case form of a verb. -/
theorem text_eq_document_iff {place : Place} :
  place.text = "document" ↔ place = .document
  := by
  have hverb : ∀ (verb : Verb) (rest : String), verb.text ++ rest ≠ "document" := by
    intro verb rest h
    have hhead := congrArg (fun text => text.toList.head?) h
    cases verb <;> simp [Verb.text] at hhead
  constructor
  · intro h
    cases place with
    | document => rfl
    | definition name =>
      have hsecond := congrArg (fun text => text.toList[1]?) h
      simp [text] at hsecond
    | operation verb path | parameter verb path | response verb path =>
      simp only [text, operationText, String.append_assoc] at h
      absurd h
      apply hverb
  · rintro rfl
    rfl

end Place

namespace DocumentError

/-- The place that an error is about, if it is about one. -/
def place? : DocumentError → Option Place
  | .malformed place _ => some place
  | .resolve place _ => some place
  | _ => none

/-- The words for an error about a place end with the words for that place and for the cause. -/
theorem exists_message_eq {error : DocumentError} {place : Place} (h : error.place? = some place) :
  ∃ verdict ∈ ["malformed ", "failed to resolve "], ∃ cause,
    error.cause? = some cause ∧ error.message = verdict ++ place.text ++ ": " ++ cause
  := by
  cases error with
  | malformed found mismatch =>
    obtain rfl : found = place := Option.some.inj h
    exact ⟨"malformed ", by simp, mismatch.message, rfl, rfl⟩
  | resolve found cause =>
    obtain rfl : found = place := Option.some.inj h
    exact ⟨"failed to resolve ", by simp, cause.message, rfl, rfl⟩
  | unsupportedVersion | unknownDefinition => simp [place?] at h

end DocumentError

/-! ### Paths -/

/-- The part of a value that a path leads to. -/
def Json.at? (value : Json) : List Step → Option Json
  | [] => some value
  | .key name :: rest => (value.field? name).bind fun found => found.at? rest
  | .index position :: rest =>
    (value.asArray?.bind fun items => items[position]?).bind fun found => found.at? rest

/-- The text of a path: keys have a point before them unless they come first, and positions stand
in brackets. -/
inductive IsPathText : List Step → String → Prop
  | root : IsPathText [] "."
  | key (name : String) : IsPathText [.key name] name
  | index (position : Nat) : IsPathText [.index position] ("[" ++ Nat.repr position ++ "]")
  | toKey {path : List Step} {text : String} (name : String) (hpath : path ≠ [])
      (h : IsPathText path text) :
    IsPathText (path ++ [.key name]) (text ++ "." ++ name)
  | toIndex {path : List Step} {text : String} (position : Nat) (hpath : path ≠ [])
      (h : IsPathText path text) :
    IsPathText (path ++ [.index position]) (text ++ "[" ++ Nat.repr position ++ "]")

namespace Step

/-- The text of a step that is not the first. -/
def text : Step → String
  | .key name => "." ++ name
  | .index position => "[" ++ Nat.repr position ++ "]"

/-- The test for a character that is neither a point nor an opening bracket, by which steps
start. -/
def isInner (c : Char) : Bool :=
  c != '.' && c != '['

/-- The test for a step that is a position, or a key that is not empty and holds nothing by which
steps start. -/
def isPlain : Step → Bool
  | .key name => !name.toList.isEmpty && name.toList.all isInner
  | .index _ => true

end Step

variable {path other : List Step} {text : String}

theorem pathText_concat (hpath : path ≠ []) (step : Step) :
  pathText (path ++ [step]) = pathText path ++ step.text
  := by
  cases path with
  | nil => exact absurd rfl hpath
  | cons first rest =>
    cases step <;>
      simp [pathText, Step.text, String.join_append, String.join_cons, String.append_assoc]

/-- The text of a path is put together from its steps. -/
theorem isPathText_iff :
  IsPathText path text ↔ pathText path = text
  := by
  constructor
  · intro h
    induction h with
    | root => rfl
    | key name => simp [pathText]
    | index position => simp [pathText]
    | toKey name hpath h ih => rw [pathText_concat hpath, ih, Step.text, String.append_assoc]
    | toIndex position hpath h ih =>
      simp only [pathText_concat hpath, ih, Step.text, String.append_assoc]
  · rintro rfl
    induction path using List.reverseRecOn with
    | nil => exact .root
    | append_singleton path step ih =>
      by_cases hpath : path = []
      · subst hpath
        cases step with
        | key name => simpa [pathText] using IsPathText.key name
        | index position => simpa [pathText] using IsPathText.index position
      · rw [pathText_concat hpath]
        cases step with
        | key name => simpa only [Step.text, String.append_assoc] using ih.toKey name hpath
        | index position =>
          simpa only [Step.text, String.append_assoc] using ih.toIndex position hpath

/-! ### Plain paths -/

/-- What passes a test in front of a text is taken off again, if the text starts with a character
that does not pass. -/
theorem takeWhile_append_eq {p : Char → Bool} {first rest : List Char}
    (hfirst : ∀ c ∈ first, p c = true) (hrest : ∀ c ∈ rest.head?, p c = false) :
  (first ++ rest).takeWhile p = first
  := by
  rw [List.takeWhile_append_of_pos hfirst]
  cases rest with
  | nil => simp
  | cons c rest => simp [hrest c rfl]

/-- Equal texts have the same in front of them that passes a test, and the same behind it. -/
theorem eq_and_eq_of_forall {p : Char → Bool} {first other rest more : List Char}
    (hfirst : ∀ c ∈ first, p c = true) (hother : ∀ c ∈ other, p c = true)
    (hrest : ∀ c ∈ rest.head?, p c = false) (hmore : ∀ c ∈ more.head?, p c = false)
    (h : first ++ rest = other ++ more) :
  first = other ∧ rest = more
  := by
  obtain rfl : first = other := by
    rw [← takeWhile_append_eq hfirst hrest, h, takeWhile_append_eq hother hmore]
  use rfl
  apply List.append_cancel_left h

namespace Step

theorem toList_text_key (name : String) :
  (Step.key name).text.toList = '.' :: name.toList
  := by
  simp [text]

theorem toList_text_index (position : Nat) :
  (Step.index position).text.toList = '[' :: (Nat.toDigits 10 position ++ [']'])
  := by
  simp [text, Nat.toList_repr]

/-- A step that is not the first starts with a point or an opening bracket. -/
theorem exists_toList_text_eq_cons (step : Step) :
  ∃ c rest, step.text.toList = c :: rest ∧ isInner c = false
  := by
  cases step with
  | key name => exact ⟨'.', _, toList_text_key name, rfl⟩
  | index position => exact ⟨'[', _, toList_text_index position, rfl⟩

theorem bne_of_mem_toDigits {position : Nat} {c : Char} (h : c ∈ Nat.toDigits 10 position) :
  (c != ']') = true
  := by
  have hdigit := Nat.isDigit_of_mem_toDigits (by decide) (by decide) h
  rw [bne_iff_ne]
  rintro rfl
  simp at hdigit

/-- A plain step is found again in a text that it starts, and so is what comes behind it, if this
starts as a step does. -/
theorem eq_and_eq_of_append_eq {step second : Step} {rest more : List Char}
    (hstep : step.isPlain = true) (hsecond : second.isPlain = true)
    (hrest : ∀ c ∈ rest.head?, isInner c = false) (hmore : ∀ c ∈ more.head?, isInner c = false)
    (h : step.text.toList ++ rest = second.text.toList ++ more) :
  step = second ∧ rest = more
  := by
  cases step with
  | key name =>
    cases second with
    | key other =>
      rw [toList_text_key, toList_text_key, List.cons_append, List.cons_append] at h
      simp only [isPlain, Bool.and_eq_true, List.all_eq_true] at hstep hsecond
      obtain ⟨hname, hback⟩ :=
        eq_and_eq_of_forall hstep.2 hsecond.2 hrest hmore (List.cons.inj h).2
      exact ⟨congrArg key (String.toList_injective hname), hback⟩
    | index position => simp [toList_text_key, toList_text_index] at h
  | index position =>
    cases second with
    | key name => simp [toList_text_key, toList_text_index] at h
    | index other =>
      rw [toList_text_index, toList_text_index, List.cons_append, List.cons_append,
        List.append_assoc, List.append_assoc] at h
      obtain ⟨hdigits, hback⟩ := eq_and_eq_of_forall (fun _ => bne_of_mem_toDigits)
        (fun _ => bne_of_mem_toDigits) (by simp) (by simp) (List.cons.inj h).2
      have hposition : position = other := by
        rw [← Nat.ofDigitChars_toDigits (b := 10) (n := position) (by decide) (by decide), hdigits,
          Nat.ofDigitChars_toDigits (by decide) (by decide)]
      exact ⟨congrArg index hposition, (List.cons.inj hback).2⟩

end Step

/-- The characters of the steps of a path, each as if it were not the first. -/
def stepChars (path : List Step) : List Char :=
  path.flatMap fun step => step.text.toList

theorem exists_stepChars_cons_eq (step : Step) (rest : List Step) :
  ∃ c more, stepChars (step :: rest) = c :: more ∧ Step.isInner c = false
  := by
  obtain ⟨c, more, htext, hc⟩ := step.exists_toList_text_eq_cons
  use c, more ++ stepChars rest
  simp [stepChars, htext, hc]

theorem isInner_of_mem_head?_stepChars (path : List Step) :
  ∀ c ∈ (stepChars path).head?, Step.isInner c = false
  := by
  cases path with
  | nil => simp [stepChars]
  | cons step rest =>
    obtain ⟨c, more, hchars, hc⟩ := exists_stepChars_cons_eq step rest
    simp [hchars, hc]

/-- Plain steps are found again in their characters. -/
theorem eq_of_stepChars_eq (hpath : path.all Step.isPlain = true)
    (hother : other.all Step.isPlain = true) (h : stepChars path = stepChars other) :
  path = other
  := by
  induction path generalizing other with
  | nil =>
    cases other with
    | nil => rfl
    | cons second more =>
      obtain ⟨c, chars, hchars, -⟩ := exists_stepChars_cons_eq second more
      rw [hchars] at h
      cases h
  | cons step rest ih =>
    cases other with
    | nil =>
      obtain ⟨c, chars, hchars, -⟩ := exists_stepChars_cons_eq step rest
      rw [hchars] at h
      cases h
    | cons second more =>
      rw [List.all_cons, Bool.and_eq_true] at hpath hother
      obtain ⟨rfl, hback⟩ := Step.eq_and_eq_of_append_eq hpath.1 hother.1
        (isInner_of_mem_head?_stepChars rest) (isInner_of_mem_head?_stepChars more) h
      rw [ih hpath.2 hother.2 hback]

theorem toList_join_eq_stepChars (path : List Step) :
  (String.join (path.map Step.text)).toList = stepChars path
  := by
  rw [String.toList_join, List.flatMap_map, stepChars]

/-- A key that comes first has no point before it. -/
theorem toList_pathText_key (name : String) (rest : List Step) :
  (pathText (.key name :: rest)).toList = name.toList ++ stepChars rest
  := by
  rw [← toList_join_eq_stepChars, ← String.toList_append]
  rfl

theorem toList_pathText_index (position : Nat) (rest : List Step) :
  (pathText (.index position :: rest)).toList = stepChars (.index position :: rest)
  := by
  rw [← toList_join_eq_stepChars, List.map_cons, String.join_cons]
  rfl

/-- The characters of the steps of the path that has the text, if its steps are plain. -/
def stepCharsOf (text : List Char) : List Char :=
  if text = ['.'] then [] else if text.head? = some '[' then text else '.' :: text

theorem stepCharsOf_pathText (hpath : path.all Step.isPlain = true) :
  stepCharsOf (pathText path).toList = stepChars path
  := by
  cases path with
  | nil => rfl
  | cons step rest =>
    cases step with
    | key name =>
      simp only [List.all_cons, Step.isPlain, Bool.and_eq_true, List.all_eq_true] at hpath
      obtain ⟨⟨hname, hinner⟩, -⟩ := hpath
      obtain ⟨c, more, htext⟩ := List.exists_cons_of_ne_nil
        (show name.toList ≠ [] by simpa using hname)
      have hc : Step.isInner c = true := by
        apply hinner
        simp [htext]
      have hpathText : (pathText (.key name :: rest)).toList = c :: (more ++ stepChars rest) := by
        rw [toList_pathText_key, htext, List.cons_append]
      rw [stepCharsOf, if_neg, if_neg, toList_pathText_key]
      · simp [stepChars, Step.toList_text_key]
      · rw [hpathText, List.head?_cons, Option.some.injEq]
        rintro rfl
        simp [Step.isInner] at hc
      · rw [hpathText, List.cons.injEq, not_and]
        rintro rfl
        simp [Step.isInner] at hc
    | index position =>
      have hhead : (pathText (.index position :: rest)).toList.head? = some '[' := by
        simp [toList_pathText_index, stepChars, Step.toList_text_index]
      rw [stepCharsOf, if_neg, if_pos hhead, toList_pathText_index]
      intro hroot
      simp [hroot] at hhead

/-- A text is that of one path with plain steps at most. -/
theorem IsPathText.eq_of_isPlain (h : IsPathText path text) (hpath : path.all Step.isPlain = true)
    (h' : IsPathText other text) (hother : other.all Step.isPlain = true) :
  path = other
  := by
  apply eq_of_stepChars_eq hpath hother
  rw [← stepCharsOf_pathText hpath, ← stepCharsOf_pathText hother, isPathText_iff.mp h,
    isPathText_iff.mp h']

/-! ### Kinds -/

namespace Json

/-- The name of the type of a value. -/
def typeName : Json → String
  | .null => "null"
  | .bool _ => "boolean"
  | .number (.int _) => "integer"
  | .number (.double _) => "floating point"
  | .string _ => "string"
  | .array _ => "sequence"
  | .object _ => "map"

/-- What is told of a value behind its type, which is nothing for null, lists and objects. -/
def shown : Json → String
  | .bool b => " `" ++ (Json.bool b).text ++ "`"
  | .number n => " `" ++ (Json.number n).text ++ "`"
  | .string s => " " ++ Text.quoted s
  | .null | .array _ | .object _ => ""

end Json

/-- The words for the kind of a value are its type and the value, if that is shown. -/
theorem kindText_eq (value : Json) :
  kindText value = value.typeName ++ value.shown
  := by
  have hnumber : ∀ type text : String,
      type ++ " `" ++ text ++ "`" = type ++ (" `" ++ text ++ "`") := by
    simp only [String.append_assoc, implies_true]
  cases value with
  | null | array | object => rfl
  | bool b => cases b <;> rfl
  | number n =>
    cases n with
    | int n => exact hnumber "integer" _
    | double x => exact hnumber "floating point" _
  | string s => exact (String.append_assoc : "string" ++ " " ++ Text.quoted s = _)

/-- The words for a value of another kind name its type. -/
theorem message_otherKind (found : Json) (expected : Form) :
  (Detail.otherKind found expected).message =
    "invalid type: " ++ found.typeName ++ found.shown ++ ", expected " ++ expected.message
  := by
  have hkind : "invalid type: " ++ kindText found =
      "invalid type: " ++ found.typeName ++ found.shown := by
    rw [kindText_eq]
    exact String.append_assoc.symm
  exact congrArg (fun text => text ++ ", expected " ++ expected.message) hkind

end ApiTypes
