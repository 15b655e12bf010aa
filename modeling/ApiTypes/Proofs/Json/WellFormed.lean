import ApiTypes.Json.Reader
import ApiTypes.Json.WellFormed
import Mathlib.Tactic.Common

/-!
# Values with distinct names

The names of an object of a value that `isWellFormed` are distinct, and whatever the value holds is
well-formed as well.  The values of texts are all well-formed: `Json.isWellFormed_of_parse`.
-/

namespace ApiTypes.Json

/-! ### The parts of a value -/

theorem allWellFormed_iff {items : List Json} :
  allWellFormed items = true ↔ ∀ item ∈ items, item.isWellFormed = true
  := by
  induction items with
  | nil => simp [allWellFormed]
  | cons first rest ih => rw [allWellFormed, Bool.and_eq_true, ih, List.forall_mem_cons]

theorem membersWellFormed_iff {members : List (String × Json)} :
  membersWellFormed members = true ↔ ∀ entry ∈ members, entry.2.isWellFormed = true
  := by
  induction members with
  | nil => simp [membersWellFormed]
  | cons first rest ih => rw [membersWellFormed, Bool.and_eq_true, ih, List.forall_mem_cons]

/-- The items of a well-formed array are well-formed. -/
theorem isWellFormed_array_iff {items : List Json} :
  (array items).isWellFormed = true ↔ ∀ item ∈ items, item.isWellFormed = true
  := allWellFormed_iff

/-- The names of the members of a well-formed object are distinct, and their values are
well-formed. -/
theorem isWellFormed_object_iff {members : Members} :
  (object members).isWellFormed = true ↔
    members.names.Nodup ∧ ∀ entry ∈ members, entry.2.isWellFormed = true
  := by
  rw [isWellFormed, Bool.and_eq_true, decide_eq_true_iff, membersWellFormed_iff]

/-- A field of a well-formed value is well-formed. -/
theorem isWellFormed_of_field? {value field : Json} {name : String}
    (h : value.isWellFormed = true) (hfield : value.field? name = some field) :
  field.isWellFormed = true
  := by
  cases value with
  | object members => apply (isWellFormed_object_iff.mp h).2 _ (Named.mem_of_get? hfield)
  | null | bool | number | string | array => simp [field?, asObject?] at hfield

theorem isWellFormed_insert {members : Members} {name : String} {value : Json}
    (hmembers : (object members).isWellFormed = true) (hvalue : value.isWellFormed = true) :
  (object (Named.insert name value members)).isWellFormed = true
  := by
  obtain ⟨hnames, hvalues⟩ := isWellFormed_object_iff.mp hmembers
  apply isWellFormed_object_iff.mpr
  use Named.nodup_names_insert hnames name value
  intro entry hentry
  rcases Named.eq_or_mem_of_mem_insert hentry with rfl | hentry
  · apply hvalue
  · apply hvalues entry hentry

/-! ### Reading -/

/-- The value that is read, if any, is well-formed. -/
def ReadsWellFormed {n : Nat} (found : Except Fault (Read Json n)) : Prop :=
  ∀ read, found = .ok read → read.value.isWellFormed = true

namespace ReadsWellFormed

variable {m n : Nat}

theorem error (fault : Fault) :
  @ReadsWellFormed n (.error fault)
  := nofun

theorem ok {read : Read Json n} (h : read.value.isWellFormed = true) :
  ReadsWellFormed (.ok read)
  := by
  rintro _ ⟨⟩
  apply h

theorem weaken {found : Except Fault (Read Json m)} (h : ReadsWellFormed found) (hle : m ≤ n) :
  ReadsWellFormed (found.map (·.weaken hle))
  := by
  cases found with
  | error fault => apply error
  | ok read => exact ok (h read rfl)

end ReadsWellFormed

theorem readsWellFormed_readWord {word s : List Char} {value : Json}
    (h : value.isWellFormed = true) :
  ReadsWellFormed (readWord word value s)
  := by
  unfold readWord
  split
  · apply ReadsWellFormed.ok h
  · apply ReadsWellFormed.error

theorem readsWellFormed_readNumberValue (negative : Bool) (s : List Char) :
  ReadsWellFormed (readNumberValue negative s)
  := by
  unfold readNumberValue
  split
  · apply ReadsWellFormed.ok rfl
  · apply ReadsWellFormed.error

section

variable {value : Reader Json} {n : Nat} {s : List Char} {hs : s.length < n}

theorem readsWellFormed_readItems {seen : List Json} (hvalue : ∀ s, ReadsWellFormed (value s))
    (hseen : ∀ item ∈ seen, item.isWellFormed = true) :
  ReadsWellFormed (readItems value seen s hs)
  := by
  fun_induction readItems value seen s hs with
  | case1 | case3 => apply ReadsWellFormed.error
  | case2 =>
    apply ReadsWellFormed.ok
    apply isWellFormed_array_iff.mpr
    simpa using hseen
  | case4 =>
    rename_i item read hread _ ih
    have hitem : ReadsWellFormed item := by
      unfold item
      split
      · apply (hvalue _).weaken
      · split
        · apply ReadsWellFormed.error
        · split
          · apply ReadsWellFormed.error
          · split
            · apply ReadsWellFormed.error
            · apply (hvalue _).weaken
    apply ih
    rw [List.forall_mem_cons]
    use hitem read hread

/-- The names of an object stay distinct, as a name that comes again replaces the value that it
had before. -/
theorem readsWellFormed_readMembers {first : Bool} {seen : Members}
    (hvalue : ∀ s, ReadsWellFormed (value s)) (hseen : (object seen).isWellFormed = true) :
  ReadsWellFormed (readMembers value first seen s hs)
  := by
  fun_induction readMembers value first seen s hs with
  | case1 | case3 | case4 | case5 | case6 => apply ReadsWellFormed.error
  | case2 => apply ReadsWellFormed.ok hseen
  | case7 =>
    rename_i read hread _ ih
    apply ih
    apply isWellFormed_insert hseen
    apply hvalue _ read hread

end

theorem readsWellFormed_readValue (depth : Nat) (s : List Char) :
  ReadsWellFormed (readValue depth s)
  := by
  induction depth using Nat.strongRecOn generalizing s with
  | ind depth ih =>
    fun_cases readValue depth s with
    | case1 | case3 | case5 | case12 => apply ReadsWellFormed.error
    | case2 _ _ rest =>
      intro read hread
      cases hstring : readString [] rest (Nat.le_refl _) with
      | error fault => simp [hstring, Except.map] at hread
      | ok string =>
        obtain rfl : _ = read := by simpa [hstring, Except.map] using hread
        rfl
    | case4 =>
      apply readsWellFormed_readItems
      · apply ih _ (Nat.lt_succ_self _)
      · simp
    | case6 =>
      apply readsWellFormed_readMembers
      · apply ih _ (Nat.lt_succ_self _)
      · rfl
    | case7 | case8 => apply (readsWellFormed_readNumberValue _ _).weaken
    | case9 | case10 | case11 => apply (readsWellFormed_readWord rfl).weaken

/-- The value of a text is well-formed. -/
theorem isWellFormed_of_parse {depth : Nat} {text : List Char} {value : Json}
    (h : parse depth text = .ok value) :
  value.isWellFormed = true
  := by
  cases hread : readValue depth text with
  | error fault => simp [parse, hread, bind, Except.bind] at h
  | ok read =>
    simp only [parse, hread, bind, Except.bind] at h
    split at h
    · obtain ⟨⟩ := h
      apply readsWellFormed_readValue depth text read hread
    · simp at h

end ApiTypes.Json
