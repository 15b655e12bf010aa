/-!
# Lists of named values

A `Named α` is a list of values with names.  `Named.get?` looks up the first value of a
name.  `Named.insert` gives a new value to a name that is there and puts a new name last, so
that it keeps names distinct.
-/

namespace ApiTypes

/-- Values with names, in order. -/
abbrev Named (α : Type) := List (String × α)

namespace Named

variable {α : Type}

/-- The first value of a name. -/
def get? : Named α → String → Option α
  | [], _ => none
  | (other, value) :: rest, name => if name = other then some value else get? rest name

/-- The names, in order. -/
def names (list : Named α) : List String :=
  list.map Prod.fst

/-- The list with the value of a name replaced where it stands, or put last if the name is
new. -/
def insert (name : String) (value : α) : Named α → Named α
  | [] => [(name, value)]
  | (other, old) :: rest =>
    if other = name then (name, value) :: rest
    else (other, old) :: insert name value rest

/-- The list with each name once, where it first stands, under the last of its values. -/
def collect (list : Named α) : Named α :=
  list.foldl (fun seen (name, value) => insert name value seen) []

@[simp]
theorem get?_nil (name : String) :
  get? ([] : Named α) name = none
  := rfl

theorem get?_cons (other name : String) (value : α) (rest : Named α) :
  get? ((other, value) :: rest) name = if name = other then some value else get? rest name
  := rfl

theorem get?_eq_none_iff {list : Named α} {name : String} :
  list.get? name = none ↔ name ∉ list.names
  := by
  induction list with
  | nil => simp [names]
  | cons entry rest ih =>
    obtain ⟨other, value⟩ := entry
    by_cases h : name = other
    · simp [get?_cons, names, h]
    · simp only [names] at ih
      simp [get?_cons, names, h, ih]

theorem mem_of_get? {list : Named α} {name : String} {value : α} (h : list.get? name = some value) :
  (name, value) ∈ list
  := by
  induction list with
  | nil => simp at h
  | cons entry rest ih =>
    obtain ⟨other, first⟩ := entry
    by_cases hname : name = other
    · obtain rfl : first = value := by simpa [get?_cons, hname] using h
      simp [hname]
    · apply List.mem_cons_of_mem
      apply ih
      simpa [get?_cons, hname] using h

/-- A member is the first of its name when names are distinct. -/
theorem get?_eq_some_of_mem {list : Named α} (hnames : list.names.Nodup) {name : String} {value : α}
    (h : (name, value) ∈ list) :
  list.get? name = some value
  := by
  induction list with
  | nil => simp at h
  | cons entry rest ih =>
    obtain ⟨other, first⟩ := entry
    obtain ⟨hother, hrest⟩ := List.nodup_cons.mp hnames
    rcases List.mem_cons.mp h with hfirst | hmem
    · obtain ⟨rfl, rfl⟩ := Prod.mk.inj hfirst
      rw [get?_cons, if_pos rfl]
    · have hne : name ≠ other := by
        rintro rfl
        apply hother
        apply List.mem_map.mpr
        exact ⟨(name, value), hmem, rfl⟩
      rw [get?_cons, if_neg hne, ih hrest hmem]

theorem get?_append (first second : Named α) (name : String) :
  get? (first ++ second) name = (get? first name).or (get? second name)
  := by
  induction first with
  | nil => rfl
  | cons entry rest ih =>
    obtain ⟨other, value⟩ := entry
    by_cases h : name = other
    · simp [get?_cons, h]
    · simp [get?_cons, h, ih]

theorem get?_eq_none_of_forall_ne {list : Named α} {name : String}
    (h : ∀ entry ∈ list, entry.1 ≠ name) :
  list.get? name = none
  := by
  apply get?_eq_none_iff.mpr
  intro hname
  obtain ⟨entry, hentry, rfl⟩ := List.mem_map.mp hname
  apply h entry hentry rfl

/-- Values of other names can be put in the place of values of other names. -/
theorem get?_replaced {before old new after : Named α} {name : String}
    (h : ∀ entry ∈ old ++ new, entry.1 ≠ name) :
  get? (before ++ old ++ after) name = get? (before ++ new ++ after) name
  := by
  have hold : get? old name = none :=
    get?_eq_none_of_forall_ne fun entry hentry => h entry (List.mem_append_left _ hentry)
  have hnew : get? new name = none :=
    get?_eq_none_of_forall_ne fun entry hentry => h entry (List.mem_append_right _ hentry)
  simp only [get?_append, hold, hnew]

/-- A look-up is the same among the members that a test leaves when all of the name are left. -/
theorem get?_filter {list : Named α} {name : String} {keep : String × α → Bool}
    (h : ∀ value, keep (name, value) = true) :
  get? (list.filter keep) name = list.get? name
  := by
  induction list with
  | nil => rfl
  | cons entry rest ih =>
    obtain ⟨other, value⟩ := entry
    by_cases hname : name = other
    · subst hname
      rw [List.filter_cons_of_pos (h value), get?_cons, get?_cons, if_pos rfl, if_pos rfl]
    · by_cases hkeep : keep (other, value) = true
      · rw [List.filter_cons_of_pos hkeep, get?_cons, get?_cons, if_neg hname, if_neg hname, ih]
      · rw [List.filter_cons_of_neg hkeep, get?_cons, if_neg hname, ih]

/-- The order of values has no say in a look-up when their names are distinct. -/
theorem get?_eq_of_perm {list other : Named α} (hnames : list.names.Nodup) (h : list.Perm other)
    (name : String) :
  list.get? name = other.get? name
  := by
  have hperm : list.names.Perm other.names := h.map Prod.fst
  cases hvalue : list.get? name with
  | none =>
    symm
    apply get?_eq_none_iff.mpr
    rw [← hperm.mem_iff]
    apply get?_eq_none_iff.mp hvalue
  | some value =>
    symm
    apply get?_eq_some_of_mem (hperm.nodup_iff.mp hnames)
    apply h.mem_iff.mp (mem_of_get? hvalue)

/-- A name that was just inserted has the value it was given. -/
@[simp]
theorem get?_insert_self (name : String) (value : α) (list : Named α) :
  (insert name value list).get? name = some value
  := by
  induction list with
  | nil => simp [insert, get?_cons]
  | cons entry rest ih =>
    obtain ⟨other, old⟩ := entry
    by_cases h : other = name
    · simp [insert, get?_cons, h]
    · simp [insert, get?_cons, h, Ne.symm h, ih]

/-- An insertion leaves every other name as it was. -/
theorem get?_insert_of_ne {name query : String} (h : query ≠ name) (value : α) (list : Named α) :
  (insert name value list).get? query = list.get? query
  := by
  induction list with
  | nil => simp [insert, get?_cons, h]
  | cons entry rest ih =>
    obtain ⟨other, old⟩ := entry
    by_cases ho : other = name
    · simp [insert, get?_cons, ho, h]
    · simp [insert, get?_cons, ho, ih]

/-- An insertion adds its name at the end exactly when it was missing. -/
theorem names_insert (name : String) (value : α) (list : Named α) :
  (insert name value list).names =
    if name ∈ list.names then list.names else list.names ++ [name]
  := by
  induction list with
  | nil => simp [insert, names]
  | cons entry rest ih =>
    obtain ⟨other, old⟩ := entry
    simp only [names] at ih
    by_cases h : other = name
    · simp [insert, names, h]
    · by_cases hr : name ∈ rest.map Prod.fst
      · simp [insert, names, h, Ne.symm h, ih, hr]
      · simp [insert, names, h, Ne.symm h, ih, hr]

/-- An insertion keeps names distinct. -/
theorem nodup_names_insert {list : Named α} (h : list.names.Nodup) (name : String) (value : α) :
  (insert name value list).names.Nodup
  := by
  rw [names_insert]
  split
  · exact h
  · rw [List.nodup_append]
    grind

/-- A member after an insertion is the one inserted or was there before. -/
theorem eq_or_mem_of_mem_insert {list : Named α} {name : String} {value : α} {entry : String × α}
    (h : entry ∈ insert name value list) :
  entry = (name, value) ∨ entry ∈ list
  := by
  induction list with
  | nil =>
    left
    simpa [insert] using h
  | cons first rest ih =>
    unfold insert at h
    split at h
    · rcases List.mem_cons.mp h with h | h
      · left
        apply h
      · right
        apply List.mem_cons_of_mem _ h
    · rcases List.mem_cons.mp h with h | h
      · right
        apply List.mem_cons.mpr (.inl h)
      · apply (ih h).imp_right
        apply List.mem_cons_of_mem

end Named

end ApiTypes
