import ApiTypes.Files.Disk
import ApiTypes.Proofs.Outcome
import Mathlib.Data.List.DropRight

/-!
# Contents of files

`disk.contents? place` are the contents of the file at a place of a disk, if there is one.  The
making of directories leaves them as they are at every place, even when it fails half way:
`Disk.keepsFiles_makeDirectories`.  The writing of a file changes them at one place only, and that
is where its path leads from then on: `Disk.exists_isWritten_of_write`.
-/

namespace ApiTypes

namespace Entry

variable {entry new : Entry} {entries : List (String × Entry)} {place other : Location}
  {name : String}

/-- The contents of a file; a directory has none. -/
def contents? : Entry → Option ByteArray
  | .file contents => some contents
  | .directory _ => none

@[simp]
theorem at?_nil (entry : Entry) :
  entry.at? [] = some entry
  := by
  cases entry <;> rfl

@[simp]
theorem at?_directory_cons :
  (directory entries).at? (name :: place) = (Named.get? entries name).bind (·.at? place)
  := rfl

@[simp]
theorem at?_file_cons (contents : ByteArray) :
  (file contents).at? (name :: place) = none
  := rfl

theorem at?_append (entry : Entry) (first second : Location) :
  entry.at? (first ++ second) = (entry.at? first).bind (·.at? second)
  := by
  induction first generalizing entry with
  | nil => simp
  | cons name rest ih =>
    cases entry with
    | file contents => rfl
    | directory entries => cases h : Named.get? entries name <;> simp [h, ih]

/-- What is put in a directory is there. -/
theorem at?_put_self (h : entry.at? place = some (.directory entries)) :
  (put new (place ++ [name]) entry).at? (place ++ [name]) = some new
  := by
  induction place generalizing entry with
  | nil =>
    obtain rfl : entry = .directory entries := by simpa using h
    simp [put]
  | cons first rest ih =>
    cases entry with
    | file contents => simp at h
    | directory siblings =>
      obtain ⟨child, hchild, hrest⟩ := Option.bind_eq_some_iff.mp h
      simp [put, hchild, ih hrest]

/-- What is put in a directory does not matter to any place that is not on the way from there. -/
theorem contents?_at?_put (h : entry.at? place = some (.directory entries))
    (hother : ¬ place ++ [name] <+: other) :
  ((put new (place ++ [name]) entry).at? other).map contents? = (entry.at? other).map contents?
  := by
  induction place generalizing entry other with
  | nil =>
    obtain rfl : entry = .directory entries := by simpa using h
    cases other with
    | nil => rfl
    | cons first rest =>
      have hne : first ≠ name := by
        rintro rfl
        apply hother
        use rest
        rfl
      simp [put, Named.get?_insert_of_ne hne]
  | cons next more ih =>
    cases entry with
    | file contents => simp at h
    | directory siblings =>
      obtain ⟨child, hchild, hmore⟩ := Option.bind_eq_some_iff.mp h
      cases other with
      | nil => rfl
      | cons first rest =>
        by_cases hfirst : first = next
        · subst hfirst
          have hrest : ¬ more ++ [name] <+: rest := by simpa using hother
          simp [put, hchild, ih hmore hrest]
        · simp [put, Named.get?_insert_of_ne hfirst]

/-- There is nothing below the entry. -/
def IsLeaf (entry : Entry) : Prop :=
  ∀ name rest, entry.at? (name :: rest) = none

theorem isLeaf_file (contents : ByteArray) : (file contents).IsLeaf := fun _ _ => rfl

theorem isLeaf_directory_nil : (directory []).IsLeaf := fun _ _ => rfl

theorem isLeaf_of_isDirectory_eq_false (h : entry.isDirectory = false) : entry.IsLeaf := by
  cases entry with
  | file contents => apply isLeaf_file
  | directory entries => simp [isDirectory] at h

end Entry

namespace Disk

variable {disk before after : Disk} {place directory other : Location} {name path : String}
  {entries : List (String × Entry)} {contents : ByteArray} {steps : List String}

/-- The contents of the file at a place. -/
def contents? (disk : Disk) (place : Location) : Option ByteArray :=
  (disk.at? place).bind Entry.contents?

/-- What is at a place: a file with its contents, or a directory, which has none. -/
def kind? (disk : Disk) (place : Location) : Option (Option ByteArray) :=
  (disk.at? place).map Entry.contents?

/-- The files of a disk are those of another. -/
structure KeepsFiles (before after : Disk) : Prop where
  workingDirectory_eq : after.workingDirectory = before.workingDirectory
  contents?_eq : ∀ place, after.contents? place = before.contents? place

/-- The path leads to a file with the given contents, and every other file is that of another
disk. -/
structure IsWritten (before : Disk) (path : String) (contents : ByteArray) (after : Disk)
    (place : Location) : Prop where
  workingDirectory_eq : after.workingDirectory = before.workingDirectory
  locate_eq : after.locate path = .ok place
  contents?_eq : after.contents? place = some contents
  contents?_of_ne : ∀ other, other ≠ place → after.contents? other = before.contents? other

theorem KeepsFiles.refl (disk : Disk) : disk.KeepsFiles disk := ⟨rfl, fun _ => rfl⟩

theorem KeepsFiles.trans {between : Disk} (h : before.KeepsFiles between)
    (h' : between.KeepsFiles after) :
  before.KeepsFiles after
  where
  workingDirectory_eq := h'.workingDirectory_eq.trans h.workingDirectory_eq
  contents?_eq place := (h'.contents?_eq place).trans (h.contents?_eq place)

/-- A write after other work that leaves files as they are. -/
theorem IsWritten.of_keepsFiles {between : Disk} (hkeeps : before.KeepsFiles between)
    (h : between.IsWritten path contents after place) :
  before.IsWritten path contents after place
  where
  workingDirectory_eq := h.workingDirectory_eq.trans hkeeps.workingDirectory_eq
  locate_eq := h.locate_eq
  contents?_eq := h.contents?_eq
  contents?_of_ne other hother :=
    (h.contents?_of_ne other hother).trans (hkeeps.contents?_eq other)

theorem contents?_eq_join_kind? (disk : Disk) (place : Location) :
  disk.contents? place = (disk.kind? place).join
  := by
  unfold contents? kind?
  cases disk.at? place <;> rfl

theorem isSome_kind? (disk : Disk) (place : Location) :
  (disk.kind? place).isSome = (disk.at? place).isSome
  := Option.isSome_map

theorem kind?_eq_some_none_iff :
  disk.kind? place = some none ↔ ∃ entries, disk.at? place = some (.directory entries)
  := by
  unfold kind?
  cases disk.at? place with
  | none => simp
  | some entry => cases entry <;> simp [Entry.contents?]

/-! ### Putting entries -/

/-- What is below a name in a directory. -/
theorem at?_append_name (hdirectory : disk.at? directory = some (.directory entries))
    (rest : Location) :
  disk.at? (directory ++ [name] ++ rest) = (Named.get? entries name).bind (·.at? rest)
  := by
  rw [at?] at hdirectory
  rw [at?, List.append_assoc, Entry.at?_append, hdirectory]
  rfl

/-- What is put in a directory is there, with all that is below it. -/
theorem at?_putEntry_append {entry : Entry}
    (hdirectory : disk.at? directory = some (.directory entries)) (rest : Location) :
  (disk.putEntry directory name entry).at? (directory ++ [name] ++ rest) = entry.at? rest
  := by
  have hself : (disk.putEntry directory name entry).root.at? (directory ++ [name]) = some entry :=
    Entry.at?_put_self hdirectory
  rw [at?, Entry.at?_append, hself, Option.bind_some]

/-- An entry that is put in a directory, where nothing is below it and nothing was, does not
matter to any other place. -/
theorem kind?_putEntry {entry : Entry} (hdirectory : disk.at? directory = some (.directory entries))
    (hold : ∀ old ∈ Named.get? entries name, old.IsLeaf) (hnew : entry.IsLeaf) (other : Location) :
  (disk.putEntry directory name entry).kind? other =
    if other = directory ++ [name] then some entry.contents? else disk.kind? other
  := by
  by_cases hprefix : directory ++ [name] <+: other
  · obtain ⟨rest, rfl⟩ := hprefix
    rw [kind?, kind?, at?_putEntry_append hdirectory, at?_append_name hdirectory]
    cases rest with
    | nil => simp
    | cons first rest =>
      have hnone : ((Named.get? entries name).bind (·.at? (first :: rest))) = none :=
        Option.bind_eq_none_iff.mpr fun old hmem => hold old hmem first rest
      rw [hnew, hnone, if_neg (by simp)]
  · have hne : other ≠ directory ++ [name] := by
      rintro rfl
      apply hprefix List.prefix_rfl
    rw [if_neg hne]
    apply Entry.contents?_at?_put hdirectory hprefix

/-- A new directory leaves the contents of files as they are. -/
theorem keepsFiles_putEntry_directory
    (hdirectory : disk.at? directory = some (.directory entries))
    (hnew : Named.get? entries name = none) :
  disk.KeepsFiles (disk.putEntry directory name (.directory []))
  where
  workingDirectory_eq := rfl
  contents?_eq place := by
    have hold : ∀ old ∈ Named.get? entries name, old.IsLeaf := by simp [hnew]
    rw [contents?_eq_join_kind?, contents?_eq_join_kind?,
      kind?_putEntry hdirectory hold Entry.isLeaf_directory_nil]
    split
    · next hplace =>
      rw [hplace, kind?, ← List.append_nil (directory ++ [name]), at?_append_name hdirectory, hnew]
      rfl
    · rfl

/-! ### Steps -/

theorem entries_eq_ok_iff :
  disk.entries place = .ok entries ↔ disk.at? place = some (.directory entries)
  := by
  unfold Disk.entries
  cases disk.at? place with
  | none => simp
  | some entry => cases entry <;> simp

theorem find?_eq_ok_iff {found : Option Entry} :
  find? entries name = .ok found ↔ Path.stepFits name = true ∧ Named.get? entries name = found
  := by
  unfold find?
  split <;> simp_all

/-- A step leads from a directory to itself, to the one that it lies in, or to something in it. -/
theorem step_eq_ok_iff :
  disk.step place name = .ok other ↔
    disk.kind? place = some none ∧
      if name = "" ∨ name = "." then place = other
      else if name = ".." then place.dropLast = other
      else Path.stepFits name = true ∧ (disk.kind? (place ++ [name])).isSome = true ∧
        place ++ [name] = other
  := by
  rw [kind?_eq_some_none_iff, step, Outcome.bind_eq_ok_iff, ← exists_and_right]
  apply exists_congr
  intro entries
  rw [entries_eq_ok_iff]
  apply and_congr_right
  intro hplace
  rw [isSome_kind?, ← List.append_nil (place ++ [name]), at?_append_name hplace]
  split
  · simp [pure, Except.pure]
  · split
    · simp [pure, Except.pure]
    · simp only [Outcome.bind_eq_ok_iff, find?_eq_ok_iff]
      cases Named.get? entries name with
      | none => simp [throw, throwThe, MonadExceptOf.throw]
      | some entry => simp [pure, Except.pure]

theorem walk_append (disk : Disk) (place : Location) (first second : List String) :
  disk.walk place (first ++ second) = disk.walk place first >>= (disk.walk · second)
  := by
  induction first generalizing place with
  | nil => rfl
  | cons name rest ih =>
    simp only [List.cons_append, walk, ih]
    cases disk.step place name <;> rfl

/-- Wherever there is something on a disk, there is something on another, and a directory where
there is a directory. -/
structure Extends (before after : Disk) : Prop where
  isSome_kind? : ∀ place, (before.kind? place).isSome = true → (after.kind? place).isSome = true
  kind?_eq : ∀ place, before.kind? place = some none → after.kind? place = some none

theorem Extends.step_eq_ok (hextends : before.Extends after)
    (h : before.step place name = .ok other) :
  after.step place name = .ok other
  := by
  rw [step_eq_ok_iff] at h ⊢
  obtain ⟨hplace, hother⟩ := h
  use hextends.kind?_eq place hplace
  split
  · simpa [*] using hother
  · split
    · simpa [*] using hother
    · simp only [*, if_false] at hother
      obtain ⟨hfits, hsome, hother⟩ := hother
      exact ⟨hfits, hextends.isSome_kind? _ hsome, hother⟩

/-- A walk leads to the same place on a disk that has more on it. -/
theorem Extends.walk_eq_ok (hextends : before.Extends after)
    (h : before.walk place steps = .ok other) :
  after.walk place steps = .ok other
  := by
  induction steps generalizing place with
  | nil => exact h
  | cons name rest ih =>
    obtain ⟨next, hnext, hrest⟩ := Outcome.bind_eq_ok_iff.mp h
    rw [walk, hextends.step_eq_ok hnext]
    apply ih hrest

/-! ### Writing -/

theorem isLeaf_of_any_eq_false (h : (Named.get? entries name).any Entry.isDirectory = false) :
  ∀ old ∈ Named.get? entries name, old.IsLeaf
  := by
  intro old hold
  apply Entry.isLeaf_of_isDirectory_eq_false
  simpa [Option.mem_def.mp hold] using h

/-- A file is put in the directory that a walk leads to, under a name that no directory has. -/
theorem exists_of_writeAt_eq_ok (h : disk.writeAt place contents steps = .ok after) :
  ∃ before name directory entries, steps = before ++ [name] ∧ isSpecial name = false ∧
    disk.walk place before = .ok directory ∧ disk.at? directory = some (.directory entries) ∧
    Path.stepFits name = true ∧ (Named.get? entries name).any Entry.isDirectory = false ∧
    after = disk.putEntry directory name (.file contents)
  := by
  simp only [writeAt, Outcome.bind_eq_ok_iff, entries_eq_ok_iff] at h
  obtain ⟨directory, hwalk, entries, hdirectory, h⟩ := h
  split at h
  · cases h
  · next name hlast =>
    split at h
    · cases h
    · next hname =>
      rw [not_or, Bool.not_eq_true] at hname
      obtain ⟨hsteps, hspecial⟩ := hname
      simp only [Outcome.bind_eq_ok_iff, find?_eq_ok_iff] at h
      obtain ⟨_, ⟨hfits, rfl⟩, h⟩ := h
      split at h
      · cases h
      · next hfile =>
        have hbare : (steps.reverse.dropWhile (· == "")).reverse = steps := by
          apply List.rdropWhile_eq_self_iff.mpr
          intro hne hempty
          apply hsteps
          rw [List.getLast?_eq_some_getLast hne, eq_of_beq hempty]
        rw [hbare] at hwalk hlast
        refine ⟨steps.dropLast, name, directory, entries, ?_, hspecial, hwalk, hdirectory, hfits,
          Bool.not_eq_true _ ▸ hfile, ?_⟩
        · apply (List.dropLast_append_getLast? name hlast).symm
        · cases h
          rfl

/-- A file that is put where there is no directory takes nothing away. -/
theorem extends_putEntry_file (contents : ByteArray)
    (hdirectory : disk.at? directory = some (.directory entries))
    (hfile : (Named.get? entries name).any Entry.isDirectory = false) :
  disk.Extends (disk.putEntry directory name (.file contents))
  := by
  have hkind := kind?_putEntry hdirectory (isLeaf_of_any_eq_false hfile)
    (Entry.isLeaf_file contents)
  constructor
  case isSome_kind? =>
    intro place h
    rw [hkind]
    split
    · rfl
    · exact h
  case kind?_eq =>
    intro place h
    rw [hkind, if_neg, h]
    rintro rfl
    obtain ⟨inner, hinner⟩ := kind?_eq_some_none_iff.mp h
    rw [← List.append_nil (directory ++ [name]), at?_append_name hdirectory] at hinner
    simp only [Entry.at?_nil, Option.bind_fun_some] at hinner
    simp [hinner, Entry.isDirectory] at hfile

/-- A file that is written is where its path leads from then on, and no other file is changed. -/
theorem exists_isWritten_of_write (h : disk.write path contents = .ok after) :
  ∃ place, disk.IsWritten path contents after place
  := by
  obtain ⟨⟨⟩, hlength, h⟩ := Outcome.bind_eq_ok_iff.mp h
  obtain ⟨before, name, directory, entries, hsteps, hspecial, hwalk, hdirectory, hfits, hfile,
    rfl⟩ := exists_of_writeAt_eq_ok h
  have hkind := kind?_putEntry hdirectory (isLeaf_of_any_eq_false hfile)
    (Entry.isLeaf_file contents)
  have hextends := extends_putEntry_file contents hdirectory hfile
  have hpath : path ≠ "" := by
    rintro rfl
    have hlast : [""].getLast? = some name := by
      rw [show [""] = Path.steps "" from rfl, hsteps, List.getLast?_concat]
    obtain rfl : "" = name := by simpa using hlast
    simp [isSpecial] at hspecial
  use directory ++ [name]
  constructor
  case workingDirectory_eq => rfl
  case locate_eq =>
    have hstep : (disk.putEntry directory name (.file contents)).step directory name =
        .ok (directory ++ [name]) := by
      simp only [isSpecial, Bool.or_eq_false_iff, decide_eq_false_iff_not] at hspecial
      apply step_eq_ok_iff.mpr
      use hextends.kind?_eq directory (kind?_eq_some_none_iff.mpr ⟨entries, hdirectory⟩)
      rw [if_neg (not_or.mpr hspecial.1), if_neg hspecial.2, hkind, if_pos rfl]
      exact ⟨hfits, rfl, rfl⟩
    have hbefore : (disk.putEntry directory name (.file contents)).walk
        ((disk.putEntry directory name (.file contents)).start path) before = .ok directory :=
      hextends.walk_eq_ok hwalk
    rw [locate, hlength, Outcome.ok_bind, if_neg hpath, hsteps, walk_append, hbefore,
      Outcome.ok_bind, walk, hstep]
    rfl
  case contents?_eq =>
    rw [contents?_eq_join_kind?, hkind, if_pos rfl]
    rfl
  case contents?_of_ne =>
    intro other hother
    rw [contents?_eq_join_kind?, hkind, if_neg hother, ← contents?_eq_join_kind?]

/-! ### Making directories -/

/-- A directory is put in another one, under a name that nothing there has. -/
theorem exists_of_makeDirectory_eq_ok (h : disk.makeDirectory place steps = .ok after) :
  ∃ name directory entries, name ∈ steps ∧ isSpecial name = false ∧
    disk.at? directory = some (.directory entries) ∧ Named.get? entries name = none ∧
    after = disk.putEntry directory name (.directory [])
  := by
  simp only [makeDirectory, Outcome.bind_eq_ok_iff, entries_eq_ok_iff] at h
  obtain ⟨directory, -, entries, hdirectory, h⟩ := h
  split at h
  · cases h
  · next name hlast =>
    split at h
    · cases h
    · next hspecial =>
      simp only [Outcome.bind_eq_ok_iff, find?_eq_ok_iff] at h
      obtain ⟨_, ⟨-, rfl⟩, h⟩ := h
      split at h
      · cases h
      · next hnew =>
        cases h
        refine ⟨name, directory, entries, List.mem_of_getLast? hlast, by simpa using hspecial,
          hdirectory, by simpa using hnew, rfl⟩

/-- What the making of a directory keeps, the making of directories at all steps keeps, whether it
succeeds or not. -/
theorem makeDirectoriesAt_keeps {P : Disk → Prop} {steps : List String}
    (hmake : ∀ disk after more, (∀ name ∈ more, name ∈ steps) → P disk →
      disk.makeDirectory place more = .ok after → P after)
    (h : P disk) :
  P (disk.makeDirectoriesAt place steps).2
  := by
  induction steps generalizing disk with
  | nil => exact h
  | cons last before ih =>
    have hsteps : ∀ name ∈ (last :: before).reverse, name ∈ last :: before :=
      fun name => List.mem_reverse.mp
    rw [makeDirectoriesAt]
    cases hfirst : disk.makeDirectory place (last :: before).reverse with
    | ok after => exact hmake disk after _ hsteps h hfirst
    | error reason =>
      cases reason with
      | notFound =>
        have hbefore : P (disk.makeDirectoriesAt place before).2 := by
          apply ih _ h
          intro disk after more hmore
          apply hmake disk after more
          intro name hname
          apply List.mem_cons_of_mem last (hmore name hname)
        rcases hmore : disk.makeDirectoriesAt place before with ⟨_ | _, between⟩
        · simpa [hmore] using hbefore
        · rw [hmore] at hbefore
          cases hagain : between.makeDirectory place (last :: before).reverse with
          | ok after =>
            simp only [hagain]
            apply hmake between after _ hsteps hbefore hagain
          | error reason => simpa only [hagain] using hbefore
      | «exists» | notDirectory | isDirectory | nameTooLong => exact h

/-- Directories are made where there is nothing. -/
theorem keepsFiles_makeDirectory (h : disk.makeDirectory place steps = .ok after) :
  disk.KeepsFiles after
  := by
  obtain ⟨name, directory, entries, -, -, hdirectory, hnew, rfl⟩ := exists_of_makeDirectory_eq_ok h
  apply keepsFiles_putEntry_directory hdirectory hnew

/-- The making of directories leaves all files as they are, whether it succeeds or not. -/
theorem keepsFiles_makeDirectories (disk : Disk) (path : String) :
  disk.KeepsFiles (disk.makeDirectories path).2
  := by
  unfold makeDirectories
  cases checkLength path with
  | error reason => exact .refl disk
  | ok =>
    apply makeDirectoriesAt_keeps _ (KeepsFiles.refl disk)
    intro between after more _ hkeeps hmake
    apply hkeeps.trans (keepsFiles_makeDirectory hmake)

end Disk

end ApiTypes
