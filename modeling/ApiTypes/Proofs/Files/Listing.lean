import ApiTypes.Proofs.Files.Contents
import Mathlib.Data.List.Induction

/-!
# Listings of files

`disk.files` lists the files below the working directory, each with the text of its path.  On a disk
that `IsProper`, whose directories have entries of distinct names without slashes, a path is found
in the listing with the contents of the file that it leads to: `Disk.get?_files`.  So
`Disk.changes` are the files that another disk does not have with these contents, which are none if
it keeps files and one at most if a file is written.

Writing files and making directories keep a disk proper.
-/

namespace ApiTypes

/-! ### Paths of names -/

namespace Path

/-- The test for a name that an entry of a directory may have. -/
def isName (name : String) : Bool :=
  name != "" && !name.toList.contains '/'

/-- The path of names, one after another. -/
def ofNames (names : List String) : String :=
  names.foldl join ""

variable {name : String} {names others : List String}

theorem isName_iff :
  isName name = true ↔ name.toList ≠ [] ∧ '/' ∉ name.toList
  := by
  simp [isName]

/-- A path with a name at its end ends as the name does. -/
theorem getLast?_join (path : String) (hname : isName name = true) :
  (join path name).toList.getLast? = name.toList.getLast?
  := by
  obtain ⟨hne, -⟩ := isName_iff.mp hname
  unfold join
  split
  · rfl
  · split
    · rw [String.toList_append, List.getLast?_append_of_ne_nil _ hne]
    · rw [String.toList_append, List.getLast?_append_of_ne_nil _ hne]

theorem ofNames_concat (names : List String) (name : String) :
  ofNames (names ++ [name]) = join (ofNames names) name
  := List.foldl_concat _ _ _ _

/-- The path of names ends in a character, which is no slash. -/
theorem exists_getLast?_ofNames (hne : names ≠ []) (hnames : ∀ name ∈ names, isName name = true) :
  ∃ c, (ofNames names).toList.getLast? = some c ∧ c ≠ '/'
  := by
  obtain ⟨before, last, rfl⟩ := (List.eq_nil_or_concat names).resolve_left hne
  rw [List.concat_eq_append] at hnames ⊢
  have hlast : isName last = true := hnames last (by simp)
  obtain ⟨hlastNe, hslash⟩ := isName_iff.mp hlast
  rw [ofNames_concat, getLast?_join _ hlast, List.getLast?_eq_some_getLast hlastNe]
  refine ⟨_, rfl, ?_⟩
  intro hc
  apply hslash
  rw [← hc]
  apply List.getLast_mem

/-- A slash stands between the path of names and a name behind it. -/
theorem toList_join_ofNames (hne : names ≠ []) (hnames : ∀ name ∈ names, isName name = true)
    (name : String) :
  (join (ofNames names) name).toList = (ofNames names).toList ++ '/' :: name.toList
  := by
  obtain ⟨c, hlast, hc⟩ := exists_getLast?_ofNames hne hnames
  rw [join, hlast]
  simp [hc]

/-- The steps of the path of names are these names. -/
theorem steps_ofNames (hne : names ≠ []) (hnames : ∀ name ∈ names, isName name = true) :
  steps (ofNames names) = names
  := by
  induction names using List.reverseRecOn with
  | nil => exact absurd rfl hne
  | append_singleton before last ih =>
    have hlast : isName last = true := hnames last (by simp)
    have hbefore : ∀ name ∈ before, isName name = true :=
      fun name hname => hnames name (List.mem_append_left _ hname)
    have hpieces : Text.splitAt '/' last.toList = [last.toList] :=
      Text.splitAt_eq_singleton (isName_iff.mp hlast).2
    rw [ofNames_concat]
    by_cases hnil : before = []
    · subst hnil
      have hsingle : join (ofNames []) last = last := rfl
      rw [hsingle, steps, hpieces]
      simp
    · rw [steps, toList_join_ofNames hnil hbefore, Text.splitAt_append_cons, List.map_append,
        hpieces, ← steps, ih hnil hbefore]
      simp

theorem eq_nil_of_ofNames_eq (hnames : ∀ name ∈ names, isName name = true)
    (h : ofNames names = ofNames []) :
  names = []
  := by
  by_contra hne
  obtain ⟨c, hlast, -⟩ := exists_getLast?_ofNames hne hnames
  rw [h] at hlast
  cases hlast

/-- Different names have different paths. -/
theorem ofNames_injective (hnames : ∀ name ∈ names, isName name = true)
    (hothers : ∀ name ∈ others, isName name = true) (h : ofNames names = ofNames others) :
  names = others
  := by
  by_cases hne : names = []
  · subst hne
    rw [eq_nil_of_ofNames_eq hothers h.symm]
  · by_cases hotherNe : others = []
    · subst hotherNe
      apply eq_nil_of_ofNames_eq hnames h
    · rw [← steps_ofNames hne hnames, h, steps_ofNames hotherNe hothers]

end Path

/-! ### Proper trees -/

namespace Entry

/-- The entries of a directory have distinct names, and their entries in turn. -/
inductive IsProper : Entry → Prop
  | file (contents : ByteArray) : IsProper (.file contents)
  | directory {entries : List (String × Entry)} (hnodup : (Named.names entries).Nodup)
      (hnames : ∀ name ∈ Named.names entries, Path.isName name = true)
      (hentries : ∀ entry ∈ entries, IsProper entry.2) :
    IsProper (.directory entries)

variable {entry found new : Entry} {place : Location} {path start : String} {contents : ByteArray}

theorem mem_filesOfAll_iff {entries : List (String × Entry)} {file : String × ByteArray} :
  file ∈ filesOfAll start entries ↔
    ∃ entry ∈ entries, file ∈ entry.2.files (Path.join start entry.1)
  := by
  induction entries with
  | nil => simp [filesOfAll]
  | cons entry rest ih => simp [filesOfAll, ih]

/-- What is found in a proper tree is proper, and the way there goes by names. -/
theorem IsProper.of_at? (h : entry.IsProper) (hfound : entry.at? place = some found) :
  found.IsProper ∧ ∀ name ∈ place, Path.isName name = true
  := by
  induction place generalizing entry with
  | nil =>
    obtain rfl : entry = found := by simpa using hfound
    exact ⟨h, by simp⟩
  | cons name rest ih =>
    cases h with
    | file contents => simp at hfound
    | directory hnodup hnames hentries =>
      obtain ⟨child, hchild, hrest⟩ := Option.bind_eq_some_iff.mp hfound
      have hmem := Named.mem_of_get? hchild
      obtain ⟨hproper, hplace⟩ := ih (hentries _ hmem) hrest
      use hproper
      rw [List.forall_mem_cons]
      exact ⟨hnames name (List.mem_map_of_mem hmem), hplace⟩

/-- The files of a proper tree are listed under the paths of their places. -/
theorem IsProper.mem_files_iff (h : entry.IsProper) :
  (path, contents) ∈ entry.files start ↔
    ∃ place, place.foldl Path.join start = path ∧
      (entry.at? place).bind contents? = some contents
  := by
  induction h generalizing start with
  | file known =>
    simp only [files, List.mem_singleton, Prod.mk.injEq]
    constructor
    · rintro ⟨rfl, rfl⟩
      use []
      simp [contents?]
    · rintro ⟨place, hpath, hcontents⟩
      cases place with
      | nil => simpa [contents?, eq_comm] using And.intro hpath hcontents
      | cons name rest => simp at hcontents
  | @directory entries hnodup hnames hentries ih =>
    rw [files, mem_filesOfAll_iff]
    constructor
    · rintro ⟨⟨name, child⟩, hchild, hfile⟩
      obtain ⟨place, hpath, hcontents⟩ := (ih _ hchild).mp hfile
      use name :: place, hpath
      rw [at?_directory_cons, Named.get?_eq_some_of_mem hnodup hchild]
      exact hcontents
    · rintro ⟨place, hpath, hcontents⟩
      cases place with
      | nil => simp [contents?] at hcontents
      | cons name rest =>
        rw [at?_directory_cons, Option.bind_assoc] at hcontents
        obtain ⟨child, hchild, hrest⟩ := Option.bind_eq_some_iff.mp hcontents
        have hmem := Named.mem_of_get? hchild
        use (name, child), hmem
        apply (ih _ hmem).mpr
        use rest, hpath, hrest

/-- A proper tree with a proper one put in it is proper. -/
theorem IsProper.put (h : entry.IsProper) (hnew : new.IsProper)
    (hplace : ∀ name ∈ place, Path.isName name = true) :
  (put new place entry).IsProper
  := by
  induction place generalizing entry with
  | nil => exact hnew
  | cons name rest ih =>
    rw [List.forall_mem_cons] at hplace
    cases h with
    | file contents => exact .file contents
    | @directory entries hnodup hnames hentries =>
      have hchild : ((Named.get? entries name).getD (.directory [])).IsProper := by
        cases hget : Named.get? entries name with
        | none => exact .directory List.nodup_nil (by simp [Named.names]) (by simp)
        | some child => exact hentries _ (Named.mem_of_get? hget)
      apply IsProper.directory
      · apply Named.nodup_names_insert hnodup
      · rw [Named.names_insert]
        split
        · exact hnames
        · rw [List.forall_mem_append]
          exact ⟨hnames, by simpa using hplace.1⟩
      · intro other hother
        rcases Named.eq_or_mem_of_mem_insert hother with rfl | hmem
        · apply ih hchild hplace.2
        · apply hentries other hmem

end Entry

namespace Disk

variable {disk before after : Disk} {place directory : Location} {path name : String}
  {contents : ByteArray} {entries : List (String × Entry)} {steps : List String}

/-- The entries of each directory have names, all of them distinct. -/
def IsProper (disk : Disk) : Prop :=
  disk.root.IsProper

/-! ### Listings -/

/-- The files below the working directory are listed under the paths of their places. -/
theorem mem_files_iff (h : disk.IsProper) :
  (path, contents) ∈ disk.files ↔
    ∃ place, Path.ofNames place = path ∧
      disk.contents? (disk.workingDirectory ++ place) = some contents
  := by
  have hbelow : ∀ place, disk.contents? (disk.workingDirectory ++ place) =
      (disk.at? disk.workingDirectory).bind fun entry =>
        (entry.at? place).bind Entry.contents? := by
    intro place
    rw [contents?, at?, Entry.at?_append, Option.bind_assoc]
    rfl
  simp only [hbelow, files]
  cases hentry : disk.at? disk.workingDirectory with
  | none => simp
  | some entry => exact (h.of_at? hentry).1.mem_files_iff

/-- A file that is found at a place is reached by names. -/
theorem IsProper.isName_of_contents? (h : disk.IsProper)
    (hcontents : disk.contents? (directory ++ place) = some contents) :
  ∀ name ∈ place, Path.isName name = true
  := by
  obtain ⟨entry, hentry, -⟩ := Option.bind_eq_some_iff.mp hcontents
  obtain ⟨-, hnames⟩ := h.of_at? hentry
  rw [List.forall_mem_append] at hnames
  apply hnames.2

/-- A path is found in the listing with the contents of the file that it leads to. -/
theorem get?_files (h : disk.IsProper) (hplace : ∀ name ∈ place, Path.isName name = true) :
  disk.files.get? (Path.ofNames place) = disk.contents? (disk.workingDirectory ++ place)
  := by
  apply Option.ext
  intro contents
  constructor
  · intro hget
    obtain ⟨other, hpath, hcontents⟩ := (mem_files_iff h).mp (Named.mem_of_get? hget)
    rwa [Path.ofNames_injective hplace (h.isName_of_contents? hcontents) hpath.symm]
  · intro hcontents
    have hmem := (mem_files_iff h).mpr ⟨place, rfl, hcontents⟩
    cases hget : disk.files.get? (Path.ofNames place) with
    | none =>
      have hnone := Named.get?_eq_none_iff.mp hget
      exact absurd (List.mem_map_of_mem hmem) hnone
    | some known =>
      obtain ⟨other, hpath, hknown⟩ := (mem_files_iff h).mp (Named.mem_of_get? hget)
      rw [Path.ofNames_injective (h.isName_of_contents? hknown) hplace hpath, hcontents] at hknown
      exact hknown.symm

/-- The changes are the files that were not there before with the same contents. -/
theorem mem_changes_iff (hbefore : before.IsProper) (hafter : after.IsProper)
    (hdirectory : after.workingDirectory = before.workingDirectory) :
  (path, contents) ∈ changes before after ↔
    ∃ place, Path.ofNames place = path ∧
      after.contents? (after.workingDirectory ++ place) = some contents ∧
      before.contents? (after.workingDirectory ++ place) ≠ some contents
  := by
  have hdata : ∀ known : Option ByteArray,
      known.map ByteArray.data = some contents.data ↔ known = some contents := by
    intro known
    cases known with
    | none => simp
    | some known => simp [ByteArray.ext_iff]
  simp only [changes, List.mem_filter, mem_files_iff hafter, decide_eq_true_eq, ne_eq, hdata]
  rw [← exists_and_right]
  apply exists_congr
  intro place
  rw [and_assoc]
  apply and_congr_right
  rintro rfl
  apply and_congr_right
  intro hcontents
  rw [get?_files hbefore (hafter.isName_of_contents? hcontents), hdirectory]

/-- Nothing is changed on a disk with the same files. -/
theorem KeepsFiles.changes_eq_nil (hbefore : before.IsProper) (hafter : after.IsProper)
    (h : before.KeepsFiles after) :
  changes before after = []
  := by
  apply List.eq_nil_iff_forall_not_mem.mpr
  rintro ⟨path, contents⟩ hchange
  obtain ⟨place, -, hnew, hold⟩ :=
    (mem_changes_iff hbefore hafter h.workingDirectory_eq).mp hchange
  apply hold
  rw [← hnew, h.contents?_eq]

/-- Nothing but the file that is written is changed. -/
theorem IsWritten.eq_of_mem_changes (hbefore : before.IsProper) (hafter : after.IsProper)
    (h : before.IsWritten path contents after place) {change : String × ByteArray}
    (hchange : change ∈ changes before after) :
  ∃ names, after.workingDirectory ++ names = place ∧ change = (Path.ofNames names, contents)
  := by
  obtain ⟨other, found⟩ := change
  obtain ⟨names, rfl, hnew, hold⟩ :=
    (mem_changes_iff hbefore hafter h.workingDirectory_eq).mp hchange
  have hplace : after.workingDirectory ++ names = place := by
    by_contra hne
    apply hold
    rw [← hnew, h.contents?_of_ne _ hne]
  use names, hplace
  rw [hplace, h.contents?_eq] at hnew
  rw [Option.some.inj hnew]

/-! ### Proper disks -/

/-- What is not special among the steps of a path is a name. -/
theorem isName_of_mem_steps (hname : name ∈ Path.steps path) (hspecial : isSpecial name = false) :
  Path.isName name = true
  := by
  obtain ⟨piece, hpiece, rfl⟩ := List.mem_map.mp hname
  have hslash := Text.notMem_of_mem_splitAt hpiece
  simp only [isSpecial, Bool.or_eq_false_iff, decide_eq_false_iff_not] at hspecial
  rw [Path.isName_iff, String.toList_ofList]
  refine ⟨?_, hslash⟩
  rintro rfl
  apply hspecial.1.1
  rfl

/-- A proper disk with a proper entry put in a directory is proper. -/
theorem IsProper.putEntry {entry : Entry} (h : disk.IsProper)
    (hdirectory : disk.at? directory = some (.directory entries))
    (hname : Path.isName name = true) (hentry : entry.IsProper) :
  (disk.putEntry directory name entry).IsProper
  := by
  apply Entry.IsProper.put h hentry
  rw [List.forall_mem_append]
  exact ⟨(h.of_at? hdirectory).2, by simpa using hname⟩

/-- A disk is still proper when a file is written. -/
theorem IsProper.write (h : disk.IsProper) (hwrite : disk.write path contents = .ok after) :
  after.IsProper
  := by
  obtain ⟨⟨⟩, -, hwrite⟩ := Outcome.bind_eq_ok_iff.mp hwrite
  obtain ⟨before, name, directory, entries, hsteps, hspecial, -, hdirectory, -, -, rfl⟩ :=
    exists_of_writeAt_eq_ok hwrite
  apply h.putEntry hdirectory _ (.file contents)
  have hname : name ∈ Path.steps path := by simp [hsteps]
  apply isName_of_mem_steps hname hspecial

/-- A disk is still proper when directories are made, even if not all of them are. -/
theorem IsProper.makeDirectories (h : disk.IsProper) (path : String) :
  (disk.makeDirectories path).2.IsProper
  := by
  unfold Disk.makeDirectories
  cases checkLength path with
  | error reason => exact h
  | ok =>
    apply makeDirectoriesAt_keeps _ h
    intro between after more hmore hproper hmake
    obtain ⟨name, directory, entries, hname, hspecial, hdirectory, -, rfl⟩ :=
      exists_of_makeDirectory_eq_ok hmake
    have hstep : name ∈ Path.steps path :=
      List.mem_of_mem_filter (List.mem_reverse.mp (hmore name hname))
    apply hproper.putEntry hdirectory
    · apply isName_of_mem_steps hstep hspecial
    · exact .directory List.nodup_nil (by simp [Named.names]) (by simp)

end Disk

end ApiTypes
