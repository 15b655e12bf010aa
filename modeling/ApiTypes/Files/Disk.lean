import ApiTypes.Files.Path
import ApiTypes.Named

/-!
# Files and directories

A `Disk` is a tree of files and directories with a working directory.  `Disk.read` gives the
contents of a file, `Disk.write` replaces them or makes a new file, and
`Disk.makeDirectories` makes a directory and those that it lies in; each fails with a
`SystemError` where an operating system would refuse.  Nothing but `write` changes the
contents of a file.
-/

namespace ApiTypes

/-- Why an operating system refuses to work on a path. -/
inductive SystemError where
  | notFound
  | exists
  | notDirectory
  | isDirectory
  | nameTooLong
deriving DecidableEq

/-- The words for an error. -/
def SystemError.message : SystemError → String
  | .notFound => "No such file or directory (os error 2)"
  | .exists => "File exists (os error 17)"
  | .notDirectory => "Not a directory (os error 20)"
  | .isDirectory => "Is a directory (os error 21)"
  | .nameTooLong => "File name too long (os error 36)"

/-- A file with its contents, or a directory with its entries. -/
inductive Entry where
  | file (contents : ByteArray)
  | directory (entries : List (String × Entry))

/-- A place in a tree: the names on the way to it from the root. -/
abbrev Location := List String

namespace Entry

/-- The entry at a place. -/
def at? : Entry → Location → Option Entry
  | entry, [] => some entry
  | .directory entries, name :: rest => do (← Named.get? entries name).at? rest
  | .file _, _ :: _ => none

/-- The tree with the entry at a place replaced.  Directories on the way are made where
there is nothing; below a file, nothing is put. -/
def put (new : Entry) : Location → Entry → Entry
  | [], _ => new
  | name :: rest, .directory entries =>
    .directory (Named.insert name (put new rest ((Named.get? entries name).getD (.directory [])))
      entries)
  | _ :: _, .file contents => .file contents

/-- The test for a directory. -/
def isDirectory : Entry → Bool
  | .directory _ => true
  | .file _ => false

mutual

/-- The files of a tree, each with its path from a directory. -/
def files (path : String) : Entry → Named ByteArray
  | .file contents => [(path, contents)]
  | .directory entries => filesOfAll path entries

/-- The files of the entries of a directory, each with its path. -/
def filesOfAll (path : String) : List (String × Entry) → Named ByteArray
  | [] => []
  | (name, entry) :: rest => entry.files (Path.join path name) ++ filesOfAll path rest

end

end Entry

/-- A tree of files and directories, and the place of the working directory in it. -/
structure Disk where
  root : Entry
  workingDirectory : Location

namespace Disk

/-- The entry at a place. -/
def at? (disk : Disk) (place : Location) : Option Entry :=
  disk.root.at? place

/-- The entries of the directory at a place. -/
def entries (disk : Disk) (place : Location) : Except SystemError (List (String × Entry)) :=
  match disk.at? place with
  | some (.directory entries) => .ok entries
  | some (.file _) => .error .notDirectory
  | none => .error .notFound

/-- The entry of a name in a directory, if there is one; a name has to fit. -/
def find? (entries : List (String × Entry)) (name : String) :
    Except SystemError (Option Entry) :=
  if Path.stepFits name then .ok (Named.get? entries name) else .error .nameTooLong

/-- The place one step from a place that has to be a directory. -/
def step (disk : Disk) (place : Location) (piece : String) : Except SystemError Location := do
  let entries ← disk.entries place
  if piece = "" ∨ piece = "." then return place
  else if piece = ".." then return place.dropLast
  else
    match ← find? entries piece with
    | some _ => return place ++ [piece]
    | none => throw .notFound

/-- The place that steps lead to from a place. -/
def walk (disk : Disk) (place : Location) : List String → Except SystemError Location
  | [] => .ok place
  | piece :: rest => do disk.walk (← disk.step place piece) rest

/-- The place where a path starts. -/
def start (disk : Disk) (path : String) : Location :=
  if Path.isAbsolute path then [] else disk.workingDirectory

/-- The check of a path before any work on it: a path has to fit. -/
def checkLength (path : String) : Except SystemError Unit :=
  if Path.fits path then .ok () else .error .nameTooLong

/-- The place that a path names. -/
def locate (disk : Disk) (path : String) : Except SystemError Location := do
  checkLength path
  if path = "" then throw .notFound else disk.walk (disk.start path) (Path.steps path)

/-- The contents of the file that a path names. -/
def read (disk : Disk) (path : String) : Except SystemError ByteArray := do
  match disk.at? (← disk.locate path) with
  | some (.file contents) => return contents
  | some (.directory _) => throw .isDirectory
  | none => throw .notFound

/-- The disk with an entry in the directory at a place. -/
def putEntry (disk : Disk) (place : Location) (name : String) (entry : Entry) : Disk :=
  { disk with root := Entry.put entry (place ++ [name]) disk.root }

/-- The test for a piece of a path that is no name. -/
def isSpecial (piece : String) : Bool :=
  piece = "" || piece = "." || piece = ".."

/-- The disk with contents in the file that steps from a place lead to, made if it is
missing.  Its directory has to be there. -/
def writeAt (disk : Disk) (place : Location) (contents : ByteArray) (steps : List String) :
    Except SystemError Disk := do
  let bare := (steps.reverse.dropWhile (· == "")).reverse
  let directory ← disk.walk place bare.dropLast
  let entries ← disk.entries directory
  match bare.getLast? with
  | none => throw .isDirectory
  | some name =>
    if steps.getLast? = some "" ∨ isSpecial name then throw .isDirectory
    else if (← find? entries name).any Entry.isDirectory then throw .isDirectory
    else return disk.putEntry directory name (.file contents)

/-- The disk with contents in the file that a path names, made if it is missing.  Only the failures
that come before anything is written are modelled, so that there is no other disk than the one
before when this fails. -/
def write (disk : Disk) (path : String) (contents : ByteArray) : Except SystemError Disk := do
  checkLength path
  disk.writeAt (disk.start path) contents (Path.steps path)

/-- The disk with a new directory at the end of steps from a place. -/
def makeDirectory (disk : Disk) (place : Location) (steps : List String) :
    Except SystemError Disk := do
  let directory ← disk.walk place steps.dropLast
  let entries ← disk.entries directory
  match steps.getLast? with
  | none => throw .exists
  | some name =>
    if isSpecial name then throw .exists
    else if (← find? entries name).isSome then throw .exists
    else return disk.putEntry directory name (.directory [])

/-- The test for steps that lead from a place to a directory. -/
def leadsToDirectory (disk : Disk) (place : Location) (steps : List String) : Bool :=
  match disk.walk place steps with
  | .ok directory => (disk.at? directory).any Entry.isDirectory
  | .error _ => false

/-- The outcome of making a directory that could not be made for the reason given: it is
fine when there is one already. -/
def acceptDirectory (disk : Disk) (place : Location) (steps : List String) (reason : SystemError) :
    Except SystemError Unit :=
  if disk.leadsToDirectory place steps then .ok () else .error reason

/-- The outcome of making directories at the end of steps, which come in reverse, and at
every step before it, with the disk after it; a failure may leave some of them made. -/
def makeDirectoriesAt (disk : Disk) (place : Location) :
    List String → Except SystemError Unit × Disk
  | [] => (.ok (), disk)
  | last :: before =>
    let steps := (last :: before).reverse
    match disk.makeDirectory place steps with
    | .ok disk => (.ok (), disk)
    | .error .notFound =>
      match disk.makeDirectoriesAt place before with
      | (.error reason, disk) => (.error reason, disk)
      | (.ok (), disk) =>
        match disk.makeDirectory place steps with
        | .ok disk => (.ok (), disk)
        | .error reason => (disk.acceptDirectory place steps reason, disk)
    | .error reason => (disk.acceptDirectory place steps reason, disk)

/-- The outcome of making the directory that a path names and those that it lies in, with
the disk after it. -/
def makeDirectories (disk : Disk) (path : String) : Except SystemError Unit × Disk :=
  match checkLength path with
  | .error reason => (.error reason, disk)
  | .ok () => disk.makeDirectoriesAt (disk.start path) ((Path.steps path).filter (· ≠ "")).reverse

/-- The files below the working directory, each with its path from there. -/
def files (disk : Disk) : Named ByteArray :=
  match disk.at? disk.workingDirectory with
  | some entry => entry.files ""
  | none => []

/-- The files below the working directory of `after` that `before` does not have with the
same contents. -/
def changes (before after : Disk) : Named ByteArray :=
  let old := before.files
  after.files.filter fun (path, contents) =>
    (old.get? path).map ByteArray.data ≠ some contents.data

end Disk

end ApiTypes
