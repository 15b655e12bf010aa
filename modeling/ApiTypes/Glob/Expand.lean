import ApiTypes.Files.Disk
import ApiTypes.Glob.Pattern

/-!
# Expanding wildcards

A `Glob` is a path with wildcards: a pattern for each piece between its slashes.
`Glob.expand` lists the paths on a disk that it stands for.  Names in a directory come in
ascending order, a directory before what it holds unless the pattern goes on below it.  A
directory whose path does not fit cannot be listed.
-/

namespace ApiTypes

/-- A path with wildcards. -/
structure Glob where
  isAbsolute : Bool
  patterns : List Glob.Pattern
  directoriesOnly : Bool

namespace Glob

/-- The test for a text with a character that wildcards are made of. -/
def hasWildcards (text : String) : Bool :=
  text.toList.any fun c => c = '*' || c = '?' || c = '[' || c = '{'

/-- The pieces of a text between slashes, without an empty one at the end. -/
def pieces (s : List Char) : List (List Char) :=
  let all := Text.splitAt '/' s
  if all.getLast? = some [] then all.dropLast else all

/-- The patterns with one in place of several in a row for directories of any depth. -/
def collapse : List Pattern → List Pattern
  | [] => []
  | pattern :: rest =>
    match collapse rest with
    | [] => [pattern]
    | next :: more =>
      if pattern.isRecursive && next.isRecursive then next :: more else pattern :: next :: more

/-- The path with wildcards of a text, which has to be a pattern as a whole and piece by
piece. -/
def compile (text : String) : Except PatternError Glob := do
  let s := text.toList
  let _ ← Pattern.compile s
  let isAbsolute := Path.isAbsolute text
  let patterns ← (pieces (if isAbsolute then s.drop 1 else s)).mapM Pattern.compile
  return ⟨isAbsolute, collapse patterns, s.getLast? == some '/'⟩

/-- A path that leads to something on a disk: the place that it names, and whether that is
known to be a directory. -/
structure Found where
  path : String
  place : Location
  isDirectory : Bool

/-- A directory that cannot be listed, and why. -/
structure Unlisted where
  path : String
  reason : SystemError

/-- The words for a directory that cannot be listed. -/
def Unlisted.message (error : Unlisted) : String :=
  "attempting to read `" ++ error.path ++ "` resulted in an error: " ++ error.reason.message

namespace Found

/-- What a path to a place leads to.  A path that does not fit is not known to lead to a
directory. -/
def ofPath (disk : Disk) (path : String) (place : Location) : Found :=
  ⟨path, place, Path.fits path && (disk.at? place).any Entry.isDirectory⟩

/-- The test for a path that names the directory where it starts. -/
def isCurrent (found : Found) : Bool :=
  !Path.isAbsolute found.path && found.path ≠ "" &&
    (Path.steps found.path).all fun piece => piece = "" || piece = "."

/-- The path of a name in the directory of a path. -/
def pathOf (found : Found) (name : String) : String :=
  if found.isCurrent then name else Path.join found.path name

/-- The entry of a name in the directory of a path. -/
def child (found : Found) (name : String) (entry : Entry) : Found :=
  ⟨found.pathOf name, found.place ++ [name], entry.isDirectory⟩

/-- What a piece without wildcards leads to, if there is something. -/
def step? (disk : Disk) (found : Found) (name : String) : Option Found :=
  let path := found.pathOf name
  let isKnown :=
    if name = "." ∨ name = ".." then found.isDirectory else path ≠ "" && Path.fits path
  if isKnown then (disk.step found.place name).toOption.map (.ofPath disk path) else none

/-- What the pieces `..` and `.` lead to as far as they match a pattern, which they do only
when it starts with a point. -/
def special (disk : Disk) (found : Found) (pattern : Pattern) : List Found :=
  if found.isDirectory ∧ pattern.head? = some (.literal '.') then
    ["..", "."].filterMap fun name =>
      if pattern.isMatch name.toList then
        (disk.step found.place name).toOption.map (.ofPath disk (Path.join found.path name))
      else none
  else []

/-- The entries of a directory that a path leads to, which has to fit; nothing but a
directory has any. -/
def entries (disk : Disk) (found : Found) : Except Unlisted (List (String × Entry)) :=
  if found.isDirectory then
    (do Disk.checkLength found.path; disk.entries found.place).mapError (⟨found.path, ·⟩)
  else .ok []

end Found

mutual

/-- What `visit` gives for the entries below an entry at any depth, each before those below
it. -/
def below (disk : Disk) (visit : Found → String → Except Unlisted (List Found)) (found : Found) :
    Entry → Except Unlisted (List Found)
  | .file _ => .ok []
  | .directory entries => do
    let _ ← found.entries disk
    belowAll disk visit found entries

/-- What `visit` gives for entries of a directory and for those below them. -/
def belowAll (disk : Disk) (visit : Found → String → Except Unlisted (List Found))
    (found : Found) : List (String × Entry) → Except Unlisted (List Found)
  | [] => .ok []
  | (name, entry) :: rest => do
    let child := found.child name entry
    return (← visit child name) ++ (← below disk visit child entry) ++
      (← belowAll disk visit found rest)

end

/-- What patterns lead to from a path, or the first directory on the way that cannot be
listed. -/
def expandFrom (disk : Disk) (directoriesOnly : Bool) :
    List Pattern → Found → Except Unlisted (List Found)
  | [], found => .ok (if directoriesOnly && !found.isDirectory then [] else [found])
  | pattern :: rest, found =>
    match pattern.literal? with
    | some name =>
      match found.step? disk (.ofList name) with
      | some next => expandFrom disk directoriesOnly rest next
      | none => .ok []
    | none => do
      let entries ← found.entries disk
      if pattern.isRecursive then
        match rest with
        | [] =>
          belowAll disk (fun child _ => .ok (if child.isDirectory then [child] else []))
            found entries
        | next :: rest =>
          belowAll disk (fun child name =>
            if next.isMatch name.toList then expandFrom disk directoriesOnly rest child
            else .ok []) found entries
      else
        let special ← (found.special disk pattern).mapM (expandFrom disk directoriesOnly rest)
        let named ← entries.mapM fun (name, entry) =>
          if pattern.isMatch name.toList then
            expandFrom disk directoriesOnly rest (found.child name entry)
          else .ok []
        return special.flatten ++ named.flatten

mutual

/-- The tree with the entries of every directory in the ascending order of their names. -/
def inOrder : Entry → Entry
  | .file contents => .file contents
  | .directory entries => .directory ((allInOrder entries).mergeSort fun a b => a.1 ≤ b.1)

/-- The entries with the entries of every directory below in the ascending order of their
names. -/
def allInOrder : List (String × Entry) → List (String × Entry)
  | [] => []
  | (name, entry) :: rest => (name, inOrder entry) :: allInOrder rest

end

/-- The paths on a disk that a path with wildcards stands for, or the first directory on the
way to them that cannot be listed. -/
def expand (glob : Glob) (disk : Disk) : Except Unlisted (List String) := do
  let disk := { disk with root := inOrder disk.root }
  let start :=
    if glob.isAbsolute then Found.ofPath disk "/" [] else .ofPath disk "." disk.workingDirectory
  let found ← expandFrom disk glob.directoriesOnly glob.patterns start
  return found.map Found.path

end Glob

end ApiTypes
