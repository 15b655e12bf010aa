import ApiTypes.Text.Split

/-!
# Paths

A path is the text by which a command names a file: pieces with slashes between them, an
absolute one after a leading slash.  `Path.steps` are the pieces to follow one after
another, `Path.join` puts a name after a path, and `Path.parent?` is the path of the
directory that a path lies in.  An operating system takes paths and pieces up to certain
lengths: those that `Path.fits` and `Path.stepFits` test for.
-/

namespace ApiTypes.Path

/-- The test for a path that starts at the root. -/
def isAbsolute (path : String) : Bool :=
  path.toList.head? == some '/'

/-- The pieces of a path.  Two slashes in a row have an empty piece between them, and a
slash at either end has one beside it. -/
def steps (path : String) : List String :=
  (Text.splitAt '/' path.toList).map .ofList

/-- The number of bytes that a path may have. -/
def maxBytes : Nat := 4095

/-- The number of bytes that a piece of a path may have. -/
def maxStepBytes : Nat := 255

/-- The test for a path that is no longer than paths may be. -/
def fits (path : String) : Bool :=
  path.utf8ByteSize ≤ maxBytes

/-- The test for a piece that is no longer than pieces of a path may be. -/
def stepFits (piece : String) : Bool :=
  piece.utf8ByteSize ≤ maxStepBytes

/-- A name put after a path, with a slash between them unless the path is empty or ends in
one. -/
def join (path name : String) : String :=
  match path.toList.getLast? with
  | none => name
  | some last => if last = '/' then path ++ name else path ++ "/" ++ name

/-- A text in reverse without the slashes and the pieces `.` that end it, as long as
something other than one slash or one such piece is left. -/
def trimReversed : List Char → List Char
  | '/' :: c :: rest => trimReversed (c :: rest)
  | '.' :: '/' :: rest => trimReversed ('/' :: rest)
  | s => s
termination_by s => s.length

/-- The path of the directory that a path lies in, empty for a name on its own; the root
lies in none. -/
def parent? (path : String) : Option String :=
  match trimReversed path.toList.reverse with
  | [] => none
  | ['/'] => none
  | s => some (.ofList (trimReversed (s.dropWhile (· != '/'))).reverse)

end ApiTypes.Path
