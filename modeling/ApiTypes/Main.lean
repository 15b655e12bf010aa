import ApiTypes.Command.Run

/-!
# The program

`main` runs a command line on the files of the machine.  It copies the part of the tree of
files that the command line may look at into a `Disk`, runs the command on that, and then
prints and writes what came of it.
-/

namespace ApiTypes.Program

/-- The path of a place from the root. -/
def pathOf (place : Location) : String :=
  "/" ++ String.intercalate "/" place

/-- The disk with a copy of the tree at a place. -/
partial def copyTree (disk : Disk) (place : Location) : IO Disk := do
  let path := (← IO.currentDir) / pathOf place
  if ← path.isDir then
    let mut disk := { disk with root := Entry.put (.directory []) place disk.root }
    for entry in ← path.readDir do
      disk ← copyTree disk (place ++ [entry.fileName])
    return disk
  else
    return { disk with root := Entry.put (.file (← IO.FS.readBinFile path)) place disk.root }

/-- The disk with a copy of what lies on the way from a place along the pieces of a path,
and the place where that way ends, as far as there is something. -/
def copyWay (disk : Disk) (place : Location) : List String → IO (Disk × Location)
  | [] => return (disk, place)
  | piece :: rest => do
    if piece = "" || piece = "." then copyWay disk place rest
    else if piece = ".." then copyWay disk place.dropLast rest
    else
      let next := place ++ [piece]
      let path := (← IO.currentDir) / pathOf next
      if ← path.isDir then
        let disk :=
          if (disk.at? next).isSome then disk
          else { disk with root := Entry.put (.directory []) next disk.root }
        copyWay disk next rest
      else if ← path.pathExists then return (← copyTree disk next, next)
      else return (disk, next)

/-- The disk with a copy of what a path leads past, and of the whole tree below the piece
before the first one with wildcards. -/
def copyPath (disk : Disk) (path : String) : IO Disk := do
  let steps := Path.steps path
  let (disk, place) ← copyWay disk (disk.start path)
    (steps.takeWhile fun step => !Glob.hasWildcards step)
  if steps.any Glob.hasWildcards then copyTree disk place else return disk

/-- The paths that a command may look at. -/
def pathsOf : Command → List String
  | .model request => request.inputs ++ request.out.toList
  | .definition request => request.input :: request.out.toList

/-- The disk with a copy of what a command may look at. -/
def diskFor (command : Command) : IO Disk := do
  let here := (Path.steps (← IO.currentDir).toString).filter (· ≠ "")
  let start : Disk := ⟨.directory [], here⟩
  let (disk, _) ← copyWay start [] here
  (pathsOf command).foldlM copyPath disk

/-- The writing of a file as a run left it. -/
def writeBack (disk : Disk) (path : String) : IO Unit := do
  match disk.read path with
  | .ok contents =>
    if let some directory := Path.parent? path then
      if directory ≠ "" then IO.FS.createDirAll directory
    IO.FS.writeBinFile path contents
  | .error _ => return

end ApiTypes.Program

open ApiTypes in
/-- The program: its exit code is 2 for a misused command line, and otherwise that of the
run. -/
def main (arguments : List String) : IO UInt32 := do
  match Request.ofArguments? arguments with
  | none =>
    IO.eprintln ("Usage: " ++ Topic.program.usage)
    return 2
  | some (.help topic) =>
    IO.print topic.text
    return 0
  | some (.command invocation) =>
    let setting ← IO.getEnv "SWAGGER_TYPESPEC_LOG"
    let outcome := invocation.run (← Program.diskFor invocation.command) setting
    for line in outcome.log do IO.eprintln line
    if outcome.exitCode = 0 then
      IO.print outcome.printed
      if let some path := invocation.command.out? then Program.writeBack outcome.disk path
    else IO.eprintln outcome.failure
    return outcome.exitCode.toUInt32
