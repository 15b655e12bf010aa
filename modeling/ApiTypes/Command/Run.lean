import ApiTypes.Command.Arguments
import ApiTypes.Command.Failure
import ApiTypes.Json.Reader

/-!
# Running a command

`run?` is the outcome of a command line on a disk: what it prints, the log, and the disk
after it.  The command `model` builds the model of every input, in order, and `definition`
resolves one definition of one input; either prints its answer or writes it to a file.  The
first failure is reported and ends the run.
-/

namespace ApiTypes

/-- A computation that a command makes. -/
abbrev Task (α : Type) := Report Failure α

namespace Command

/-- The depth to which brackets may nest in a source file. -/
def maxBrackets : Nat := 127

/-- The text of the file that a path names. -/
def readText (disk : Disk) (path : String) : Except Failure String := do
  let contents ← (disk.read path).mapError fun error => .unreadable path (.system error)
  match String.fromUTF8? contents with
  | some text => return text
  | none => throw (.unreadable path .notText)

/-- The JSON value in the file that a path names. -/
def loadDocument (disk : Disk) (path : String) : Except Failure Json := do
  let text := (← readText disk path).toList
  (Json.parse maxBrackets text).mapError fun fault => .noJson path (fault.locate text)

/-- The paths that an input stands for: itself, unless it has wildcards. -/
def expandInput (disk : Disk) (input : String) : Except Failure (List String) := do
  if Glob.hasWildcards input then
    let glob ← (Glob.compile input).mapError .badPattern
    let paths ← (glob.expand disk).mapError .unlisted
    if paths.isEmpty then throw (.noMatch input)
    return paths
  else return [input]

/-- The paths that inputs stand for. -/
def expandInputs (disk : Disk) : List String → Except Failure (List String)
  | [] => .ok []
  | input :: rest => do
    let paths ← expandInput disk input
    let more ← expandInputs disk rest
    return paths ++ more

/-- The record of the model of the document that a path names. -/
def modelOf (disk : Disk) (options : ModelOptions) (path : String) : Task Json := do
  let document ← Report.ofExcept (loadDocument disk path)
  let built ← (buildModel document options).mapError (.noModel path)
  return built.toJson

/-- The records of the models of documents, each with its path. -/
def modelsOf (disk : Disk) (options : ModelOptions) : List String → Task (Named Json)
  | [] => pure []
  | path :: rest => do
    let first ← modelOf disk options path
    let more ← modelsOf disk options rest
    return (path, first) :: more

/-- The answer made of the models of inputs: the only model itself, or the models by their
paths. -/
def combine (models : Named Json) : Json :=
  match models with
  | [(_, record)] => record
  | models => .object (Named.collect models)

/-- The answer of a command. -/
def answer (disk : Disk) : Command → Task Json
  | .model request => do
    let paths ← Report.ofExcept (expandInputs disk request.inputs)
    let models ← modelsOf disk request.options paths
    return combine models
  | .definition request => do
    let document ← Report.ofExcept (loadDocument disk request.input)
    let type ← (resolveDefinition document request.name request.maxDepth).mapError
      (.noDefinition request.input)
    return type.toJson

/-- The file that the answer of a command is written to, if any. -/
def out? : Command → Option String
  | .model request => request.out
  | .definition request => request.out

/-- The outcome of making the directories that a file lies in, with the disk after it. -/
def prepare (disk : Disk) (path : String) : Except Failure Unit × Disk :=
  match Path.parent? path with
  | none => (.ok (), disk)
  | some directory =>
    let (outcome, disk) := disk.makeDirectories directory
    (outcome.mapError (.notCreated directory), disk)

/-- The outcome of putting a text into the file that a path names, with the disk after it. -/
def save (disk : Disk) (path text : String) : Except Failure Unit × Disk :=
  match prepare disk path with
  | (.error failure, disk) => (.error failure, disk)
  | (.ok (), disk) =>
    match disk.write path text.toUTF8 with
    | .ok disk => (.ok (), disk)
    | .error reason => (.error (.notWritten path reason), disk)

/-- The outcome of handing out the answer of a command, with the disk after it: what it
prints. -/
def deliver (disk : Disk) (out? : Option String) (record : Json) : Task String × Disk :=
  match out? with
  | none => (pure (record.pretty ++ "\n"), disk)
  | some path =>
    let (outcome, disk) := save disk path record.pretty
    (do
      Report.ofExcept outcome
      Report.note (.wrote path)
      return "", disk)

/-- The outcome of a command, with the disk after it: what it prints. -/
def perform (disk : Disk) (command : Command) : Task String × Disk :=
  let report := command.answer disk
  match report.outcome with
  | .error failure => (⟨report.events, .error failure⟩, disk)
  | .ok record =>
    let (delivery, disk) := deliver disk command.out? record
    (⟨report.events ++ delivery.events, delivery.outcome⟩, disk)

end Command

/-- What a run comes to: the exit code, what it prints, the report of a failure, the log,
and the disk after it. -/
structure Outcome where
  exitCode : Nat
  printed : String
  failure : String
  log : List String
  disk : Disk

/-- The outcome of an invocation on a disk, under a setting for the log. -/
def Invocation.run (invocation : Invocation) (disk : Disk) (setting : Option String) : Outcome :=
  let (report, disk) := invocation.command.perform disk
  let log := logLines (invocation.logFilter setting) report.events
  match report.outcome with
  | .ok printed => ⟨0, printed, "", log, disk⟩
  | .error failure => ⟨1, "", failure.report, log, disk⟩

/-- The outcome of a request on a disk, under a setting for the log; help is printed. -/
def Request.run (request : Request) (disk : Disk) (setting : Option String) : Outcome :=
  match request with
  | .help topic => ⟨0, topic.text, "", [], disk⟩
  | .command invocation => invocation.run disk setting

/-- The outcome of a command line on a disk, or nothing when the command line is misused. -/
def run? (disk : Disk) (arguments : List String) (setting : Option String) : Option Outcome :=
  (Request.ofArguments? arguments).map (·.run disk setting)

end ApiTypes
