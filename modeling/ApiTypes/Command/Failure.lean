import ApiTypes.Document.Error
import ApiTypes.Files.Disk
import ApiTypes.Glob.Expand
import ApiTypes.Json.Fault

/-!
# Failures of a command

A `Failure` says why a command came to nothing.  `Failure.chain` has the words for it, what
failed first and then its causes, and `Failure.report` lays them out.
-/

namespace ApiTypes

/-- Why the text of a file could not be had. -/
inductive TextError where
  | system (error : SystemError)
  | notText
deriving DecidableEq

/-- The words for an error. -/
def TextError.message : TextError → String
  | .system error => error.message
  | .notText => "stream did not contain valid UTF-8"

/-- Why a command came to nothing. -/
inductive Failure where
  | badPattern (error : Glob.PatternError)
  | noMatch (pattern : String)
  | unlisted (error : Glob.Unlisted)
  | unreadable (path : String) (cause : TextError)
  | noJson (path : String) (cause : Json.Located)
  | noModel (path : String) (cause : DocumentError)
  | noDefinition (path : String) (cause : DocumentError)
  | notCreated (directory : String) (cause : SystemError)
  | notWritten (path : String) (cause : SystemError)

namespace Failure

/-- The words for an error of a document and its cause. -/
def documentChain (error : DocumentError) : List String :=
  error.message :: error.cause?.toList

/-- The words for a failure, followed by those for its causes. -/
def chain : Failure → List String
  | .badPattern error => [error.message]
  | .noMatch pattern => ["glob pattern matched no files: " ++ pattern]
  | .unlisted error => [error.message]
  | .unreadable path cause => ["failed to read source file " ++ path, cause.message]
  | .noJson path cause => ["failed to parse JSON source file " ++ path, cause.message]
  | .noModel path cause => ("failed to build model for " ++ path) :: documentChain cause
  | .noDefinition path cause => ("in " ++ path) :: documentChain cause
  | .notCreated directory cause => ["failed to create " ++ directory, cause.message]
  | .notWritten path cause => ["failed to write " ++ path, cause.message]

/-- A text whose first line follows `lead` and whose other lines follow `indent`. -/
def indented (lead indent : String) (text : String) : String :=
  String.intercalate ("\n" ++ indent)
    (((Text.splitAt '\n' (lead ++ text).toList).map .ofList))

/-- The causes of a failure, a line or more each, with numbers when there are several. -/
def causeLines (causes : List String) : List String :=
  match causes with
  | [cause] => [indented "    " "    " cause]
  | causes => causes.mapIdx fun i cause =>
      indented ("    " ++ Nat.repr i ++ ": ") "       " cause

/-- The report of a failure. -/
def report (failure : Failure) : String :=
  match failure.chain with
  | [] => "Error: "
  | first :: causes =>
    "Error: " ++ first ++
      (if causes.isEmpty then ""
        else "\n\nCaused by:\n" ++ String.intercalate "\n" (causeLines causes))

end Failure

end ApiTypes
