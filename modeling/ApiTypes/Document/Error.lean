import ApiTypes.Document.Mismatch
import ApiTypes.Document.Verb
import ApiTypes.Resolve.Walk

/-!
# Errors of a document

A `DocumentError` says why a document has no model and, by a `Place`, which part of it is at
fault.
-/

namespace ApiTypes

/-- A part of a document that an error is about. -/
inductive Place where
  | document
  | definition (name : String)
  | operation (verb : Verb) (path : String)
  | parameter (verb : Verb) (path : String) (name : String)
  | response (verb : Verb) (path : String) (code : String)
deriving DecidableEq

/-- The text of an operation on a path. -/
def operationText (verb : Verb) (path : String) : String :=
  verb.text ++ " " ++ path

/-- The words for a part of a document. -/
def Place.text : Place → String
  | .document => "document"
  | .definition name => "definition " ++ name
  | .operation verb path => operationText verb path
  | .parameter verb path name => operationText verb path ++ " parameter " ++ name
  | .response verb path code => operationText verb path ++ " response " ++ code

/-- Why a document has no model, or no definition of a name. -/
inductive DocumentError where
  | unsupportedVersion (found : Option String)
  | malformed (place : Place) (mismatch : Mismatch)
  | resolve (place : Place) (cause : ResolveError)
  | unknownDefinition (name : String)

namespace DocumentError

/-- The text of a version, if there is one. -/
def versionText : Option String → String
  | some version => "Some(" ++ Text.quoted version ++ ")"
  | none => "None"

/-- The words for an error. -/
def message : DocumentError → String
  | .unsupportedVersion found =>
    "unsupported document version " ++ versionText found ++ "; expected swagger \"2.0\""
  | .malformed place mismatch => "malformed " ++ place.text ++ ": " ++ mismatch.message
  | .resolve place cause => "failed to resolve " ++ place.text ++ ": " ++ cause.message
  | .unknownDefinition name => "no definition named " ++ Text.quoted name

/-- The words for the cause of an error, when it has one of its own. -/
def cause? : DocumentError → Option String
  | .malformed _ mismatch => some mismatch.message
  | .resolve _ cause => some cause.message
  | _ => none

end DocumentError

end ApiTypes
