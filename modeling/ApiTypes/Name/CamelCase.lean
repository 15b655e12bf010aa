import ApiTypes.Name.Words
import ApiTypes.Text.CaseMap

/-!
# Camel case

`Name.camelCase` joins the words of a text in lower case, each but the first with a capital.
-/

namespace ApiTypes.Name

open Text

/-- A text with its first character in upper case. -/
def capitalize : List Char → List Char
  | [] => []
  | c :: rest => upperOf c ++ rest

/-- Words joined in lower case, each with a capital. -/
def capitalizedWords (ws : List (List Char)) : List Char :=
  ws.flatMap fun word => capitalize (toLower word)

/-- Words joined in lower case, each but the first with a capital. -/
def joinWords : List (List Char) → List Char
  | [] => []
  | first :: rest => toLower first ++ capitalizedWords rest

/-- The characters of a text in camel case. -/
def camelCaseChars (s : List Char) : List Char :=
  joinWords (words s)

/-- A text in camel case. -/
def camelCase (s : String) : String :=
  .ofList (camelCaseChars s.toList)

end ApiTypes.Name
