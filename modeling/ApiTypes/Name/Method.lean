import ApiTypes.Name.CamelCase
import ApiTypes.Text.Blank
import ApiTypes.Text.Split

/-!
# Method names

`Name.ofMethod` is the name of the method for an operation: its identifier with underscores
for the characters that a name cannot have, or else the verb followed by the segments of the
path in camel case, where a segment such as `{id}` reads as `byId`.
-/

namespace ApiTypes.Name

open Text

/-- The test for a character of an identifier that a name cannot have. -/
def isUnsafe (c : Char) : Bool :=
  c = '.' || c = '-' || c = '{' || c = '}' || isBlank c

/-- A text without the last character when that is the given one. -/
def dropLastIf (c : Char) (s : List Char) : List Char :=
  if s.getLast? = some c then s.dropLast else s

/-- The name of the parameter that a segment of a path stands for. -/
def parameterName? : List Char → Option (List Char)
  | '{' :: rest => if rest.getLast? = some '}' then some rest.dropLast else none
  | _ => none

/-- A segment of a path as it enters the name of a method. -/
def readSegment (segment : List Char) : List Char :=
  match parameterName? segment with
  | some name => ['b', 'y'] ++ capitalize name
  | none => segment

/-- The segments of a path, which come after its slashes; a slash at the end starts none. -/
def segments (path : List Char) : List (List Char) :=
  (splitAt '/' (dropLastIf '/' path)).drop 1

/-- The characters of a name made of a verb and a path. -/
def ofPath (verb path : List Char) : List Char :=
  if path = [] ∨ path = ['/'] then toLower verb
  else
    let tail := List.intercalate ['-'] ((segments path).map readSegment)
    toLower verb ++ capitalize (camelCaseChars tail)

/-- The name of the method for an operation. -/
def ofMethod (verb path : String) (identifier : Option String) : String :=
  match identifier with
  | some identifier => .ofList (identifier.toList.map fun c => if isUnsafe c then '_' else c)
  | none => .ofList (ofPath verb.toList path.toList)

end ApiTypes.Name
