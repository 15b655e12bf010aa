import ApiTypes.Json
import ApiTypes.Double.Shortest

/-!
# The text of JSON values

`Json.text` is the text of a value without blanks, and `Json.pretty` the text that starts a
new line for every item and member and indents it by two blanks.  A string is quoted by
`Json.quote`, which escapes the quotation mark, the backslash and the control characters and
leaves every other character as it is; a double is written with the fewest digits that read
back.
-/

namespace ApiTypes

/-- The text of a number. -/
def Number.chars : Number → List Char
  | .int n => Double.signedChars n
  | .double x => x.chars

namespace Json

/-- The digit of a hexadecimal number, in lower case. -/
def hexDigit (n : Nat) : Char :=
  Nat.digitChar n

/-- The characters that stand for a character between quotation marks. -/
def escape (c : Char) : List Char :=
  if c = '"' then ['\\', '"']
  else if c = '\\' then ['\\', '\\']
  else if c = '\n' then ['\\', 'n']
  else if c = '\r' then ['\\', 'r']
  else if c = '\t' then ['\\', 't']
  else if c = '\x08' then ['\\', 'b']
  else if c = '\x0c' then ['\\', 'f']
  else if c.toNat < 32 then ['\\', 'u', '0', '0', hexDigit (c.toNat / 16), hexDigit (c.toNat % 16)]
  else [c]

/-- The text of a string value. -/
def quote (s : String) : List Char :=
  '"' :: s.toList.flatMap escape ++ ['"']

mutual

/-- The characters of the text of a value, without blanks. -/
def chars : Json → List Char
  | .null => ['n', 'u', 'l', 'l']
  | .bool true => ['t', 'r', 'u', 'e']
  | .bool false => ['f', 'a', 'l', 's', 'e']
  | .number n => n.chars
  | .string s => quote s
  | .array items => '[' :: itemsChars items
  | .object members => '{' :: membersChars members

/-- The characters of the items of an array and its closing bracket. -/
def itemsChars : List Json → List Char
  | [] => [']']
  | item :: rest => chars item ++ moreItemsChars rest

/-- The characters of the items after the first and the closing bracket. -/
def moreItemsChars : List Json → List Char
  | [] => [']']
  | item :: rest => ',' :: chars item ++ moreItemsChars rest

/-- The characters of the members of an object and its closing brace. -/
def membersChars : List (String × Json) → List Char
  | [] => ['}']
  | (name, value) :: rest => quote name ++ ':' :: chars value ++ moreMembersChars rest

/-- The characters of the members after the first and the closing brace. -/
def moreMembersChars : List (String × Json) → List Char
  | [] => ['}']
  | (name, value) :: rest => ',' :: quote name ++ ':' :: chars value ++ moreMembersChars rest

end

/-- The text of a value, without blanks. -/
def text (value : Json) : String :=
  .ofList value.chars

/-! ### Indented text -/

/-- The start of a line indented by `depth` levels. -/
def newLine (depth : Nat) : List Char :=
  '\n' :: List.replicate (2 * depth) ' '

mutual

/-- The characters of the indented text of a value whose brackets stand `depth` levels deep. -/
def prettyChars (depth : Nat) : Json → List Char
  | .null => ['n', 'u', 'l', 'l']
  | .bool true => ['t', 'r', 'u', 'e']
  | .bool false => ['f', 'a', 'l', 's', 'e']
  | .number n => n.chars
  | .string s => quote s
  | .array items => '[' :: prettyItems depth false items
  | .object members => '{' :: prettyMembers depth false members

/-- The lines of the items of an array and its closing bracket, on a line of its own once
there is an item. -/
def prettyItems (depth : Nat) (started : Bool) : List Json → List Char
  | [] => (if started then newLine depth else []) ++ [']']
  | item :: rest =>
    (if started then [','] else []) ++ newLine (depth + 1) ++ prettyChars (depth + 1) item ++
      prettyItems depth true rest

/-- The lines of the members of an object and its closing brace, on a line of its own once
there is a member. -/
def prettyMembers (depth : Nat) (started : Bool) : List (String × Json) → List Char
  | [] => (if started then newLine depth else []) ++ ['}']
  | (name, value) :: rest =>
    (if started then [','] else []) ++ newLine (depth + 1) ++ quote name ++ ':' :: ' ' ::
      prettyChars (depth + 1) value ++ prettyMembers depth true rest

end

/-- The text of a value with a line for every item and member. -/
def pretty (value : Json) : String :=
  .ofList (value.prettyChars 0)

end Json

end ApiTypes
