import ApiTypes.Text.Printable
import ApiTypes.Text.CaseMap

/-!
# Quoted text

`Text.quoted` is a text between quotation marks as messages show it, with an escape for
every character that does not show on its own.
-/

namespace ApiTypes.Text

/-- The characters that stand for a character in quoted text. -/
def escape (c : Char) : List Char :=
  if c = '"' then ['\\', '"']
  else if c = '\\' then ['\\', '\\']
  else if c = '\n' then ['\\', 'n']
  else if c = '\r' then ['\\', 'r']
  else if c = '\t' then ['\\', 't']
  else if c.toNat = 0 then ['\\', '0']
  else if isPrintable c then [c]
  else ['\\', 'u', '{'] ++ Nat.toDigits 16 c.toNat ++ ['}']

/-- A text between quotation marks. -/
def quoted (s : String) : String :=
  .ofList ('"' :: s.toList.flatMap escape ++ ['"'])

end ApiTypes.Text
