/-!
# Natural numbers in text

`Text.natural?` is the natural number that a text writes in decimal digits.
-/

namespace ApiTypes.Text

/-- The value of a text of decimal digits, which a plus sign may lead. -/
def natural? (s : List Char) : Option Nat :=
  let digits := if s.head? = some '+' then s.drop 1 else s
  if digits.isEmpty || !digits.all Char.isDigit then none
  else some (Nat.ofDigitChars 10 digits 0)

end ApiTypes.Text
