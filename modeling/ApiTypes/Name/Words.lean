import ApiTypes.Text.Alphanumeric
import ApiTypes.Text.LetterCase

/-!
# Words of an identifier

`Name.words s` are the words of a text: its maximal runs of letters and digits, cut further
where a small letter or digit is followed by a capital one, and before the last of several
capital letters when a small letter follows.
-/

namespace ApiTypes.Name

open Text

/-- The test for a cut between the neighbours `left` and `right` of a run of letters and
digits, when `after` follows. -/
def isCut (left right : Char) (after : Option Char) : Bool :=
  ((isLowercase left || left.isDigit) && isUppercase right) ||
    (isUppercase left && isUppercase right && after.any isLowercase)

/-- The test for a word that goes on from the letter or digit `c` into the text after it. -/
def continues (c : Char) : List Char → Bool
  | [] => false
  | d :: rest => isAlphanumeric d && !isCut c d rest.head?

/-- The words with a character put in front of the first of them. -/
def extend (c : Char) : List (List Char) → List (List Char)
  | [] => [[c]]
  | word :: rest => (c :: word) :: rest

/-- The words of a text. -/
def words : List Char → List (List Char)
  | [] => []
  | c :: rest =>
    if !isAlphanumeric c then words rest
    else if continues c rest then extend c (words rest)
    else [c] :: words rest

@[simp]
theorem words_nil :
  words [] = []
  := rfl

theorem words_cons_of_not_isAlphanumeric {c : Char} (h : isAlphanumeric c = false)
    (rest : List Char) :
  words (c :: rest) = words rest
  := by
  simp [words, h]

@[simp]
theorem flatten_extend (c : Char) (ws : List (List Char)) :
  (extend c ws).flatten = c :: ws.flatten
  := by
  cases ws <;> simp [extend]

/-- The words of a text hold its letters and digits in order. -/
theorem flatten_words (s : List Char) :
  (words s).flatten = s.filter isAlphanumeric
  := by
  fun_induction words s with
  | case1 => rfl
  | case2 c rest h ih => simp_all
  | case3 c rest h _ ih => simp_all
  | case4 c rest h _ ih => simp_all

end ApiTypes.Name
