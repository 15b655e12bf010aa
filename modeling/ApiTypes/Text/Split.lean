/-!
# Splitting text

`Text.splitAt separator s` are the pieces of a text between the occurrences of a separator:
always one more than there are separators.
-/

namespace ApiTypes.Text

/-- The pieces of a text between the occurrences of a separator. -/
def splitAt (separator : Char) : List Char → List (List Char)
  | [] => [[]]
  | c :: rest =>
    if c = separator then [] :: splitAt separator rest
    else
      match splitAt separator rest with
      | [] => [[c]]
      | piece :: more => (c :: piece) :: more

theorem splitAt_ne_nil (separator : Char) (s : List Char) :
  splitAt separator s ≠ []
  := by
  fun_cases splitAt separator s <;> simp

/-- A separator stands between the pieces before it and those behind it. -/
theorem splitAt_append_cons (separator : Char) (s t : List Char) :
  splitAt separator (s ++ separator :: t) = splitAt separator s ++ splitAt separator t
  := by
  induction s with
  | nil => simp [splitAt]
  | cons c s ih =>
    obtain ⟨piece, more, h⟩ := List.exists_cons_of_ne_nil (splitAt_ne_nil separator s)
    rw [List.cons_append, splitAt, splitAt, ih, h]
    split <;> rfl

/-- A text without a separator is a single piece. -/
theorem splitAt_eq_singleton {separator : Char} {s : List Char} (h : separator ∉ s) :
  splitAt separator s = [s]
  := by
  induction s with
  | nil => rfl
  | cons c s ih =>
    rw [List.mem_cons, not_or] at h
    rw [splitAt, if_neg (Ne.symm h.1), ih h.2]

/-- No piece has a separator in it. -/
theorem notMem_of_mem_splitAt {separator : Char} {s piece : List Char}
    (h : piece ∈ splitAt separator s) :
  separator ∉ piece
  := by
  induction s generalizing piece with
  | nil =>
    obtain rfl : piece = [] := by simpa [splitAt] using h
    simp
  | cons c s ih =>
    obtain ⟨first, more, hsplit⟩ := List.exists_cons_of_ne_nil (splitAt_ne_nil separator s)
    by_cases hc : c = separator
    · rw [splitAt, if_pos hc, List.mem_cons] at h
      rcases h with rfl | h
      · apply List.not_mem_nil
      · apply ih h
    · rw [hsplit] at ih
      rw [splitAt, if_neg hc, hsplit, List.mem_cons] at h
      rcases h with rfl | h
      · rw [List.mem_cons, not_or]
        exact ⟨Ne.symm hc, ih List.mem_cons_self⟩
      · apply ih (List.mem_cons_of_mem _ h)

end ApiTypes.Text
