import ApiTypes.Name.CamelCase
import Mathlib.Data.List.TakeWhile
import Mathlib.Tactic.Common

/-!
# Words of texts

The words of a text hold its letters and digits in order, and neighbours are in different words
exactly where a small letter or digit meets a capital one, or where the last of several capitals
starts a new word: the words `AreWordsOf` the text.  A character that is no letter or digit parts
the words on either side of it, `Name.words_append_cons`.  Camel case only changes the case of the
letters of a text of ASCII.
-/

namespace ApiTypes

namespace Text

/-! ### Small letters -/

/-- The code points of a run. -/
def Run.codePoints (run : Run) : List Nat :=
  List.range' run.first ((run.last - run.first) / run.stride + 1) run.stride

theorem Run.mem_codePoints {run : Run} {n : Nat} (h : run.contains n = true) :
  n ∈ run.codePoints
  := by
  simp only [Run.contains, Bool.and_eq_true, decide_eq_true_eq, beq_iff_eq] at h
  obtain ⟨⟨hfirst, hlast⟩, hstride⟩ := h
  apply List.mem_range'.mpr
  use (n - run.first) / run.stride
  constructor
  · apply Nat.lt_succ_of_le
    apply Nat.div_le_div_right
    omega
  · rw [Nat.mul_div_cancel' (Nat.dvd_of_mod_eq_zero hstride)]
    omega

theorem mem_codePoints_of_inRuns {runs : List Run} {n : Nat} (h : inRuns runs n = true) :
  n ∈ runs.flatMap Run.codePoints
  := by
  obtain ⟨run, hrun, hn⟩ := List.any_eq_true.mp h
  exact List.mem_flatMap.mpr ⟨run, hrun, Run.mem_codePoints hn⟩

/-- The code points that are left when each range in turn takes those of its own that come
first. -/
def notTaken (ranges : List (Nat × Nat)) (codes : List Nat) : List Nat :=
  ranges.foldl (fun codes range => codes.dropWhile fun n => range.1 ≤ n && n ≤ range.2) codes

theorem inRanges_of_notTaken_eq_nil {ranges : List (Nat × Nat)} {codes : List Nat}
    (h : notTaken ranges codes = []) :
  ∀ n ∈ codes, inRanges ranges n = true
  := by
  intro n hn
  induction ranges generalizing codes with
  | nil =>
    obtain rfl : codes = [] := h
    cases hn
  | cons range ranges ih =>
    rw [← List.takeWhile_append_dropWhile (p := fun n => range.1 ≤ n && n ≤ range.2) (l := codes),
      List.mem_append] at hn
    rw [inRanges, List.any_cons, Bool.or_eq_true]
    apply hn.imp
    · apply List.mem_takeWhile_imp
    · apply ih h

/-- The tables are in order, so that the ranges of letters and digits take all small letters. -/
theorem notTaken_lowercaseRuns :
  notTaken alphanumericRanges (lowercaseRuns.flatMap Run.codePoints) = []
  := by
  decide +kernel

/-- A small letter is a letter. -/
theorem isAlphanumeric_of_isLowercase {c : Char} (h : isLowercase c = true) :
  isAlphanumeric c = true
  := by
  by_cases hc : isAscii c = true
  · rw [isLowercase_of_isAscii hc] at h
    have halphanum : c.isAlphanum = (c.isUpper || c.isLower || c.isDigit) := rfl
    rw [isAlphanumeric_of_isAscii hc, halphanum, h, Bool.or_true, Bool.true_or]
  · rw [isLowercase, if_neg hc] at h
    rw [isAlphanumeric, if_neg hc]
    exact inRanges_of_notTaken_eq_nil notTaken_lowercaseRuns _ (mem_codePoints_of_inRuns h)

/-! ### Letters of ASCII -/

/-- What holds of the first 128 characters holds of every character of ASCII. -/
theorem of_isAscii {P : Char → Prop} (h : ∀ n < 128, P (Char.ofNat n)) {c : Char}
    (hc : isAscii c = true) :
  P c
  := by
  rw [← Char.ofNat_toNat c]
  apply h
  simpa [isAscii] using hc

theorem isAscii_toLower {c : Char} (hc : isAscii c = true) :
  isAscii c.toLower = true
  := of_isAscii (P := fun c => isAscii c.toLower = true) (by decide) hc

theorem toLower_toUpper {c : Char} (hc : isAscii c = true) :
  c.toUpper.toLower = c.toLower
  := of_isAscii (P := fun c => c.toUpper.toLower = c.toLower) (by decide) hc

theorem toLower_toLower {c : Char} (hc : isAscii c = true) :
  c.toLower.toLower = c.toLower
  := of_isAscii (P := fun c => c.toLower.toLower = c.toLower) (by decide) hc

theorem isUppercase_toLower {c : Char} (hc : isAscii c = true) :
  isUppercase c.toLower = false
  := of_isAscii (P := fun c => isUppercase c.toLower = false) (by decide) hc

/-- No character of ASCII is a sigma, so that the lower case of each is its own. -/
theorem toLowerAfter_of_isAscii {s : List Char} (hs : ∀ c ∈ s, isAscii c = true)
    (before : List Char) :
  toLowerAfter before s = s.map Char.toLower
  := by
  induction s generalizing before with
  | nil => rfl
  | cons c rest ih =>
    obtain ⟨hc, hrest⟩ := List.forall_mem_cons.mp hs
    have hsigma : c ≠ 'Σ' := by
      rintro rfl
      exact absurd hc (by decide)
    rw [toLowerAfter, if_neg hsigma, lowerOf_of_isAscii hc, ih hrest, List.map_cons,
      List.singleton_append]

theorem toLower_of_isAscii {s : List Char} (hs : ∀ c ∈ s, isAscii c = true) :
  toLower s = s.map Char.toLower
  := toLowerAfter_of_isAscii hs []

end Text

namespace Name

open Text

variable {c left right : Char} {s t rest before after word : List Char} {ws more : List (List Char)}

/-! ### Words one after another -/

theorem isAlphanumeric_of_continues (h : continues c rest = true) :
  ∃ d tail, rest = d :: tail ∧ isAlphanumeric d = true
  := by
  rcases rest with _ | ⟨d, tail⟩
  · cases h
  · rw [continues, Bool.and_eq_true] at h
    exact ⟨d, tail, rfl, h.1⟩

/-- A text with a letter or digit has a word. -/
theorem words_cons_ne_nil (h : isAlphanumeric c = true) (rest : List Char) :
  words (c :: rest) ≠ []
  := by
  intro hnil
  have hflatten := flatten_words (c :: rest)
  rw [hnil, List.filter_cons_of_pos h] at hflatten
  cases hflatten

theorem words_ne_nil_of_continues (h : continues c rest = true) :
  words rest ≠ []
  := by
  obtain ⟨d, tail, rfl, hd⟩ := isAlphanumeric_of_continues h
  apply words_cons_ne_nil hd

theorem ne_nil_of_mem_extend (h : ∀ word ∈ ws, word ≠ []) :
  ∀ word ∈ extend c ws, word ≠ []
  := by
  cases ws with
  | nil => simp [extend]
  | cons first rest =>
    obtain ⟨-, hrest⟩ := List.forall_mem_cons.mp h
    exact List.forall_mem_cons.mpr ⟨List.cons_ne_nil c first, hrest⟩

/-- Words are not empty. -/
theorem ne_nil_of_mem_words (s : List Char) :
  ∀ word ∈ words s, word ≠ []
  := by
  fun_induction words s with
  | case1 => simp
  | case2 _ _ _ ih => exact ih
  | case3 _ _ _ _ ih => exact ne_nil_of_mem_extend ih
  | case4 c _ _ _ ih => exact List.forall_mem_cons.mpr ⟨List.cons_ne_nil c [], ih⟩

theorem extend_append (h : ws ≠ []) (c : Char) (more : List (List Char)) :
  extend c (ws ++ more) = extend c ws ++ more
  := by
  cases ws with
  | nil => contradiction
  | cons => rfl

/-- A word goes on whatever comes behind a character that is no letter or digit.  In particular
this is no small letter that could cut the word. -/
theorem continues_append_cons (hc : isAlphanumeric c = false) (d : Char) (s t : List Char) :
  continues d (s ++ c :: t) = continues d s
  := by
  have hsmall : isLowercase c = false := by
    by_contra h
    simp [isAlphanumeric_of_isLowercase (eq_true_of_ne_false h)] at hc
  match s with
  | [] => simp [continues, hc]
  | [e] => simp [continues, isCut, hsmall]
  | e :: f :: s => rfl

/-- A character that is no letter or digit parts the words on either side of it. -/
theorem words_append_cons (hc : isAlphanumeric c = false) (s t : List Char) :
  words (s ++ c :: t) = words s ++ words t
  := by
  induction s with
  | nil => exact words_cons_of_not_isAlphanumeric hc t
  | cons d s ih =>
    rw [List.cons_append, words, words, ih, continues_append_cons hc]
    split
    · rfl
    · split
      · next hcontinues => exact extend_append (words_ne_nil_of_continues hcontinues) d _
      · rfl

/-! ### Neighbours -/

/-- The number of the word that a character falls in, given its position among the characters of
all words. -/
def wordAt : List (List Char) → Nat → Nat
  | [], _ => 0
  | word :: rest, position =>
    if position < word.length then 0 else wordAt rest (position - word.length) + 1

theorem wordAt_singleton_cons (c : Char) (ws : List (List Char)) (position : Nat) :
  wordAt ([c] :: ws) (position + 1) = wordAt ws position + 1
  := rfl

theorem wordAt_extend (h : ws ≠ []) (c : Char) (position : Nat) :
  wordAt (extend c ws) (position + 1) = wordAt ws position
  := by
  cases ws with
  | nil => contradiction
  | cons word rest => simp only [extend, wordAt, List.length_cons, Nat.add_lt_add_iff_right,
      Nat.add_sub_add_right]

theorem wordAt_extend_zero (c : Char) (ws : List (List Char)) :
  wordAt (extend c ws) 0 = 0
  := by
  cases ws <;> simp [extend, wordAt]

/-- A letter or digit in front of a text moves every other one by a position, and by a word or by
none. -/
theorem exists_wordAt_cons (hc : isAlphanumeric c = true) (h : words rest ≠ []) :
  ∃ n, ∀ position, wordAt (words (c :: rest)) (position + 1) = wordAt (words rest) position + n
  := by
  rw [words, hc, Bool.not_true, if_neg Bool.false_ne_true]
  split
  · use 0
    apply wordAt_extend h
  · use 1
    apply wordAt_singleton_cons

/-- The first two letters or digits of a text are in different words when there is a cut. -/
theorem wordAt_words_cons_cons (hleft : isAlphanumeric left = true)
    (hright : isAlphanumeric right = true) (after : List Char) :
  wordAt (words (left :: right :: after)) 0 ≠ wordAt (words (left :: right :: after)) 1 ↔
    isCut left right after.head? = true
  := by
  have hsome := words_cons_ne_nil hright after
  have hfirst : wordAt (words (right :: after)) 0 = 0 := by
    rw [words, hright, Bool.not_true, if_neg Bool.false_ne_true]
    split
    · apply wordAt_extend_zero
    · rfl
  rw [words, hleft, Bool.not_true, if_neg Bool.false_ne_true, continues, hright, Bool.true_and]
  cases isCut left right after.head? with
  | false => simp [wordAt_extend_zero, wordAt_extend hsome left 0, hfirst]
  | true => simp [wordAt]

/-- Neighbours are in different words when there is a cut between them. -/
theorem wordAt_words_ne_iff (hleft : isAlphanumeric left = true)
    (hright : isAlphanumeric right = true) (before after : List Char) :
  wordAt (words (before ++ left :: right :: after)) (before.filter isAlphanumeric).length ≠
      wordAt (words (before ++ left :: right :: after))
        ((before.filter isAlphanumeric).length + 1) ↔
    isCut left right after.head? = true
  := by
  induction before with
  | nil => exact wordAt_words_cons_cons hleft hright after
  | cons c before ih =>
    by_cases hc : isAlphanumeric c = true
    · have hsome : words (before ++ left :: right :: after) ≠ [] := by
        intro hnil
        have hflatten := flatten_words (before ++ left :: right :: after)
        simp [hnil, hleft] at hflatten
      obtain ⟨n, hn⟩ := exists_wordAt_cons hc hsome
      rw [List.filter_cons_of_pos hc, List.length_cons, List.cons_append, hn, hn, ← ih]
      omega
    · rw [List.filter_cons_of_neg hc, List.cons_append,
        words_cons_of_not_isAlphanumeric (eq_false_of_ne_true hc), ih]

/-- The words hold the letters and digits of a text in order, and neighbours are in different words
where a small letter or digit meets a capital one, or where a capital letter meets a capital one
that a small letter follows. -/
structure AreWordsOf (ws : List (List Char)) (s : List Char) : Prop where
  ne_nil : ∀ word ∈ ws, word ≠ []
  flatten_eq : ws.flatten = s.filter isAlphanumeric
  wordAt_ne_iff : ∀ before left right after, s = before ++ left :: right :: after →
    isAlphanumeric left = true → isAlphanumeric right = true →
    (wordAt ws (before.filter isAlphanumeric).length ≠
        wordAt ws ((before.filter isAlphanumeric).length + 1) ↔
      (isLowercase left = true ∨ left.isDigit = true) ∧ isUppercase right = true ∨
      isUppercase left = true ∧ isUppercase right = true ∧
        ∃ next, after.head? = some next ∧ isLowercase next = true)

theorem areWordsOf_words (s : List Char) :
  AreWordsOf (words s) s
  := by
  constructor
  case ne_nil => apply ne_nil_of_mem_words
  case flatten_eq => apply flatten_words
  case wordAt_ne_iff =>
    rintro before left right after rfl hleft hright
    rw [wordAt_words_ne_iff hleft hright]
    simp [isCut, Option.any_eq_true, and_assoc]

/-! ### Camel case -/

section

variable (hs : ∀ c ∈ s, isAscii c = true) (hws : ∀ word ∈ ws, ∀ c ∈ word, isAscii c = true)

include hs in
theorem map_toLower_toLower :
  (toLower s).map Char.toLower = s.map Char.toLower
  := by
  rw [toLower_of_isAscii hs, List.map_map]
  apply List.map_congr_left
  intro c hc
  apply toLower_toLower (hs c hc)

include hs in
theorem map_toLower_capitalize :
  (capitalize s).map Char.toLower = s.map Char.toLower
  := by
  cases s with
  | nil => rfl
  | cons c rest =>
    have hc := hs c List.mem_cons_self
    rw [capitalize, upperOf_of_isAscii hc, List.singleton_append, List.map_cons, List.map_cons,
      toLower_toUpper hc]

include hs in
theorem isAscii_of_mem_toLower :
  ∀ c ∈ toLower s, isAscii c = true
  := by
  rw [toLower_of_isAscii hs]
  intro c hc
  obtain ⟨d, hd, rfl⟩ := List.mem_map.mp hc
  apply isAscii_toLower (hs d hd)

include hws in
theorem map_toLower_capitalizedWords :
  (capitalizedWords ws).map Char.toLower = ws.flatten.map Char.toLower
  := by
  rw [capitalizedWords, List.map_flatMap, List.map_flatten, List.flatMap_def]
  congr 1
  apply List.map_congr_left
  intro word hword
  have hascii := hws word hword
  rw [map_toLower_capitalize (isAscii_of_mem_toLower hascii), map_toLower_toLower hascii]

include hws in
theorem map_toLower_joinWords :
  (joinWords ws).map Char.toLower = ws.flatten.map Char.toLower
  := by
  cases ws with
  | nil => rfl
  | cons first rest =>
    obtain ⟨hfirst, hrest⟩ := List.forall_mem_cons.mp hws
    rw [joinWords, List.map_append, map_toLower_toLower hfirst, map_toLower_capitalizedWords hrest,
      List.flatten_cons, List.map_append]

include hs in
theorem isAscii_of_mem_words :
  ∀ word ∈ words s, ∀ c ∈ word, isAscii c = true
  := by
  intro word hword c hc
  have hmem : c ∈ s.filter isAlphanumeric := by
    rw [← flatten_words]
    exact List.mem_flatten_of_mem hword hc
  exact hs c (List.mem_filter.mp hmem).1

include hs in
/-- Camel case keeps the letters and digits of a text, but for their case. -/
theorem map_toLower_camelCaseChars :
  (camelCaseChars s).map Char.toLower = (s.filter isAlphanumeric).map Char.toLower
  := by
  rw [camelCaseChars, map_toLower_joinWords (isAscii_of_mem_words hs), flatten_words]

include hws in
/-- Words that are joined start with a small letter or a digit. -/
theorem isUppercase_of_head?_joinWords (hne : ∀ word ∈ ws, word ≠ [])
    (h : (joinWords ws).head? = some c) :
  isUppercase c = false
  := by
  rcases ws with _ | ⟨_ | ⟨d, word⟩, rest⟩
  · cases h
  · simp at hne
  · have hword := hws _ List.mem_cons_self
    rw [joinWords, toLower_of_isAscii hword] at h
    obtain rfl : d.toLower = c := Option.some.inj h
    apply isUppercase_toLower (hword d List.mem_cons_self)

end

/-- The words of a text are told by its letters and digits, a character that is neither parts
them, and camel case only changes the case of a text of ASCII. -/
theorem words_isLossless :
  (∀ s, AreWordsOf (words s) s) ∧
  (∀ s t c, isAlphanumeric c = false → words (s ++ c :: t) = words s ++ words t) ∧
  ∀ s : String, (∀ c ∈ s.toList, isAscii c = true) →
    (camelCase s).toList.map Char.toLower = (s.toList.filter isAlphanumeric).map Char.toLower ∧
    ∀ c, (camelCase s).toList.head? = some c → isUppercase c = false
  := by
  refine ⟨areWordsOf_words, fun s t c hc => words_append_cons hc s t, ?_⟩
  intro s hs
  rw [camelCase, String.toList_ofList]
  use map_toLower_camelCaseChars hs
  intro c
  apply isUppercase_of_head?_joinWords (isAscii_of_mem_words hs) (ne_nil_of_mem_words _)

/-- The last of three capitals starts a word before a small letter, but the second does not. -/
theorem words_isLossless_acronym :
  words "XMLHttp-2nd".toList = words "XMLHttp".toList ++ words "2nd".toList ∧
  wordAt (words "XMLHttp".toList) 1 = wordAt (words "XMLHttp".toList) 2 ∧
  wordAt (words "XMLHttp".toList) 2 ≠ wordAt (words "XMLHttp".toList) 3 ∧
  (camelCase "XMLHttp-2nd").toList.map Char.toLower = "xmlhttp2nd".toList ∧
  ∀ c, (camelCase "XMLHttp-2nd").toList.head? = some c → isUppercase c = false
  := by
  obtain ⟨hwords, hparted, hcamel⟩ := words_isLossless
  have hcuts := (hwords "XMLHttp".toList).wordAt_ne_iff
  refine ⟨hparted "XMLHttp".toList "2nd".toList '-' (by decide), ?_, ?_,
    hcamel "XMLHttp-2nd" (List.all_eq_true.mp (by decide))⟩
  · apply not_ne_iff.mp
    apply (hcuts ['X'] 'M' 'L' "Http".toList (by decide) (by decide) (by decide)).not.mpr
    have hM : isLowercase 'M' = false := by decide
    have hH : isLowercase 'H' = false := by decide
    simp [hM, hH]
  · apply (hcuts ['X', 'M'] 'L' 'H' "ttp".toList (by decide) (by decide) (by decide)).mpr
    right
    exact ⟨by decide, by decide, 't', by decide, by decide⟩

end Name

end ApiTypes
