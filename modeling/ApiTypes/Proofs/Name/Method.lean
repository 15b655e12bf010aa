import ApiTypes.Document.Build
import ApiTypes.Proofs.Name.Words

/-!
# Method names piece by piece

A name made of a verb and a path is the verb followed by what the pieces of the path add to it, one
after another: `Name.ofMethod_isPiecewise`.  A piece is what stands between two slashes, or behind
the last one.  What a path has before its first slash is no part of the name, so that a path is
named by all of its pieces only when it starts with a slash, `Name.not_isPiecewise_rootless`.
-/

namespace ApiTypes

namespace Text

/-! ### Lower case -/

theorem codes_ne_nil_of_mem_lowerExpansions :
  ∀ entry ∈ lowerExpansions, entry.2 ≠ []
  := by
  decide

theorem lowerOf_ne_nil (c : Char) :
  lowerOf c ≠ []
  := by
  unfold lowerOf mapped
  split
  · exact List.cons_ne_nil _ _
  · split
    · next codes hcodes =>
      obtain ⟨before, after, htable, -⟩ := List.lookup_eq_some_iff.mp hcodes
      have hne := codes_ne_nil_of_mem_lowerExpansions (c.toNat, codes) (by simp [htable])
      simpa using hne
    · exact List.cons_ne_nil _ _

/-- A text that is not empty stays so in lower case. -/
theorem toLower_cons_ne_nil (c : Char) (s : List Char) :
  toLower (c :: s) ≠ []
  := by
  rw [toLower, toLowerAfter]
  apply List.append_ne_nil_of_left_ne_nil
  split
  · exact List.cons_ne_nil _ _
  · apply lowerOf_ne_nil

/-! ### Pieces -/

/-- The pieces after the first one come after the first separator. -/
theorem drop_splitAt (separator : Char) (s : List Char) :
  (splitAt separator s).drop 1 =
    (splitAt separator (s.dropWhile (· != separator))).drop 1
  := by
  induction s with
  | nil => rfl
  | cons c s ih =>
    by_cases hc : c = separator
    · rw [List.dropWhile_cons_of_neg (by simpa using hc)]
    · obtain ⟨piece, more, h⟩ := List.exists_cons_of_ne_nil (splitAt_ne_nil separator s)
      rw [List.dropWhile_cons_of_pos (by simpa using hc), ← ih, splitAt, if_neg hc, h]
      rfl

end Text

namespace Name

open Text

variable {ws : List (List Char)}

/-- The pieces of a path between its slashes, but for the empty ones. -/
def pieces (path : List Char) : List (List Char) :=
  (splitAt '/' path).filter (!·.isEmpty)

/-- What a piece of a path adds to a name: its words, each with a capital. -/
def pieceName (piece : List Char) : List Char :=
  capitalizedWords (words (readSegment piece))

/-- The name made of a verb and the pieces of a path, one after another. -/
def ofPieces (verb : List Char) (pieces : List (List Char)) : List Char :=
  toLower verb ++ pieces.flatMap pieceName

/-! ### Words of all segments -/

/-- A text that is joined by hyphens has the words of its parts. -/
theorem words_intercalate (parts : List (List Char)) :
  words (List.intercalate ['-'] parts) = parts.flatMap words
  := by
  induction parts with
  | nil => rfl
  | cons part parts ih =>
    cases parts with
    | nil => simp
    | cons next parts =>
      rw [List.intercalate_cons_cons, List.append_assoc, List.singleton_append,
        words_append_cons (by decide), ih, List.flatMap_cons (x := part)]

/-- With a capital for its first character the first of joined words is like the others. -/
theorem capitalize_joinWords (hne : ∀ word ∈ ws, word ≠ []) :
  capitalize (joinWords ws) = capitalizedWords ws
  := by
  rcases ws with _ | ⟨_ | ⟨c, word⟩, rest⟩
  · rfl
  · simp at hne
  · obtain ⟨d, lower, hlower⟩ := List.exists_cons_of_ne_nil (toLower_cons_ne_nil c word)
    simp only [joinWords, capitalizedWords, List.flatMap_cons, hlower, capitalize,
      List.cons_append, List.append_assoc]

/-- A name is made of what the segments of the path add to it. -/
theorem ofPath_eq (verb path : List Char) :
  ofPath verb path = ofPieces verb (segments path)
  := by
  unfold ofPath ofPieces
  split
  · next h =>
    rcases h with rfl | rfl
    · exact (List.append_nil _).symm
    · exact (List.append_nil _).symm
  · dsimp only
    rw [camelCaseChars, capitalize_joinWords (ne_nil_of_mem_words _), words_intercalate,
      List.flatMap_map, capitalizedWords, List.flatMap_assoc]
    rfl

/-! ### Segments as pieces -/

/-- A piece without characters adds nothing to a name. -/
theorem flatMap_pieceName_filter (parts : List (List Char)) :
  (parts.filter (!·.isEmpty)).flatMap pieceName = parts.flatMap pieceName
  := by
  induction parts with
  | nil => rfl
  | cons part parts ih =>
    cases part with
    | nil => exact ih
    | cons c part => simp [ih]

theorem pieces_append_slash (path : List Char) :
  pieces (path ++ ['/']) = pieces path
  := by
  simp [pieces, splitAt_append_cons, splitAt]

/-- There is nothing to a piece before the first character of a path that starts with a slash. -/
theorem filter_drop_splitAt (path : List Char) :
  ((splitAt '/' path).drop 1).filter (!·.isEmpty) = pieces (path.dropWhile (· != '/'))
  := by
  rw [drop_splitAt, pieces]
  cases h : path.dropWhile (· != '/') with
  | nil => rfl
  | cons c rest =>
    have hfirst := List.head?_dropWhile_not (· != '/') path
    rw [h] at hfirst
    obtain rfl : c = '/' := by simpa using hfirst
    rfl

/-- A slash at the end makes no piece after the first slash. -/
theorem pieces_dropWhile_append_slash (path : List Char) :
  pieces ((path ++ ['/']).dropWhile (· != '/')) = pieces (path.dropWhile (· != '/'))
  := by
  rw [List.dropWhile_append]
  split
  · next h => simp [List.isEmpty_iff.mp h, pieces, splitAt]
  · apply pieces_append_slash

/-- The segments of a path are its pieces after the first slash, but for empty ones. -/
theorem filter_segments (path : List Char) :
  (segments path).filter (!·.isEmpty) = pieces (path.dropWhile (· != '/'))
  := by
  rw [segments, filter_drop_splitAt, dropLastIf]
  split
  · next h =>
    obtain ⟨before, rfl⟩ := List.getLast?_eq_some_iff.mp h
    rw [List.dropLast_concat, pieces_dropWhile_append_slash]
  · rfl

/-- A name is made of what the pieces of the path after its first slash add to it. -/
theorem ofPath_eq_ofPieces (verb path : List Char) :
  ofPath verb path = ofPieces verb (pieces (path.dropWhile (· != '/')))
  := by
  rw [ofPath_eq, ofPieces, ofPieces, ← filter_segments, flatMap_pieceName_filter]

/-- A name is made of the verb and the pieces of the path after the first slash, and that is of all
its pieces when it starts with a slash.  A slash at the end changes nothing. -/
theorem ofMethod_isPiecewise (verb path : String) :
  (ofMethod verb path none).toList =
      ofPieces verb.toList (pieces (path.toList.dropWhile (· != '/'))) ∧
    (path = "" ∨ path.toList.head? = some '/' →
      (ofMethod verb path none).toList = ofPieces verb.toList (pieces path.toList)) ∧
    ofMethod verb (path ++ "/") none = ofMethod verb path none
  := by
  have hname : (ofMethod verb path none).toList =
      ofPieces verb.toList (pieces (path.toList.dropWhile (· != '/'))) := by
    rw [ofMethod, String.toList_ofList, ofPath_eq_ofPieces]
  refine ⟨hname, ?_, ?_⟩
  · intro hroot
    have hpath : path.toList.dropWhile (· != '/') = path.toList := by
      rcases hroot with rfl | hroot
      · rfl
      · obtain ⟨rest, hrest⟩ := List.head?_eq_some_iff.mp hroot
        rw [hrest]
        rfl
    rw [hname, hpath]
  · apply String.toList_inj.mp
    rw [hname, ofMethod, String.toList_ofList, ofPath_eq_ofPieces, String.toList_append]
    apply congrArg (ofPieces verb.toList)
    apply pieces_dropWhile_append_slash

theorem ofMethod_isPiecewise_pet :
  ofMethod "GET" "/pets/{petId}/" none = "getPetsByPetId" ∧
  (ofMethod "GET" "/pets/{petId}/" none).toList =
    ofPieces "GET".toList (pieces "/pets/{petId}/".toList) ∧
  ofMethod "GET" ("/pets/{petId}" ++ "/") none = ofMethod "GET" "/pets/{petId}" none
  := by
  have hroot := (ofMethod_isPiecewise "GET" "/pets/{petId}/").2.1 (.inr (by decide))
  exact ⟨by decide, hroot, (ofMethod_isPiecewise "GET" "/pets/{petId}").2.2⟩

/-- The only piece of a path without a slash is missing from the name. -/
theorem not_isPiecewise_rootless :
  ¬ ∀ verb path : String, ¬ Document.isExtension path = true →
    (ofMethod verb path none).toList = ofPieces verb.toList (pieces path.toList)
  := by
  intro h
  have hname := h "GET" "pets" (by decide)
  exact absurd hname (by decide)

end Name

end ApiTypes
