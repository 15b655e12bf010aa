/-!
# Wildcards

A `Pattern` is the compiled form of a text with wildcards.  `?` stands for any character,
`*` for any characters, `[abc]` and `[a-z]` for one of a set, `[!abc]` for one outside it,
and `**`, on its own between slashes, for directories of any depth.  `Pattern.compile` gives
the pattern, or the place of the first misuse; `Pattern.isMatch` tests a name.
-/

namespace ApiTypes.Glob

/-- A set of characters: those from one character to another, both included. -/
structure Span where
  first : Char
  last : Char
deriving DecidableEq

/-- A part of a pattern. -/
inductive Token where
  | literal (c : Char)
  | anyChar
  | anySequence
  | directories
  | within (spans : List Span)
  | outside (spans : List Span)
deriving DecidableEq

/-- A text with wildcards, compiled. -/
abbrev Pattern := List Token

/-- How wildcards are misused. -/
inductive Misuse where
  | tooManyStars
  | starsBesideText
  | invalidRange
deriving DecidableEq

/-- The words for a misuse. -/
def Misuse.message : Misuse → String
  | .tooManyStars => "wildcards are either regular `*` or recursive `**`"
  | .starsBesideText => "recursive wildcards must form a single path component"
  | .invalidRange => "invalid range pattern"

/-- A misuse with the number of characters before it. -/
structure PatternError where
  misuse : Misuse
  position : Nat
deriving DecidableEq

/-- The words for a misuse and its place. -/
def PatternError.message (error : PatternError) : String :=
  "Pattern syntax error near position " ++ Nat.repr error.position ++ ": " ++
    error.misuse.message

/-! ### Compiling -/

/-- The spans of the members of a set. -/
def spans : List Char → List Span
  | a :: '-' :: b :: rest => ⟨a, b⟩ :: spans rest
  | a :: rest => ⟨a, a⟩ :: spans rest
  | [] => []

/-- The token of a set whose opening bracket was read, with the text after it.  The first
member of a set may be a closing bracket. -/
def readSet? : List Char → Option (Token × List Char)
  | '!' :: first :: rest =>
    match rest.dropWhile (· ≠ ']') with
    | [] => none
    | _ :: after => some (.outside (spans (first :: rest.takeWhile (· ≠ ']'))), after)
  | '!' :: [] => none
  | first :: rest =>
    match rest.dropWhile (· ≠ ']') with
    | [] => none
    | _ :: after => some (.within (spans (first :: rest.takeWhile (· ≠ ']'))), after)
  | [] => none

theorem length_dropWhile_lt {p : Char → Bool} {s after : List Char} {c : Char}
    (h : s.dropWhile p = c :: after) :
  after.length < s.length
  := by
  have := (List.dropWhile_suffix p (l := s)).length_le
  rw [h, List.length_cons] at this
  omega

theorem length_readSet?_lt {s rest : List Char} {token : Token}
    (h : readSet? s = some (token, rest)) :
  rest.length < s.length
  := by
  unfold readSet? at h
  split at h
  · split at h
    · simp at h
    next hs =>
      have := length_dropWhile_lt hs
      simp only [Option.some.injEq, Prod.mk.injEq] at h
      rw [← h.2]
      simp only [List.length_cons]
      omega
  · simp at h
  · split at h
    · simp at h
    next hs =>
      have := length_dropWhile_lt hs
      simp only [Option.some.injEq, Prod.mk.injEq] at h
      rw [← h.2]
      simp only [List.length_cons]
      omega
  · simp at h

/-- The pattern of a text that comes after `position` characters, the last of which was
`previous`. -/
def compileFrom (position : Nat) (previous : Option Char) :
    List Char → Except PatternError Pattern
  | [] => .ok []
  | '?' :: rest => (.anyChar :: ·) <$> compileFrom (position + 1) (some '?') rest
  | '*' :: rest =>
    let stars := (rest.takeWhile (· == '*')).length + 1
    let after := rest.dropWhile (· == '*')
    if stars = 1 then (.anySequence :: ·) <$> compileFrom (position + 1) (some '*') after
    else if stars ≠ 2 then .error ⟨.tooManyStars, position + 2⟩
    else if previous.any (· ≠ '/') then .error ⟨.starsBesideText, position - 1⟩
    else
      match hslash : after with
      | [] => .ok [.directories]
      | '/' :: more => (.directories :: ·) <$> compileFrom (position + 3) (some '/') more
      | _ => .error ⟨.starsBesideText, position + 2⟩
  | '[' :: rest =>
    match hset : readSet? rest with
    | none => .error ⟨.invalidRange, position⟩
    | some (token, after) =>
      (token :: ·) <$> compileFrom (position + 1 + (rest.length - after.length)) (some ']') after
  | c :: rest => (.literal c :: ·) <$> compileFrom (position + 1) (some c) rest
termination_by s => s.length
decreasing_by
  · simp
  · have := (List.dropWhile_suffix (· == '*') (l := rest)).length_le
    simp only [List.length_cons]
    omega
  · have := (List.dropWhile_suffix (· == '*') (l := rest)).length_le
    have hlength := congrArg List.length hslash
    simp only [after, List.length_cons] at hlength ⊢
    omega
  · have := length_readSet?_lt hset
    simp only [List.length_cons]
    omega
  · simp

/-- The pattern of a text. -/
def Pattern.compile (s : List Char) : Except PatternError Pattern :=
  compileFrom 0 none s

/-! ### Matching -/

/-- The test for a character of a set. -/
def inSpans (spans : List Span) (c : Char) : Bool :=
  spans.any fun span => span.first ≤ c && c ≤ span.last

/-- The test for a character that a token stands for. -/
def Token.admits (c : Char) : Token → Bool
  | .literal d => c == d
  | .anyChar => true
  | .anySequence => true
  | .directories => true
  | .within spans => inSpans spans c
  | .outside spans => !inSpans spans c

/-- The test for a token that stands for any number of characters. -/
def Token.isSequence : Token → Bool
  | .anySequence => true
  | .directories => true
  | _ => false

/-- The outcomes of a token and the rest of its pattern for a text and every text at its end,
the longest first, given those of the rest alone. -/
def Token.outcomes (token : Token) : List Char → List Bool → List Bool
  | c :: s, here :: shorter =>
    let later := token.outcomes s shorter
    (if token.isSequence then here || later.headD false
      else token.admits c && shorter.headD false) :: later
  | _, here :: _ => [token.isSequence && here]
  | _, [] => []

/-- The outcomes of a pattern for a text and every text at its end, the longest first.  Each
is found once, which keeps the time within the product of the lengths. -/
def Pattern.outcomes : Pattern → List Char → List Bool
  | [], s => s.map (fun _ => false) ++ [true]
  | token :: rest, s => token.outcomes s (outcomes rest s)

/-- The test for a name that a pattern stands for as a whole. -/
def Pattern.isMatch (pattern : Pattern) (s : List Char) : Bool :=
  (pattern.outcomes s).headD false

namespace Pattern

theorem outcomes_nil (pattern : Pattern) :
  pattern.outcomes [] = [pattern.isMatch []]
  := by
  induction pattern with
  | nil => rfl
  | cons token rest ih =>
    have h : outcomes (token :: rest) [] = token.outcomes [] [isMatch rest []] := by
      rw [outcomes, ih]
    rw [isMatch, h]
    rfl

theorem outcomes_cons (pattern : Pattern) (c : Char) (s : List Char) :
  pattern.outcomes (c :: s) = pattern.isMatch (c :: s) :: pattern.outcomes s
  := by
  induction pattern with
  | nil => rfl
  | cons token rest ih =>
    have h : outcomes (token :: rest) (c :: s) =
        token.outcomes (c :: s) (isMatch rest (c :: s) :: outcomes rest s) := by
      rw [outcomes, ih]
    rw [isMatch, h]
    rfl

/-- The empty pattern stands for the empty name alone. -/
@[simp]
theorem isMatch_nil (s : List Char) :
  isMatch [] s = s.isEmpty
  := by
  cases s <;> rfl

/-- A pattern stands for the empty name exactly when all its tokens are sequences. -/
theorem isMatch_cons_nil (token : Token) (rest : Pattern) :
  isMatch (token :: rest) [] = (token.isSequence && rest.isMatch [])
  := by
  rw [isMatch, outcomes, outcomes_nil]
  rfl

/-- A token that is a sequence stands for nothing, or for a character and what it stands for
in the rest of the name. -/
theorem isMatch_cons_of_isSequence {token : Token} (h : token.isSequence = true)
    (rest : Pattern) (c : Char) (s : List Char) :
  isMatch (token :: rest) (c :: s) = (rest.isMatch (c :: s) || isMatch (token :: rest) s)
  := by
  rw [isMatch, outcomes, outcomes_cons, Token.outcomes]
  simp only [h, ↓reduceIte, List.headD_cons]
  rfl

/-- Any other token stands for one character. -/
theorem isMatch_cons_of_not_isSequence {token : Token} (h : token.isSequence = false)
    (rest : Pattern) (c : Char) (s : List Char) :
  isMatch (token :: rest) (c :: s) = (token.admits c && rest.isMatch s)
  := by
  rw [isMatch, outcomes, outcomes_cons, Token.outcomes]
  simp only [h, Bool.false_eq_true, ↓reduceIte, List.headD_cons]
  rfl

/-- The text that a pattern without wildcards stands for. -/
def literal? (pattern : Pattern) : Option (List Char) :=
  pattern.mapM fun
    | .literal c => some c
    | _ => none

/-- The test for the pattern of directories of any depth. -/
def isRecursive (pattern : Pattern) : Bool :=
  pattern.contains .directories

end Pattern

end ApiTypes.Glob
