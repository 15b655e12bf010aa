import ApiTypes.Json
import ApiTypes.Json.Fault

/-!
# Reading JSON text

`Json.parse` reads a text as one JSON value whose brackets nest at most `depth` levels, or
gives the first `Fault`.  Every part of the grammar has a function that reads it off the
front of a text; `Read α n` is the value it found with the text that follows, which is
shorter than `n` characters.

A number without fraction and exponent is an integer if it fits 64 bits.  Any other number
is a double, computed from at most as many of its leading digits as fit 64 bits.
-/

namespace ApiTypes.Json

/-- A value read off the front of a text, with the text that follows. -/
structure Read (α : Type) (n : Nat) where
  value : α
  rest : List Char
  shorter : rest.length < n

/-- The same reading, of a longer text. -/
def Read.weaken {α : Type} {m n : Nat} (read : Read α m) (h : m ≤ n) : Read α n :=
  ⟨read.value, read.rest, Nat.lt_of_lt_of_le read.shorter h⟩

/-- The test for the blanks of JSON. -/
def isBlank (c : Char) : Bool :=
  c = ' ' || c = '\n' || c = '\t' || c = '\r'

/-- The text after its leading blanks. -/
def skipBlanks (s : List Char) : List Char :=
  s.dropWhile isBlank

theorem length_dropWhile_le (p : Char → Bool) (s : List Char) :
  (s.dropWhile p).length ≤ s.length
  := (List.dropWhile_suffix p).length_le

theorem length_skipBlanks_le (s : List Char) :
  (skipBlanks s).length ≤ s.length
  := length_dropWhile_le isBlank s

theorem length_lt_of_skipBlanks_eq_cons {c : Char} {s rest : List Char}
    (h : skipBlanks s = c :: rest) :
  rest.length < s.length
  := by
  have := length_skipBlanks_le s
  rw [h, List.length_cons] at this
  omega

/-! ### Words -/

/-- The text after a given word. -/
def afterWord : List Char → List Char → Except Fault (List Char)
  | [], s => .ok s
  | _ :: _, [] => .error (.before .endOfValue [])
  | c :: word, d :: s =>
    if c = d then afterWord word s else .error (.at .expectedIdent (d :: s))

theorem length_afterWord_le {word s rest : List Char} (h : afterWord word s = .ok rest) :
  rest.length ≤ s.length
  := by
  fun_induction afterWord word s with
  | case1 => simp_all
  | case2 => simp at h
  | case3 _ _ _ ih =>
    have := ih h
    simp only [List.length_cons]
    omega
  | case4 => simp at h

/-! ### Strings -/

/-- The value of a hexadecimal digit of either case. -/
def hexValue? (c : Char) : Option Nat :=
  if '0' ≤ c ∧ c ≤ '9' then some (c.toNat - '0'.toNat)
  else if 'a' ≤ c ∧ c ≤ 'f' then some (c.toNat - 'a'.toNat + 10)
  else if 'A' ≤ c ∧ c ≤ 'F' then some (c.toNat - 'A'.toNat + 10)
  else none

/-- The four hexadecimal digits at the front of a text, as a number. -/
def readHex (s : List Char) : Except Fault (Read Nat s.length) :=
  match s with
  | a :: b :: c :: d :: rest =>
    match hexValue? a, hexValue? b, hexValue? c, hexValue? d with
    | some a, some b, some c, some d =>
      .ok ⟨((a * 16 + b) * 16 + c) * 16 + d, rest, by simp only [List.length_cons]; omega⟩
    | _, _, _, _ => .error ⟨.invalidEscape, s, 4⟩
  | _ =>
    if 4 ≤ byteLength s then .error ⟨.invalidEscape, s, 4⟩
    else .error (.before .endOfString [])

/-- The test for the first half of a pair of surrogates. -/
def isLeadingSurrogate (n : Nat) : Bool :=
  0xD800 ≤ n && n ≤ 0xDBFF

/-- The test for the second half of a pair of surrogates. -/
def isTrailingSurrogate (n : Nat) : Bool :=
  0xDC00 ≤ n && n ≤ 0xDFFF

/-- The text after a given character of a pair of surrogates. -/
def readPairMark (mark : Char) (s : List Char) : Except Fault (Read Unit s.length) :=
  match s with
  | [] => .error (.before .endOfString [])
  | c :: rest =>
    if c = mark then .ok ⟨(), rest, by simp⟩
    else .error (.at .unfinishedSurrogatePair (c :: rest))

/-- The character of a hexadecimal escape, whose digits come first in the text; two escapes
make up a character beyond the first 65536. -/
def readHexEscape (s : List Char) : Except Fault (Read Char s.length) := do
  let first ← readHex s
  if isTrailingSurrogate first.value then
    throw (.before .loneSurrogate first.rest)
  else if isLeadingSurrogate first.value then
    let slash ← readPairMark '\\' first.rest
    let letter ← readPairMark 'u' slash.rest
    let second ← readHex letter.rest
    if isTrailingSurrogate second.value then
      let code := 0x10000 + (first.value - 0xD800) * 0x400 + (second.value - 0xDC00)
      return ⟨.ofNat code, second.rest, by
        have := first.shorter
        have := slash.shorter
        have := letter.shorter
        have := second.shorter
        omega⟩
    else
      throw (.before .loneSurrogate second.rest)
  else
    return ⟨.ofNat first.value, first.rest, first.shorter⟩

/-- The character of an escape whose backslash was read. -/
def readEscape (s : List Char) : Except Fault (Read Char s.length) :=
  match s with
  | [] => .error (.before .endOfString [])
  | c :: rest =>
    let found (d : Char) : Except Fault (Read Char (c :: rest).length) := .ok ⟨d, rest, by simp⟩
    if c = '"' then found '"'
    else if c = '\\' then found '\\'
    else if c = '/' then found '/'
    else if c = 'b' then found '\x08'
    else if c = 'f' then found '\x0c'
    else if c = 'n' then found '\n'
    else if c = 'r' then found '\r'
    else if c = 't' then found '\t'
    else if c = 'u' then (readHexEscape rest).map (·.weaken (by simp))
    else .error (.at .invalidEscape (c :: rest))

/-- The characters of a string whose opening quotation mark was read, up to the closing one;
`seen` has those read before, in reverse. -/
def readString {n : Nat} (seen : List Char) (s : List Char) (h : s.length ≤ n) :
    Except Fault (Read String n) :=
  match s with
  | [] => .error (.before .endOfString [])
  | c :: rest =>
    have hrest : rest.length < n := h
    if c = '"' then .ok ⟨.ofList seen.reverse, rest, hrest⟩
    else if c = '\\' then
      match readEscape rest with
      | .error fault => .error fault
      | .ok escape =>
        have := escape.shorter
        readString (escape.value :: seen) escape.rest (by omega)
    else if c.toNat < 32 then .error (.at .controlCharacter (c :: rest))
    else readString (c :: seen) rest (by omega)
termination_by s.length
decreasing_by
  · simp only [List.length_cons]
    omega
  · simp

/-! ### Numbers -/

/-- The number made by appending digits to `m` as long as it stays below `bound`, with the
digits left over. -/
def accumulate (bound : Nat) (m : Nat) : List Char → Nat × List Char
  | [] => (m, [])
  | c :: digits =>
    let next := m * 10 + (c.toNat - '0'.toNat)
    if next < bound then accumulate bound next digits else (m, c :: digits)

/-- A number in the course of reading: its significand and the power of ten of its last
digit. -/
structure Scaled where
  significand : Nat
  exponent : Int

/-- The digits at the front of a text and the text after them. -/
def spanDigits (s : List Char) : List Char × List Char :=
  (s.takeWhile Char.isDigit, s.dropWhile Char.isDigit)

/-- The number with the fraction whose digits come first in the text. -/
def readFraction (x : Scaled) (s : List Char) : Except Fault (Scaled × List Char) :=
  let (digits, rest) := spanDigits s
  if digits.isEmpty then
    .error (.at (if rest.isEmpty then .endOfValue else .invalidNumber) rest)
  else
    let (m, left) := accumulate 0x10000000000000000 x.significand digits
    .ok (⟨m, x.exponent - (digits.length - left.length : Nat)⟩, rest)

/-- A double in front of the text that follows, unless it is out of range. -/
def inRange (rest : List Char) : Option Double → Except Fault (Number × List Char)
  | some x => .ok (.double x, rest)
  | none => .error (.before .numberOutOfRange rest)

/-- The double computed from a significand and a power of ten. -/
def readDouble (negative : Bool) (x : Scaled) (rest : List Char) :
    Except Fault (Number × List Char) :=
  inRange rest (Double.ofScientific? negative x.significand x.exponent)

/-- The sign at the front of an exponent, true for a negative one, with the text after it. -/
def readSign : List Char → Bool × List Char
  | '+' :: rest => (false, rest)
  | '-' :: rest => (true, rest)
  | rest => (false, rest)

/-- The number with the exponent whose letter was read.  An exponent of more than 31 bits is
too large, or else makes the number zero. -/
def readExponent (negative : Bool) (x : Scaled) (s : List Char) :
    Except Fault (Number × List Char) :=
  let (below, s) := readSign s
  let (digits, rest) := spanDigits s
  if digits.isEmpty then
    .error (if rest.isEmpty then .before .endOfValue [] else .at .invalidNumber rest)
  else
    match accumulate 0x80000000 0 digits with
    | (e, []) =>
      readDouble negative ⟨x.significand, x.exponent + (if below then -(e : Int) else e)⟩ rest
    | (_, _ :: left) =>
      if x.significand = 0 ∨ below then .ok (.double (.zero negative), rest)
      else .error (.before .numberOutOfRange (left ++ rest))

/-- The number whose sign was read. -/
def readNumber (negative : Bool) (s : List Char) : Except Fault (Number × List Char) :=
  let (digits, rest) := spanDigits s
  match digits with
  | [] => .error (if rest.isEmpty then .before .endOfValue [] else .at .invalidNumber rest)
  | '0' :: d :: more => .error (.at .invalidNumber (d :: more ++ rest))
  | _ =>
    let (m, left) := accumulate 0x10000000000000000 0 digits
    let whole : Scaled := ⟨m, left.length⟩
    match rest with
    | '.' :: rest => do
      let (x, rest) ← readFraction whole rest
      match rest with
      | 'e' :: rest => readExponent negative x rest
      | 'E' :: rest => readExponent negative x rest
      | _ => readDouble negative x rest
    | 'e' :: rest => readExponent negative whole rest
    | 'E' :: rest => readExponent negative whole rest
    | _ =>
      if left ≠ [] then readDouble negative whole rest
      else if !negative then .ok (.int m, rest)
      else if 0 < m ∧ m ≤ 0x8000000000000000 then .ok (.int (-m), rest)
      else readDouble negative whole rest

/-! ### The text after a number -/

theorem inRange_rest {x : Option Double} {s rest : List Char} {n : Number}
    (h : inRange s x = .ok (n, rest)) :
  rest = s
  := by
  cases x with
  | none => simp [inRange] at h
  | some x =>
    simp only [inRange, Except.ok.injEq, Prod.mk.injEq] at h
    exact h.2.symm

theorem readDouble_rest {negative : Bool} {x : Scaled} {s rest : List Char} {n : Number}
    (h : readDouble negative x s = .ok (n, rest)) :
  rest = s
  := inRange_rest h

theorem length_spanDigits_le (s : List Char) :
  (spanDigits s).2.length ≤ s.length
  := length_dropWhile_le Char.isDigit s

theorem length_readSign_le (s : List Char) :
  (readSign s).2.length ≤ s.length
  := by
  fun_cases readSign s <;> simp

theorem length_readFraction_le {x y : Scaled} {s rest : List Char}
    (h : readFraction x s = .ok (y, rest)) :
  rest.length ≤ s.length
  := by
  have := length_spanDigits_le s
  simp only [readFraction] at h
  split at h
  · simp at h
  · simp only [Except.ok.injEq, Prod.mk.injEq] at h
    rw [← h.2]
    exact this

theorem length_readExponent_le {negative : Bool} {x : Scaled} {s rest : List Char} {n : Number}
    (h : readExponent negative x s = .ok (n, rest)) :
  rest.length ≤ s.length
  := by
  have hsign := length_readSign_le s
  have hdigits := length_spanDigits_le (readSign s).2
  simp only [readExponent] at h
  split at h
  · simp at h
  · split at h
    · rw [readDouble_rest h]
      omega
    · split at h
      · simp only [Except.ok.injEq, Prod.mk.injEq] at h
        rw [← h.2]
        omega
      · simp at h

theorem length_readNumber_lt {negative : Bool} {s rest : List Char} {n : Number}
    (h : readNumber negative s = .ok (n, rest)) :
  rest.length < s.length
  := by
  have hlength : s.length = (spanDigits s).1.length + (spanDigits s).2.length := by
    rw [← List.length_append]
    simp [spanDigits]
  simp only [readNumber] at h
  split at h
  · simp at h
  · simp at h
  next hzero hdigits =>
    have hpos : 0 < (spanDigits s).1.length := by
      apply List.length_pos_iff.2
      exact hzero
    split at h
    next hrest =>
      simp only [bind, Except.bind] at h
      split at h
      · simp at h
      next y hy =>
        have hfraction := length_readFraction_le hy
        rw [hrest] at hlength
        simp only [List.length_cons] at hlength
        split at h
        next he =>
          have := length_readExponent_le h
          simp only [he, List.length_cons] at hfraction
          omega
        next he =>
          have := length_readExponent_le h
          simp only [he, List.length_cons] at hfraction
          omega
        · have := readDouble_rest h
          grind
    next hrest =>
      have := length_readExponent_le h
      grind
    next hrest =>
      have := length_readExponent_le h
      grind
    · split at h
      · have := readDouble_rest h
        grind
      · split at h
        · grind
        · split at h
          · grind
          · have := readDouble_rest h
            grind

/-! ### Values -/

/-- The reading of a part of the grammar at the front of a text. -/
abbrev Reader (α : Type) :=
  (s : List Char) → Except Fault (Read α s.length)

/-- The value of a word of the grammar whose first letter was read. -/
def readWord (word : List Char) (value : Json) (s : List Char) :
    Except Fault (Read Json (s.length + 1)) :=
  match h : afterWord word s with
  | .ok rest => .ok ⟨value, rest, Nat.lt_succ_of_le (length_afterWord_le h)⟩
  | .error fault => .error fault

/-- The number value whose sign was read. -/
def readNumberValue (negative : Bool) (s : List Char) : Except Fault (Read Json s.length) :=
  match h : readNumber negative s with
  | .ok (n, rest) => .ok ⟨.number n, rest, length_readNumber_lt h⟩
  | .error fault => .error fault

/-- The items of an array from after its opening bracket or the last item on; `seen` has
those read before, in reverse. -/
def readItems (value : Reader Json) {n : Nat} (seen : List Json) (s : List Char)
    (h : s.length < n) : Except Fault (Read Json n) :=
  have := length_skipBlanks_le s
  match hs : skipBlanks s with
  | [] => .error (.at .endOfList [])
  | c :: rest =>
    if c = ']' then
      .ok ⟨.array seen.reverse, rest, by grind⟩
    else
      let item : Except Fault (Read Json s.length) :=
        if seen.isEmpty then (value (c :: rest)).map (·.weaken (hs ▸ this))
        else if c ≠ ',' then .error (.at .expectedCommaOrBracket (c :: rest))
        else
          have := length_skipBlanks_le rest
          match hr : skipBlanks rest with
          | [] => .error (.at .endOfValue [])
          | d :: more =>
            if d = ']' then .error (.at .trailingComma (d :: more))
            else (value (d :: more)).map (·.weaken (by grind))
      match item with
      | .error fault => .error fault
      | .ok item =>
        have := item.shorter
        readItems value (item.value :: seen) item.rest (by omega)
termination_by s.length

/-- The members of an object from after its opening brace or the last member on; `seen` has
those read before. -/
def readMembers (value : Reader Json) {n : Nat} (first : Bool) (seen : Members) (s : List Char)
    (h : s.length < n) : Except Fault (Read Json n) :=
  have := length_skipBlanks_le s
  match hs : skipBlanks s with
  | [] => .error (.at .endOfObject [])
  | c :: rest =>
    if c = '}' then
      .ok ⟨.object seen, rest, by grind⟩
    else
      let name : Except Fault (Read String s.length) :=
        if first then
          if c = '"' then readString [] rest (by grind)
          else .error (.at .keyNotString (c :: rest))
        else if c ≠ ',' then .error (.at .expectedCommaOrBrace (c :: rest))
        else
          have := length_skipBlanks_le rest
          match hr : skipBlanks rest with
          | [] => .error (.at .endOfValue [])
          | d :: more =>
            if d = '}' then .error (.at .trailingComma (d :: more))
            else if d = '"' then readString [] more (by grind)
            else .error (.at .keyNotString (d :: more))
      match name with
      | .error fault => .error fault
      | .ok name =>
        have := name.shorter
        have := length_skipBlanks_le name.rest
        match hn : skipBlanks name.rest with
        | [] => .error (.at .endOfObject [])
        | d :: more =>
          if d ≠ ':' then .error (.at .expectedColon (d :: more))
          else
            match value more with
            | .error fault => .error fault
            | .ok item =>
              have := item.shorter
              readMembers value false (Named.insert name.value item.value seen) item.rest (by grind)
termination_by s.length
decreasing_by grind

/-- The value at the front of a text, whose brackets nest at most `depth` levels. -/
def readValue (depth : Nat) (s : List Char) : Except Fault (Read Json s.length) :=
  have := length_skipBlanks_le s
  match hs : skipBlanks s with
  | [] => .error (.at .endOfValue [])
  | c :: rest =>
    have hrest := length_lt_of_skipBlanks_eq_cons hs
    if c = '"' then
      (readString [] rest (Nat.le_refl _)).map fun read =>
        ⟨.string read.value, read.rest, Nat.lt_trans read.shorter hrest⟩
    else if c = '[' then
      match depth with
      | 0 => .error (.at .tooDeep (c :: rest))
      | depth + 1 => readItems (readValue depth) [] rest hrest
    else if c = '{' then
      match depth with
      | 0 => .error (.at .tooDeep (c :: rest))
      | depth + 1 => readMembers (readValue depth) true [] rest hrest
    else if c = '-' then (readNumberValue true rest).map (·.weaken (Nat.le_of_lt hrest))
    else if c.isDigit then (readNumberValue false (c :: rest)).map (·.weaken (hs ▸ this))
    else if c = 'n' then (readWord ['u', 'l', 'l'] .null rest).map (·.weaken hrest)
    else if c = 't' then (readWord ['r', 'u', 'e'] (.bool true) rest).map (·.weaken hrest)
    else if c = 'f' then (readWord ['a', 'l', 's', 'e'] (.bool false) rest).map (·.weaken hrest)
    else .error (.at .expectedValue (c :: rest))

/-- The value that a text holds, with nothing but blanks around it. -/
def parse (depth : Nat) (text : List Char) : Except Fault Json := do
  let read ← readValue depth text
  match skipBlanks read.rest with
  | [] => return read.value
  | rest => throw (.at .trailingCharacters rest)

end ApiTypes.Json
