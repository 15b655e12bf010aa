import ApiTypes.Json.Text
import ApiTypes.Proofs.Double.Text
import ApiTypes.Proofs.Json.Height
import ApiTypes.Proofs.Outcome

/-!
# Values from their texts

A string is read back from its text between quotation marks, `Json.readString_flatMap_escape`, and
the text of a value determines the value, `Json.chars_injective`: whatever marks a string holds, no
value has the text of another.  The text may be followed by more, as long as that does not go on
with a character of a number: `Json.isDetermined`.
-/

namespace ApiTypes

/-! ### Numbers -/

/-- A text that does not go on with a character of a number. -/
def EndsNumber (s : List Char) : Prop :=
  ∀ c ∈ s.head?, Double.isNumeral c = false

theorem endsNumber_nil :
  EndsNumber []
  := nofun

theorem endsNumber_cons {c : Char} (h : Double.isNumeral c = false) (s : List Char) :
  EndsNumber (c :: s)
  := by
  rintro _ ⟨⟩
  exact h

namespace Number

variable {n m : Number} {c : Char} {s t : List Char}

theorem isNumeral_of_mem_chars (n : Number) :
  ∀ c ∈ n.chars, Double.isNumeral c = true
  := by
  cases n with
  | int n => exact Double.isNumeral_of_mem_signedChars
  | double x => exact x.isNumeral_of_mem_chars

theorem chars_injective :
  Function.Injective chars
  := by
  intro n m h
  cases n with
  | int n =>
    cases m with
    | int m => rw [Double.signedChars_injective h]
    | double y => exact absurd h.symm (y.chars_ne_signedChars n)
  | double x =>
    cases m with
    | int m => exact absurd h (x.chars_ne_signedChars m)
    | double y => rw [Double.chars_injective h]

theorem takeWhile_chars_append (n : Number) (hs : EndsNumber s) :
  (n.chars ++ s).takeWhile Double.isNumeral = n.chars
  := by
  rw [List.takeWhile_append_of_pos n.isNumeral_of_mem_chars]
  rcases s with _ | ⟨c, s⟩
  · apply List.append_nil
  · rw [List.takeWhile_cons_of_neg (by simp [hs c rfl]), List.append_nil]

theorem chars_append_inj (hs : EndsNumber s) (ht : EndsNumber t)
    (h : n.chars ++ s = m.chars ++ t) :
  n = m ∧ s = t
  := by
  have hchars : n.chars = m.chars := by
    rw [← n.takeWhile_chars_append hs, h, m.takeWhile_chars_append ht]
  use chars_injective hchars
  rw [hchars] at h
  exact List.append_cancel_left h

theorem chars_ne_nil (n : Number) :
  n.chars ≠ []
  := by
  cases n with
  | int n => exact List.append_ne_nil_of_right_ne_nil _ Nat.toDigits_ne_nil
  | double x =>
    obtain ⟨c, hmem, -⟩ := x.exists_mem_chars
    exact List.ne_nil_of_mem hmem

/-- The text of a number starts with a character of a number. -/
theorem isNumeral_of_chars_append_eq_cons (h : n.chars ++ s = c :: t) :
  Double.isNumeral c = true
  := by
  rcases List.append_eq_cons_iff.mp h with ⟨hnil, -⟩ | ⟨rest, hcons, -⟩
  · exact absurd hnil n.chars_ne_nil
  · apply n.isNumeral_of_mem_chars
    rw [hcons]
    exact List.mem_cons_self

end Number

namespace Json

/-! ### Strings -/

section

variable {n : Nat} {seen rest s t : List Char} {c : Char}

theorem hexValue?_hexDigit :
  ∀ n < 16, hexValue? (hexDigit n) = some n
  := by
  decide

theorem readHex_control (hc : c.toNat < 32) (t : List Char) :
  ∃ h, readHex ('0' :: '0' :: hexDigit (c.toNat / 16) :: hexDigit (c.toNat % 16) :: t) =
    .ok ⟨c.toNat, t, h⟩
  := by
  have hvalue : ((0 * 16 + 0) * 16 + c.toNat / 16) * 16 + c.toNat % 16 = c.toNat := by omega
  use by
    simp only [List.length_cons]
    omega
  simp only [readHex, hexValue?_hexDigit (c.toNat / 16) (by omega),
    hexValue?_hexDigit (c.toNat % 16) (by omega), show hexValue? '0' = some 0 from rfl, hvalue]

theorem readEscape_control (hc : c.toNat < 32) (t : List Char) :
  ∃ h, readEscape ('u' :: '0' :: '0' :: hexDigit (c.toNat / 16) :: hexDigit (c.toNat % 16) :: t) =
    .ok ⟨c, t, h⟩
  := by
  obtain ⟨hshorter, hread⟩ := readHex_control hc t
  have htrailing : isTrailingSurrogate c.toNat = false := by
    rw [isTrailingSurrogate, decide_eq_false (by omega), Bool.false_and]
  have hleading : isLeadingSurrogate c.toNat = false := by
    rw [isLeadingSurrogate, decide_eq_false (by omega), Bool.false_and]
  have hescape : readHexEscape
      ('0' :: '0' :: hexDigit (c.toNat / 16) :: hexDigit (c.toNat % 16) :: t) =
        .ok ⟨c, t, hshorter⟩ := by
    rw [readHexEscape, hread, Outcome.ok_bind, if_neg (by simp [htrailing]),
      if_neg (by simp [hleading]), Char.ofNat_toNat]
    rfl
  use Nat.lt_succ_of_lt hshorter
  change (readHexEscape _).map _ = _
  rw [hescape]
  rfl

theorem readString_backslash {read : Read Char rest.length} (hread : readEscape rest = .ok read)
    (h : ('\\' :: rest).length ≤ n) :
  ∃ h', readString seen ('\\' :: rest) h = readString (read.value :: seen) read.rest h'
  := by
  have hshorter := read.shorter
  rw [List.length_cons] at h
  use by omega
  rw [readString]
  simp [hread]

/-- Every escape is read as the character that it stands for. -/
theorem readString_escape (hs : s = escape c ++ t) (h : s.length ≤ n) :
  ∃ h', readString seen s h = readString (c :: seen) t h'
  := by
  unfold escape at hs
  split_ifs at hs with hquote hbackslash _ _ _ _ _ hcontrol
  case neg =>
    subst hs
    use Nat.le_of_succ_le h
    simp [readString, hquote, hbackslash, hcontrol]
  all_goals subst_vars
  -- seven characters are escaped by a letter or a mark of their own, the others by their number
  iterate 7
    · exact readString_backslash rfl h
  · obtain ⟨hshorter, hread⟩ := readEscape_control hcontrol t
    exact readString_backslash hread h

/-- A string is read back from its text between quotation marks. -/
theorem readString_flatMap_escape (seen name : List Char) (hs : s = name.flatMap escape ++ '"' :: t)
    (h : s.length ≤ n) :
  ∃ h', readString seen s h = .ok ⟨.ofList (seen.reverse ++ name), t, h'⟩
  := by
  induction name generalizing seen s with
  | nil =>
    subst hs
    use h
    simp [readString]
  | cons c name ih =>
    rw [List.flatMap_cons, List.append_assoc] at hs
    obtain ⟨hrest, hread⟩ := readString_escape hs h
    obtain ⟨hshorter, ih⟩ := ih (c :: seen) rfl hrest
    use hshorter
    rw [hread, ih, List.reverse_cons, List.append_assoc, List.singleton_append]

theorem quote_append_inj {name other : String} (h : quote name ++ s = quote other ++ t) :
  name = other ∧ s = t
  := by
  have htext : name.toList.flatMap escape ++ '"' :: s =
      other.toList.flatMap escape ++ '"' :: t := by
    simpa [quote] using h
  obtain ⟨hshorter, hname⟩ := readString_flatMap_escape [] name.toList rfl (Nat.le_refl _)
  obtain ⟨hshorter', hother⟩ := readString_flatMap_escape [] other.toList htext (Nat.le_refl _)
  have hread := hname.symm.trans hother
  simpa using hread

end

/-! ### Values -/

/-- The text of a value tells the value and where it ends. -/
def IsDetermined (value : Json) : Prop :=
  ∀ (other : Json) (s t : List Char), EndsNumber s → EndsNumber t →
    value.chars ++ s = other.chars ++ t → value = other ∧ s = t

section

variable {value other : Json} {items others : List Json} {members more : List (String × Json)}
  {s t : List Char} {c : Char}

/-- The characters that the texts of values start with. -/
theorem mem_or_isNumeral_of_chars_append_eq_cons (h : value.chars ++ s = c :: t) :
  c ∈ ['n', 't', 'f', '"', '[', '{'] ∨ Double.isNumeral c = true
  := by
  cases value with
  | number n =>
    right
    exact Number.isNumeral_of_chars_append_eq_cons h
  | bool b =>
    left
    cases b <;> cases h <;> decide
  | null | string | array | object =>
    left
    cases h
    decide

theorem endsNumber_moreItemsChars (items : List Json) (s : List Char) :
  EndsNumber (moreItemsChars items ++ s)
  := by
  cases items <;> exact endsNumber_cons rfl _

theorem endsNumber_moreMembersChars (members : List (String × Json)) (s : List Char) :
  EndsNumber (moreMembersChars members ++ s)
  := by
  cases members <;> exact endsNumber_cons rfl _

/-- Items that come after others are told apart as they are alone. -/
theorem itemsChars_append_eq (h : moreItemsChars items ++ s = moreItemsChars others ++ t) :
  itemsChars items ++ s = itemsChars others ++ t
  := by
  cases items with
  | nil =>
    cases others with
    | nil => exact h
    | cons other others => cases h
  | cons item items =>
    cases others with
    | nil => cases h
    | cons other others => exact (List.cons.inj h).2

theorem itemsChars_append_inj (hitems : ∀ item ∈ items, item.IsDetermined)
    (h : itemsChars items ++ s = itemsChars others ++ t) :
  items = others ∧ s = t
  := by
  induction items generalizing others with
  | nil =>
    cases others with
    | nil => exact ⟨rfl, (List.cons.inj h).2⟩
    | cons other others =>
      rw [itemsChars, itemsChars, List.append_assoc] at h
      have hstart := mem_or_isNumeral_of_chars_append_eq_cons h.symm
      exact absurd hstart (by decide)
  | cons item items ih =>
    cases others with
    | nil =>
      rw [itemsChars, itemsChars, List.append_assoc] at h
      have hstart := mem_or_isNumeral_of_chars_append_eq_cons h
      exact absurd hstart (by decide)
    | cons other others =>
      obtain ⟨hitem, hitems⟩ := List.forall_mem_cons.mp hitems
      rw [itemsChars, itemsChars, List.append_assoc, List.append_assoc] at h
      obtain ⟨rfl, hmore⟩ := hitem other _ _ (endsNumber_moreItemsChars items s)
        (endsNumber_moreItemsChars others t) h
      obtain ⟨rfl, rfl⟩ := ih hitems (itemsChars_append_eq hmore)
      exact ⟨rfl, rfl⟩

/-- Members that come after others are told apart as they are alone. -/
theorem membersChars_append_eq
    (h : moreMembersChars members ++ s = moreMembersChars more ++ t) :
  membersChars members ++ s = membersChars more ++ t
  := by
  cases members with
  | nil =>
    cases more with
    | nil => exact h
    | cons entry more => cases h
  | cons entry members =>
    cases more with
    | nil => cases h
    | cons entry' more => exact (List.cons.inj h).2

theorem membersChars_append_inj (hmembers : ∀ entry ∈ members, entry.2.IsDetermined)
    (h : membersChars members ++ s = membersChars more ++ t) :
  members = more ∧ s = t
  := by
  induction members generalizing more with
  | nil =>
    cases more with
    | nil => exact ⟨rfl, (List.cons.inj h).2⟩
    | cons entry more => cases h
  | cons entry members ih =>
    cases more with
    | nil => cases h
    | cons entry' more =>
      obtain ⟨name, value⟩ := entry
      obtain ⟨name', value'⟩ := entry'
      obtain ⟨hvalue, hmembers⟩ := List.forall_mem_cons.mp hmembers
      simp only [membersChars, List.append_assoc, List.cons_append] at h
      obtain ⟨rfl, hrest⟩ := quote_append_inj h
      obtain ⟨rfl, hmore⟩ := hvalue value' _ _ (endsNumber_moreMembersChars members s)
        (endsNumber_moreMembersChars more t) (List.cons.inj hrest).2
      obtain ⟨rfl, rfl⟩ := ih hmembers (membersChars_append_eq hmore)
      exact ⟨rfl, rfl⟩

theorem isDetermined_null :
  null.IsDetermined
  := by
  intro other s t hs ht h
  cases other with
  | null => exact ⟨rfl, List.append_cancel_left h⟩
  | bool b => cases b <;> cases h
  | number m => exact absurd (Number.isNumeral_of_chars_append_eq_cons h.symm) (by decide)
  | string | array | object => cases h

theorem isDetermined_bool (b : Bool) :
  (bool b).IsDetermined
  := by
  intro other s t hs ht h
  cases other with
  | bool b' =>
    cases b <;> cases b'
    case false.false | true.true => exact ⟨rfl, List.append_cancel_left h⟩
    case false.true | true.false => cases h
  | number m =>
    cases b <;> exact absurd (Number.isNumeral_of_chars_append_eq_cons h.symm) (by decide)
  | null | string | array | object => cases b <;> cases h

theorem isDetermined_number (n : Number) :
  (number n).IsDetermined
  := by
  intro other s t hs ht h
  cases other with
  | number m =>
    obtain ⟨rfl, rfl⟩ := Number.chars_append_inj hs ht h
    exact ⟨rfl, rfl⟩
  | bool b =>
    cases b <;> exact absurd (Number.isNumeral_of_chars_append_eq_cons h) (by decide)
  | null | string | array | object =>
    exact absurd (Number.isNumeral_of_chars_append_eq_cons h) (by decide)

theorem isDetermined_string (name : String) :
  (string name).IsDetermined
  := by
  intro other s t hs ht h
  cases other with
  | string name' =>
    obtain ⟨rfl, rfl⟩ := quote_append_inj h
    exact ⟨rfl, rfl⟩
  | bool b => cases b <;> cases h
  | number m => exact absurd (Number.isNumeral_of_chars_append_eq_cons h.symm) (by decide)
  | null | array | object => cases h

theorem isDetermined_array (hitems : ∀ item ∈ items, item.IsDetermined) :
  (array items).IsDetermined
  := by
  intro other s t hs ht h
  cases other with
  | array others =>
    obtain ⟨rfl, rfl⟩ := itemsChars_append_inj hitems (List.cons.inj h).2
    exact ⟨rfl, rfl⟩
  | bool b => cases b <;> cases h
  | number m => exact absurd (Number.isNumeral_of_chars_append_eq_cons h.symm) (by decide)
  | null | string | object => cases h

theorem isDetermined_object (hmembers : ∀ entry ∈ members, entry.2.IsDetermined) :
  (object members).IsDetermined
  := by
  intro other s t hs ht h
  cases other with
  | object more =>
    obtain ⟨rfl, rfl⟩ := membersChars_append_inj hmembers (List.cons.inj h).2
    exact ⟨rfl, rfl⟩
  | bool b => cases b <;> cases h
  | number m => exact absurd (Number.isNumeral_of_chars_append_eq_cons h.symm) (by decide)
  | null | string | array => cases h

end

/-- The text of every value tells the value and where it ends. -/
theorem isDetermined (value : Json) :
  value.IsDetermined
  := by
  induction hheight : value.height using Nat.strongRecOn generalizing value with
  | ind height ih =>
    subst hheight
    cases value with
    | null => exact isDetermined_null
    | bool b => exact isDetermined_bool b
    | number n => exact isDetermined_number n
    | string name => exact isDetermined_string name
    | array items =>
      apply isDetermined_array
      intro item hitem
      exact ih _ (height_lt_of_mem_array hitem) item rfl
    | object members =>
      apply isDetermined_object
      intro entry hentry
      exact ih _ (height_lt_of_mem_object hentry) entry.2 rfl

theorem chars_injective :
  Function.Injective chars
  := by
  intro value other h
  apply (isDetermined value other [] [] endsNumber_nil endsNumber_nil _).1
  rw [h]

theorem text_injective :
  Function.Injective text
  := by
  intro value other h
  apply chars_injective
  apply String.ofList_injective h

end Json

end ApiTypes
