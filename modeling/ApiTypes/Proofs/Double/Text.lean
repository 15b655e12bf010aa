import ApiTypes.Json.Reader
import ApiTypes.Proofs.Double.Rounding
import Mathlib.Data.List.DropRight

/-!
# Numbers from their texts

`Decimal.ofChars` is the decimal that a text of digits, a point and an exponent writes, and
`Double.ofChars?` the double that it is rounded to.  However a number is laid out, its text writes
the decimal that was laid out, so that a double is found again from its text,
`Double.ofChars?_chars`.  In particular the text of a double determines it, and tells it from any
integer.
-/

namespace ApiTypes

namespace Decimal

variable {s digits whole fraction : List Char} {c : Char}

/-! ### Digits -/

theorem notMem_of_isDigit (hs : ∀ d ∈ s, d.isDigit) (hc : c.isDigit = false) :
  c ∉ s
  := by
  intro hmem
  simp [hs c hmem] at hc

theorem bne_of_notMem (h : c ∉ s) :
  ∀ d ∈ s, (d != c) = true
  := by
  intro d hd
  rw [bne_iff_ne]
  exact ne_of_mem_of_not_mem hd h

theorem isDigit_of_mem_zeros (n : Nat) :
  ∀ d ∈ List.replicate n '0', d.isDigit
  := by
  intro d hd
  obtain rfl := List.eq_of_mem_replicate hd
  decide

/-- Zeros at the front do not count. -/
theorem ofDigitChars_zeros_append (n : Nat) (s : List Char) :
  Nat.ofDigitChars 10 (List.replicate n '0' ++ s) 0 = Nat.ofDigitChars 10 s 0
  := by
  rw [Nat.ofDigitChars_append, Nat.ofDigitChars_replicate_zero, Nat.mul_zero]

/-- Every zero at the end makes a number ten times as great. -/
theorem ofDigitChars_append_zeros (s : List Char) (n : Nat) :
  Nat.ofDigitChars 10 (s ++ List.replicate n '0') 0 = Nat.ofDigitChars 10 s 0 * 10 ^ n
  := by
  rw [Nat.ofDigitChars_append, Nat.ofDigitChars_replicate_zero, Nat.mul_comm]

/-! ### Reading -/

/-- The integer that a text of digits writes, which a sign may lead. -/
def intOfChars (s : List Char) : Int :=
  let (negative, digits) := Json.readSign s
  let magnitude : Int := Nat.ofDigitChars 10 digits 0
  if negative then -magnitude else magnitude

/-- The decimal that a text of digits writes, which may have a point. -/
def coefficient (s : List Char) : Decimal :=
  ⟨Nat.ofDigitChars 10 (s.filter Char.isDigit) 0,
    -(((s.dropWhile (· != '.')).drop 1).length : Int)⟩

/-- The decimal that a text without a sign writes, which may have a point and an exponent. -/
def ofChars (s : List Char) : Decimal :=
  let c := coefficient (s.takeWhile (· != 'e'))
  ⟨c.digits, c.exponent + intOfChars ((s.dropWhile (· != 'e')).drop 1)⟩

theorem readSign_of_notMem (hplus : '+' ∉ s.head?) (hminus : '-' ∉ s.head?) :
  Json.readSign s = (false, s)
  := by
  unfold Json.readSign
  split
  · simp at hplus
  · simp at hminus
  · rfl

theorem readSign_toDigits (n : Nat) :
  Json.readSign (Nat.toDigits 10 n) = (false, Nat.toDigits 10 n)
  := by
  have hdigits : ∀ d ∈ Nat.toDigits 10 n, d.isDigit := fun d hd =>
    Nat.isDigit_of_mem_toDigits (by decide) (by decide) hd
  apply readSign_of_notMem
  · exact fun h => notMem_of_isDigit hdigits rfl (List.mem_of_mem_head? h)
  · exact fun h => notMem_of_isDigit hdigits rfl (List.mem_of_mem_head? h)

theorem intOfChars_signedChars (n : Int) :
  intOfChars (Double.signedChars n) = n
  := by
  unfold Double.signedChars intOfChars
  by_cases h : n < 0
  · simp only [if_pos h, List.singleton_append, Json.readSign, Nat.ofDigitChars_ten_toDigits,
      if_true]
    omega
  · simp only [if_neg h, List.nil_append, readSign_toDigits, Nat.ofDigitChars_ten_toDigits,
      Bool.false_eq_true, if_false]
    omega

/-- An exponent is read whether or not a plus sign leads it. -/
theorem intOfChars_exponent (n : Int) :
  intOfChars ((if 0 ≤ n then ['+'] else []) ++ Double.signedChars n) = n
  := by
  by_cases h : 0 ≤ n
  · have hsign : Double.signedChars n = Nat.toDigits 10 n.natAbs := by
      rw [Double.signedChars, if_neg (by omega), List.nil_append]
    rw [if_pos h, List.singleton_append, hsign]
    simp only [intOfChars, Json.readSign, Nat.ofDigitChars_ten_toDigits, Bool.false_eq_true,
      if_false]
    omega
  · rw [if_neg h, List.nil_append, intOfChars_signedChars]

theorem coefficient_of_isDigit (h : ∀ d ∈ s, d.isDigit) :
  coefficient s = ⟨Nat.ofDigitChars 10 s 0, 0⟩
  := by
  have hpoint := List.dropWhile_eq_nil_iff.mpr (bne_of_notMem (notMem_of_isDigit h (c := '.') rfl))
  rw [coefficient, hpoint, List.filter_eq_self.mpr h]
  rfl

theorem coefficient_point (hwhole : ∀ d ∈ whole, d.isDigit)
    (hfraction : ∀ d ∈ fraction, d.isDigit) :
  coefficient (whole ++ '.' :: fraction) =
    ⟨Nat.ofDigitChars 10 (whole ++ fraction) 0, -(fraction.length : Int)⟩
  := by
  have hpoint : (whole ++ '.' :: fraction).dropWhile (· != '.') = '.' :: fraction := by
    rw [List.dropWhile_append_of_pos (bne_of_notMem (notMem_of_isDigit hwhole rfl)),
      List.dropWhile_cons_of_neg (by decide)]
  rw [coefficient, hpoint, List.filter_append, List.filter_cons_of_neg (by decide),
    List.filter_eq_self.mpr hwhole, List.filter_eq_self.mpr hfraction]
  rfl

theorem notMem_point (hwhole : ∀ d ∈ whole, d.isDigit) (hfraction : ∀ d ∈ fraction, d.isDigit) :
  'e' ∉ whole ++ '.' :: fraction
  := by
  rw [List.mem_append, List.mem_cons, not_or, not_or]
  exact ⟨notMem_of_isDigit hwhole rfl, by decide, notMem_of_isDigit hfraction rfl⟩

theorem ofChars_of_notMem (h : 'e' ∉ s) :
  ofChars s = coefficient s
  := by
  rw [ofChars, List.takeWhile_eq_self_iff.mpr (bne_of_notMem h),
    List.dropWhile_eq_nil_iff.mpr (bne_of_notMem h)]
  simp [intOfChars, Json.readSign]

theorem ofChars_exponent (h : 'e' ∉ s) (n : Int) :
  ofChars (s ++ 'e' :: ((if 0 ≤ n then ['+'] else []) ++ Double.signedChars n)) =
    ⟨(coefficient s).digits, (coefficient s).exponent + n⟩
  := by
  rw [ofChars, List.takeWhile_append_of_pos (bne_of_notMem h),
    List.dropWhile_append_of_pos (bne_of_notMem h), List.takeWhile_cons_of_neg (by decide),
    List.dropWhile_cons_of_neg (by decide), List.append_nil, List.drop_one, List.tail_cons,
    intOfChars_exponent]

/-! ### Layouts -/

theorem value_ofChars_point (hwhole : ∀ d ∈ whole, d.isDigit)
    (hfraction : ∀ d ∈ fraction, d.isDigit) :
  (ofChars (whole ++ '.' :: fraction)).value =
    Nat.ofDigitChars 10 (whole ++ fraction) 0 * 10 ^ (-(fraction.length : Int))
  := by
  rw [ofChars_of_notMem (notMem_point hwhole hfraction), coefficient_point hwhole hfraction, value]

/-- The point stands before the digits. -/
theorem value_ofChars_small (h : ∀ d ∈ digits, d.isDigit) {point : Int} (hpoint : point ≤ 0) :
  (ofChars (['0'] ++ '.' :: (List.replicate (-point).toNat '0' ++ digits))).value =
    Nat.ofDigitChars 10 digits 0 * 10 ^ (point - digits.length)
  := by
  have hwhole : ∀ d ∈ ['0'], d.isDigit := isDigit_of_mem_zeros 1
  have hfraction := List.forall_mem_append.mpr ⟨isDigit_of_mem_zeros (-point).toNat, h⟩
  have hdigits : Nat.ofDigitChars 10 (['0'] ++ (List.replicate (-point).toNat '0' ++ digits)) 0 =
      Nat.ofDigitChars 10 digits 0 := by
    rw [← List.append_assoc, ← List.replicate_one, List.replicate_append_replicate,
      ofDigitChars_zeros_append]
  have hexponent : -((List.replicate (-point).toNat '0' ++ digits).length : Int) =
      point - digits.length := by
    rw [List.length_append, List.length_replicate]
    omega
  rw [value_ofChars_point hwhole hfraction, hdigits, hexponent]

/-- The point stands among the digits. -/
theorem value_ofChars_parted (h : ∀ d ∈ digits, d.isDigit) {point : Nat}
    (hpoint : point ≤ digits.length) :
  (ofChars (digits.take point ++ '.' :: digits.drop point)).value =
    Nat.ofDigitChars 10 digits 0 * 10 ^ (point - digits.length : Int)
  := by
  have hwhole : ∀ d ∈ digits.take point, d.isDigit := fun d hd => h d (List.mem_of_mem_take hd)
  have hfraction : ∀ d ∈ digits.drop point, d.isDigit := fun d hd => h d (List.mem_of_mem_drop hd)
  have hexponent : -((digits.drop point).length : Int) = point - digits.length := by
    rw [List.length_drop]
    omega
  rw [value_ofChars_point hwhole hfraction, List.take_append_drop, hexponent]

/-- The point stands behind the digits. -/
theorem value_ofChars_whole (h : ∀ d ∈ digits, d.isDigit) {point : Nat}
    (hpoint : digits.length ≤ point) :
  (ofChars (digits ++ List.replicate (point - digits.length) '0' ++ '.' :: ['0'])).value =
    Nat.ofDigitChars 10 digits 0 * 10 ^ (point - digits.length : Int)
  := by
  have hwhole := List.forall_mem_append.mpr ⟨h, isDigit_of_mem_zeros (point - digits.length)⟩
  have hfraction : ∀ d ∈ ['0'], d.isDigit := isDigit_of_mem_zeros 1
  have hexponent : (point - digits.length : Int) = (point - digits.length : Nat) := by omega
  rw [value_ofChars_point hwhole hfraction, List.append_assoc, ← List.replicate_one,
    List.replicate_append_replicate, ofDigitChars_append_zeros, hexponent, zpow_natCast,
    List.length_replicate, pow_succ]
  push_cast
  field_simp

/-- One digit stands before the point, which is left out behind a single one. -/
theorem value_ofChars_scientific {d : Char} (h : ∀ c ∈ d :: digits, c.isDigit) (n : Int) :
  (ofChars (d :: (if digits.isEmpty then [] else '.' :: digits) ++
      'e' :: ((if 0 ≤ n then ['+'] else []) ++ Double.signedChars n))).value =
    Nat.ofDigitChars 10 (d :: digits) 0 * 10 ^ (n - digits.length)
  := by
  rcases digits with _ | ⟨c, rest⟩
  · rw [List.isEmpty_nil, if_pos rfl, ofChars_exponent (notMem_of_isDigit h rfl),
      coefficient_of_isDigit h]
    simp [value]
  · have hwhole : ∀ c ∈ [d], c.isDigit := fun c hc => h c (List.mem_of_mem_take (i := 1) hc)
    have hfraction : ∀ d ∈ c :: rest, d.isDigit := fun c hc => h c (List.mem_cons_of_mem d hc)
    rw [List.isEmpty_cons, if_neg Bool.false_ne_true, ← List.singleton_append (l := '.' :: _),
      ofChars_exponent (notMem_point hwhole hfraction), coefficient_point hwhole hfraction, value,
      List.singleton_append, neg_add_eq_sub]

/-- The text of digits and a point writes the number that they stand for. -/
theorem value_ofChars_layOut (h : ∀ d ∈ digits, d.isDigit) (point : Int) :
  (ofChars (Double.layOut digits point)).value =
    Nat.ofDigitChars 10 digits 0 * 10 ^ (point - digits.length)
  := by
  unfold Double.layOut
  split
  · split
    · next hpoint => exact value_ofChars_small h hpoint
    · next hpoint =>
      obtain ⟨n, rfl⟩ := Int.eq_ofNat_of_zero_le (by omega : 0 ≤ point)
      simp only [Int.toNat_natCast, List.append_assoc, List.singleton_append]
      rcases Nat.lt_or_ge n digits.length with hlt | hge
      · rw [if_neg, Nat.sub_eq_zero_of_le hlt.le, List.replicate_zero, List.nil_append,
          value_ofChars_parted h hlt.le]
        simpa using hlt
      · rw [if_pos, List.take_of_length_le hge, ← List.append_assoc, value_ofChars_whole h hge]
        simpa using hge
  · rcases digits with _ | ⟨d, rest⟩
    · have hnone := ofChars_exponent (List.not_mem_nil (a := 'e')) (point - 1)
      have htext : (if ([] : List Char).isEmpty then [] else '.' :: []) = ([] : List Char) := rfl
      simp only [List.take_nil, List.drop_nil, htext, List.singleton_append, List.nil_append]
        at hnone ⊢
      rw [List.cons_append, hnone, value]
      simp [coefficient]
    · have hexponent : (point - 1 - rest.length : Int) = point - (d :: rest).length := by
        rw [List.length_cons]
        omega
      rw [← hexponent, ← value_ofChars_scientific h]
      simp only [List.append_assoc, List.cons_append, List.nil_append, List.take_succ_cons,
        List.take_zero, List.drop_succ_cons, List.drop_zero]

end Decimal

namespace Double

/-! ### Doubles -/

/-- Digits do not matter before a digit, a point or the letter of an exponent. -/
theorem exists_digits_append_eq_cons {s : List Char} {c : Char} (hs : ∀ d ∈ s, d.isDigit)
    (hc : c.isDigit ∨ c = '.' ∨ c = 'e') (t : List Char) :
  ∃ d rest, s ++ c :: t = d :: rest ∧ (d.isDigit ∨ d = '.' ∨ d = 'e')
  := by
  rcases s with _ | ⟨d, s⟩
  · exact ⟨c, t, rfl, hc⟩
  · exact ⟨d, s ++ c :: t, rfl, .inl (hs d List.mem_cons_self)⟩

/-- A layout has no sign. -/
theorem exists_layOut_eq_cons {digits : List Char} (h : ∀ d ∈ digits, d.isDigit) (point : Int) :
  ∃ d rest, layOut digits point = d :: rest ∧ (d.isDigit ∨ d = '.' ∨ d = 'e')
  := by
  have htake : ∀ n, ∀ d ∈ digits.take n, d.isDigit := fun n d hd => h d (List.mem_of_mem_take hd)
  unfold layOut
  split
  · split
    · exact ⟨'0', _, rfl, .inl rfl⟩
    · simp only [List.append_assoc, List.singleton_append]
      rw [← List.append_assoc]
      apply exists_digits_append_eq_cons _ (.inr (.inl rfl))
      exact List.forall_mem_append.mpr ⟨htake _, Decimal.isDigit_of_mem_zeros _⟩
  · simp only [List.append_assoc, List.singleton_append]
    split
    · apply exists_digits_append_eq_cons (htake 1) (.inr (.inr rfl))
    · apply exists_digits_append_eq_cons (htake 1) (.inr (.inl rfl))

/-- The digits that are laid out are those of a natural number. -/
theorem isDigit_of_mem_pointed {decimal : Decimal} {d : Char} (h : d ∈ (pointed decimal).1) :
  d.isDigit
  := by
  apply Nat.isDigit_of_mem_toDigits (b := 10) (n := decimal.digits) (by decide) (by decide)
  apply List.mem_reverse.mp
  apply (List.dropWhile_suffix _).subset
  apply List.mem_reverse.mp h

theorem exists_append_zeros_eq (s : List Char) :
  ∃ n, s.rdropWhile (· == '0') ++ List.replicate n '0' = s
  := by
  use (s.rtakeWhile (· == '0')).length
  have hzeros : s.rtakeWhile (· == '0') =
      List.replicate (s.rtakeWhile (· == '0')).length '0' := by
    apply List.eq_replicate_iff.mpr
    use rfl
    intro c hc
    simpa using List.mem_rtakeWhile_imp hc
  rw [← hzeros, List.rdropWhile_append_rtakeWhile]

/-- The zeros that are left out leave the number as it is. -/
theorem value_pointed (d : Decimal) :
  Nat.ofDigitChars 10 (pointed d).1 0 * 10 ^ ((pointed d).2 - (pointed d).1.length) = d.value
  := by
  have hten : (10 : ℚ) ≠ 0 := by norm_num
  obtain ⟨n, hn⟩ := exists_append_zeros_eq (Nat.toDigits 10 d.digits)
  set stripped := (Nat.toDigits 10 d.digits).rdropWhile (· == '0')
  have hpointed : pointed d = (stripped, (Nat.toDigits 10 d.digits).length + d.exponent) := rfl
  have hdigits : d.digits = Nat.ofDigitChars 10 stripped 0 * 10 ^ n := by
    rw [← Decimal.ofDigitChars_append_zeros, hn, Nat.ofDigitChars_ten_toDigits]
  have hexponent : (Nat.toDigits 10 d.digits).length + d.exponent - stripped.length =
      n + d.exponent := by
    rw [← hn, List.length_append, List.length_replicate]
    omega
  rw [hpointed, hexponent, Decimal.value, hdigits, zpow_add₀ hten, zpow_natCast]
  push_cast
  ring

/-- The text of a double without its sign. -/
def magnitudeChars (x : Double) : List Char :=
  if x.isZero then ['0', '.', '0'] else layOut (pointed x.shortest).1 (pointed x.shortest).2

theorem chars_eq (x : Double) :
  x.chars = (if x.negative then ['-'] else []) ++ x.magnitudeChars
  := by
  unfold chars magnitudeChars
  cases x.isZero <;> rfl

/-- The double that a text is rounded to. -/
def ofChars? (s : List Char) : Option Double :=
  let (negative, magnitude) := Json.readSign s
  (Decimal.ofChars magnitude).nearest? negative

theorem readsBack_magnitudeChars (x : Double) :
  x.readsBack (Decimal.ofChars x.magnitudeChars) = true
  := by
  unfold magnitudeChars
  split
  · next hzero =>
    apply readsBack_of_value_eq
    have hdigit : ∀ d ∈ ['0'], d.isDigit := Decimal.isDigit_of_mem_zeros 1
    apply (Decimal.value_ofChars_point hdigit hdigit).trans
    rw [x.quanta_eq_zero_iff.mpr hzero]
    simp [Nat.ofDigitChars]
  · have hvalue : (Decimal.ofChars (layOut (pointed x.shortest).1 (pointed x.shortest).2)).value =
        x.shortest.value := by
      rw [Decimal.value_ofChars_layOut fun d => isDigit_of_mem_pointed, value_pointed]
    rw [readsBack, Decimal.nearest?_eq_of_value_eq hvalue, ← readsBack, readsBack_shortest]

theorem readSign_magnitudeChars (x : Double) :
  Json.readSign x.magnitudeChars = (false, x.magnitudeChars)
  := by
  unfold magnitudeChars
  split
  · rfl
  · obtain ⟨c, rest, htext, hc⟩ := exists_layOut_eq_cons (fun d => isDigit_of_mem_pointed) _
    rw [htext]
    apply Decimal.readSign_of_notMem
    · rintro ⟨⟩
      exact absurd hc (by decide)
    · rintro ⟨⟩
      exact absurd hc (by decide)

/-- A double is found again from its text. -/
theorem ofChars?_chars (x : Double) :
  ofChars? x.chars = some x
  := by
  have hreads := x.readsBack_magnitudeChars
  rw [readsBack, beq_iff_eq] at hreads
  rw [ofChars?, chars_eq]
  cases hnegative : x.negative with
  | false =>
    rw [hnegative] at hreads
    simp only [Bool.false_eq_true, if_false, List.nil_append, readSign_magnitudeChars, hreads]
  | true =>
    rw [hnegative] at hreads
    simp only [if_true, List.singleton_append, Json.readSign, hreads]

theorem chars_injective :
  Function.Injective chars
  := by
  intro x y h
  apply Option.some_injective
  rw [← ofChars?_chars x, ← ofChars?_chars y, h]

theorem signedChars_injective :
  Function.Injective signedChars
  := Function.LeftInverse.injective Decimal.intOfChars_signedChars

/-! ### Characters -/

/-- The test for a character of the text of a number. -/
def isNumeral (c : Char) : Bool :=
  c.isDigit || c == '-' || c == '+' || c == '.' || c == 'e'

theorem isNumeral_of_isDigit {c : Char} (h : c.isDigit) :
  isNumeral c = true
  := by
  simp [isNumeral, h]

theorem isDigit_or_eq_of_mem_signedChars {n : Int} {c : Char} (h : c ∈ signedChars n) :
  c.isDigit ∨ c = '-'
  := by
  rcases List.mem_append.mp h with h | h
  · right
    split at h <;> simp_all
  · left
    apply Nat.isDigit_of_mem_toDigits (by decide) (by decide) h

theorem isNumeral_of_mem_signedChars {n : Int} :
  ∀ c ∈ signedChars n, isNumeral c = true
  := by
  intro c h
  rcases isDigit_or_eq_of_mem_signedChars h with h | rfl
  · apply isNumeral_of_isDigit h
  · rfl

theorem isNumeral_of_mem_layOut {digits : List Char} (h : ∀ d ∈ digits, d.isDigit) (point : Int) :
  ∀ c ∈ layOut digits point, isNumeral c = true
  := by
  have hdigits : ∀ c ∈ digits, isNumeral c = true := fun c hc => isNumeral_of_isDigit (h c hc)
  have htake : ∀ n, ∀ c ∈ digits.take n, isNumeral c = true := fun _ c hc =>
    hdigits c (List.mem_of_mem_take hc)
  have hdrop : ∀ n, ∀ c ∈ digits.drop n, isNumeral c = true := fun _ c hc =>
    hdigits c (List.mem_of_mem_drop hc)
  have hzeros : ∀ n, ∀ c ∈ List.replicate n '0', isNumeral c = true := fun n c hc =>
    isNumeral_of_isDigit (Decimal.isDigit_of_mem_zeros n c hc)
  unfold layOut
  split
  · split
    · simp only [List.forall_mem_append]
      exact ⟨⟨List.all_eq_true.mp rfl, hzeros _⟩, hdigits⟩
    · simp only [List.forall_mem_append]
      refine ⟨⟨⟨htake _, hzeros _⟩, List.all_eq_true.mp rfl⟩, ?_⟩
      split
      · exact List.all_eq_true.mp rfl
      · exact hdrop _
  · simp only [List.forall_mem_append]
    refine ⟨⟨⟨⟨htake 1, ?_⟩, List.all_eq_true.mp rfl⟩, ?_⟩, isNumeral_of_mem_signedChars⟩
    · split
      · exact List.forall_mem_nil _
      · exact List.forall_mem_cons.mpr ⟨rfl, hdrop 1⟩
    · split <;> exact List.all_eq_true.mp rfl

/-- A layout has a point or the letter of an exponent. -/
theorem exists_mem_layOut (digits : List Char) (point : Int) :
  ∃ c ∈ layOut digits point, c = '.' ∨ c = 'e'
  := by
  unfold layOut
  split
  · use '.'
    split <;> simp
  · use 'e'
    simp

theorem isNumeral_of_mem_chars (x : Double) :
  ∀ c ∈ x.chars, isNumeral c = true
  := by
  rw [chars_eq, List.forall_mem_append]
  constructor
  · split <;> exact List.all_eq_true.mp rfl
  · unfold magnitudeChars
    split
    · exact List.all_eq_true.mp rfl
    · apply isNumeral_of_mem_layOut fun d => isDigit_of_mem_pointed

/-- The text of a double has a point or the letter of an exponent. -/
theorem exists_mem_chars (x : Double) :
  ∃ c ∈ x.chars, c = '.' ∨ c = 'e'
  := by
  obtain ⟨c, hmem, hc⟩ : ∃ c ∈ x.magnitudeChars, c = '.' ∨ c = 'e' := by
    unfold magnitudeChars
    split
    · exact ⟨'.', by decide, .inl rfl⟩
    · apply exists_mem_layOut
  use c
  rw [chars_eq]
  exact ⟨List.mem_append_right _ hmem, hc⟩

/-- The text of a double is that of no integer. -/
theorem chars_ne_signedChars (x : Double) (n : Int) :
  x.chars ≠ signedChars n
  := by
  intro h
  obtain ⟨c, hmem, hc⟩ := x.exists_mem_chars
  have hdigit := isDigit_or_eq_of_mem_signedChars (h ▸ hmem)
  rcases hc with rfl | rfl <;> exact absurd hdigit (by decide)

end Double

end ApiTypes
