import ApiTypes.Proofs.Double.Text

/-!
# Whole doubles

The shortest decimal of a whole double is a whole number too, `Double.exists_shortest_value_eq`, and
`Double.paddedDigits` are the digits of that number: those of the decimal with zeros up to its
point.  It need not be the double itself, for above `2 ^ 53` some of the digits of a double may be
spared.  Below `2 ^ 53` every whole number is a double, and so the shortest decimal of a whole
double is its own value: `Double.shortest_value_eq_of_lt`.
-/

namespace ApiTypes

namespace Double

variable {x y : Double} {d : Decimal} {e : Int} {m n : Nat}

/-! ### Digits of whole numbers -/

/-- Every factor of ten makes a zero at the end. -/
theorem toDigits_mul_pow (hm : 0 < m) (k : Nat) :
  Nat.toDigits 10 (m * 10 ^ k) = Nat.toDigits 10 m ++ List.replicate k '0'
  := by
  induction k with
  | zero => simp
  | succ k ih =>
    have hten : m * 10 ^ (k + 1) = 10 * (m * 10 ^ k) + 0 := by ring
    have hpos : 0 < m * 10 ^ k := Nat.mul_pos hm (Nat.pow_pos (by decide))
    rw [hten, ← Nat.toDigits_append_toDigits (by decide) hpos (by decide), ih, Nat.toDigits_zero,
      List.append_assoc, ← List.replicate_succ']

theorem rdropWhile_append_zeros (s : List Char) (k : Nat) :
  (s ++ List.replicate k '0').rdropWhile (· == '0') = s.rdropWhile (· == '0')
  := by
  induction k with
  | zero => simp
  | succ k ih =>
    rw [List.replicate_succ', ← List.append_assoc, List.rdropWhile_concat_pos _ _ _ (by rfl), ih]

/-- A whole decimal is laid out from the digits of its value. -/
theorem pointed_eq (hm : 0 < m) (h : d.value = m) :
  pointed d = ((Nat.toDigits 10 m).rdropWhile (· == '0'), ((Nat.toDigits 10 m).length : Int))
  := by
  have hpointed : pointed d = ((Nat.toDigits 10 d.digits).rdropWhile (· == '0'),
      (Nat.toDigits 10 d.digits).length + d.exponent) := rfl
  rw [Decimal.value] at h
  rw [hpointed]
  obtain ⟨k, hk⟩ := Int.eq_nat_or_neg d.exponent
  rcases hk with hk | hk
  · have hdigits : m = d.digits * 10 ^ k := by
      rw [hk, zpow_natCast] at h
      exact_mod_cast h.symm
    have hpos : 0 < d.digits := by
      apply Nat.pos_of_ne_zero
      intro hzero
      simp [hdigits, hzero] at hm
    rw [hdigits, hk, toDigits_mul_pow hpos, rdropWhile_append_zeros, List.length_append,
      List.length_replicate, Nat.cast_add]
  · have hdigits : d.digits = m * 10 ^ k := by
      have hpow : (10 : ℚ) ^ k ≠ 0 := pow_ne_zero k (by norm_num)
      rw [hk, zpow_neg, zpow_natCast, ← div_eq_mul_inv, div_eq_iff hpow] at h
      exact_mod_cast h
    rw [hdigits, hk, toDigits_mul_pow hm, rdropWhile_append_zeros, List.length_append,
      List.length_replicate, Nat.cast_add, add_neg_cancel_right]

/-- The digits of the shortest decimal, with zeros up to its point. -/
def paddedDigits (x : Double) : List Char :=
  let (digits, point) := pointed x.shortest
  digits ++ List.replicate (point.toNat - digits.length) '0'

/-- The padded digits are those of the shortest decimal when that is whole. -/
theorem paddedDigits_eq (hm : 0 < m) (h : x.shortest.value = m) :
  x.paddedDigits = Nat.toDigits 10 m
  := by
  obtain ⟨k, hk⟩ := exists_append_zeros_eq (Nat.toDigits 10 m)
  have hlength := congrArg List.length hk
  rw [List.length_append, List.length_replicate] at hlength
  have hpadding : (Nat.toDigits 10 m).length -
      ((Nat.toDigits 10 m).rdropWhile (· == '0')).length = k := by omega
  rw [paddedDigits, pointed_eq hm h]
  dsimp only
  rw [Int.toNat_natCast, hpadding, hk]

/-! ### Shortest decimals of whole numbers -/

theorem abs_value (x : Double) :
  |x.value| = x.quanta / unit
  := by
  have hnonneg : (0 : ℚ) ≤ x.quanta / unit := div_nonneg (Nat.cast_nonneg _) (Nat.cast_nonneg _)
  rw [value]
  split
  · rw [neg_one_mul, abs_neg, abs_of_nonneg hnonneg]
  · rw [one_mul, abs_of_nonneg hnonneg]

theorem abs_value_eq_iff :
  |x.value| = m ↔ x.quanta = m * unit
  := by
  rw [abs_value, div_eq_iff cast_unit_ne_zero]
  norm_cast

theorem exponent_of_onGrid? (h : x.onGrid? e = some d) :
  d.exponent = e
  := by
  have hmem := List.mem_of_find?_eq_some h
  simp only [List.mem_cons, List.not_mem_nil, or_false] at hmem
  rcases hmem with rfl | rfl | rfl <;> rfl

/-- A whole double has a decimal on the grid of the units. -/
theorem isSome_onGrid?_zero (h : |x.value| = m) :
  (x.onGrid? 0).isSome = true
  := by
  have hnearest : roundHalfEven (x.scaled 0).1 (x.scaled 0).2 = m := by
    have hscaled : x.scaled 0 = (x.quanta, unit * Nat.pow 10 0) := rfl
    rw [hscaled, abs_value_eq_iff.mp h, Nat.pow_eq, Nat.pow_zero, Nat.mul_one,
      roundHalfEven_mul_right unit_pos]
  rw [onGrid?, List.find?_isSome]
  refine ⟨_, List.mem_cons_self, readsBack_of_value_eq ?_⟩
  rw [hnearest, ← abs_value, h, Decimal.value, zpow_zero, mul_one]

theorem leadingExponent_nonneg {n c : Nat} (h : c ≤ n) :
  0 ≤ leadingExponent n c
  := by
  have := Nat.length_toDigits_pos (b := 10) (n := n / c)
  rw [leadingExponent, if_pos h]
  omega

/-- The first number of a range that is given a value stands before any other that is. -/
theorem exists_le_of_findSome?_range {α : Type} {f : Nat → Option α} {a : α} {i : Nat}
    (h : (List.range n).findSome? f = some a) (hi : (f i).isSome = true) :
  ∃ j ≤ i, f j = some a
  := by
  obtain ⟨before, j, after, hrange, hj, hbefore⟩ := List.findSome?_eq_some_iff.mp h
  have hsorted := List.pairwise_lt_range (n := n)
  rw [hrange, List.pairwise_append, List.pairwise_cons] at hsorted
  refine ⟨j, ?_, hj⟩
  by_contra hlt
  have hmem : i ∈ before ++ j :: after := by
    have hj : j ∈ List.range n := by simp [hrange]
    rw [← hrange, List.mem_range]
    rw [List.mem_range] at hj
    omega
  rcases List.mem_append.mp hmem with hmem | hmem
  · rw [hbefore i hmem] at hi
    cases hi
  · rcases List.mem_cons.mp hmem with rfl | hmem
    · exact hlt le_rfl
    · have := hsorted.2.1.1 i hmem
      omega

/-- The shortest decimal of a whole double that is not zero has no digits behind its point, for the
grid of the units is tried before any finer one. -/
theorem exponent_shortest_nonneg (hm : 0 < m) (h : |x.value| = m) :
  0 ≤ x.shortest.exponent ∨ x.shortest = x.exact
  := by
  have hlead : 0 ≤ leadingExponent x.quanta unit := by
    apply leadingExponent_nonneg
    rw [abs_value_eq_iff.mp h]
    apply Nat.le_mul_of_pos_left _ hm
  rw [shortest]
  cases hfound : (List.range 17).findSome? fun (more : Nat) =>
      x.onGrid? (leadingExponent x.quanta unit - more) with
  | none => exact .inr rfl
  | some d =>
    left
    obtain ⟨lead, hlead⟩ := Int.eq_ofNat_of_zero_le hlead
    have hunits : (x.onGrid? (leadingExponent x.quanta unit - lead)).isSome = true := by
      rw [hlead, Int.sub_self]
      apply isSome_onGrid?_zero h
    obtain ⟨more, hmore, hgrid⟩ := exists_le_of_findSome?_range hfound hunits
    rw [Option.getD_some, exponent_of_onGrid? hgrid]
    omega

/-- A decimal that is the magnitude of a double reads back as no other of its sign. -/
theorem eq_of_readsBack (h : x.readsBack d = true) (hnegative : x.negative = y.negative)
    (hvalue : d.value = y.quanta / unit) :
  x = y
  := by
  have hreads := readsBack_of_value_eq hvalue
  rw [readsBack, beq_iff_eq] at h hreads
  rw [← hnegative, h] at hreads
  apply Option.some_injective _ hreads

/-- The shortest decimal of a whole double is a whole number. -/
theorem exists_shortest_value_eq (hm : 0 < m) (h : |x.value| = m) :
  ∃ k : Nat, 0 < k ∧ x.shortest.value = k
  := by
  obtain ⟨k, hk⟩ : ∃ k : Nat, x.shortest.value = k := by
    rcases exponent_shortest_nonneg hm h with hexponent | hexact
    · obtain ⟨e, he⟩ := Int.eq_ofNat_of_zero_le hexponent
      use x.shortest.digits * 10 ^ e
      rw [Decimal.value, he, zpow_natCast]
      push_cast
      rfl
    · use m
      rw [hexact, value_exact, ← abs_value, h]
  refine ⟨k, Nat.pos_of_ne_zero ?_, hk⟩
  rintro rfl
  have hzero : x = zero x.negative := by
    apply eq_of_readsBack (y := zero x.negative) x.readsBack_shortest rfl
    rw [hk, (zero x.negative).quanta_eq_zero_iff.mpr rfl, Nat.cast_zero, zero_div]
  rw [hzero, value_of_isZero rfl, abs_zero] at h
  apply hm.ne
  exact_mod_cast h

/-! ### Whole numbers of 53 bits -/

/-- Rounding keeps as many quanta as the significand that it finds stands for. -/
theorem quanta_of_ofQuotient? {negative : Bool} {n c : Nat}
    (h : ofQuotient? negative n c = some x) :
  x.quanta = roundHalfEven n (c <<< exponentOf n c) * 2 ^ exponentOf n c
  := by
  have hle := roundHalfEven_exponentOf_le n c
  rw [ofQuotient?] at h
  unfold pack? at h
  split at h
  · split at h
    · cases h
      rw [quanta, Nat.shiftLeft_eq]
    · cases h
  · split at h
    · cases h
      -- the significand is `2 ^ 53`, and is halved
      have hround : roundHalfEven n (c <<< exponentOf n c) = 0x20000000000000 := by omega
      rw [quanta, Nat.shiftLeft_eq]
      dsimp only
      rw [hround, Nat.pow_succ]
      omega
    · cases h

/-- A whole number of at most 53 bits is kept as it is. -/
theorem quanta_of_lt {negative : Bool} (hlt : m < 2 ^ 53)
    (h : ofQuotient? negative (m * unit) 1 = some x) :
  x.quanta = m * unit
  := by
  obtain ⟨t, ht, -⟩ := exists_unit_eq
  obtain ⟨k, hk⟩ : ∃ k, k = exponentOf (m * unit) 1 := ⟨_, rfl⟩
  have hexponent : k ≤ t := by
    by_cases hzero : m * unit = 0
    · rw [hk, hzero, exponentOf, Nat.zero_div, Nat.log2_zero]
      omega
    · have hlog : (m * unit).log2 < 53 + t := by
        rw [Nat.log2_lt hzero, ht, Nat.pow_add]
        apply Nat.mul_lt_mul_of_pos_right hlt (Nat.two_pow_pos t)
      rw [hk, exponentOf, Nat.div_one]
      omega
  obtain ⟨q, hq⟩ : 2 ^ k ∣ m * unit := by
    rw [ht]
    apply Dvd.dvd.mul_left (pow_dvd_pow 2 hexponent)
  rw [quanta_of_ofQuotient? h, ← hk, Nat.shiftLeft_eq, Nat.one_mul, hq, Nat.mul_comm (2 ^ k),
    roundHalfEven_mul_right (Nat.two_pow_pos k)]

/-- A whole number of more bits is not rounded below them. -/
theorem le_quanta_of_le {negative : Bool} (hle : 2 ^ 53 ≤ m)
    (h : ofQuotient? negative (m * unit) 1 = some x) :
  2 ^ 53 * unit ≤ x.quanta
  := by
  obtain ⟨t, ht, -⟩ := exists_unit_eq
  obtain ⟨k, hk⟩ : ∃ k, k = exponentOf (m * unit) 1 := ⟨_, rfl⟩
  have hquanta : 2 ^ (53 + t) ≤ m * unit := by
    rw [ht, Nat.pow_add]
    apply Nat.mul_le_mul_right _ hle
  have hne : m * unit ≠ 0 := (Nat.lt_of_lt_of_le (Nat.two_pow_pos _) hquanta).ne'
  have hlog : 53 + t ≤ (m * unit).log2 := (Nat.le_log2 hne).mpr hquanta
  have hexponent : 52 + k = (m * unit).log2 := by
    rw [hk, exponentOf, Nat.div_one]
    omega
  have hround : 2 ^ 52 ≤ roundHalfEven (m * unit) (2 ^ k) := by
    apply Nat.le_trans _ (le_roundHalfEven _ _)
    rw [Nat.le_div_iff_mul_le (Nat.two_pow_pos k), ← Nat.pow_add, hexponent]
    apply Nat.log2_self_le hne
  rw [quanta_of_ofQuotient? h, ← hk, Nat.shiftLeft_eq, Nat.one_mul]
  calc 2 ^ 53 * unit = 2 ^ (53 + t) := by rw [ht, Nat.pow_add]
    _ ≤ 2 ^ (52 + k) := Nat.pow_le_pow_right (by decide) (by omega)
    _ = 2 ^ 52 * 2 ^ k := Nat.pow_add 2 52 k
    _ ≤ roundHalfEven (m * unit) (2 ^ k) * 2 ^ k := Nat.mul_le_mul_right _ hround

/-- Below `2 ^ 53` the shortest decimal of a whole double is its magnitude. -/
theorem shortest_value_eq_of_lt (hm : 0 < m) (hlt : m < 2 ^ 53) (h : |x.value| = m) :
  x.shortest.value = m
  := by
  obtain ⟨n, -, hn⟩ := exists_shortest_value_eq hm h
  have hreads : ofQuotient? x.negative (n * unit) 1 = some x := by
    have hwhole : Decimal.value ⟨n, 0⟩ = n := by rw [Decimal.value, zpow_zero, mul_one]
    have hnearest : Decimal.nearest? x.negative ⟨n, 0⟩ =
        ofQuotient? x.negative (n * unit) 1 := by
      simp [Decimal.nearest?]
    have hshortest := x.readsBack_shortest
    rw [readsBack, beq_iff_eq, Decimal.nearest?_eq_of_value_eq (hn.trans hwhole.symm)] at hshortest
    rw [← hnearest, hshortest]
  rw [hn]
  congr 1
  apply Nat.eq_of_mul_eq_mul_right unit_pos
  rcases Nat.lt_or_ge n (2 ^ 53) with hsmall | hlarge
  · rw [← quanta_of_lt hsmall hreads, abs_value_eq_iff.mp h]
  · have hquanta := le_quanta_of_le hlarge hreads
    rw [abs_value_eq_iff.mp h] at hquanta
    have := Nat.le_of_mul_le_mul_right hquanta unit_pos
    omega

/-! ### Integers of padded digits -/

/-- The test for a whole number below `10 ^ 21`. -/
def isWhole (x : Double) : Bool :=
  x.toInt?.any (·.natAbs < 10 ^ 21)

/-- The integer that the padded digits and the sign write, zero for both zeros. -/
def padded (x : Double) : Int :=
  if x.isZero then 0
  else
    let magnitude : Int := Nat.ofDigitChars 10 x.paddedDigits 0
    if x.negative then -magnitude else magnitude

theorem isWhole_iff :
  x.isWhole = true ↔ ∃ n : Int, x.value = n ∧ n.natAbs < 10 ^ 21
  := by
  simp only [isWhole, Option.any_eq_true, toInt?_eq_some_iff, decide_eq_true_eq]

theorem value_eq_abs (x : Double) :
  x.value = if x.negative then -|x.value| else |x.value|
  := by
  rw [abs_value, value]
  split <;> ring

theorem abs_value_of_value_eq {n : Int} (h : x.value = n) :
  |x.value| = n.natAbs
  := by
  rw [h, ← Int.cast_abs, Nat.cast_natAbs]

theorem pos_of_abs_value_eq (hzero : x.isZero = false) (h : |x.value| = m) :
  0 < m
  := by
  apply Nat.pos_of_ne_zero
  rintro rfl
  rw [abs_value_eq_iff, Nat.zero_mul, quanta_eq_zero_iff, hzero] at h
  cases h

theorem padded_eq (hzero : x.isZero = false) (hm : 0 < m) (h : x.shortest.value = m) :
  x.padded = if x.negative then -(m : Int) else m
  := by
  rw [padded, hzero, paddedDigits_eq hm h, Nat.ofDigitChars_ten_toDigits]
  rfl

theorem signedChars_padded_of_isZero (h : x.isZero = true) :
  signedChars x.padded = ['0']
  := by
  rw [padded, if_pos h]
  rfl

/-- The text of the integer is the sign and the padded digits. -/
theorem signedChars_padded (hzero : x.isZero = false) (h : |x.value| = m) :
  signedChars x.padded = (if x.negative then ['-'] else []) ++ x.paddedDigits
  := by
  obtain ⟨k, hpos, hk⟩ := exists_shortest_value_eq (pos_of_abs_value_eq hzero h) h
  rw [padded_eq hzero hpos hk, paddedDigits_eq hpos hk, signedChars]
  cases x.negative with
  | false => simp
  | true => simp [hpos]

/-- Below `2 ^ 53` the integer is the value. -/
theorem padded_eq_of_lt {n : Int} (hlt : n.natAbs < 2 ^ 53) (h : x.value = n) :
  x.padded = n
  := by
  cases hzero : x.isZero with
  | true =>
    rw [value_of_isZero hzero] at h
    rw [padded, if_pos hzero]
    exact_mod_cast h
  | false =>
    have habs := abs_value_of_value_eq h
    have hpos := pos_of_abs_value_eq hzero habs
    have hvalue := x.value_eq_abs
    rw [padded_eq hzero hpos (shortest_value_eq_of_lt hpos hlt habs)]
    rw [habs, h, Nat.cast_natAbs] at hvalue
    cases hnegative : x.negative with
    | false =>
      rw [hnegative, if_neg Bool.false_ne_true] at hvalue
      rw [if_neg Bool.false_ne_true]
      exact_mod_cast hvalue.symm
    | true =>
      rw [hnegative, if_pos rfl] at hvalue
      rw [if_pos rfl]
      exact_mod_cast hvalue.symm

end Double

end ApiTypes
