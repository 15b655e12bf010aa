import ApiTypes.Double.Shortest
import Mathlib.Data.Rat.Cast.Order
import Mathlib.Tactic.FieldSimp
import Mathlib.Tactic.Ring

/-!
# Rounding

The rational numbers that a `Double` and a `Decimal` stand for are `Double.value` and
`Decimal.value`.  Rounding depends on nothing else: decimals of the same value are rounded in the
same way, `Decimal.nearest?_eq_of_value_eq`, and a decimal that has the magnitude of a double is
rounded to that double, `Double.readsBack_of_value_eq`.  The value of a double determines it up to
the sign of zero, `Double.value_eq_value_iff`.
-/

namespace ApiTypes

namespace Double

variable {c n d m e : Nat} {negative : Bool} {x y : Double}

/-! ### Scaling -/

theorem roundHalfEven_mul_left (hc : 0 < c) (n d : Nat) :
  roundHalfEven (c * n) (c * d) = roundHalfEven n d
  := by
  have hbelow : 2 * (c * (n % d)) < c * d ↔ 2 * (n % d) < d := by
    rw [Nat.mul_left_comm, Nat.mul_lt_mul_left hc]
  have habove : c * d < 2 * (c * (n % d)) ↔ d < 2 * (n % d) := by
    rw [Nat.mul_left_comm, Nat.mul_lt_mul_left hc]
  simp only [roundHalfEven, Nat.mul_div_mul_left n d hc, Nat.mul_mod_mul_left, hbelow, habove]

/-- A whole quotient is left as it is. -/
theorem roundHalfEven_mul_right (hc : 0 < c) (m : Nat) :
  roundHalfEven (m * c) c = m
  := by
  rw [roundHalfEven, Nat.mul_div_cancel _ hc, Nat.mul_mod_left, if_pos (by omega)]

theorem exponentOf_mul_left (hc : 0 < c) (n d : Nat) :
  exponentOf (c * n) (c * d) = exponentOf n d
  := by
  rw [exponentOf, Nat.mul_div_mul_left n d hc, exponentOf]

/-- The nearest number is found from the exponent and the significand. -/
theorem ofQuotient?_eq_of_eq (hexponent : exponentOf n d = exponentOf m e)
    (hsignificand : roundHalfEven n (d <<< exponentOf n d) =
      roundHalfEven m (e <<< exponentOf m e)) :
  ofQuotient? negative n d = ofQuotient? negative m e
  := by
  dsimp only [ofQuotient?]
  congr 1

/-- A quotient may be expanded. -/
theorem ofQuotient?_mul_left (hc : 0 < c) (n d : Nat) :
  ofQuotient? negative (c * n) (c * d) = ofQuotient? negative n d
  := by
  apply ofQuotient?_eq_of_eq (exponentOf_mul_left hc n d)
  rw [exponentOf_mul_left hc, Nat.shiftLeft_eq, Nat.shiftLeft_eq, Nat.mul_assoc,
    roundHalfEven_mul_left hc]

/-- Equal quotients are rounded in the same way. -/
theorem ofQuotient?_eq_of_mul_eq (hd : 0 < d) (he : 0 < e) (h : n * e = m * d) :
  ofQuotient? negative n d = ofQuotient? negative m e
  := by
  rw [← ofQuotient?_mul_left he n d, ← ofQuotient?_mul_left hd m e, Nat.mul_comm e n,
    Nat.mul_comm d m, Nat.mul_comm e d, h]

/-! ### Exactness -/

theorem log2_quanta_of_le (x : Double) (h : 0x10000000000000 ≤ x.significand) :
  x.quanta.log2 = 52 + x.exponent
  := by
  have hpos := Nat.two_pow_pos x.exponent
  have hlt := x.significand_lt
  have hne : x.quanta ≠ 0 := by
    rw [quanta, Nat.shiftLeft_eq]
    apply Nat.mul_ne_zero <;> omega
  rw [Nat.log2_eq_iff hne, quanta, Nat.shiftLeft_eq, Nat.pow_add, Nat.add_right_comm, Nat.pow_add]
  exact ⟨Nat.mul_le_mul_right _ h, Nat.mul_lt_mul_of_pos_right hlt hpos⟩

theorem exponentOf_quanta (x : Double) :
  exponentOf x.quanta 1 = x.exponent
  := by
  rw [exponentOf, Nat.div_one]
  rcases x.normal with hexponent | hsignificand
  · have hquanta : x.quanta = x.significand := by simp [quanta, hexponent]
    have hlog : x.significand.log2 < 53 := by
      by_cases h : x.significand = 0
      · simp [h]
      · apply (Nat.log2_lt h).mpr x.significand_lt
    rw [hquanta, hexponent]
    omega
  · rw [log2_quanta_of_le x hsignificand]
    omega

theorem pack?_eq_some (x : Double) (hm : x.significand ≤ 0x20000000000000)
    (hk : x.exponent = 0 ∨ 0x10000000000000 ≤ x.significand) :
  pack? x.negative x.significand x.exponent hm hk = some x
  := by
  rw [pack?, dif_pos x.significand_lt, dif_pos x.exponent_le]

/-- The quanta of a double are rounded to that double. -/
theorem ofQuotient?_quanta (x : Double) :
  ofQuotient? x.negative x.quanta 1 = some x
  := by
  have hsignificand : roundHalfEven x.quanta (1 <<< exponentOf x.quanta 1) = x.significand := by
    rw [exponentOf_quanta, quanta, Nat.shiftLeft_eq, Nat.shiftLeft_eq, Nat.one_mul,
      roundHalfEven_mul_right (Nat.two_pow_pos x.exponent)]
  dsimp only [ofQuotient?]
  rw [← pack?_eq_some x x.significand_lt.le x.normal]
  congr 1
  apply exponentOf_quanta

/-! ### Values -/

/-- How many times one is halved to come to a quantum. -/
theorem exists_unit_eq :
  ∃ k : Nat, unit = 2 ^ k ∧ ∀ x : Double, x.exact = ⟨x.quanta * Nat.pow 5 k, -(k : ℤ)⟩
  := by
  -- a variable stands for the number here, so that its powers are not computed
  obtain ⟨k, hk⟩ : ∃ k : Nat, k = 1074 := ⟨_, rfl⟩
  use k
  constructor
  · rw [unit, ← hk, Nat.one_shiftLeft]
  · have hint : (k : ℤ) = 1074 := by omega
    intro x
    rw [exact, ← hk, ← hint]

theorem unit_pos : 0 < unit := by
  obtain ⟨k, hk, -⟩ := exists_unit_eq
  rw [hk]
  apply Nat.two_pow_pos

theorem cast_unit_ne_zero :
  (unit : ℚ) ≠ 0
  := Nat.cast_ne_zero.mpr unit_pos.ne'

/-- The rational number that a double stands for. -/
def value (x : Double) : ℚ :=
  (if x.negative then -1 else 1) * (x.quanta / unit)

end Double

namespace Decimal

/-- The rational number that a decimal stands for. -/
def value (d : Decimal) : ℚ :=
  d.digits * 10 ^ d.exponent

/-- A decimal is rounded like a quotient that has its value in quanta. -/
theorem exists_nearest?_eq (d : Decimal) :
  ∃ n m : Nat, 0 < m ∧ (n : ℚ) = d.value * Double.unit * m ∧
    ∀ negative, d.nearest? negative = Double.ofQuotient? negative n m
  := by
  unfold nearest? value
  by_cases h : 0 ≤ d.exponent
  · use d.digits * Nat.pow 10 d.exponent.toNat * Double.unit, 1, Nat.one_pos
    constructor
    · rw [← Int.toNat_of_nonneg h, zpow_natCast, Int.toNat_natCast, Nat.pow_eq]
      push_cast
      ring
    · intro negative
      rw [if_pos h]
  · use d.digits * Double.unit, Nat.pow 10 (-d.exponent).toNat, Nat.pow_pos (by decide)
    constructor
    · obtain ⟨k, hk⟩ : ∃ k : Nat, d.exponent = -(k : ℤ) := ⟨(-d.exponent).toNat, by omega⟩
      rw [hk, neg_neg, Int.toNat_natCast, Nat.pow_eq, zpow_neg, zpow_natCast]
      push_cast
      field_simp
    · intro negative
      rw [if_neg h]

/-- Decimals of the same value are rounded in the same way. -/
theorem nearest?_eq_of_value_eq {d e : Decimal} (h : d.value = e.value) (negative : Bool) :
  d.nearest? negative = e.nearest? negative
  := by
  obtain ⟨n, m, hm, hn, hd⟩ := d.exists_nearest?_eq
  obtain ⟨n', m', hm', hn', he⟩ := e.exists_nearest?_eq
  rw [hd, he]
  apply Double.ofQuotient?_eq_of_mul_eq hm hm'
  have hcast : (n * m' : ℚ) = n' * m := by
    rw [hn, hn', h]
    ring
  exact_mod_cast hcast

end Decimal

namespace Double

variable {x y : Double} {d : Decimal} {n : ℤ}

/-- A decimal that has the magnitude of a double reads back as the double. -/
theorem readsBack_of_value_eq (h : d.value = x.quanta / unit) :
  x.readsBack d = true
  := by
  obtain ⟨n, m, hm, hn, hd⟩ := d.exists_nearest?_eq
  have hcast : (n : ℚ) = x.quanta * m := by rw [hn, h, div_mul_cancel₀ _ cast_unit_ne_zero]
  have hquotient : n * 1 = x.quanta * m := by
    rw [Nat.mul_one]
    exact_mod_cast hcast
  rw [readsBack, hd, ofQuotient?_eq_of_mul_eq hm Nat.one_pos hquotient, ofQuotient?_quanta,
    beq_self_eq_true]

/-- The decimal of a magnitude in full has that magnitude. -/
theorem value_exact (x : Double) :
  x.exact.value = x.quanta / unit
  := by
  obtain ⟨k, hunit, hexact⟩ := exists_unit_eq
  have hten : (10 : ℚ) = 5 * 2 := by norm_num
  rw [hexact, hunit, Decimal.value, Nat.pow_eq, zpow_neg, zpow_natCast, hten, mul_pow]
  push_cast
  field_simp

/-- The shortest decimal reads back as the double that it is of. -/
theorem readsBack_shortest (x : Double) :
  x.readsBack x.shortest = true
  := by
  unfold shortest
  dsimp only
  cases h : (List.range 17).findSome? fun (more : Nat) =>
      x.onGrid? (leadingExponent x.quanta unit - more) with
  | none => exact readsBack_of_value_eq x.value_exact
  | some d =>
    obtain ⟨more, -, hmore⟩ := List.exists_of_findSome?_eq_some h
    apply readsBack_of_onGrid? hmore

/-! ### Equal values -/

theorem eq_of_quanta_eq (hnegative : x.negative = y.negative) (hquanta : x.quanta = y.quanta) :
  x = y
  := by
  apply Option.some_injective
  rw [← ofQuotient?_quanta x, ← ofQuotient?_quanta y, hnegative, hquanta]

theorem value_eq_iff {q : ℚ} :
  x.value = q ↔ (x.quanta : ℚ) = (if x.negative then -q else q) * unit
  := by
  unfold value
  cases x.negative with
  | false => simp only [Bool.false_eq_true, if_false, one_mul, div_eq_iff cast_unit_ne_zero]
  | true => simp only [if_true, neg_one_mul, neg_eq_iff_eq_neg, div_eq_iff cast_unit_ne_zero]

theorem value_of_isZero (h : x.isZero = true) :
  x.value = 0
  := by
  rw [value, x.quanta_eq_zero_iff.mpr h, Nat.cast_zero, zero_div, mul_zero]

/-- Doubles of one value are equal, or are the two zeros. -/
theorem value_eq_value_iff :
  x.value = y.value ↔ x = y ∨ x.isZero = true ∧ y.isZero = true
  := by
  constructor
  · intro h
    rw [value_eq_iff, value] at h
    rw [← quanta_eq_zero_iff, ← quanta_eq_zero_iff]
    by_cases hnegative : x.negative = y.negative
    · left
      apply eq_of_quanta_eq hnegative
      have hquanta : (x.quanta : ℚ) = y.quanta := by
        rw [h, hnegative]
        cases y.negative <;> simp [div_mul_cancel₀ _ cast_unit_ne_zero]
      exact_mod_cast hquanta
    · right
      have hquanta : (x.quanta : ℚ) + y.quanta = 0 := by
        rw [h]
        cases hx : x.negative <;> cases hy : y.negative <;>
          simp [hx, hy, div_mul_cancel₀ _ cast_unit_ne_zero] at hnegative ⊢
      have hsum : x.quanta + y.quanta = 0 := by exact_mod_cast hquanta
      exact Nat.add_eq_zero_iff.mp hsum
  · rintro (rfl | ⟨hx, hy⟩)
    · rfl
    · rw [value_of_isZero hx, value_of_isZero hy]

/-- The whole number of units that a number of quanta makes up. -/
theorem eq_mul_unit_iff {q : Nat} :
  (q : ℚ) = n * unit ↔ q % unit = 0 ∧ ((q / unit : Nat) : Int) = n
  := by
  have hint : (q : ℚ) = n * unit ↔ (q : ℤ) = n * unit := by
    constructor <;> intro h <;> exact_mod_cast h
  have hunit := unit_pos
  generalize unit = u at hint hunit
  rw [hint]
  constructor
  · intro h
    have hmod : ((q % u : Nat) : ℤ) = 0 := by rw [Int.natCast_mod, h, Int.mul_emod_left]
    constructor
    · exact_mod_cast hmod
    · rw [Int.natCast_div, h, Int.mul_ediv_cancel]
      exact_mod_cast hunit.ne'
  · rintro ⟨hmod, rfl⟩
    rw [← Int.natCast_mul, Nat.div_mul_cancel (Nat.dvd_of_mod_eq_zero hmod)]

/-- The integer that a double is equal to is its value. -/
theorem toInt?_eq_some_iff :
  x.toInt? = some n ↔ x.value = n
  := by
  rw [value_eq_iff, toInt?]
  cases x.negative with
  | false =>
    simp only [Bool.false_eq_true, if_false, eq_mul_unit_iff, Option.ite_none_right_eq_some,
      Option.some.injEq]
  | true =>
    have hcast : (-n : ℚ) = (-n : ℤ) := by push_cast; rfl
    simp only [if_true, hcast, eq_mul_unit_iff, Option.ite_none_right_eq_some, Option.some.injEq,
      neg_eq_iff_eq_neg]

end Double

end ApiTypes
