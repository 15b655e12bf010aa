/-!
# Binary floating point numbers

`Double` is the type of the finite numbers of the 64 bit binary format, kept as a sign, a
significand and an exponent over the smallest positive one, `2 ^ -1074`, here called a
quantum.  The representation is canonical, so that equal numbers of equal sign are equal.
`Double.ofQuotient?` rounds a quotient of natural numbers to the nearest `Double`, a tie
going to the even significand; `Double.mul?` and `Double.div?` round the exact product and
quotient.  `Double.ofScientific?` reads a significand and a power of ten the quick way,
which rounds more than once.
-/

namespace ApiTypes

/-- A finite number of the 64 bit binary format, of magnitude `significand * 2 ^ exponent`
quanta.  The significand has at most 53 bits, and exactly 53 unless the exponent is zero. -/
structure Double where
  negative : Bool
  significand : Nat
  exponent : Nat
  significand_lt : significand < 0x20000000000000
  normal : exponent = 0 ∨ 0x10000000000000 ≤ significand
  exponent_le : exponent ≤ 2045
deriving DecidableEq

namespace Double

/-- The zero of either sign. -/
def zero (negative : Bool) : Double :=
  ⟨negative, 0, 0, by decide, .inl rfl, by decide⟩

instance : Inhabited Double := ⟨zero false⟩

/-- The magnitude of a number, counted in quanta. -/
def quanta (x : Double) : Nat :=
  x.significand <<< x.exponent

/-- The number of quanta in one. -/
def unit : Nat :=
  1 <<< 1074

/-- The test for a zero of either sign. -/
def isZero (x : Double) : Bool :=
  x.significand == 0

/-- The test for a number that is at least zero, `-0.0` among them. -/
def isNonneg (x : Double) : Bool :=
  !x.negative || x.isZero

theorem quanta_eq_zero_iff (x : Double) :
  x.quanta = 0 ↔ x.isZero = true
  := by
  have := Nat.two_pow_pos x.exponent
  simp only [quanta, isZero, Nat.shiftLeft_eq, Nat.mul_eq_zero, beq_iff_eq]
  omega

/-! ### Rounding -/

/-- The natural number nearest to `n / d`, the even one of two equally near. -/
def roundHalfEven (n d : Nat) : Nat :=
  let q := n / d
  let r := n % d
  if 2 * r < d then q
  else if d < 2 * r then q + 1
  else q + q % 2

theorem roundHalfEven_le (n d : Nat) :
  roundHalfEven n d ≤ n / d + 1
  := by
  unfold roundHalfEven
  grind

theorem le_roundHalfEven (n d : Nat) :
  n / d ≤ roundHalfEven n d
  := by
  unfold roundHalfEven
  grind

/-- The exponent at which the quotient `n / d` of quanta keeps 53 bits. -/
def exponentOf (n d : Nat) : Nat :=
  (n / d).log2 - 52

theorem roundHalfEven_exponentOf_le (n d : Nat) :
  roundHalfEven n (d <<< exponentOf n d) ≤ 0x20000000000000
  := by
  have hfloor : n / (d <<< exponentOf n d) < 2 ^ 53 := by
    rw [Nat.shiftLeft_eq, ← Nat.div_div_eq_div_mul, Nat.div_lt_iff_lt_mul (Nat.two_pow_pos _),
      ← Nat.pow_add]
    apply Nat.lt_of_lt_of_le (Nat.lt_log2_self (n := n / d))
    apply Nat.pow_le_pow_right (by decide)
    unfold exponentOf
    omega
  have := roundHalfEven_le n (d <<< exponentOf n d)
  omega

theorem exponentOf_eq_zero_or_le_roundHalfEven (n d : Nat) :
  exponentOf n d = 0 ∨ 0x10000000000000 ≤ roundHalfEven n (d <<< exponentOf n d)
  := by
  by_cases h : (n / d).log2 ≤ 52
  · left
    unfold exponentOf
    omega
  · right
    apply Nat.le_trans _ (le_roundHalfEven n _)
    change 2 ^ 52 ≤ _
    rw [Nat.shiftLeft_eq, ← Nat.div_div_eq_div_mul, Nat.le_div_iff_mul_le (Nat.two_pow_pos _),
      ← Nat.pow_add]
    have hne : n / d ≠ 0 := by
      intro h0
      simp [h0] at h
    have hexp : 52 + exponentOf n d = (n / d).log2 := by
      unfold exponentOf
      omega
    rw [hexp]
    exact Nat.log2_self_le hne

/-- The number with the given significand and exponent, unless it is out of range; a
significand of 54 bits is halved. -/
def pack? (negative : Bool) (m k : Nat) (hm : m ≤ 0x20000000000000)
    (hk : k = 0 ∨ 0x10000000000000 ≤ m) : Option Double :=
  if h : m < 0x20000000000000 then
    if hmax : k ≤ 2045 then some ⟨negative, m, k, h, hk, hmax⟩ else none
  else
    if hmax : k + 1 ≤ 2045 then
      some ⟨negative, m / 2, k + 1, by omega, .inr (by omega), hmax⟩
    else none

/-- The number nearest to `n / d` quanta, or `none` when that is out of range. -/
def ofQuotient? (negative : Bool) (n d : Nat) : Option Double :=
  let k := exponentOf n d
  pack? negative (roundHalfEven n (d <<< k)) k
    (roundHalfEven_exponentOf_le n d) (exponentOf_eq_zero_or_le_roundHalfEven n d)

/-! ### Arithmetic -/

/-- The number nearest to an integer. -/
def ofInt? (n : Int) : Option Double :=
  ofQuotient? (n < 0) (n.natAbs * unit) 1

/-- The product, correctly rounded. -/
def mul? (x y : Double) : Option Double :=
  ofQuotient? (x.negative != y.negative) (x.quanta * y.quanta) unit

/-- The quotient by a number that is not zero, correctly rounded. -/
def div? (x y : Double) : Option Double :=
  ofQuotient? (x.negative != y.negative) (x.quanta * unit) y.quanta

/-- The opposite number. -/
def neg (x : Double) : Double :=
  { x with negative := !x.negative }

/-- The integer that a number is equal to, if there is one. -/
def toInt? (x : Double) : Option Int :=
  if x.quanta % unit = 0 then
    let magnitude : Int := (x.quanta / unit : Nat)
    some (if x.negative then -magnitude else magnitude)
  else none

/-! ### Reading a significand and a power of ten -/

/-- The number nearest to `10 ^ k`. -/
def powerOfTen? (k : Nat) : Option Double :=
  ofQuotient? false (Nat.pow 10 k * unit) 1

/-- The quotient by `y`, taken `n` times over, each time rounded. -/
def divRepeatedly? (x y : Double) : Nat → Option Double
  | 0 => some x
  | n + 1 =>
    if x.isZero then some x
    else x.div? y >>= fun z => z.divRepeatedly? y n

/-- The quotient by `10 ^ k`, taken in steps of at most `10 ^ 308`. -/
def divPowerOfTen? (x : Double) (k : Nat) : Option Double := do
  let steps := (k - 1) / 308
  let y ← x.divRepeatedly? (← powerOfTen? 308) steps
  y.div? (← powerOfTen? (k - 308 * steps))

/-- The product by `10 ^ k`, out of range for every `k` above 308 unless the number is zero. -/
def mulPowerOfTen? (x : Double) (k : Nat) : Option Double :=
  if k ≤ 308 then
    powerOfTen? k >>= x.mul?
  else if x.isZero then some x
  else none

/-- The number `m * 10 ^ e` as it is computed from the number nearest to `m` by multiplying
or dividing by powers of ten. -/
def ofScientific? (negative : Bool) (m : Nat) (e : Int) : Option Double := do
  let x ← ofInt? m
  let y ← if 0 ≤ e then x.mulPowerOfTen? e.toNat else x.divPowerOfTen? (-e).toNat
  return if negative then y.neg else y

end Double

end ApiTypes
