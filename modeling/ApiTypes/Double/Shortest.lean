import ApiTypes.Double

/-!
# Shortest decimals

`Decimal` is a natural number times a power of ten.  `Double.shortest x` is a decimal with
as few digits as possible among those that read back as `x` up to its sign, and the nearest
to `x` of these.  `Double.chars x` is its text: positional while the first digit stands
between `10 ^ -5` and `10 ^ 15`, and with an exponent otherwise.
-/

namespace ApiTypes

/-- The decimal number `digits * 10 ^ exponent`. -/
structure Decimal where
  digits : Nat
  exponent : Int
deriving DecidableEq

namespace Decimal

/-- The `Double` nearest to a decimal. -/
def nearest? (negative : Bool) (d : Decimal) : Option Double :=
  if 0 ≤ d.exponent then
    Double.ofQuotient? negative (d.digits * Nat.pow 10 d.exponent.toNat * Double.unit) 1
  else
    Double.ofQuotient? negative (d.digits * Double.unit) (Nat.pow 10 (-d.exponent).toNat)

end Decimal

namespace Double

/-- The test for a decimal that reads back as `x`. -/
def readsBack (x : Double) (d : Decimal) : Bool :=
  d.nearest? x.negative == some x

/-- The exponent of ten at which the first digit of a positive quotient `n / d` stands. -/
def leadingExponent (n d : Nat) : Int :=
  if d ≤ n then ((Nat.toDigits 10 (n / d)).length : Int) - 1
  else -((Nat.toDigits 10 ((d + n - 1) / n - 1)).length : Int)

/-- The magnitude of `x` over `10 ^ e`, as a numerator and a denominator. -/
def scaled (x : Double) (e : Int) : Nat × Nat :=
  if 0 ≤ e then (x.quanta, unit * Nat.pow 10 e.toNat)
  else (x.quanta * Nat.pow 10 (-e).toNat, unit)

/-- The decimal with exponent `e` that reads back as `x` and is nearest to it, the one with
the even digits of two equally near. -/
def onGrid? (x : Double) (e : Int) : Option Decimal :=
  let (n, d) := x.scaled e
  let below : Decimal := ⟨n / d, e⟩
  let above : Decimal := ⟨n / d + 1, e⟩
  let nearest : Decimal := ⟨roundHalfEven n d, e⟩
  [nearest, below, above].find? x.readsBack

/-- The magnitude of `x` in full. -/
def exact (x : Double) : Decimal :=
  ⟨x.quanta * Nat.pow 5 1074, -1074⟩

/-- The decimal of fewest digits that reads back as `x`. -/
def shortest (x : Double) : Decimal :=
  let lead := leadingExponent x.quanta unit
  ((List.range 17).findSome? fun (more : Nat) => x.onGrid? (lead - more)).getD x.exact

theorem readsBack_of_onGrid? {x : Double} {e : Int} {d : Decimal} (h : x.onGrid? e = some d) :
  x.readsBack d = true
  := List.find?_some h

/-! ### Text -/

/-- The digits of a decimal and the position of its point, counted from the first digit;
zeros at the end are left out. -/
def pointed (d : Decimal) : List Char × Int :=
  let digits := Nat.toDigits 10 d.digits
  let point := digits.length + d.exponent
  ((digits.reverse.dropWhile (· == '0')).reverse, point)

/-- The text of an integer, led by its sign when it is below zero. -/
def signedChars (n : Int) : List Char :=
  (if n < 0 then ['-'] else []) ++ Nat.toDigits 10 n.natAbs

/-- The text of the number `0.d₁d₂… * 10 ^ point`: positional with a digit on either side of
the point when the first digit stands between `10 ^ -5` and `10 ^ 15`, with an exponent
otherwise. -/
def layOut (digits : List Char) (point : Int) : List Char :=
  if -5 ≤ point - 1 ∧ point - 1 ≤ 15 then
    if point ≤ 0 then
      ['0', '.'] ++ List.replicate (-point).toNat '0' ++ digits
    else
      let whole := digits.take point.toNat
      let fraction := digits.drop point.toNat
      whole ++ List.replicate (point.toNat - digits.length) '0' ++ ['.'] ++
        (if fraction.isEmpty then ['0'] else fraction)
  else
    let fraction := digits.drop 1
    digits.take 1 ++ (if fraction.isEmpty then [] else '.' :: fraction) ++ ['e'] ++
      (if 0 ≤ point - 1 then ['+'] else []) ++ signedChars (point - 1)

/-- The shortest text of a number. -/
def chars (x : Double) : List Char :=
  let sign := if x.negative then ['-'] else []
  if x.isZero then sign ++ ['0', '.', '0']
  else
    let (digits, point) := pointed x.shortest
    sign ++ layOut digits point

end Double

end ApiTypes
