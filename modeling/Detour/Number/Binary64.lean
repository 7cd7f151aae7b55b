/-!
# Numbers: finite binary floating point of 64 bits

A `Binary64` is a bit pattern; its magnitude is `mantissa · 2 ^ exponent`. `nearest?` rounds a
positive ratio of natural numbers to the nearest pattern, a half going to the even mantissa, in
exact arithmetic on natural numbers; products and quotients are rounded the same way. Nothing here
computes with machine floating point, so all of it can be reasoned about.
-/

namespace Detour

/-- A number in 64-bit binary floating point, as its bit pattern. The patterns that this library
makes are finite. -/
structure Binary64 where
  /-- Sign, then eleven exponent bits, then 52 fraction bits. -/
  bits : UInt64
deriving DecidableEq, Repr, Inhabited

namespace Binary64

/-- The number of patterns without a sign bit. -/
def magnitudes : Nat := Nat.pow 2 63

/-- The number of fractions under one exponent. -/
def fractions : Nat := Nat.pow 2 52

/-- The sign bit is set. -/
def isNegative (x : Binary64) : Bool :=
  magnitudes ≤ x.bits.toNat

/-- The pattern without its sign bit. -/
def magnitude (x : Binary64) : Nat :=
  x.bits.toNat % magnitudes

/-- The pattern of a magnitude, with a sign. -/
def ofMagnitude (negative : Bool) (magnitude : Nat) : Binary64 :=
  ⟨UInt64.ofNat (magnitude % magnitudes + if negative then magnitudes else 0)⟩

/-- Zero of either sign. -/
def isZero (x : Binary64) : Bool :=
  x.magnitude == 0

/-- The same magnitude with the other sign. -/
def negate (x : Binary64) : Binary64 :=
  ofMagnitude (!x.isNegative) x.magnitude

/-- The integer factor of a magnitude: the fraction bits, under a leading one unless the number is
subnormal. -/
def mantissa (magnitude : Nat) : Nat :=
  if magnitude < fractions then magnitude else magnitude % fractions + fractions

/-- The power of two that the mantissa is multiplied by. -/
def exponent (magnitude : Nat) : Int :=
  if magnitude < fractions then -1074 else (magnitude / fractions : Nat) - 1075

/-- Numerator and denominator of a magnitude. -/
def ratio (magnitude : Nat) : Nat × Nat :=
  let e := exponent magnitude
  if 0 ≤ e then (mantissa magnitude * Nat.pow 2 e.toNat, 1)
  else (mantissa magnitude, Nat.pow 2 (-e).toNat)

/-- The quotient rounded to the nearest integer, a half to the even one. -/
def divideToEven (num den : Nat) : Nat :=
  let q := num / den
  let r := num % den
  if den < 2 * r ∨ (2 * r = den ∧ q % 2 = 1) then q + 1 else q

/-- `num / den` in units of `2 ^ e`, as a ratio. -/
def scaled (num den : Nat) (e : Int) : Nat × Nat :=
  if 0 ≤ e then (num, den * Nat.pow 2 e.toNat) else (num * Nat.pow 2 (-e).toNat, den)

/-- The exponent at which `num / den` has a mantissa of 53 bits, or the least exponent. -/
def unitOf (num den : Nat) : Int :=
  let e : Int := (num.log2 : Int) - den.log2 - 52
  let (n, d) := scaled num den e
  max (if n / d < fractions then e - 1 else e) (-1074)

/-- The magnitude nearest to `num / den`; none if that is beyond the greatest finite number. -/
def nearest? (num den : Nat) : Option Nat :=
  if num = 0 then some 0
  else
    let e := unitOf num den
    let (n, d) := scaled num den e
    let magnitude := (e + 1074).toNat * fractions + divideToEven n d
    if magnitude < 2047 * fractions then some magnitude else none

/-- The magnitude nearest to a product. -/
def mul? (a b : Nat) : Option Nat :=
  let (n, d) := ratio a
  let (n', d') := ratio b
  nearest? (n * n') (d * d')

/-- The magnitude nearest to a quotient. -/
def div? (a b : Nat) : Option Nat :=
  let (n, d) := ratio a
  let (n', d') := ratio b
  nearest? (n * d') (d * n')

/-- Equality of values: the two zeros are equal. -/
def sameValue (x y : Binary64) : Bool :=
  x == y || (x.isZero && y.isZero)

end Binary64

end Detour
