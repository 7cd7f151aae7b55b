import Detour.Number.Binary64
/-!
# Numbers: the fewest digits that read back

The reals that round to a magnitude `m · 2 ^ e` form an interval, with its ends included when `m` is
even. `shortest` tries one, two, … seventeen decimal digits: the first decimal grid with a point in
the interval wins, of two points the nearer to the number, and at equal distance the even one. It is
enough to look at the number's two neighbours on each grid, for when a point of a grid lies in the
interval, one of those two does.
-/

namespace Detour

namespace Shortest

/-- A positive decimal `digits · 10 ^ scale`. -/
structure Decimal where
  digits : Nat
  scale : Int
deriving DecidableEq, Repr

/-- The numbers that round to one magnitude, over a common denominator. -/
structure Interval where
  /-- Four times the number's numerator, less the distance to the lower end. -/
  low : Nat
  value : Nat
  high : Nat
  den : Nat
  /-- The ends belong to the interval. -/
  closed : Bool

/-- The interval of a magnitude. Below a power of two the neighbours are twice as dense. -/
def Interval.of (magnitude : Nat) : Interval :=
  let m := Binary64.mantissa magnitude
  let e := Binary64.exponent magnitude
  let below := if m = Binary64.fractions ∧ -1074 < e then 1 else 2
  let up := if 0 ≤ e then Nat.pow 2 e.toNat else 1
  let den := if 0 ≤ e then 1 else Nat.pow 2 (-e).toNat
  { low := (4 * m - below) * up
    value := 4 * m * up
    high := (4 * m + 2) * up
    den := 4 * den
    closed := m % 2 == 0 }

/-- Whether `num / den` lies in the interval. -/
def Interval.holds (i : Interval) (num den : Nat) : Bool :=
  if i.closed then i.low * den ≤ num * i.den && num * i.den ≤ i.high * den
  else i.low * den < num * i.den && num * i.den < i.high * den

/-- The least `k ≥ start` with `num < den · 10 ^ k`, looking at most `fuel` steps ahead. -/
def digitsBefore (num den : Nat) : Nat → Nat → Nat
  | 0, k => k
  | fuel + 1, k => if num < den * Nat.pow 10 k then k else digitsBefore num den fuel (k + 1)

/-- How many places the first significant digit of `num / den` stands before the decimal point;
zero or less when it stands behind it. -/
def leading (num den : Nat) : Int :=
  if den ≤ num then digitsBefore num den 400 1
  else
    -- the least `k` with `1 ≤ num · 10 ^ k / den`
    let k := digitsBefore (den - 1) num 400 0
    1 - (k : Int)

/-- The point of the grid with `n` digits that stands for the number, if the grid has one. -/
def onGrid? (i : Interval) (lead : Int) (n : Nat) : Option Decimal :=
  let scale : Int := lead - n
  let unitNum := if 0 ≤ scale then Nat.pow 10 scale.toNat else 1
  let unitDen := if 0 ≤ scale then 1 else Nat.pow 10 (-scale).toNat
  -- the number in units of the grid is `num / den`
  let num := i.value * unitDen
  let den := i.den * unitNum
  let d := num / den
  let holds (p : Nat) : Bool := i.holds (p * unitNum) unitDen
  if holds d then
    if holds (d + 1) then
      let r := num % den
      if 2 * r < den ∨ (2 * r = den ∧ d % 2 = 0) then some ⟨d, scale⟩ else some ⟨d + 1, scale⟩
    else some ⟨d, scale⟩
  else if holds (d + 1) then some ⟨d + 1, scale⟩
  else none

/-- The decimal with the fewest digits in the interval of a positive magnitude. -/
def shortest (magnitude : Nat) : Decimal :=
  let i := Interval.of magnitude
  let lead := leading i.value i.den
  ((List.range 17).findSome? fun n => onGrid? i lead (n + 1)).getD ⟨0, 0⟩

/-- Drop the zeros at the end of the digits, into the scale. -/
def Decimal.reduce : Nat → Decimal → Decimal
  | 0, d => d
  | fuel + 1, d =>
    if d.digits ≠ 0 ∧ d.digits % 10 = 0 then reduce fuel ⟨d.digits / 10, d.scale + 1⟩ else d

/-- A number as text: positional when the exponent of its first digit is at least -5 and below 16,
and then with a fraction even when that is zero; otherwise with one digit before the point and a
signed exponent. -/
def Decimal.render (d : Decimal) : List Char :=
  let digits := (toString d.digits).toList
  let lead : Int := digits.length + d.scale
  let zeros (n : Int) : List Char := List.replicate n.toNat '0'
  if 0 ≤ d.scale ∧ lead ≤ 16 then digits ++ zeros d.scale ++ ['.', '0']
  else if 0 < lead ∧ lead ≤ 16 then
    digits.take lead.toNat ++ '.' :: digits.drop lead.toNat
  else if -5 < lead ∧ lead ≤ 0 then ['0', '.'] ++ zeros (-lead) ++ digits
  else
    let point := match digits with
      | [] => []
      | [c] => [c]
      | c :: rest => c :: '.' :: rest
    let e := lead - 1
    point ++ ['e', if e < 0 then '-' else '+'] ++ (toString e.natAbs).toList

end Shortest

/-- The text of a number: the fewest digits that read back as it. -/
def Binary64.render (x : Binary64) : List Char :=
  let digits :=
    if x.isZero then ['0', '.', '0']
    else ((Shortest.shortest x.magnitude).reduce 20).render
  if x.isNegative then '-' :: digits else digits

end Detour
