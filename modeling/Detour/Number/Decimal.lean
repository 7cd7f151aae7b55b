import Detour.Number.Binary64
/-!
# Numbers: digits, and decimal literals

`digitsValue?` reads digits of a radix. `nearestDecimal?` gives the magnitude nearest to
`digits · 10 ^ scale`, and needs no large powers for a scale far out of range.
-/

namespace Detour

namespace Decimal

/-- The value of one digit, of the radixes up to sixteen. -/
def digit? (c : Char) : Option Nat :=
  if '0' ≤ c ∧ c ≤ '9' then some (c.toNat - 48)
  else if 'a' ≤ c ∧ c ≤ 'f' then some (c.toNat - 87)
  else if 'A' ≤ c ∧ c ≤ 'F' then some (c.toNat - 55)
  else none

/-- Put digits behind the number `acc`. -/
def appendDigits? (radix : Nat) : Nat → List Char → Option Nat
  | acc, [] => some acc
  | acc, c :: rest =>
    match digit? c with
    | some d => if d < radix then appendDigits? radix (acc * radix + d) rest else none
    | none => none

/-- The number that a non-empty list of digits spells. -/
def digitsValue? (radix : Nat) (cs : List Char) : Option Nat :=
  if cs.isEmpty then none else appendDigits? radix 0 cs

/-- The magnitude nearest to `digits · 10 ^ scale`; none when that is too large. -/
def nearestDecimal? (digits : Nat) (scale : Int) : Option Nat :=
  if digits = 0 then some 0
  else if 400 < scale then none
  else if 0 ≤ scale then Binary64.nearest? (digits * Nat.pow 10 scale.toNat) 1
  else if scale + digits.log2 < -1200 then some 0
  else Binary64.nearest? digits (Nat.pow 10 (-scale).toNat)

end Decimal

end Detour
