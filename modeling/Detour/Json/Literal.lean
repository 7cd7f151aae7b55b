import Detour.Number.Decimal
import Detour.Node
/-!
# JSON: number and string literals

A number without fraction and exponent that fits 64 bits is an integer; any other number is a real.
A real is read as `digits · 10 ^ exponent`, with as many leading digits as fit 64 bits: both factors
are taken to their nearest floating-point neighbours and then multiplied or divided once. A real
beyond the greatest finite number is flawed.

A string has no bare control characters. One with half of a surrogate pair is flawed.
-/

namespace Detour

namespace Json

/-! ## Numbers -/

/-- Digits taken into a significand of 64 bits, and how many of them no longer fit. -/
def significand (acc : Nat) : List Char → Nat × Nat
  | [] => (acc, 0)
  | c :: rest =>
    let next := acc * 10 + (c.toNat - 48)
    if next < UInt64.size then significand next rest else (acc, rest.length + 1)

/-- The magnitude nearest to a power of ten. -/
def powerOfTen (k : Nat) : Nat :=
  (Binary64.nearest? (Nat.pow 10 k) 1).getD 0

/-- A magnitude divided by `10 ^ 308`, so many times. -/
def divideBy308Places? : Nat → Nat → Option Nat
  | 0, m => some m
  | n + 1, m =>
    if m = 0 then some 0
    else (Binary64.div? m (powerOfTen 308)).bind (divideBy308Places? n)

/-- A magnitude divided by `10 ^ k`, in steps of at most 308 places. -/
def scaleDown? (magnitude k : Nat) : Option Nat :=
  (divideBy308Places? (k / 308) magnitude).bind fun m => Binary64.div? m (powerOfTen (k % 308))

/-- The magnitude that `digits · 10 ^ scale` is read as. -/
def scale? (digits : Nat) (scale : Int) : Option Nat :=
  match Binary64.nearest? digits 1 with
  | none => none
  | some m =>
    if scale < 0 then scaleDown? m scale.natAbs
    else if scale ≤ 308 then Binary64.mul? m (powerOfTen scale.toNat)
    else if m = 0 then some 0
    else none

/-- A real with a sign. -/
def real (negative : Bool) (digits : Nat) (scale : Int) : Node :=
  match scale? digits scale with
  | some m => .real (Binary64.ofMagnitude negative m)
  | none => .flawed

/-- An exponent behind `e`: an optional sign and digits. -/
def exponent? (cs : List Char) : Option (Int × List Char) :=
  let (negative, cs) := match cs with
    | '-' :: rest => (true, rest)
    | '+' :: rest => (false, rest)
    | _ => (false, cs)
  let (ds, rest) := Plain.spanDigits cs
  (Decimal.digitsValue? 10 ds).map fun n => (if negative then -(n : Int) else n, rest)

/-- The rest of a real: an exponent, if there is one. -/
def finishReal? (negative : Bool) (digits : Nat) (scale : Int) :
    List Char → Option (Node × List Char)
  | c :: rest =>
    if c = 'e' ∨ c = 'E' then
      (exponent? rest).map fun (e, rest) => (real negative digits (scale + e), rest)
    else some (real negative digits scale, c :: rest)
  | [] => some (real negative digits scale, [])

/-- A literal without fraction and exponent. The negative zero is a real, for no integer is. -/
def whole (negative : Bool) (digits leftOver : Nat) : Node :=
  if leftOver ≠ 0 then real negative digits leftOver
  else if !negative then .int digits
  else if 0 < digits ∧ -(digits : Int) ≥ Int64.minValue.toInt then .int (-(digits : Int))
  else real true digits 0

/-- A number whose minus sign, if any, has been read. -/
def number? (negative : Bool) (cs : List Char) : Option (Node × List Char) :=
  let (ds, rest) := Plain.spanDigits cs
  let padded := match ds with
    | '0' :: _ :: _ => true
    | _ => false
  if ds.isEmpty || padded then none
  else
    let (digits, leftOver) := significand 0 ds
    match rest with
    | '.' :: rest =>
      let (frac, rest) := Plain.spanDigits rest
      if frac.isEmpty then none
      else
        let (digits, dropped) := significand digits frac
        finishReal? negative digits (leftOver - (frac.length - dropped : Nat)) rest
    | 'e' :: _ => finishReal? negative digits leftOver rest
    | 'E' :: _ => finishReal? negative digits leftOver rest
    | _ => some (whole negative digits leftOver, rest)

/-! ## Strings -/

/-- The code unit that four hexadecimal digits spell. -/
def codeUnit? (a b c d : Char) : Option Nat :=
  Decimal.digitsValue? 16 [a, b, c, d]

/-- What a letter behind a backslash stands for. -/
def escape? : Char → Option Char
  | '"' => some '"'
  | '\\' => some '\\'
  | '/' => some '/'
  | 'b' => some '\x08'
  | 'f' => some '\x0c'
  | 'n' => some '\n'
  | 'r' => some '\r'
  | 't' => some '\t'
  | _ => none

/-- The code units of a string up to its closing quote, and what follows. A unit is the number of a
character, or half of a surrogate pair. -/
def units? : List Char → Option (List Nat × List Char)
  | '\\' :: 'u' :: a :: b :: c :: d :: rest =>
    match codeUnit? a b c d, units? rest with
    | some u, some (us, r) => some (u :: us, r)
    | _, _ => none
  | '"' :: rest => some ([], rest)
  | '\\' :: e :: rest =>
    match escape? e, units? rest with
    | some c, some (us, r) => some (c.toNat :: us, r)
    | _, _ => none
  | c :: rest =>
    if c.toNat < 0x20 ∨ c = '\\' then none
    else (units? rest).map fun (us, r) => (c.toNat :: us, r)
  | [] => none

/-- Whether a unit is the first half of a surrogate pair. -/
def isHigh (u : Nat) : Bool := 0xD800 ≤ u && u < 0xDC00

/-- Whether a unit is the second half of a surrogate pair. -/
def isLow (u : Nat) : Bool := 0xDC00 ≤ u && u < 0xE000

/-- The characters that code units spell, with every surrogate in a pair. -/
def characters? : List Nat → Option (List Char)
  | [] => some []
  | [u] => if isHigh u || isLow u then none else some [Char.ofNat u]
  | u :: v :: rest =>
    if isHigh u then
      if isLow v then
        (characters? rest).map (Char.ofNat (0x10000 + (u - 0xD800) * 0x400 + (v - 0xDC00)) :: ·)
      else none
    else if isLow u then none
    else (characters? (v :: rest)).map (Char.ofNat u :: ·)

/-- A string whose opening quote has been read. -/
def string? (cs : List Char) : Option (Node × List Char) :=
  (units? cs).map fun (us, rest) =>
    match characters? us with
    | some s => (.text (String.ofList s), rest)
    | none => (.flawed, rest)

end Json

end Detour
