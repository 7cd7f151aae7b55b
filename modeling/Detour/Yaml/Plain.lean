import Detour.Number.Decimal
import Detour.Text.Search
import Detour.Tree.Basic
/-!
# YAML: what an unquoted scalar stands for

An unquoted scalar is a null, a truth value, an integer, a real, or else a text. An integer has an
optional sign and is decimal, or hexadecimal, octal or binary behind `0x`, `0o` or `0b`; decimal
digits behind a superfluous zero are a text. A real is decimal and finite; a literal beyond the
greatest finite number is a text. An integer too long for 64 bits is refused, and one too long for
128 bits is read as a real.
-/

namespace Detour

namespace Plain

/-- The spellings of null. -/
def isNull (s : String) : Bool :=
  s == "null" || s == "Null" || s == "NULL" || s == "~"

/-- The spellings of the truth values. -/
def bool? (s : String) : Option Bool :=
  if s == "true" || s == "True" || s == "TRUE" then some true
  else if s == "false" || s == "False" || s == "FALSE" then some false
  else none

/-- A natural number without a sign. -/
def natural? : List Char → Option Nat
  | '0' :: 'x' :: rest => Decimal.digitsValue? 16 rest
  | '0' :: 'o' :: rest => Decimal.digitsValue? 8 rest
  | '0' :: 'b' :: rest => Decimal.digitsValue? 2 rest
  | '0' :: _ :: _ => none
  | cs => Decimal.digitsValue? 10 cs

/-- A natural number with an optional plus sign. -/
def unsigned? : List Char → Option Nat
  | '+' :: rest => natural? rest
  | cs => natural? cs

/-- An integer with an optional sign. -/
def int? : List Char → Option Int
  | '-' :: rest => (natural? rest).map fun n => -(n : Int)
  | cs => (unsigned? cs).map Int.ofNat

/-- The digits of a list from its start, and what follows them. -/
def spanDigits (cs : List Char) : List Char × List Char :=
  (cs.takeWhile Char.isDigit, cs.dropWhile Char.isDigit)

/-- The exponent part of a real: nothing, or `e` and a signed number. -/
def exponent? : List Char → Option Int
  | [] => some 0
  | c :: rest =>
    if c = 'e' ∨ c = 'E' then
      match rest with
      | '-' :: ds => (Decimal.digitsValue? 10 ds).map fun n => -(n : Int)
      | '+' :: ds => (Decimal.digitsValue? 10 ds).map Int.ofNat
      | ds => (Decimal.digitsValue? 10 ds).map Int.ofNat
    else none

/-- The magnitude of a finite real without a sign. -/
def magnitude? (cs : List Char) : Option Nat :=
  let (whole, rest) := spanDigits cs
  let (frac, rest) := match rest with
    | '.' :: rest => spanDigits rest
    | _ => ([], rest)
  if whole.isEmpty && frac.isEmpty then none
  else
    match exponent? rest, Decimal.appendDigits? 10 0 (whole ++ frac) with
    | some e, some digits => Decimal.nearestDecimal? digits (e - frac.length)
    | _, _ => none

/-- Digits behind a superfluous zero, with an optional sign. -/
def isPaddedDigits (cs : List Char) : Bool :=
  let body := match cs with
    | '-' :: rest => rest
    | '+' :: rest => rest
    | _ => cs
  match body with
  | '0' :: c :: rest => (c :: rest).all Char.isDigit
  | _ => false

/-- A finite real with an optional sign. -/
def real? (cs : List Char) : Option Binary64 :=
  if isPaddedDigits cs then none
  else
    match cs with
    | '-' :: rest => (magnitude? rest).map (Binary64.ofMagnitude true)
    | '+' :: rest => (magnitude? rest).map (Binary64.ofMagnitude false)
    | _ => (magnitude? cs).map (Binary64.ofMagnitude false)

/-- The spellings of the infinities and of what is no number; a tree holds null for them. -/
def isNonFinite (s : String) : Bool :=
  [".inf", ".Inf", ".INF", "+.inf", "+.Inf", "+.INF", "-.inf", "-.Inf", "-.INF",
    ".nan", ".NaN", ".NAN"].contains s

/-- The value of an unquoted scalar that is no null, truth value or integer. -/
def realOrText (s : String) : Tree :=
  match real? s.toList with
  | some x => .real x
  | none => if isNonFinite s then .null else .str s

/-- Whether an integer fits 128 bits, signed when it is negative. -/
def fitsWide (n : Int) : Bool :=
  -(Nat.pow 2 127 : Nat) ≤ n && n < (Nat.pow 2 128 : Nat)

/-- The value of an unquoted scalar. An integer must fit 64 bits, signed when it is negative; one
beyond 128 bits is no integer at all. -/
def value? (s : String) : Option Tree :=
  if s.isEmpty || isNull s then some .null
  else
    match bool? s with
    | some b => some (.bool b)
    | none =>
      match int? s.toList with
      | some n =>
        if Int64.minValue.toInt ≤ n ∧ n < UInt64.size then some (.int n)
        else if fitsWide n then none
        else some (realOrText s)
      | none => some (realOrText s)

end Plain

end Detour
