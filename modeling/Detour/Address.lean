import Detour.Number.Decimal
import Detour.Text.Blank
import Detour.Text.Search
/-!
# Addresses

`isIp` tells address literals from names. A version 4 literal has four decimal numbers below 256
without superfluous zeros. A version 6 literal has eight groups of one to four hexadecimal digits;
one run of groups may be left out, and the last two may be written as a version 4 literal.
-/

namespace Detour

namespace Address

/-- One number of a version 4 literal. -/
def isOctet (cs : List Char) : Bool :=
  match cs with
  | '0' :: _ :: _ => false
  | _ =>
    cs.length ≤ 3 && match Decimal.digitsValue? 10 cs with
      | some n => n < 256
      | none => false

/-- A version 4 literal. -/
def isV4 (cs : List Char) : Bool :=
  let parts := Text.splitOn '.' cs
  parts.length == 4 && parts.all isOctet

/-- One group of a version 6 literal. -/
def isGroup (cs : List Char) : Bool :=
  !cs.isEmpty && cs.length ≤ 4 && (Decimal.digitsValue? 16 cs).isSome

/-- How many groups some pieces between colons stand for; a version 4 literal may stand last and
counts as two. -/
def groups? : List (List Char) → Option Nat
  | [] => some 0
  | [last] => if isGroup last then some 1 else if isV4 last then some 2 else none
  | piece :: rest => if isGroup piece then (groups? rest).map (· + 1) else none

/-- The pieces between colons; none at all in an empty text. -/
def pieces (cs : List Char) : List (List Char) :=
  if cs.isEmpty then [] else Text.splitOn ':' cs

/-- Cut a text at its first pair of colons. -/
def cutGap? : List Char → Option (List Char × List Char)
  | [] => none
  | [_] => none
  | a :: b :: rest =>
    if a = ':' ∧ b = ':' then some ([], rest)
    else (cutGap? (b :: rest)).map fun (x, y) => (a :: x, y)

/-- A version 6 literal. What is left out stands for at least one group, and a version 4 literal may
only end the whole text. -/
def isV6 (cs : List Char) : Bool :=
  match cutGap? cs with
  | none => groups? (pieces cs) == some 8
  | some (before, after) =>
    (pieces before).all isGroup &&
      match groups? (pieces after) with
      | some n => (pieces before).length + n ≤ 7
      | none => false

/-- Whether a text, inside any number of brackets, is an address literal. -/
def isIp (s : String) : Bool :=
  let cs := Text.dropEnd (· == ']') (s.toList.dropWhile (· == '['))
  isV4 cs || isV6 cs

end Address

end Detour
