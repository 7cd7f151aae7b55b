import Detour.Number.Shortest
import Detour.Tree.Basic
/-!
# JSON: writing a tree

`compact` writes no blanks. `pretty` puts every element on a line of its own, indented by two blanks
for each container around it, with a blank behind the colon of an entry; an empty container is
closed at once. Both write characters beyond ASCII as they are, and escape the control characters.
-/

namespace Detour

namespace Json

/-- A hexadecimal digit in lower case. -/
def hexDigit (n : Nat) : Char :=
  Char.ofNat (if n < 10 then 48 + n else 87 + n)

/-- A character inside a string literal. -/
def escaped (c : Char) : List Char :=
  if c = '"' then ['\\', '"']
  else if c = '\\' then ['\\', '\\']
  else if c = '\n' then ['\\', 'n']
  else if c = '\r' then ['\\', 'r']
  else if c = '\t' then ['\\', 't']
  else if c = '\x08' then ['\\', 'b']
  else if c = '\x0c' then ['\\', 'f']
  else if c.toNat < 0x20 then
    ['\\', 'u', '0', '0', hexDigit (c.toNat / 16), hexDigit (c.toNat % 16)]
  else [c]

/-- A string literal. -/
def quoted (s : String) : List Char :=
  '"' :: s.toList.flatMap escaped ++ ['"']

/-- How a printer separates what it writes. -/
structure Layout where
  /-- What precedes an element at a depth. -/
  lead : Nat → List Char
  /-- What stands between a key and its value. -/
  colon : List Char

/-- No blanks at all. -/
def Layout.compact : Layout := ⟨fun _ => [], [':']⟩

/-- A line for every element. -/
def Layout.pretty : Layout := ⟨fun depth => '\n' :: List.replicate (2 * depth) ' ', [':', ' ']⟩

mutual
/-- The text of a tree at a depth. -/
def print (layout : Layout) (depth : Nat) : Tree → List Char
  | .null => "null".toList
  | .bool b => if b then "true".toList else "false".toList
  | .int n => (toString n).toList
  | .real x => x.render
  | .str s => quoted s
  | .list [] => "[]".toList
  | .list (t :: rest) =>
    '[' :: (layout.lead (depth + 1) ++ print layout (depth + 1) t) ++
      printItems layout (depth + 1) rest ++ layout.lead depth ++ [']']
  | .object [] => ['\x7b', '\x7d']
  | .object ((k, t) :: rest) =>
    '\x7b' :: (layout.lead (depth + 1) ++ quoted k ++ layout.colon ++ print layout (depth + 1) t) ++
      printFields layout (depth + 1) rest ++ layout.lead depth ++ ['\x7d']
/-- The elements of a list behind its first one. -/
def printItems (layout : Layout) (depth : Nat) : List Tree → List Char
  | [] => []
  | t :: rest => ',' :: (layout.lead depth ++ print layout depth t) ++ printItems layout depth rest
/-- The entries of an object behind its first one. -/
def printFields (layout : Layout) (depth : Nat) : List (String × Tree) → List Char
  | [] => []
  | (k, t) :: rest =>
    ',' :: (layout.lead depth ++ quoted k ++ layout.colon ++ print layout depth t) ++
      printFields layout depth rest
end

/-- The text of a tree without blanks. -/
def compact (t : Tree) : String :=
  String.ofList (print .compact 0 t)

/-- The text of a tree on indented lines. -/
def pretty (t : Tree) : String :=
  String.ofList (print .pretty 0 t)

end Json

end Detour
