import Detour.Text.Search
/-!
# Paths

A path is cut at its slashes, except for the slash that makes it absolute. A piece that is empty or a
single dot stays where it is; the parent of a path lacks its last other piece.
-/

namespace Detour

/-- A path, as the pieces of its text between slashes. -/
structure Path where
  /-- Whether the path starts at the root, instead of the working directory. -/
  isAbsolute : Bool := false
  pieces : List String := []
deriving DecidableEq, Repr

namespace Path

/-- The pieces of a text between its slashes. -/
def cut (cs : List Char) : List String :=
  (Text.splitOn '/' cs).map String.ofList

/-- The path that a text spells. -/
def ofText (s : String) : Path :=
  match s.toList with
  | '/' :: rest => ⟨true, cut rest⟩
  | cs => ⟨false, cut cs⟩

/-- The text of a path. -/
def text (p : Path) : String :=
  (if p.isAbsolute then "/" else "") ++ "/".intercalate p.pieces

/-- Whether a piece stays where it is. -/
def isIdle (piece : String) : Bool :=
  piece == "" || piece == "."

/-- The pieces without idle ones at their end. -/
def trimEnd (pieces : List String) : List String :=
  (pieces.reverse.dropWhile isIdle).reverse

/-- The pieces that count: none of the idle ones at the end, except for a dot that a relative path
starts with. -/
def significant : Path → List String
  | ⟨false, "." :: rest⟩ => "." :: trimEnd rest
  | p => trimEnd p.pieces

/-- A path without its last significant piece. -/
def parent (p : Path) : Path :=
  { p with pieces := significant { p with pieces := p.significant.dropLast } }

/-- Whether a path has no text. -/
def isEmpty (p : Path) : Bool :=
  !p.isAbsolute && p.pieces.all fun piece => piece == ""

/-- Whether the text of a path ends with a slash. -/
def endsWithSlash (p : Path) : Bool :=
  !p.isEmpty && p.pieces.getLast?.getD "" == ""

/-- The pieces that take a step, or are dots. -/
def steps (p : Path) : List String :=
  p.pieces.filter fun piece => piece != ""

/-- The text of a path below a directory: one slash parts them, and an absolute path stays as it is. -/
def join (directory below : String) : String :=
  if below.toList.head? = some '/' || directory.isEmpty then below
  else if directory.toList.getLast? = some '/' then directory ++ below
  else directory ++ "/" ++ below

end Path

end Detour
