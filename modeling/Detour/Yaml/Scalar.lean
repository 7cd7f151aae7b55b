import Detour.Number.Decimal
/-!
# YAML: the text of scalars

Inside a scalar, a line break with the blanks around it folds into a single blank, and each further
break stands for itself. An unquoted scalar ends before a comment, before a colon that is followed by
a blank, and where a line is indented less than it must be; inside brackets it also ends before an
indicator. A quoted scalar ends at its quote.
-/

namespace Detour

namespace Yaml

/-- A place in a text. -/
structure Mark where
  /-- How many bytes precede it, where a line end counts as one. -/
  index : Nat
  line : Nat
  column : Nat
deriving DecidableEq, Repr

/-- Spaces and tabs. -/
def isSpace (c : Char) : Bool := c == ' ' || c == '\t'

/-- The characters that end a line, once the others have been brought to `\n`. -/
def isBreak (c : Char) : Bool :=
  c == '\n' || c == '\u2028' || c == '\u2029'

/-- Whether nothing follows, or a blank or a break does. -/
def blankNext : List Char → Bool
  | [] => true
  | c :: _ => isSpace c || isBreak c

/-- The place behind a character. -/
def Mark.past (m : Mark) (c : Char) : Mark :=
  if isBreak c then ⟨m.index + 1, m.line + 1, 0⟩
  else ⟨m.index + c.utf8Size, m.line, m.column + 1⟩

/-- The place some ASCII characters of the same line further on. -/
def Mark.forward (m : Mark) (n : Nat) : Mark :=
  ⟨m.index + n, m.line, m.column + n⟩

/-- Whether the marker of a document's start or end stands here. -/
def isDocumentMarker : List Char → Bool
  | '-' :: '-' :: '-' :: rest => blankNext rest
  | '.' :: '.' :: '.' :: rest => blankNext rest
  | _ => false

/-- The text of a scalar so far, and the blanks behind it that may yet belong to it. -/
structure Gathered where
  /-- The text, last character first. -/
  text : List Char := []
  /-- The blanks behind it, last one first. -/
  blanks : List Char := []
  /-- A line has ended since the text. -/
  broken : Bool := false
  /-- The break that ended it, unless it was escaped. -/
  lead : Option Char := none
  /-- The breaks after that one, last one first. -/
  trailing : List Char := []

namespace Gathered

/-- Whether anything stands behind the text. -/
def isPending (g : Gathered) : Bool :=
  g.broken || !g.blanks.isEmpty

/-- Take in a blank; at the start of a line it is dropped. -/
def blank (g : Gathered) (c : Char) : Gathered :=
  if g.broken then g else { g with blanks := c :: g.blanks }

/-- Take in a break. -/
def lineBreak (g : Gathered) (c : Char) : Gathered :=
  if g.broken then { g with trailing := c :: g.trailing }
  else { g with blanks := [], broken := true, lead := some c }

/-- Join what stands behind the text to it. -/
def flush (g : Gathered) : Gathered :=
  { text :=
      if g.broken then
        if g.lead = some '\n' then
          if g.trailing.isEmpty then ' ' :: g.text else g.trailing ++ g.text
        else g.trailing ++ g.lead.toList ++ g.text
      else g.blanks ++ g.text }

/-- Take in a character of the text. -/
def push (g : Gathered) (c : Char) : Gathered :=
  let f := g.flush
  { f with text := c :: f.text }

/-- The end of a line that is escaped. -/
def escapedBreak (g : Gathered) : Gathered :=
  { g.flush with broken := true }

end Gathered

/-- Whether an unquoted scalar may not go on with this character. -/
def endsPlain (flow : Bool) (c : Char) (rest : List Char) : Bool :=
  (c == ':' && blankNext rest) ||
    (flow && (c == ',' || c == '[' || c == ']' || c == '\x7b' || c == '\x7d'))

/-- A colon before an indicator, which is refused inside brackets. -/
def isStrayColon (flow : Bool) (c : Char) (rest : List Char) : Bool :=
  flow && c == ':' && match rest with
    | d :: _ => d == ',' || d == '?' || d == '[' || d == ']' || d == '\x7b' || d == '\x7d'
    | [] => false

/-- Gather an unquoted scalar. `indent` is the least column of its lines. -/
def plain? (flow : Bool) (indent : Int) (g : Gathered) (m : Mark) :
    List Char → Option (Gathered × Mark × List Char)
  | [] => some (g, m, [])
  | c :: rest =>
    if isSpace c then
      if g.broken && m.column < indent && c == '\t' then none
      else plain? flow indent (g.blank c) (m.past c) rest
    else if isBreak c then plain? flow indent (g.lineBreak c) (m.past c) rest
    else if g.isPending && ((!flow && m.column < indent) || c == '#') then some (g, m, c :: rest)
    else if m.column == 0 && isDocumentMarker (c :: rest) then some (g, m, c :: rest)
    else if isStrayColon flow c rest then none
    else if endsPlain flow c rest then some (g, m, c :: rest)
    else plain? flow indent (g.push c) (m.past c) rest

/-- What a letter behind a backslash stands for. -/
def escape? : Char → Option Char
  | '0' => some '\x00'
  | 'a' => some '\x07'
  | 'b' => some '\x08'
  | 't' => some '\t'
  | '\t' => some '\t'
  | 'n' => some '\n'
  | 'v' => some '\x0b'
  | 'f' => some '\x0c'
  | 'r' => some '\r'
  | 'e' => some '\x1b'
  | ' ' => some ' '
  | '"' => some '"'
  | '/' => some '/'
  | '\\' => some '\\'
  | 'N' => some '\u0085'
  | '_' => some '\u00a0'
  | 'L' => some '\u2028'
  | 'P' => some '\u2029'
  | _ => none

/-- The character that hexadecimal digits spell; surrogates are none. -/
def codePoint? (digits : List Char) : Option Char :=
  (Decimal.digitsValue? 16 digits).bind fun n =>
    if n < 0xD800 ∨ (0xE000 ≤ n ∧ n < 0x110000) then some (Char.ofNat n) else none

/-- Gather a scalar in single quotes, up to its closing quote. -/
def singleQuoted? (g : Gathered) (m : Mark) : List Char → Option (Gathered × Mark × List Char)
  | [] => none
  | '\'' :: '\'' :: rest => singleQuoted? (g.push '\'') (m.forward 2) rest
  | '\'' :: rest => some (g.flush, m.forward 1, rest)
  | c :: rest =>
    if isSpace c then singleQuoted? (g.blank c) (m.past c) rest
    else if isBreak c then singleQuoted? (g.lineBreak c) (m.past c) rest
    else if m.column == 0 && isDocumentMarker (c :: rest) then none
    else singleQuoted? (g.push c) (m.past c) rest

/-- Gather a scalar in double quotes, up to its closing quote. -/
def doubleQuoted? (g : Gathered) (m : Mark) : List Char → Option (Gathered × Mark × List Char)
  | [] => none
  | '"' :: rest => some (g.flush, m.forward 1, rest)
  | '\\' :: 'x' :: a :: b :: rest =>
    (codePoint? [a, b]).bind fun c => doubleQuoted? (g.push c) (m.forward 4) rest
  | '\\' :: 'u' :: a :: b :: c :: d :: rest =>
    (codePoint? [a, b, c, d]).bind fun c => doubleQuoted? (g.push c) (m.forward 6) rest
  | '\\' :: 'U' :: a :: b :: c :: d :: a' :: b' :: c' :: d' :: rest =>
    (codePoint? [a, b, c, d, a', b', c', d']).bind fun c =>
      doubleQuoted? (g.push c) (m.forward 10) rest
  | '\\' :: e :: rest =>
    if isBreak e then doubleQuoted? g.escapedBreak ((m.forward 1).past e) rest
    else (escape? e).bind fun c => doubleQuoted? (g.push c) (m.forward 2) rest
  | c :: rest =>
    if isSpace c then doubleQuoted? (g.blank c) (m.past c) rest
    else if isBreak c then doubleQuoted? (g.lineBreak c) (m.past c) rest
    else if c == '\\' then none
    else if m.column == 0 && isDocumentMarker (c :: rest) then none
    else doubleQuoted? (g.push c) (m.past c) rest

end Yaml

end Detour
