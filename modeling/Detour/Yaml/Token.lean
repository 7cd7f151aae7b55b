import Detour.Yaml.Scalar
/-!
# YAML: tokens

The tokens of a text. Indentation opens and closes block lists and block maps. A key is recognised by
the colon behind it: until that comes, the scanner remembers where the key would begin, and then puts
a `key` token there. A key on a line of its own must be followed by its colon on that line, within 1024
bytes. A question mark announces a key of any kind. A byte order mark may start a line; it takes up a
column.

Anchors, tags, directives and block scalars are refused.
-/

namespace Detour

namespace Yaml

/-- The tokens of a text. -/
inductive Token where
  | documentStart
  | documentEnd
  | listStart
  | mapStart
  | blockEnd
  | flowListStart
  | flowListEnd
  | flowMapStart
  | flowMapEnd
  | blockEntry
  | flowEntry
  | key
  | value
  | scalar (unquoted : Bool) (text : String)
deriving DecidableEq, Repr

/-- A place where a key may have begun. -/
structure Candidate where
  /-- It cannot be anything else. -/
  required : Bool
  /-- How many tokens stand before it. -/
  number : Nat
  mark : Mark
deriving Repr

/-- The state of the scanner. -/
structure Scanner where
  rest : List Char
  mark : Mark := ⟨0, 0, 0⟩
  /-- The column of the innermost block collection. -/
  indent : Int := -1
  /-- The columns of the collections around it. -/
  outer : List Int := []
  /-- How many brackets are open. -/
  flow : Nat := 0
  /-- Where a key may have begun inside the innermost brackets. -/
  candidate : Option Candidate := none
  /-- The same for the brackets around them. -/
  candidates : List (Option Candidate) := []
  /-- Whether a key may begin here. -/
  keyAllowed : Bool := true
  /-- The tokens so far, last one first. -/
  tokens : List Token := []
  /-- How many tokens there are. -/
  size : Nat := 0

namespace Scanner

/-- Emit a token; the newest one stands first. -/
def emit (s : Scanner) (t : Token) : Scanner :=
  { s with tokens := t :: s.tokens, size := s.size + 1 }

/-- Put a token where so many stand before it. -/
def emitAt (s : Scanner) (number : Nat) (t : Token) : Scanner :=
  { s with tokens := s.tokens.insertIdx (s.size - number) t, size := s.size + 1 }

/-- Go on by so many ASCII characters of the same line. -/
def advance (s : Scanner) (n : Nat) : Scanner :=
  { s with rest := s.rest.drop n, mark := s.mark.forward n }

/-- Go over blanks, comments, the ends of lines, and byte order marks at the start of lines. -/
def skipBlanks (flow keyAllowed : Bool) (comment : Bool) (m : Mark) :
    List Char → Bool × Mark × List Char
  | [] => (keyAllowed, m, [])
  | c :: rest =>
    if isBreak c then skipBlanks flow (keyAllowed || !flow) false (m.past c) rest
    else if comment || c == ' ' || (c == '\t' && (flow || !keyAllowed)) ||
        (c == '\ufeff' && m.column == 0) then
      skipBlanks flow keyAllowed comment (m.past c) rest
    else if c == '#' then skipBlanks flow keyAllowed true (m.past c) rest
    else (keyAllowed, m, c :: rest)

/-- Move to the next token. -/
def toNextToken (s : Scanner) : Scanner :=
  let (keyAllowed, mark, rest) := skipBlanks (s.flow != 0) s.keyAllowed false s.mark s.rest
  { s with keyAllowed := keyAllowed, mark := mark, rest := rest }

/-- Whether a candidate is too far away for a key: it is on another line, or more than 1024 bytes
back. -/
def isStale (s : Scanner) (c : Candidate) : Bool :=
  c.mark.line < s.mark.line || c.mark.index + 1024 < s.mark.index

/-- Drop a candidate that has become stale; none if it had to be a key. -/
def dropIfStale? (s : Scanner) : Option Candidate → Option (Option Candidate)
  | some c => if s.isStale c then (if c.required then none else some none) else some (some c)
  | none => some none

/-- Drop the candidates that have become stale. -/
def dropStale? (s : Scanner) : Option Scanner := do
  let candidate ← s.dropIfStale? s.candidate
  let candidates ← s.candidates.mapM s.dropIfStale?
  return { s with candidate := candidate, candidates := candidates }

/-- Drop the candidate of the innermost brackets; none if it had to be a key. -/
def dropCandidate? (s : Scanner) : Option Scanner :=
  match s.candidate with
  | some c => if c.required then none else some { s with candidate := none }
  | none => some s

/-- Remember this place as one where a key may begin. -/
def saveCandidate? (s : Scanner) : Option Scanner :=
  if s.keyAllowed then
    s.dropCandidate?.map fun s =>
      { s with candidate := some {
          required := s.flow == 0 && s.indent == s.mark.column
          number := s.size
          mark := s.mark } }
  else some s

/-- Close the block collections that are indented deeper than a column. -/
def unroll (column : Int) (s : Scanner) : Nat → Scanner
  | 0 => s
  | fuel + 1 =>
    if s.flow == 0 && column < s.indent then
      let s := s.emit .blockEnd
      unroll column { s with indent := s.outer.head?.getD (-1), outer := s.outer.tail } fuel
    else s

/-- Close the block collections that are indented deeper than a column. -/
def closeTo (column : Int) (s : Scanner) : Scanner :=
  s.unroll column (s.outer.length + 1)

/-- Open a block collection at a column, unless one is open there. -/
def openAt (s : Scanner) (column : Nat) (number : Nat) (t : Token) : Scanner :=
  if s.flow == 0 && s.indent < column then
    ({ s with outer := s.indent :: s.outer, indent := column }).emitAt number t
  else s

/-- A marker between documents. -/
def documentMarker? (s : Scanner) (t : Token) : Option Scanner :=
  (s.closeTo (-1)).dropCandidate?.map fun s =>
    ({ s with keyAllowed := false }.emit t).advance 3

/-- An opening bracket. -/
def openFlow? (s : Scanner) (t : Token) : Option Scanner :=
  s.saveCandidate?.map fun s =>
    ({ s with
        flow := s.flow + 1
        candidates := s.candidate :: s.candidates
        candidate := none
        keyAllowed := true }.emit t).advance 1

/-- A closing bracket. -/
def closeFlow? (s : Scanner) (t : Token) : Option Scanner :=
  s.dropCandidate?.map fun s =>
    let s := if s.flow == 0 then s
      else { s with
        flow := s.flow - 1
        candidate := s.candidates.head?.getD none
        candidates := s.candidates.tail }
    ({ s with keyAllowed := false }.emit t).advance 1

/-- A comma. -/
def flowEntry? (s : Scanner) : Option Scanner :=
  s.dropCandidate?.map fun s => ({ s with keyAllowed := true }.emit .flowEntry).advance 1

/-- A dash before an element. -/
def blockEntry? (s : Scanner) : Option Scanner :=
  if s.flow == 0 && !s.keyAllowed then none
  else
    (s.openAt s.mark.column s.size .listStart).dropCandidate?.map fun s =>
      ({ s with keyAllowed := true }.emit .blockEntry).advance 1

/-- A question mark before a key. -/
def key? (s : Scanner) : Option Scanner :=
  if s.flow == 0 && !s.keyAllowed then none
  else
    (s.openAt s.mark.column s.size .mapStart).dropCandidate?.map fun s =>
      ({ s with keyAllowed := s.flow == 0 }.emit .key).advance 1

/-- A colon before a value. -/
def value? (s : Scanner) : Option Scanner :=
  match s.candidate with
  | some c =>
    let s := ({ s with candidate := none, keyAllowed := false }).emitAt c.number .key
    some (((s.openAt c.mark.column c.number .mapStart).emit .value).advance 1)
  | none =>
    if s.flow == 0 && !s.keyAllowed then none
    else
      let s := s.openAt s.mark.column s.size .mapStart
      some (({ s with keyAllowed := s.flow == 0 }.emit .value).advance 1)

/-- Take in a scalar that has been gathered. -/
def finish (s : Scanner) (unquoted : Bool) (r : Gathered × Mark × List Char) : Scanner :=
  let (g, m, rest) := r
  { s.emit (.scalar unquoted (String.ofList g.text.reverse)) with
    rest := rest
    mark := m
    keyAllowed := unquoted && g.broken }

/-- A scalar in quotes. -/
def quoted? (s : Scanner)
    (gather : Gathered → Mark → List Char → Option (Gathered × Mark × List Char)) :
    Option Scanner :=
  s.saveCandidate?.bind fun s =>
    (gather {} (s.mark.forward 1) (s.rest.drop 1)).map (s.finish false)

/-- An unquoted scalar. -/
def unquoted? (s : Scanner) : Option Scanner :=
  s.saveCandidate?.bind fun s =>
    (plain? (s.flow != 0) (s.indent + 1) {} s.mark s.rest).map (s.finish true)

/-- Whether a character is an indicator, with which no unquoted scalar begins. -/
def isIndicator (c : Char) : Bool :=
  "-?:,[]\x7b\x7d#&*!|>'\"%@`".toList.contains c

/-- Whether an unquoted scalar begins here. -/
def startsPlain (s : Scanner) (c : Char) (rest : List Char) : Bool :=
  (!isIndicator c && !isSpace c) ||
    (c == '-' && !(match rest with | d :: _ => isSpace d | [] => false)) ||
    (s.flow == 0 && (c == '?' || c == ':') && !blankNext rest)

/-- Scan one token, at the place of which the scanner stands. -/
def token? (s : Scanner) (c : Char) (rest : List Char) : Option Scanner :=
  if s.mark.column == 0 && c == '%' then none
  else if s.mark.column == 0 && isDocumentMarker (c :: rest) then
    s.documentMarker? (if c == '-' then .documentStart else .documentEnd)
  else if c == '[' then s.openFlow? .flowListStart
  else if c == '\x7b' then s.openFlow? .flowMapStart
  else if c == ']' then s.closeFlow? .flowListEnd
  else if c == '\x7d' then s.closeFlow? .flowMapEnd
  else if c == ',' then s.flowEntry?
  else if c == '-' && blankNext rest then s.blockEntry?
  else if c == '?' && (s.flow != 0 || blankNext rest) then s.key?
  else if c == ':' && (s.flow != 0 || blankNext rest) then s.value?
  else if c == '\'' then s.quoted? singleQuoted?
  else if c == '"' then s.quoted? doubleQuoted?
  else if s.startsPlain c rest then s.unquoted?
  else none

/-- Scan the rest of the text. -/
def run? : Nat → Scanner → Option (List Token)
  | 0, _ => none
  | fuel + 1, s =>
    match s.toNextToken.dropStale? with
    | none => none
    | some s =>
      let s := s.closeTo s.mark.column
      match s.rest with
      | [] => (s.closeTo (-1)).dropCandidate?.map fun s => s.tokens.reverse
      | c :: rest =>
        match s.token? c rest with
        | none => none
        | some s => run? fuel s

end Scanner

/-- Whether a character may stand in a text at all. -/
def isPrintable (c : Char) : Bool :=
  let n := c.toNat
  n == 9 || n == 10 || n == 13 || (0x20 ≤ n && n ≤ 0x7E) || n == 0x85 ||
    (0xA0 ≤ n && n ≤ 0xFFFD) || 0x10000 ≤ n

/-- Bring the ends of lines to `\n`. -/
def unifyBreaks : List Char → List Char
  | [] => []
  | '\r' :: '\n' :: rest => '\n' :: unifyBreaks rest
  | c :: rest => (if c = '\r' ∨ c = '\u0085' then '\n' else c) :: unifyBreaks rest

/-- The tokens of a text. -/
def tokens? (text : String) : Option (List Token) :=
  let cs := text.toList
  if cs.all isPrintable then
    let cs := unifyBreaks cs
    Scanner.run? (cs.length + 1) { rest := cs }
  else none

end Yaml

end Detour
