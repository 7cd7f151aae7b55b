import Detour.Number.Decimal
import Detour.Shell.Pattern
/-!
# Shell: regular expressions

A regular expression has a basic and an extended syntax, which differ in the operators that need a
backslash. `ends` lists the places in a text that an expression can reach from a place. `search` finds the
match that starts first, and of those that start there the longest one.
-/

namespace Detour

namespace Shell

/-- The causes for which a text spells no regular expression. -/
inductive RegexError where
  | openBracket
  | openParen
  | closeParen
  | openBrace
  | badBrace
  | trailingBackslash
  | badPreceding
  | badReference
  | badRange
  | badClass
  /-- A class that is not in brackets of its own. -/
  | bareClass
  | invalid
deriving DecidableEq, Repr

/-- The message of an error. -/
def RegexError.message : RegexError → String
  | openBracket => "Unmatched [, [^, [:, [., or [="
  | openParen => "Unmatched ( or \\("
  | closeParen => "Unmatched ) or \\)"
  | openBrace => "Unmatched \\\x7b"
  | badBrace => "Invalid content of \\\x7b\\\x7d"
  | trailingBackslash => "Trailing backslash"
  | badPreceding => "Invalid preceding regular expression"
  | badReference => "Invalid back reference"
  | badRange => "Invalid range end"
  | badClass => "Invalid character class name"
  | bareClass => "character class syntax is [[:space:]], not [:space:]"
  | invalid => "Invalid regular expression"

/-- A condition on what is around a place. -/
inductive Edge where
  | textStart
  | textEnd
  | lineStart
  | lineEnd
  | wordStart
  | wordEnd
  | wordEdge
  | noWordEdge
deriving DecidableEq, Repr

/-- A regular expression. -/
inductive Regex where
  | empty
  | one (holds : Char → Bool)
  | edge (e : Edge)
  | seq (r s : Regex)
  | either (r s : Regex)
  | repeated (least : Nat) (most : Option Nat) (r : Regex)
  | group (number : Nat) (r : Regex)
  /-- What a group has matched, once more; perhaps in the other case. -/
  | again (number : Nat) (foldsCase : Bool)

/-- A place in a text. -/
structure Cursor where
  /-- The character in front of it. -/
  before : Option Char := none
  rest : List Char
  /-- What the groups have matched, latest first. -/
  groups : List (Nat × List Char) := []
deriving DecidableEq, Repr

/-- A match in a text. -/
structure Regex.Match where
  before : List Char
  text : List Char
  groups : List (Nat × List Char)
  after : List Char
deriving Repr

/-- Whether a character belongs to words. -/
def isWordCharacter (c : Char) : Bool :=
  c.isAlphanum || c = '_'

namespace Cursor

/-- Whether a word goes on in front of a place. -/
def wordBefore (s : Cursor) : Bool :=
  s.before.any isWordCharacter

/-- Whether a word goes on behind a place. -/
def wordAfter (s : Cursor) : Bool :=
  s.rest.head?.any isWordCharacter

/-- Whether a condition holds at a place. -/
def satisfies (s : Cursor) : Edge → Bool
  | .textStart => s.before.isNone
  | .textEnd => s.rest.isEmpty
  | .lineStart => s.before.all (· = '\n')
  | .lineEnd => s.rest.head?.all (· = '\n')
  | .wordStart => !s.wordBefore && s.wordAfter
  | .wordEnd => s.wordBefore && !s.wordAfter
  | .wordEdge => s.wordBefore != s.wordAfter
  | .noWordEdge => s.wordBefore == s.wordAfter

/-- The place some characters further on. -/
def skip (s : Cursor) : Nat → Cursor
  | 0 => s
  | n + 1 =>
    match s.rest with
    | c :: rest => skip { s with before := some c, rest := rest } n
    | [] => s

/-- The place behind a text, if that is what follows. -/
def past? (foldsCase : Bool) (text : List Char) (s : Cursor) : Option Cursor :=
  let here := s.rest.take text.length
  let same := if foldsCase then here.map Char.toLower = text.map Char.toLower else here = text
  if same then some (s.skip text.length) else none

/-- What lies between a place and a later one. -/
def upTo (s t : Cursor) : List Char :=
  s.rest.take (s.rest.length - t.rest.length)

end Cursor

namespace Regex

/-! ## Matching -/

/-- The places that steps reach, of which at least and at most so many are taken. Longer ways come first,
and a step that leads nowhere ends the way. -/
def repeatedEnds (step : Cursor → List Cursor) : Nat → Nat → Option Nat → Cursor → List Cursor
  | 0, least, _, s => if least = 0 then [s] else []
  | fuel + 1, least, most, s =>
    let further := if most = some 0 then [] else (step s).eraseDups.flatMap fun t =>
      if t.rest.length < s.rest.length || 0 < least then
        repeatedEnds step fuel (least - 1) (most.map (· - 1)) t
      else []
    (further ++ if least = 0 then [s] else []).eraseDups

/-- The places that an expression can reach from a place. -/
def ends : Regex → Cursor → List Cursor
  | empty, s => [s]
  | one holds, s =>
    match s.rest with
    | c :: _ => if holds c then [s.skip 1] else []
    | [] => []
  | edge e, s => if s.satisfies e then [s] else []
  | seq p q, s => (p.ends s).flatMap q.ends
  | either p q, s => p.ends s ++ q.ends s
  | repeated least most p, s => repeatedEnds p.ends (s.rest.length + least + 1) least most s
  | group n p, s => (p.ends s).map fun t => { t with groups := (n, s.upTo t) :: t.groups }
  | again n foldsCase, s =>
    match s.groups.lookup n with
    | some text => (s.past? foldsCase text).toList
    | none => []

/-- The longest of some ways, and the first one of these. -/
def longest : List Cursor → Option Cursor
  | [] => none
  | s :: rest =>
    match longest rest with
    | some t => if t.rest.length < s.rest.length then some t else some s
    | none => some s

/-- The end of the longest match at a place, of those that are suitable. -/
def endAt? (r : Regex) (suits : Cursor → Cursor → Bool) (s : Cursor) : Option Cursor :=
  longest ((r.ends s).filter (suits s))

/-- The first match in the rest of a text whose end is suitable. What has been passed over is given last
character first. -/
def searchFrom (r : Regex) (suits : Cursor → Cursor → Bool) (passed : List Char) :
    List Char → Option Match
  | [] =>
    (r.endAt? suits { before := passed.head?, rest := [] }).map fun t =>
      ⟨passed.reverse, [], t.groups, []⟩
  | c :: cs =>
    let s : Cursor := { before := passed.head?, rest := c :: cs }
    match r.endAt? suits s with
    | some t => some ⟨passed.reverse, s.upTo t, t.groups, t.rest⟩
    | none => searchFrom r suits (c :: passed) cs

/-- The first and longest match in a text. -/
def search (r : Regex) (text : List Char) : Option Match :=
  r.searchFrom (fun _ _ => true) [] text

/-! ## Syntax -/

/-- How the text of an expression is read. -/
structure Syntax where
  extended : Bool := false
  foldsCase : Bool := false
  /-- Whether anchors hold at the start and the end of every line of a text. -/
  byLine : Bool := false
  /-- Whether an operator without an operand is refused; it is passed over otherwise, or stands for
  itself. -/
  strict : Bool := false
deriving DecidableEq, Repr

/-- The parts of the text of an expression. -/
inductive Part where
  | openParen
  | closeParen
  | bar
  | star
  | plus
  | optional
  | brace
  | caret
  | dollar
  | one (holds : Char → Bool)
  | edge (e : Edge)
  | again (number : Nat)

/-- The operator that a character is when a backslash is in front of it in the basic syntax, and when
none is in the extended one. -/
def operator? : Char → Option Part
  | '(' => some .openParen
  | ')' => some .closeParen
  | '|' => some .bar
  | '+' => some .plus
  | '?' => some .optional
  | '\x7b' => some .brace
  | _ => none

/-- Blanks of all kinds. -/
def isBlankCharacter (c : Char) : Bool :=
  c = ' ' || (9 ≤ c.toNat && c.toNat ≤ 13)

/-- What a character behind a backslash stands for, if not for itself. -/
def escaped? (c : Char) : Option Part :=
  if c = 'w' then some (.one isWordCharacter)
  else if c = 'W' then some (.one fun c => !isWordCharacter c)
  else if c = 's' then some (.one isBlankCharacter)
  else if c = 'S' then some (.one fun c => !isBlankCharacter c)
  else if c = 'b' then some (.edge .wordEdge)
  else if c = 'B' then some (.edge .noWordEdge)
  else if c = '<' then some (.edge .wordStart)
  else if c = '>' then some (.edge .wordEnd)
  else if c = '`' then some (.edge .textStart)
  else if c = '\'' then some (.edge .textEnd)
  else if '1' ≤ c && c ≤ '9' then some (.again (c.toNat - 48))
  else none

/-- The characters that brackets list, up to the closing one, and what follows. -/
def listed : Nat → Bool → List Char → Except RegexError ((Char → Bool) × List Char)
  | 0, _, _ | _, _, [] => .error .openBracket
  | fuel + 1, isFirst, c :: cs =>
    if c = ']' && !isFirst then .ok (fun _ => false, cs)
    else
      let more (holds : Char → Bool) (cs : List Char) := do
        let (others, rest) ← listed fuel false cs
        return (fun d => holds d || others d, rest)
      match c, cs with
      | '[', ':' :: q =>
        let name := q.takeWhile (· ≠ ':')
        match q.drop name.length with
        | ':' :: ']' :: rest =>
          match Pattern.classes.lookup (String.ofList name) with
          | some holds => more holds rest
          | none => .error .badClass
        | _ => if q.contains ']' then more (· = '[') cs else .error .openBracket
      | '[', '.' :: d :: '.' :: ']' :: rest | '[', '=' :: d :: '=' :: ']' :: rest => more (· = d) rest
      | c, '-' :: d :: q =>
        if d = ']' then more (· = c) cs
        else if d < c then .error .badRange
        else more (fun e => c ≤ e && e ≤ d) q
      | c, cs => more (· = c) cs

/-- The condition of the anchor for starts. -/
def Syntax.startEdge (x : Syntax) : Edge :=
  if x.byLine then .lineStart else .textStart

/-- The condition of the anchor for ends. -/
def Syntax.endEdge (x : Syntax) : Edge :=
  if x.byLine then .lineEnd else .textEnd

/-- The characters for which a condition holds, perhaps in the other case. -/
def Syntax.folded (x : Syntax) (holds : Char → Bool) : Char → Bool :=
  if x.foldsCase then fun c => holds c.toLower || holds c.toUpper else holds

/-- What brackets match, by what follows the opening one. -/
def bracket (x : Syntax) (cs : List Char) : Except RegexError ((Char → Bool) × List Char) :=
  match cs with
  | [] | ['^'] => .error .invalid
  | '^' :: cs => do
    let (holds, rest) ← listed (cs.length + 1) true cs
    return (fun c => !x.folded holds c, rest)
  | cs => do
    let (holds, rest) ← listed (cs.length + 1) true cs
    let inside := cs.take (cs.length - rest.length - 1)
    if !x.strict && 1 < inside.length && inside.head? = some ':' && inside.getLast? = some ':' then
      .error .bareClass
    else return (x.folded holds, rest)

/-- The next part of the text of an expression. -/
def part (x : Syntax) : List Char → Except RegexError (Option (Part × List Char))
  | [] => .ok none
  | '\\' :: [] => .error .trailingBackslash
  | '\\' :: c :: cs =>
    let p := if x.extended then escaped? c else (operator? c).orElse fun _ => escaped? c
    .ok (some (p.getD (.one (x.folded (· = c))), cs))
  | '[' :: cs => do
    let (holds, rest) ← bracket x cs
    return some (.one holds, rest)
  | '*' :: cs => .ok (some (.star, cs))
  | '.' :: cs => .ok (some (.one fun _ => true, cs))
  | '^' :: cs => .ok (some (.caret, cs))
  | '$' :: cs => .ok (some (.dollar, cs))
  | c :: cs =>
    let p := if x.extended then operator? c else none
    .ok (some (p.getD (.one (x.folded (· = c))), cs))

/-- The bounds of a repetition behind its brace. -/
structure Bounds where
  least : Nat
  most : Option Nat
  /-- What follows the brace that closes them. -/
  rest : List Char

/-- The bounds of a repetition, if some stand behind its brace. -/
def bounds? (x : Syntax) (cs : List Char) : Option Bounds :=
  let digits (cs : List Char) := (cs.takeWhile Char.isDigit, cs.dropWhile Char.isDigit)
  let closed (cs : List Char) : Option (List Char) :=
    match x.extended, cs with
    | true, '\x7d' :: rest | false, '\\' :: '\x7d' :: rest => some rest
    | _, _ => none
  let (ds, rest) := digits cs
  match rest with
  | ',' :: rest =>
    let (es, rest) := digits rest
    (closed rest).map fun rest =>
      ⟨(Decimal.digitsValue? 10 ds).getD 0, Decimal.digitsValue? 10 es, rest⟩
  | rest =>
    (Decimal.digitsValue? 10 ds).bind fun n => (closed rest).map fun rest => ⟨n, some n, rest⟩

/-- Whether the bounds of a repetition are in the wrong order. -/
def Bounds.areCrossed (b : Bounds) : Bool :=
  b.most.any (· < b.least)

/-- A reading of the text of an expression. -/
structure Reading where
  rest : List Char
  /-- How many groups have been opened. -/
  groups : Nat := 0
  /-- Which groups have been closed. -/
  closed : List Nat := []

/-- Whether nothing of a sequence follows: the end, a bar or the end of a group. -/
def atEnd (x : Syntax) (cs : List Char) : Bool :=
  match part x cs with
  | .ok none | .ok (some (.closeParen, _)) | .ok (some (.bar, _)) => true
  | _ => false

/-- The repetitions behind an expression, one of which may have been read. -/
def repetitions (x : Syntax) : Nat → Bool → Regex → List Char → Except RegexError (Regex × List Char)
  | 0, _, r, cs => .ok (r, cs)
  | fuel + 1, isRepeated, r, cs =>
    let isRefused := isRepeated && x.strict && !x.extended
    let more (r : Regex) (cs : List Char) := repetitions x fuel true r cs
    match part x cs with
    | .ok (some (.star, cs)) =>
      if isRefused then .error .badPreceding else more (.repeated 0 none r) cs
    | .ok (some (.plus, cs)) => more (.repeated 1 none r) cs
    | .ok (some (.optional, cs)) => more (.repeated 0 (some 1) r) cs
    | .ok (some (.brace, after)) =>
      match bounds? x after with
      | some b =>
        if isRefused then .error .badPreceding
        else if b.areCrossed then .error .badBrace
        else more (.repeated b.least b.most r) b.rest
      | none =>
        if x.extended && !x.strict then .ok (r, cs)
        else if after.contains '\x7d' then .error .badBrace
        else .error .openBrace
    | _ => .ok (r, cs)

mutual
/-- Read alternatives, up to the end or the end of the group that they are in. -/
def alternatives (x : Syntax) (inGroup : Bool) : Nat → Reading → Except RegexError (Regex × Reading)
  | 0, _ => .error .openParen
  | fuel + 1, s => do
    let (r, s) ← sequence x inGroup fuel true s
    match part x s.rest with
    | .ok (some (.bar, rest)) =>
      let (q, s) ← alternatives x inGroup fuel { s with rest := rest }
      return (.either r q, s)
    | _ => return (r, s)
/-- Read a sequence; the flag says whether nothing of it has been read. -/
def sequence (x : Syntax) (inGroup : Bool) : Nat → Bool → Reading →
    Except RegexError (Regex × Reading)
  | 0, _, _ => .error .openParen
  | fuel + 1, isFirst, s => do
    let next (isFirst : Bool) (r : Regex) (rest : List Char) (s : Reading) :
        Except RegexError (Regex × Reading) := do
      let (q, s) ← sequence x inGroup fuel isFirst { s with rest := rest }
      return (.seq r q, s)
    let item (r : Regex) (rest : List Char) (s : Reading) : Except RegexError (Regex × Reading) := do
      let (r, rest) ← repetitions x fuel false r rest
      next false r rest s
    let orphan (c : Char) (rest : List Char) : Except RegexError (Regex × Reading) :=
      if !x.extended then item (.one (· = c)) rest s
      else if x.strict then .error .badPreceding
      else next isFirst .empty rest s
    match ← part x s.rest with
    | none => if inGroup then .error .openParen else return (.empty, s)
    | some (.bar, _) => return (.empty, s)
    | some (.closeParen, rest) =>
      if inGroup then return (.empty, s)
      else if x.extended && !x.strict then item (.one (· = ')')) rest s
      else .error .closeParen
    | some (.openParen, rest) =>
      let n := s.groups + 1
      let (r, t) ← alternatives x true fuel { s with rest := rest, groups := n }
      match part x t.rest with
      | .ok (some (.closeParen, rest)) => item (.group n r) rest { t with closed := n :: t.closed }
      | _ => .error .openParen
    | some (.again n, rest) =>
      if s.closed.contains n then item (.again n x.foldsCase) rest s else .error .badReference
    | some (.edge e, rest) => item (.edge e) rest s
    | some (.one holds, rest) => item (.one holds) rest s
    | some (.caret, rest) =>
      if x.extended then item (.edge x.startEdge) rest s
      else if isFirst then next false (.edge x.startEdge) rest s
      else item (.one (· = '^')) rest s
    | some (.dollar, rest) =>
      if x.extended || atEnd x rest then item (.edge x.endEdge) rest s
      else item (.one (· = '$')) rest s
    | some (.star, rest) => orphan '*' rest
    | some (.plus, rest) => orphan '+' rest
    | some (.optional, rest) => orphan '?' rest
    | some (.brace, rest) =>
      match bounds? x rest with
      | some b =>
        if x.strict || !x.extended then .error .badPreceding
        else if b.areCrossed then .error .badBrace
        else next isFirst .empty b.rest s
      | none => if x.strict || !x.extended then .error .badPreceding else item (.one (· = '\x7b')) rest s
end

/-- The expression that a text spells. -/
def ofText (x : Syntax) (cs : List Char) : Except RegexError Regex :=
  (alternatives x false (2 * cs.length + 2) { rest := cs }).map Prod.fst

/-- The expression that matches a text and nothing else. -/
def literal (x : Syntax) : List Char → Regex
  | [] => .empty
  | c :: cs => .seq (.one (x.folded (· = c))) (literal x cs)

end Regex

end Shell

end Detour
