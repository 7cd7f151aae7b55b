/-!
# Shell: patterns

A pattern is a list of characters, some of which are quoted and stand for themselves. Unquoted, a star
matches any text, a question mark any character, and brackets any character that they list.
-/

namespace Detour

namespace Shell

/-- A pattern: characters, and whether they are quoted. -/
abbrev Pattern := List (Char × Bool)

namespace Pattern

/-- The pattern that matches a text only. -/
def ofText (cs : List Char) : Pattern :=
  cs.map fun c => (c, true)

/-- Whether a pattern matches more than one text. -/
def isActive (p : Pattern) : Bool :=
  p.any fun (c, quoted) => !quoted && (c = '*' || c = '?' || c = '[')

/-- The classes of characters that brackets may name. -/
def classes : List (String × (Char → Bool)) :=
  [("alpha", Char.isAlpha), ("digit", Char.isDigit), ("alnum", Char.isAlphanum),
    ("upper", Char.isUpper), ("lower", Char.isLower),
    ("space", fun c => c = ' ' || (9 ≤ c.toNat && c.toNat ≤ 13)),
    ("blank", fun c => c = ' ' || c = '\t'),
    ("punct", fun c => 33 ≤ c.toNat && c.toNat ≤ 126 && !c.isAlphanum),
    ("cntrl", fun c => c.toNat < 32 || c.toNat = 127),
    ("print", fun c => 32 ≤ c.toNat && c.toNat ≤ 126),
    ("graph", fun c => 33 ≤ c.toNat && c.toNat ≤ 126),
    ("xdigit", fun c => c.isDigit || ('a' ≤ c && c ≤ 'f') || ('A' ≤ c && c ≤ 'F'))]

/-- The class whose name is at the start of a pattern, in front of `:]`. -/
def className? (p : Pattern) : Option ((Char → Bool) × Pattern) :=
  classes.findSome? fun (name, holds) =>
    let spelt := (name ++ ":]").toList
    if spelt.isPrefixOf (p.map Prod.fst) then some (holds, p.drop spelt.length) else none

/-- The characters that brackets list, up to the closing one, and the pattern behind it. -/
def listed? : Nat → Bool → Pattern → Option ((Char → Bool) × Pattern)
  | 0, _, _ => none
  | _ + 1, _, [] => none
  | fuel + 1, isFirst, (c, quoted) :: p =>
    if c = ']' && !quoted && !isFirst then some (fun _ => false, p)
    else
      let more (holds : Char → Bool) (p : Pattern) :=
        (listed? fuel false p).map fun (others, rest) => (fun d => holds d || others d, rest)
      match c, p with
      | '[', (':', false) :: q =>
        match className? q with
        | some (holds, rest) => more holds rest
        | none => more (· = '[') p
      | c, ('-', false) :: (d, _) :: q =>
        if d = ']' then more (· = c) p else more (fun e => c ≤ e && e ≤ d) q
      | c, p => more (· = c) p

/-- What brackets match, by the pattern behind the opening one. -/
def bracket? (p : Pattern) : Option ((Char → Bool) × Pattern) :=
  match p with
  | ('!', false) :: q | ('^', false) :: q =>
    (listed? (q.length + 1) true q).map fun (holds, rest) => (fun c => !holds c, rest)
  | p => listed? (p.length + 1) true p

/-- Whether a pattern matches a text; the number bounds the steps. -/
def matchesWithin : Nat → Pattern → List Char → Bool
  | 0, _, _ => false
  | _ + 1, [], s => s.isEmpty
  | fuel + 1, (c, quoted) :: p, s =>
    let here (d : Char) (s : List Char) := c = d && matchesWithin fuel p s
    if quoted then
      match s with
      | d :: s => here d s
      | [] => false
    else if c = '*' then
      matchesWithin fuel p s ||
        match s with
        | _ :: s => matchesWithin fuel ((c, quoted) :: p) s
        | [] => false
    else
      match s with
      | [] => false
      | d :: s =>
        if c = '?' then matchesWithin fuel p s
        else if c = '[' then
          match bracket? p with
          | some (holds, rest) => holds d && matchesWithin fuel rest s
          | none => here d s
        else here d s

/-- Whether a pattern matches a text. -/
def accepts (p : Pattern) (s : List Char) : Bool :=
  matchesWithin (p.length + s.length + 1) p s

/-- The text without the shortest or the longest start that a pattern matches. -/
def dropStart (p : Pattern) (longest : Bool) (s : List Char) : List Char :=
  let lengths := List.range (s.length + 1)
  match (if longest then lengths.reverse else lengths).find? fun n => p.accepts (s.take n) with
  | some n => s.drop n
  | none => s

/-- The text without the shortest or the longest end that a pattern matches. -/
def dropEnd (p : Pattern) (longest : Bool) (s : List Char) : List Char :=
  let lengths := List.range (s.length + 1)
  match (if longest then lengths else lengths.reverse).find? fun n => p.accepts (s.drop n) with
  | some n => s.take n
  | none => s

end Pattern

end Shell

end Detour
