import Detour.Shell.Regex
import Detour.Shell.Utility
/-!
# Shell: expressions of words

`expr` computes the value of an expression whose operators and operands are words. A value is a text,
which arithmetic takes for an integer. The status says whether the value is empty or zero.
-/

namespace Detour

namespace Shell

namespace Utility

open Act

/-- The causes for which words have no value. -/
inductive WordsError where
  | missingBehind (word : String)
  | unexpected (word : String)
  /-- A bracket that closes nothing. -/
  | closing
  | unclosed (word : String)
  | noInteger
  | divisionByZero
  | badPattern (e : RegexError)
deriving DecidableEq, Repr

/-- The message of an error. -/
def WordsError.message : WordsError → String
  | missingBehind word => s!"syntax error: missing argument after {quoted word}"
  | unexpected word => s!"syntax error: unexpected argument {quoted word}"
  | closing => "syntax error: unexpected \x27)\x27"
  | unclosed word => s!"syntax error: expecting \x27)\x27 after {quoted word}"
  | noInteger => "non-integer argument"
  | divisionByZero => "division by zero"
  | badPattern e => e.message

namespace Words

/-- The integer that a text spells. -/
def integer? (s : String) : Option Int :=
  match s.toList with
  | '-' :: ds => (Decimal.digitsValue? 10 ds).map fun n => -(n : Int)
  | ds => (Decimal.digitsValue? 10 ds).map fun n => (n : Int)

/-- Whether a value is empty or zero. -/
def isNull (s : String) : Bool :=
  s.isEmpty || integer? s = some 0

/-- A truth as a value. -/
def ofTruth (b : Bool) : String :=
  if b then "1" else "0"

/-- Compute with integers. -/
def arithmetic (f : Int → Int → Except WordsError Int) (a b : String) : Except WordsError String :=
  match integer? a, integer? b with
  | some m, some n => (f m n).map toString
  | _, _ => .error .noInteger

/-- Compare texts, as integers if both are. -/
def comparison (holds : Ordering → Bool) (a b : String) : Except WordsError String :=
  match integer? a, integer? b with
  | some m, some n => .ok (ofTruth (holds (compare m n)))
  | _, _ => .ok (ofTruth (holds (compare a b)))

/-- Whether an expression has groups. -/
def hasGroup : Regex → Bool
  | .group _ _ => true
  | .seq r s | .either r s => hasGroup r || hasGroup s
  | .repeated _ _ r => hasGroup r
  | _ => false

/-- What the first group of a pattern matches at the start of a text, or how long the match is. -/
def matchStart (s pattern : String) : Except WordsError String :=
  match Regex.ofText {} pattern.toList with
  | .error e => .error (.badPattern e)
  | .ok r =>
    let found := r.searchFrom (fun start _ => start.before.isNone) [] s.toList
    if hasGroup r then .ok (String.ofList ((found.bind fun m => m.groups.lookup 1).getD []))
    else .ok (toString ((found.map fun m => m.text.length).getD 0))

/-- The operators between two values, with how strongly they bind. -/
def operators : List (String × Nat × (String → String → Except WordsError String)) :=
  [("|", 0, fun a b => .ok (if !isNull a then a else if isNull b then "0" else b)),
    ("&", 1, fun a b => .ok (if isNull a || isNull b then "0" else a)),
    ("<", 2, comparison fun o => o == .lt), ("<=", 2, comparison fun o => o != .gt),
    ("=", 2, comparison fun o => o == .eq), ("==", 2, comparison fun o => o == .eq),
    ("!=", 2, comparison fun o => o != .eq), (">=", 2, comparison fun o => o != .lt),
    (">", 2, comparison fun o => o == .gt),
    ("+", 3, arithmetic fun m n => .ok (m + n)), ("-", 3, arithmetic fun m n => .ok (m - n)),
    ("*", 4, arithmetic fun m n => .ok (m * n)),
    ("/", 4, arithmetic fun m n => if n = 0 then .error .divisionByZero else .ok (m.tdiv n)),
    ("%", 4, arithmetic fun m n => if n = 0 then .error .divisionByZero else .ok (m.tmod n)),
    (":", 5, matchStart)]

/-- The part of a text from a character on, of at most so many characters. -/
def substring (s position size : String) : String :=
  match integer? position, integer? size with
  | some p, some n =>
    if p ≤ 0 || n ≤ 0 then "" else String.ofList ((s.toList.drop (p.toNat - 1)).take n.toNat)
  | _, _ => ""

/-- The place of the first character of a text that is one of some. -/
def indexOf (s listed : String) : String :=
  match s.toList.findIdx? listed.toList.contains with
  | some i => toString (i + 1)
  | none => "0"

mutual
/-- The value of words whose operators bind at least so strongly, and the words behind. The latest word
that has been read is given, and whether the value counts: if not, it may have none. -/
def value (counts : Bool) : Nat → Nat → String → List String →
    Except WordsError (String × String × List String)
  | 0, _, last, _ => .error (.missingBehind last)
  | fuel + 1, strength, last, ws => do
    let (a, last, ws) ← operand counts fuel last ws
    behind counts fuel strength a last ws
/-- The value of an operand and of what operators do with it. The second operand does not count if the
first one decides. -/
def behind (counts : Bool) : Nat → Nat → String → String → List String →
    Except WordsError (String × String × List String)
  | 0, _, a, last, ws => .ok (a, last, ws)
  | fuel + 1, strength, a, last, ws =>
    match ws with
    | [] => .ok (a, last, [])
    | w :: rest =>
      match operators.lookup w with
      | none => .ok (a, last, ws)
      | some (s, f) =>
        if s < strength then .ok (a, last, ws)
        else do
          let isOpen := (w ≠ "|" || isNull a) && (w ≠ "&" || !isNull a)
          let (b, last, rest) ← value (counts && isOpen) fuel (s + 1) w rest
          let c ← if counts then f a b else .ok ""
          behind counts fuel strength c last rest
/-- The value of an operand. -/
def operand (counts : Bool) : Nat → String → List String →
    Except WordsError (String × String × List String)
  | 0, last, _ | _, last, [] => .error (.missingBehind last)
  | fuel + 1, _, w :: rest =>
    let one := operand counts fuel
    match w with
    | "+" =>
      match rest with
      | [] => .error (.missingBehind w)
      | v :: rest => .ok (v, v, rest)
    | "length" => do
      let (a, last, rest) ← one w rest
      return (toString a.length, last, rest)
    | "match" => do
      let (a, last, rest) ← one w rest
      let (b, last, rest) ← one last rest
      return (← matchStart a b, last, rest)
    | "index" => do
      let (a, last, rest) ← one w rest
      let (b, last, rest) ← one last rest
      return (indexOf a b, last, rest)
    | "substr" => do
      let (a, last, rest) ← one w rest
      let (b, last, rest) ← one last rest
      let (c, last, rest) ← one last rest
      return (substring a b c, last, rest)
    | "(" => do
      let (a, last, rest) ← value counts fuel 0 w rest
      match rest with
      | ")" :: rest => return (a, ")", rest)
      | _ => .error (.unclosed last)
    | ")" => .error .closing
    | w => .ok (w, w, rest)
end

/-- The value of an expression. -/
def evaluate (ws : List String) : Except WordsError String :=
  match value true (4 * ws.length + 4) 0 "" ws with
  | .error e => .error e
  | .ok (a, _, []) => .ok a
  | .ok (_, _, w :: _) => .error (.unexpected w)

end Words

/-- Put out the value of an expression of words. -/
def expr (ws : List String) : Act Nat := do
  let ws := if ws.head? = some "--" then ws.drop 1 else ws
  if ws.isEmpty then misuse "expr" "missing operand"
  else
    match Words.evaluate ws with
    | .error e =>
      let _ ← complain "expr" e.message
      pure 2
    | .ok a =>
      put (a ++ "\n")
      pure (if Words.isNull a then 1 else 0)

end Utility

end Shell

end Detour
