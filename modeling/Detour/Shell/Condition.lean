import Detour.Files.Basic
import Detour.Shell.Arithmetic
/-!
# Shell: conditions

The conditions of `test`: words that compare texts and numbers, or ask for files, joined by operators. A
word is an operator by where it stands, so that a text which looks like one can be asked for, too.
-/

namespace Detour

namespace Shell

/-- The causes for which a condition has no value. -/
inductive ConditionError where
  | missingBracket
  | unexpectedOperator (word : String)
  | argumentExpected (operator : String)
  | closingParen
  | illegalNumber (text : String)
deriving DecidableEq, Repr

/-- The message of an error. -/
def ConditionError.message : ConditionError → String
  | missingBracket => "missing ]"
  | unexpectedOperator word =>
    if word.isEmpty then "unexpected operator" else s!"{word}: unexpected operator"
  | argumentExpected operator => s!"{operator}: argument expected"
  | closingParen => "closing paren expected"
  | illegalNumber text => s!"Illegal number: {text}"

namespace Condition

/-- The files that conditions ask about. -/
structure View where
  place : String → Option Place
  isRunnable : Location → Bool

/-- How a word counts in a condition. -/
inductive Kind where
  | unary
  | binary
  | and
  | or
  | not
  | openParen
  | closeParen
  | operand
  | finish
deriving DecidableEq, Repr

/-- The operators with one operand. -/
def unaries : List String :=
  ["-r", "-w", "-x", "-e", "-f", "-d", "-c", "-b", "-p", "-u", "-g", "-k", "-s", "-t", "-z", "-n",
    "-h", "-O", "-G", "-L", "-S"]

/-- The operators with two operands. -/
def binaries : List String :=
  ["=", "!=", "<", ">", "-eq", "-ne", "-ge", "-gt", "-le", "-lt", "-nt", "-ot", "-ef"]

/-- The kind of an operator, wherever it stands. -/
def operator? (word : String) : Option Kind :=
  if unaries.contains word then some .unary
  else if binaries.contains word then some .binary
  else
    match word with
    | "-a" => some .and
    | "-o" => some .or
    | "!" => some .not
    | "(" => some .openParen
    | ")" => some .closeParen
    | _ => none

/-- How the first of some words counts. -/
def kind : List String → Kind
  | [] => .finish
  | w :: rest =>
    match operator? w with
    | none => .operand
    | some .unary =>
      match rest with
      | [] => .operand
      | [_] => .unary
      | x :: _ => if operator? x = some .binary then .operand else .unary
    | some .openParen => if rest.isEmpty then .operand else .openParen
    | some k => k

/-- The integer that a word spells. -/
def number (w : String) : Except ConditionError Int :=
  let cs := w.toList.dropWhile Arithmetic.isSpace
  let (sign, ds) : Int × List Char := match cs with
    | '-' :: rest => (-1, rest)
    | '+' :: rest => (1, rest)
    | cs => (1, cs)
  match Decimal.digitsValue? 10 (ds.takeWhile Char.isDigit) with
  | some n =>
    if (ds.dropWhile Char.isDigit).all Arithmetic.isSpace then .ok (sign * n)
    else .error (.illegalNumber w)
  | none => .error (.illegalNumber w)

/-- Compare two words. -/
def compare (v : View) (a op b : String) : Except ConditionError Bool := do
  let numbers (holds : Int → Int → Bool) : Except ConditionError Bool := do
    let x ← number a
    let y ← number b
    pure (holds x y)
  match op with
  | "=" => pure (a == b)
  | "!=" => pure (a != b)
  | "<" => pure (a < b)
  | ">" => pure (b < a)
  | "-eq" => numbers fun x y => x == y
  | "-ne" => numbers fun x y => x != y
  | "-ge" => numbers fun x y => y ≤ x
  | "-gt" => numbers fun x y => y < x
  | "-le" => numbers fun x y => x ≤ y
  | "-lt" => numbers fun x y => x < y
  | "-ef" => pure ((v.place a).isSome && v.place a == v.place b)
  | _ => pure false

/-- Ask for a word, or for the file that it names. -/
def ask (v : View) (op a : String) : Except ConditionError Bool :=
  match op with
  | "-n" => .ok (!a.isEmpty)
  | "-z" => .ok a.isEmpty
  | "-t" => (number a).map fun _ => false
  | _ =>
    .ok <| match v.place a with
      | some (.file l text) =>
        ["-r", "-w", "-e", "-f", "-O", "-G"].contains op || (op = "-s" && !text.isEmpty) ||
          (op = "-x" && v.isRunnable l)
      | some (.folder _) => ["-r", "-w", "-x", "-e", "-d", "-s", "-O", "-G"].contains op
      | _ => false

/-- The value of a condition, and the words from its last one on. -/
abbrev Result := Except ConditionError (Bool × List String)

mutual

/-- Conditions with `-o` between them. -/
def either (v : View) : Nat → Kind → List String → Result
  | 0, _, ws => .ok (false, ws)
  | fuel + 1, k, ws => do
    let (a, ws) ← both v fuel k ws
    if kind ws.tail = .or then
      let ws := ws.drop 2
      let (b, ws) ← either v fuel (kind ws) ws
      pure (a || b, ws)
    else pure (a, ws)

/-- Conditions with `-a` between them. -/
def both (v : View) : Nat → Kind → List String → Result
  | 0, _, ws => .ok (false, ws)
  | fuel + 1, k, ws => do
    let (a, ws) ← negated v fuel k ws
    if kind ws.tail = .and then
      let ws := ws.drop 2
      let (b, ws) ← both v fuel (kind ws) ws
      pure (a && b, ws)
    else pure (a, ws)

/-- A condition behind any number of exclamation marks. -/
def negated (v : View) : Nat → Kind → List String → Result
  | 0, _, ws => .ok (false, ws)
  | fuel + 1, k, ws => do
    if k = .not then
      let next := kind ws.tail
      let (a, ws) ← negated v fuel next (if next = .finish then ws else ws.tail)
      pure (!a, ws)
    else primary v fuel k ws

/-- A condition without operators between conditions. -/
def primary (v : View) : Nat → Kind → List String → Result
  | 0, _, ws => .ok (false, ws)
  | fuel + 1, k, ws =>
    match k, ws with
    | .finish, ws => .ok (false, ws)
    | _, [] => .ok (false, [])
    | .openParen, _ :: rest => do
      if kind rest = .closeParen then pure (false, rest)
      else
        let (a, ws) ← either v fuel (kind rest) rest
        if kind ws.tail = .closeParen then pure (a, ws.tail) else throw .closingParen
    | .unary, op :: rest =>
      match rest with
      | [] => .error (.argumentExpected op)
      | a :: _ => (ask v op a).map fun b => (b, rest)
    | _, a :: rest =>
      match kind rest, rest with
      | .binary, op :: b :: more => (compare v a op b).map fun c => (c, b :: more)
      | .binary, [op] => .error (.argumentExpected op)
      | _, _ => .ok (!a.isEmpty, ws)

end

/-- The words of a condition, without exclamation marks and parentheses that belong to three or four
words as a whole; whether the condition is negated; and how the first word counts. -/
def prepare (negated : Bool) : List String → Bool × Kind × List String
  | [a, op, b] =>
    if operator? op = some .binary then (negated, .operand, [a, op, b])
    else if a = "(" && b = ")" then (negated, kind [op], [op])
    else if a = "!" then (true, kind [op, b], [op, b])
    else (negated, kind [a, op, b], [a, op, b])
  | [a, b, c, d] =>
    if a = "(" && d = ")" then (negated, kind [b, c], [b, c])
    else if a = "!" then prepare true [b, c, d]
    else (negated, kind [a, b, c, d], [a, b, c, d])
  | ws => (negated, kind ws, ws)

/-- Whether the condition that words spell holds. -/
def holds (v : View) (ws : List String) : Except ConditionError Bool := do
  let (isNegated, k, ws) := prepare false ws
  match ← either v (4 * ws.length + 4) k ws with
  | (_, w :: _ :: _) => throw (.unexpectedOperator w)
  | (a, _) => pure (a != isNegated)

end Condition

end Shell

end Detour
