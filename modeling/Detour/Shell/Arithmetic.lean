import Detour.Number.Decimal
/-!
# Shell: arithmetic

Expressions on integers of 64 bits, which wrap. They are read by precedence and computed from left to
right; the operands that a condition leaves out are not computed, so they assign nothing and fail
in nothing.
-/

namespace Detour

namespace Shell

/-- The operators between two integers. -/
inductive BinaryOperator where
  | or | xor | and | eq | ne | le | ge | lt | gt | shiftLeft | shiftRight | add | sub | mul | rem | div
deriving DecidableEq, Repr

/-- An expression. -/
inductive Expression where
  | number (n : Int64)
  | variable (name : String)
  | negate (e : Expression)
  | complement (e : Expression)
  | isZero (e : Expression)
  | binary (op : BinaryOperator) (a b : Expression)
  | both (a b : Expression)
  | either (a b : Expression)
  | choose (condition yes no : Expression)
  | assign (name : String) (op : Option BinaryOperator) (e : Expression)

/-- The causes for which an expression has no value. -/
inductive ArithmeticError where
  | expecting (what : String)
  | divisionByZero
  | illegalNumber (text : String)
deriving DecidableEq, Repr

/-- The message of an error in an expression. -/
def ArithmeticError.message (expression : String) : ArithmeticError → String
  | expecting what => s!"arithmetic expression: expecting {what}: \"{expression}\""
  | divisionByZero => s!"arithmetic expression: division by zero: \"{expression}\""
  | illegalNumber text => s!"Illegal number: {text}"

namespace Arithmetic

/-- Whether a character is blank. -/
def isSpace (c : Char) : Bool :=
  c = ' ' || (9 ≤ c.toNat && c.toNat ≤ 13)

/-- The digits of a radix at the start of a text, as a number, and what follows them. -/
def digits (radix : Nat) (cs : List Char) : Nat × List Char :=
  let isDigit (c : Char) := (Decimal.digit? c).any (· < radix)
  ((Decimal.appendDigits? radix 0 (cs.takeWhile isDigit)).getD 0, cs.dropWhile isDigit)

/-- The number at the start of a text, whose radix its first digits tell, and what follows it. -/
def natural? (cs : List Char) : Option (Nat × List Char) :=
  match cs with
  | '0' :: x :: d :: rest =>
    if (x = 'x' || x = 'X') && (Decimal.digit? d).isSome then some (digits 16 (d :: rest))
    else some (digits 8 cs)
  | '0' :: _ => some (digits 8 cs)
  | c :: _ => if c.isDigit then some (digits 10 cs) else none
  | [] => none

/-- The integer nearest to a number. -/
def clamp (n : Int) : Int64 :=
  if n < Int64.minValue.toInt then Int64.minValue
  else if Int64.maxValue.toInt < n then Int64.maxValue
  else Int64.ofInt n

/-- The number at the start of a text, behind blanks and a sign, and what follows it. -/
def signed? (cs : List Char) : Option (Int × List Char) :=
  match cs.dropWhile isSpace with
  | '-' :: rest => (natural? rest).map fun (n, rest) => (-(n : Int), rest)
  | '+' :: rest => (natural? rest).map fun (n, rest) => ((n : Int), rest)
  | rest => (natural? rest).map fun (n, rest) => ((n : Int), rest)

/-- The integer that a text spells; blanks may surround it, and no text spells zero. -/
def integer? (s : String) : Option Int64 :=
  if s.isEmpty then some 0
  else
    match signed? s.toList with
    | some (n, rest) => if rest.all isSpace then some (clamp n) else none
    | none => none

/-- The tokens of expressions. -/
inductive Token where
  | number (n : Int64)
  | name (s : String)
  | operator (s : String)
deriving DecidableEq, Repr

/-- The operators, a longer one in front of those that start it. -/
def operators : List String :=
  ["<<=", ">>=", "&&", "||", "<<", ">>", "<=", ">=", "==", "!=", "+=", "-=", "*=", "/=", "%=",
    "&=", "|=", "^=", "<", ">", "=", "+", "-", "*", "/", "%", "&", "|", "^", "!", "~", "(", ")",
    "?", ":"]

/-- The tokens of a text; what is no token is an operator without a meaning. -/
def tokens : Nat → List Char → List Token
  | 0, _ => []
  | fuel + 1, cs =>
    match cs.dropWhile isSpace with
    | [] => []
    | c :: rest =>
      match natural? (c :: rest) with
      | some (n, rest) => .number (clamp n) :: tokens fuel rest
      | none =>
        if c.isAlpha || c = '_' then
          let isNameChar (c : Char) := c.isAlphanum || c = '_'
          .name (String.ofList (c :: rest.takeWhile isNameChar)) ::
            tokens fuel (rest.dropWhile isNameChar)
        else
          match operators.find? fun o => o.toList.isPrefixOf (c :: rest) with
          | some o => .operator o :: tokens fuel ((c :: rest).drop o.length)
          | none => [.operator c.toString]

/-- The operators between two integers, and how strongly they bind. -/
def binaryOperators : List (String × BinaryOperator × Nat) :=
  [("|", .or, 1), ("^", .xor, 2), ("&", .and, 3), ("==", .eq, 4), ("!=", .ne, 4), ("<=", .le, 5),
    (">=", .ge, 5), ("<", .lt, 5), (">", .gt, 5), ("<<", .shiftLeft, 6), (">>", .shiftRight, 6),
    ("+", .add, 7), ("-", .sub, 7), ("*", .mul, 8), ("%", .rem, 8), ("/", .div, 8)]

/-- The operator that an assignment applies to the old value. -/
def assignment? (o : String) : Option (Option BinaryOperator) :=
  if o = "=" then some none
  else
    binaryOperators.findSome? fun (s, op, strength) =>
      if s ++ "=" = o && strength ≠ 4 && strength ≠ 5 then some (some op) else none

mutual

/-- Read an assignment or a condition. -/
def readAssignment : Nat → List Token → Except ArithmeticError (Expression × List Token)
  | 0, _ => .error (.expecting "primary")
  | fuel + 1, .name x :: .operator o :: rest =>
    match assignment? o with
    | some op => do
      let (e, rest) ← readAssignment fuel rest
      pure (.assign x op e, rest)
    | none => readCondition fuel (.name x :: .operator o :: rest)
  | fuel + 1, ts => readCondition fuel ts

/-- Read a condition with its two values. -/
def readCondition : Nat → List Token → Except ArithmeticError (Expression × List Token)
  | 0, _ => .error (.expecting "primary")
  | fuel + 1, ts => do
    match ← readEither fuel ts with
    | (c, .operator "?" :: rest) =>
      match ← readAssignment fuel rest with
      | (a, .operator ":" :: rest) =>
        let (b, rest) ← readCondition fuel rest
        pure (.choose c a b, rest)
      | _ => throw (.expecting "\x27:\x27")
    | result => pure result

/-- Read operands of `||`. -/
def readEither : Nat → List Token → Except ArithmeticError (Expression × List Token)
  | 0, _ => .error (.expecting "primary")
  | fuel + 1, ts => do
    match ← readBoth fuel ts with
    | (a, .operator "||" :: rest) =>
      let (b, rest) ← readEither fuel rest
      pure (.either a b, rest)
    | result => pure result

/-- Read operands of `&&`. -/
def readBoth : Nat → List Token → Except ArithmeticError (Expression × List Token)
  | 0, _ => .error (.expecting "primary")
  | fuel + 1, ts => do
    match ← readBinary fuel 1 ts with
    | (a, .operator "&&" :: rest) =>
      let (b, rest) ← readBoth fuel rest
      pure (.both a b, rest)
    | result => pure result

/-- Read operands of operators that bind at least so strongly. -/
def readBinary : Nat → Nat → List Token → Except ArithmeticError (Expression × List Token)
  | 0, _, _ => .error (.expecting "primary")
  | fuel + 1, strength, ts => do
    let (a, rest) ← readPrimary fuel ts
    readOperators fuel strength a rest

/-- Read the operators behind an operand. -/
def readOperators : Nat → Nat → Expression → List Token →
    Except ArithmeticError (Expression × List Token)
  | 0, _, a, ts => .ok (a, ts)
  | fuel + 1, strength, a, .operator o :: rest =>
    match binaryOperators.lookup o with
    | some (op, n) =>
      if strength ≤ n then do
        let (b, rest) ← readBinary fuel (n + 1) rest
        readOperators fuel strength (.binary op a b) rest
      else .ok (a, .operator o :: rest)
    | none => .ok (a, .operator o :: rest)
  | _ + 1, _, a, ts => .ok (a, ts)

/-- Read an operand. -/
def readPrimary : Nat → List Token → Except ArithmeticError (Expression × List Token)
  | 0, _ => .error (.expecting "primary")
  | _ + 1, .number n :: rest => .ok (.number n, rest)
  | _ + 1, .name x :: rest => .ok (.variable x, rest)
  | fuel + 1, .operator "+" :: rest => readPrimary fuel rest
  | fuel + 1, .operator "-" :: rest => do
    let (e, rest) ← readPrimary fuel rest
    pure (.negate e, rest)
  | fuel + 1, .operator "!" :: rest => do
    let (e, rest) ← readPrimary fuel rest
    pure (.isZero e, rest)
  | fuel + 1, .operator "~" :: rest => do
    let (e, rest) ← readPrimary fuel rest
    pure (.complement e, rest)
  | fuel + 1, .operator "(" :: rest => do
    match ← readAssignment fuel rest with
    | (e, .operator ")" :: rest) => pure (e, rest)
    | _ => throw (.expecting "\x27)\x27")
  | _ + 1, _ => .error (.expecting "primary")

end

/-- The expression that a text spells. -/
def read (s : String) : Except ArithmeticError Expression :=
  let ts := tokens (s.length + 1) s.toList
  match readAssignment (16 * (ts.length + 1)) ts with
  | .ok (e, []) => .ok e
  | .ok (_, _ :: _) => .error (.expecting "EOF")
  | .error e => .error e

/-- A truth as an integer. -/
def ofBool (b : Bool) : Int64 :=
  if b then 1 else 0

/-- Apply an operator. -/
def apply (a b : Int64) : BinaryOperator → Except ArithmeticError Int64
  | .or => .ok (a ||| b)
  | .xor => .ok (a ^^^ b)
  | .and => .ok (a &&& b)
  | .eq => .ok (ofBool (a == b))
  | .ne => .ok (ofBool (a != b))
  | .le => .ok (ofBool (a ≤ b))
  | .ge => .ok (ofBool (b ≤ a))
  | .lt => .ok (ofBool (a < b))
  | .gt => .ok (ofBool (b < a))
  | .shiftLeft => .ok (a <<< b)
  | .shiftRight => .ok (a >>> b)
  | .add => .ok (a + b)
  | .sub => .ok (a - b)
  | .mul => .ok (a * b)
  | .rem => if b = 0 then .error .divisionByZero else .ok (a % b)
  | .div => if b = 0 then .error .divisionByZero else .ok (a / b)

/-- The variables that have been assigned, the latest first. -/
abbrev Assigned := List (String × Int64)

/-- The value of a variable, by what has been assigned and by the texts of the others. -/
def valueOf (texts : String → Option String) (name : String) (assigned : Assigned) :
    Except ArithmeticError Int64 :=
  match assigned.lookup name with
  | some n => .ok n
  | none =>
    match texts name with
    | none => .ok 0
    | some s =>
      match integer? s with
      | some n => .ok n
      | none => .error (.illegalNumber s)

/-- Compute an expression. -/
def compute (texts : String → Option String) :
    Expression → StateT Assigned (Except ArithmeticError) Int64
  | .number n => pure n
  | .variable x => do valueOf texts x (← get)
  | .negate e => do pure (-(← compute texts e))
  | .complement e => do pure (~~~(← compute texts e))
  | .isZero e => do pure (ofBool ((← compute texts e) == 0))
  | .binary op a b => do
    let x ← compute texts a
    let y ← compute texts b
    apply x y op
  | .both a b => do
    if (← compute texts a) == 0 then pure 0 else pure (ofBool ((← compute texts b) != 0))
  | .either a b => do
    if (← compute texts a) == 0 then pure (ofBool ((← compute texts b) != 0)) else pure 1
  | .choose c a b => do
    if (← compute texts c) == 0 then compute texts b else compute texts a
  | .assign x op e => do
    let y ← compute texts e
    let z ← match op with
      | none => pure y
      | some op => do apply (← valueOf texts x (← get)) y op
    modify fun assigned => (x, z) :: assigned
    pure z

/-- The value of a text as an expression, and what it assigns. -/
def evaluate (texts : String → Option String) (s : String) :
    Except ArithmeticError (Int64 × Assigned) := do
  let e ← read s
  (compute texts e).run []

end Arithmetic

end Shell

end Detour
