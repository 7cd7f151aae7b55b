import Detour.Shell.Command
import Detour.Text.Search
/-!
# Shell: tokens

A script is read token by token: words, operators and line ends. A backslash at the end of a line
joins it with the next one. A word that is reserved counts as such only where a command may start, so
the reader of commands decides on it.
-/

namespace Detour

namespace Shell

/-- The words and operators of a script. -/
inductive Token where
  /-- The end of the script. -/
  | finish
  | newline
  | operator (text : String)
  | reserved (text : String)
  | word (w : Word)
  /-- A redirection of a stream; `indented` says that tabs in front of a text do not count. -/
  | redirect (stream : Nat) (kind : RedirectKind) (indented : Bool)

/-- How messages name a token. -/
def Token.name : Token → String
  | finish => "end of file"
  | newline => "newline"
  | operator text | reserved text => "\"" ++ text ++ "\""
  | word _ => "word"
  | redirect _ _ _ => "redirection"

/-- The words with a meaning of their own where a command may start. -/
def reservedWords : List String :=
  ["!", "case", "do", "done", "elif", "else", "esac", "fi", "for", "if", "in", "then", "until",
    "while", "\x7b", "\x7d"]

/-- The commands whose errors end a script. -/
def specialCommands : List String :=
  [".", ":", "break", "continue", "eval", "exec", "exit", "export", "local", "readonly", "return", "set",
    "shift", "times", "trap", "unset"]

/-- Whether a list of commands ends at a token. -/
def Token.endsList : Token → Bool
  | finish => true
  | operator text => text = ")" || text = ";;"
  | reserved text =>
    ["do", "done", "elif", "else", "esac", "fi", "then", "\x7d"].contains text
  | _ => false

/-- Whether a token is an operator or a reserved word. -/
def Token.isText (text : String) : Token → Bool
  | operator t | reserved t => t = text
  | _ => false

/-- A token with a reserved word told from others. -/
def Token.reserve : Token → Token
  | word w =>
    match w.plain? with
    | some cs => if reservedWords.contains (String.ofList cs) then reserved (String.ofList cs) else word w
    | none => word w
  | t => t

/-- The causes for which a script cannot be read. -/
inductive SyntaxError where
  | unexpected (found : String) (expected : Option String)
  | openQuote
  | openBrace
  | openArithmetic
  | openSubstitution
  | loopVariable
  | functionName
deriving DecidableEq, Repr

/-- The message of an error. -/
def SyntaxError.message : SyntaxError → String
  | unexpected found none => s!"{found} unexpected"
  | unexpected found (some expected) => s!"{found} unexpected (expecting {expected})"
  | openQuote => "Unterminated quoted string"
  | openBrace => "Missing \x27\x7d\x27"
  | openArithmetic => "Missing \x27))\x27"
  | openSubstitution => "EOF in backquote substitution"
  | loopVariable => "Bad for loop variable"
  | functionName => "Bad function name"

/-- What remains of a script. -/
structure Source where
  rest : List Char
  /-- The number of the line that is being read. -/
  line : Nat := 1
  /-- The lines that have been taken out behind the current one. -/
  taken : Nat := 0
  /-- A token that has been put back. -/
  pushed : Option Token := none

/-- A reader of scripts. An error comes with the line it is in. -/
abbrev Reader (α : Type) := StateT Source (Except (Nat × SyntaxError)) α

namespace Reader

/-- Fail in the line that is being read. -/
def fail {α : Type} (e : SyntaxError) : Reader α := do
  throw ((← get).line, e)

/-- Fail at a token, in the place of which another one is expected. -/
def unexpected {α : Type} (t : Token) (expected : Option String) : Reader α :=
  fail (.unexpected t.name expected)

/-- Drop the joints of lines at the start of a text, and count them. -/
def dropJoints : List Char → Nat × List Char
  | '\\' :: '\n' :: rest => ((dropJoints rest).1 + 1, (dropJoints rest).2)
  | cs => (0, cs)

/-- The next character, which stays where it is. -/
def peek? : Reader (Option Char) := do
  let s ← get
  let (n, rest) := dropJoints s.rest
  set { s with rest := rest, line := s.line + n }
  pure rest.head?

/-- Pass over one character. -/
def advance : Reader Unit :=
  modify fun s =>
    match s.rest with
    | '\n' :: rest => { s with rest := rest, line := s.line + 1 + s.taken, taken := 0 }
    | _ :: rest => { s with rest := rest }
    | [] => s

/-- Take the next character, whatever it is. -/
def take? : Reader (Option Char) := do
  let c := (← get).rest.head?
  advance
  pure c

/-- Pass over a character if it is the next one. -/
def accept (c : Char) : Reader Bool := do
  if (← peek?) = some c then
    advance
    pure true
  else pure false

/-- Take characters as long as they satisfy `p`; the number bounds how many. -/
def takeWhile (p : Char → Bool) : Nat → Reader (List Char)
  | 0 => pure []
  | fuel + 1 => do
    match ← peek? with
    | some c =>
      if p c then
        advance
        pure (c :: (← takeWhile p fuel))
      else pure []
    | none => pure []

/-- Put a token back. -/
def putBack (t : Token) : Reader Unit :=
  modify fun s => { s with pushed := some t }

end Reader

/-- Whether a name may start with a character. -/
def isNameStart (c : Char) : Bool :=
  c.isAlpha || c = '_'

/-- Whether a name may go on with a character. -/
def isNameChar (c : Char) : Bool :=
  isNameStart c || c.isDigit

/-- Whether characters spell a name. -/
def isName : List Char → Bool
  | [] => false
  | c :: rest => isNameStart c && rest.all isNameChar

/-- The parameters that the shell sets itself. -/
def isSpecial (c : Char) : Bool :=
  ['!', '#', '$', '*', '-', '?', '@'].contains c || c.isDigit

end Shell

end Detour
