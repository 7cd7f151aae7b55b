import Detour.Shell.Regex
/-!
# Shell: scripts that edit lines

A script of `sed` is a list of commands, each for the lines that its addresses select. `Edit.program`
reads one from its text. Blocks and labels become numbers of commands, so that a program is run by going
from one number to another.
-/

namespace Detour

namespace Shell

namespace Edit

/-- The causes for which a script is refused. -/
inductive ScriptError where
  | unterminated (command : Char)
  | unterminatedAddress
  | unknownOption
  | repeatedOption (letter : Char)
  | repeatedNumber
  | zeroNumber
  | unknownCommand (c : Char)
  | extraCharacters
  | unmatchedOpening
  | unexpectedClosing
  | unexpectedComma
  | missingCommand
  | unequalLists
  | noLabel
  | addressOf (c : Char)
  | regex (e : RegexError)
  | badReference (n : Nat)
  | textExpected
  | missingFile
  | repeatedNegation
  | zeroAddress
  | relativeAddress
  | oneAddress
  | noPrevious
deriving DecidableEq, Repr

/-- The message of an error. -/
def ScriptError.message : ScriptError → String
  | unterminated c => s!"unterminated `{c}\x27 command"
  | unterminatedAddress => "unterminated address regex"
  | unknownOption => "unknown option to `s\x27"
  | repeatedOption c => s!"multiple `{c}\x27 options to `s\x27 command"
  | repeatedNumber => "multiple number options to `s\x27 command"
  | zeroNumber => "number option to `s\x27 command may not be zero"
  | unknownCommand c => s!"unknown command: `{c}\x27"
  | extraCharacters => "extra characters after command"
  | unmatchedOpening => "unmatched `\x7b\x27"
  | unexpectedClosing => "unexpected `\x7d\x27"
  | unexpectedComma => "unexpected `,\x27"
  | missingCommand => "missing command"
  | unequalLists => "strings for `y\x27 command are different lengths"
  | noLabel => "\":\" lacks a label"
  | addressOf c => s!"{c} doesn\x27t want any addresses"
  | regex e => e.message
  | badReference n => s!"invalid reference \\{n} on `s\x27 command\x27s RHS"
  | textExpected => "expected \\ after `a\x27, `c\x27 or `i\x27"
  | missingFile => "missing filename in r/R/w/W commands"
  | repeatedNegation => "multiple `!\x27s"
  | zeroAddress => "invalid usage of line address 0"
  | relativeAddress => "invalid usage of +N or ~N as first address"
  | oneAddress => "command only uses one address"
  | noPrevious => "no previous regular expression"

/-! ## Programs -/

/-- What selects a line. -/
inductive Address where
  | line (n : Nat)
  | last
  | every (first step : Nat)
  /-- A match; without an expression, of the one that was used last. -/
  | pattern (r : Option Regex)

/-- Where a range of lines ends. -/
inductive RangeEnd where
  | address (a : Address)
  /-- So many lines behind its start. -/
  | behind (n : Nat)
  /-- At a line whose number is a multiple. -/
  | multiple (n : Nat)

/-- Which lines a command is for. -/
inductive Lines where
  | all
  | one (a : Address)
  | range (first : Address) (last : RangeEnd)

/-- A change of the case of letters. -/
inductive CaseChange where
  | none
  | upper
  | lower
  | nextUpper
  | nextLower
deriving DecidableEq, Repr

/-- A part of what is put in the place of a match. -/
inductive Piece where
  | char (c : Char)
  /-- What a group has matched; for zero, the whole match. -/
  | group (n : Nat)
  | change (c : CaseChange)
deriving DecidableEq, Repr

/-- A replacement of matches. -/
structure Substitution where
  pattern : Option Regex
  pieces : List Piece
  /-- The number of the first match that is replaced. -/
  number : Nat := 1
  /-- Whether the matches behind it are replaced as well. -/
  isGlobal : Bool := false
  prints : Bool := false
  file : Option String := none

/-- What a command does. -/
inductive Action where
  /-- Go on behind the end of the block unless the line is selected. -/
  | block (behind : Nat)
  | nothing
  | substitute (s : Substitution)
  | translate (pairs : List (Char × Char))
  | delete
  | deleteFirst
  | print
  | printFirst
  | next
  | appendNext
  | get
  | appendHeld
  | hold
  | appendToHeld
  | exchange
  | clear
  | quit (status : Nat) (prints : Bool)
  | append (text : List Char)
  | insert (text : List Char)
  | change (text : List Char)
  | number
  | fileName
  | list
  /-- Go to a label; to the end, if it is empty. -/
  | branch (label : List Char)
  | branchIf (replaced : Bool) (label : List Char)
  | readFile (name : String)
  | readLine (name : String)
  | writeFile (name : String)
  | writeFirst (name : String)

/-- A command. -/
structure Command where
  lines : Lines
  isNegated : Bool
  action : Action

/-- A program, with the numbers of the commands behind labels. -/
structure Program where
  commands : Array Command := #[]
  labels : List (List Char × Nat) := []
  /-- Whether its first line asks for no printing. -/
  isQuiet : Bool := false

/-! ## Reading scripts -/

/-- A step of reading; an error comes with the number of characters that were left. -/
abbrev Reader (α : Type) := StateT (List Char) (Except (ScriptError × Nat)) α

namespace Reader

/-- Fail at the place that has been reached. -/
def fail {α : Type} (e : ScriptError) : Reader α := do
  throw (e, (← get).length)

/-- The next character. -/
def peek : Reader (Option Char) := do
  pure (← get).head?

/-- Take the next character. -/
def take : Reader (Option Char) := do
  let cs ← get
  set cs.tail
  pure cs.head?

/-- Take the characters at the front for which a condition holds. -/
def takeWhile (holds : Char → Bool) : Reader (List Char) := do
  let cs ← get
  set (cs.dropWhile holds)
  pure (cs.takeWhile holds)

/-- Pass over spaces and tabs. -/
def blanks : Reader Unit := do
  let _ ← takeWhile fun c => c = ' ' || c = '\t'

/-- A number, which is zero if there are no digits. -/
def number : Reader Nat := do
  pure ((Decimal.digitsValue? 10 (← takeWhile Char.isDigit)).getD 0)

/-- The end of a command. -/
def endOfCommand : Reader Unit := do
  blanks
  match ← peek with
  | none | some '\x7d' | some '#' => pure ()
  | some c =>
    let _ ← take
    if c ≠ '\n' && c ≠ ';' then fail .extraCharacters

/-- Where a reader is in a set between brackets. -/
inductive InSet where
  | outside
  /-- Behind `[`, and behind `[^`. -/
  | opened (isNegated : Bool)
  | inside
  /-- Behind a bracket, which a class may start with. -/
  | bracket
  /-- In a class such as `[:alpha:]`, up to a mark and a bracket. -/
  | inClass (mark : Char)
  /-- Behind the mark. -/
  | atMark (mark : Char)
deriving DecidableEq

/-- Where a reader is behind a further character of a set. -/
def InSet.next (s : InSet) (c : Char) : InSet :=
  match s with
  | .outside => .outside
  | .opened isNegated =>
    if c = '^' && !isNegated then .opened true
    else if c = ']' then .inside
    else if c = '[' then .bracket
    else .inside
  | .inside | .bracket =>
    if c = ']' then .outside
    else if c = '[' then .bracket
    else if s = .bracket && (c = '.' || c = ':' || c = '=') then .inClass c
    else .inside
  | .inClass mark => if c = mark then .atMark mark else s
  | .atMark mark => if c = ']' then .inside else if c = mark then s else .inClass mark

/-- A text up to a delimiter, without the backslashes in front of delimiters. In an expression, a set
between brackets holds delimiters and backslashes as they are. -/
def delimitedFrom (delimiter : Char) (isPattern : Bool) : InSet → List Char →
    Option (List Char × List Char)
  | _, [] => none
  | _, '\n' :: _ => none
  | .outside, '\\' :: c :: cs =>
    (delimitedFrom delimiter isPattern .outside cs).map fun (text, rest) =>
      let kept :=
        if c = delimiter && !(c = '&' && !isPattern) then [c]
        else if c = 'n' && isPattern then ['\n']
        else if c = '\n' then [c]
        else ['\\', c]
      (kept ++ text, rest)
  | .outside, c :: cs =>
    if c = delimiter then some ([], cs)
    else
      let s := if c = '[' && isPattern then .opened false else .outside
      (delimitedFrom delimiter isPattern s cs).map fun (text, rest) => (c :: text, rest)
  | s, c :: cs =>
    (delimitedFrom delimiter isPattern (s.next c) cs).map fun (text, rest) => (c :: text, rest)

/-- A text up to a delimiter. -/
def delimited (delimiter : Char) (isPattern : Bool) (e : ScriptError) : Reader (List Char) := do
  let cs ← get
  match delimitedFrom delimiter isPattern .outside cs with
  | some (text, rest) =>
    set rest
    pure text
  | none =>
    set (cs.dropWhile (· ≠ '\n'))
    fail e

/-- The control character that a letter behind a backslash stands for. -/
def control? : Char → Option Char
  | 'a' => some '\x07'
  | 'f' => some '\x0c'
  | 'r' => some '\x0d'
  | 't' => some '\t'
  | 'v' => some '\x0b'
  | _ => none

/-- The text of an expression with the control characters in it spelt out. -/
def unescape : List Char → List Char
  | '\\' :: 'x' :: a :: b :: cs =>
    match Decimal.digitsValue? 16 [a, b] with
    | some n => Char.ofNat n :: unescape cs
    | none => '\\' :: 'x' :: unescape (a :: b :: cs)
  | '\\' :: c :: cs =>
    match control? c with
    | some d => d :: unescape cs
    | none => '\\' :: c :: unescape cs
  | c :: cs => c :: unescape cs
  | [] => []

/-- An expression, which may be empty. -/
def regex (x : Regex.Syntax) (text : List Char) : Reader (Option Regex) := do
  if text.isEmpty then pure none
  else
    match Regex.ofText x (unescape text) with
    | .ok r => pure (some r)
    | .error e => fail (.regex e)

/-- The flags behind an address. -/
def addressFlags (x : Regex.Syntax) : Nat → Reader Regex.Syntax
  | 0 => pure x
  | fuel + 1 => do
    match ← peek with
    | some 'I' =>
      let _ ← take
      addressFlags { x with foldsCase := true } fuel
    | some 'M' =>
      let _ ← take
      addressFlags { x with byLine := true } fuel
    | _ => pure x

/-- An address, if there is one. -/
def address? (x : Regex.Syntax) : Reader (Option Address) := do
  match ← peek with
  | some '/' =>
    let _ ← take
    let text ← delimited '/' true .unterminatedAddress
    let x ← addressFlags x (← get).length
    pure (some (.pattern (← regex x text)))
  | some '\\' =>
    let _ ← take
    match ← take with
    | none => fail .unterminatedAddress
    | some c =>
      let text ← delimited c true .unterminatedAddress
      let x ← addressFlags x (← get).length
      pure (some (.pattern (← regex x text)))
  | some '$' =>
    let _ ← take
    pure (some .last)
  | some c =>
    if c.isDigit then
      let n ← number
      blanks
      if (← peek) = some '~' then
        let _ ← take
        blanks
        let step ← number
        pure (some (if step = 0 then .line n else .every n step))
      else pure (some (.line n))
    else pure none
  | none => pure none

/-- Whether an address is the line before the first one. -/
def isZero : Address → Bool
  | .line 0 => true
  | _ => false

/-- The lines that a command is for; whether they start before the first line without a reason. -/
def lines (x : Regex.Syntax) : Reader (Lines × Bool) := do
  match ← address? x with
  | none =>
    match ← peek with
    | some c =>
      if c = '+' || c = '~' then
        let _ ← take
        let _ ← number
        fail .relativeAddress
      else pure (.all, false)
    | none => pure (.all, false)
  | some a =>
    blanks
    if (← peek) ≠ some ',' then pure (.one a, isZero a)
    else
      let _ ← take
      blanks
      match ← address? x with
      | some b => pure (.range a (.address b), isZero a && !(b matches .pattern _))
      | none =>
        match ← take with
        | some '+' => pure (.range a (.behind (← number)), isZero a)
        | some '~' => pure (.range a (.multiple (← number)), isZero a)
        | _ => fail .unexpectedComma

/-- The pieces of a replacement. -/
def pieces : List Char → List Piece
  | '\\' :: 'x' :: a :: b :: cs =>
    match Decimal.digitsValue? 16 [a, b] with
    | some n => .char (Char.ofNat n) :: pieces cs
    | none => .char 'x' :: pieces (a :: b :: cs)
  | '\\' :: c :: cs =>
    let piece : Piece :=
      if c.isDigit then .group (c.toNat - 48)
      else if c = 'n' then .char '\n'
      else if c = 'U' then .change .upper
      else if c = 'L' then .change .lower
      else if c = 'E' then .change .none
      else if c = 'u' then .change .nextUpper
      else if c = 'l' then .change .nextLower
      else .char ((control? c).getD c)
    piece :: pieces cs
  | '&' :: cs => .group 0 :: pieces cs
  | c :: cs => .char c :: pieces cs
  | [] => []

/-- The name of a file, up to the end of the line. -/
def fileName : Reader String := do
  blanks
  let name ← takeWhile (· ≠ '\n')
  if name.isEmpty then fail .missingFile else pure (String.ofList name)

/-- The flags behind a substitution; whether a number was among them comes along. -/
def substitutionFlags (x : Regex.Syntax) (s : Substitution) (numbered : Bool) :
    Nat → Reader (Regex.Syntax × Substitution)
  | 0 => pure (x, s)
  | fuel + 1 => do
    match ← peek with
    | none | some '\x7d' | some '#' => pure (x, s)
    | some c =>
      if c.isDigit then
        let n ← number
        if numbered then fail .repeatedNumber
        else if n = 0 then fail .zeroNumber
        else substitutionFlags x { s with number := n } true fuel
      else
        let _ ← take
        if c = '\n' || c = ';' then pure (x, s)
        else if c = ' ' then substitutionFlags x s numbered fuel
        else if c = 'g' then
          if s.isGlobal then fail (.repeatedOption c)
          else substitutionFlags x { s with isGlobal := true } numbered fuel
        else if c = 'p' then
          if s.prints then fail (.repeatedOption c)
          else substitutionFlags x { s with prints := true } numbered fuel
        else if c = 'i' || c = 'I' then
          substitutionFlags { x with foldsCase := true } s numbered fuel
        else if c = 'm' || c = 'M' then
          substitutionFlags { x with byLine := true } s numbered fuel
        else if c = 'w' then pure (x, { s with file := some (← fileName) })
        else fail .unknownOption

/-- The greatest number of a group that pieces refer to. -/
def greatestGroup (ps : List Piece) : Nat :=
  ps.foldl (fun n p => match p with
    | .group m => if n < m then m else n
    | _ => n) 0

/-- How many groups an expression has. -/
def groupCount : Regex → Nat
  | .seq p q | .either p q => groupCount p + groupCount q
  | .repeated _ _ p => groupCount p
  | .group _ p => groupCount p + 1
  | _ => 0

/-- A substitution. -/
def substitution (x : Regex.Syntax) : Reader Action := do
  match ← take with
  | none => fail (.unterminated 's')
  | some delimiter =>
    let pattern ← delimited delimiter true (.unterminated 's')
    let text ← delimited delimiter false (.unterminated 's')
    let s : Substitution := { pattern := none, pieces := pieces text }
    let (x, s) ← substitutionFlags x s false ((← get).length + 1)
    let r ← regex x pattern
    let n := greatestGroup s.pieces
    if r.any fun r => groupCount r < n then fail (.badReference n)
    else pure (.substitute { s with pattern := r })

/-- The characters of a list for a translation. -/
def translationList : List Char → List Char
  | '\\' :: 'n' :: cs => '\n' :: translationList cs
  | '\\' :: '\\' :: cs => '\\' :: translationList cs
  | '\\' :: c :: cs =>
    match control? c with
    | some d => d :: translationList cs
    | none => '\\' :: c :: translationList cs
  | c :: cs => c :: translationList cs
  | [] => []

/-- A translation. -/
def translation : Reader Action := do
  match ← take with
  | none => fail (.unterminated 'y')
  | some delimiter =>
    let a := translationList (← delimited delimiter false (.unterminated 'y'))
    let b := translationList (← delimited delimiter false (.unterminated 'y'))
    if a.length ≠ b.length then fail .unequalLists
    else
      endOfCommand
      pure (.translate (a.zip b))

/-- A text up to the end of its line, which a backslash joins with the next one. -/
def textFrom : List Char → List Char × List Char
  | [] => (['\n'], [])
  | '\n' :: rest => (['\n'], rest)
  | '\\' :: c :: rest =>
    let (text, rest) := textFrom rest
    ((control? c).getD c :: text, rest)
  | ['\\'] => (['\n'], [])
  | c :: rest =>
    let (text, rest) := textFrom rest
    (c :: text, rest)

/-- The text of a command that puts out a text. -/
def text : Reader (List Char) := do
  blanks
  match ← get with
  | [] => fail .textExpected
  | ['\\'] | ['\\', '\n'] =>
    set ([] : List Char)
    pure []
  | cs =>
    let cs := match cs with
      | '\\' :: '\n' :: rest => rest
      | '\\' :: rest => rest
      | cs => cs
    let (text, rest) := textFrom cs
    set rest
    pure text

/-- A label. -/
def label : Reader (List Char) := do
  blanks
  takeWhile fun c => c ≠ ';' && c ≠ '\n' && c ≠ ' ' && c ≠ '\t'

/-- The status behind a command that quits. -/
def quitStatus (ls : Lines) : Reader Nat := do
  match ls with
  | .range _ _ => fail .oneAddress
  | _ =>
    blanks
    let n ← number
    endOfCommand
    pure n

/-- The commands that are a letter. -/
def plain? : Char → Option Action
  | 'd' => some .delete
  | 'D' => some .deleteFirst
  | 'p' => some .print
  | 'P' => some .printFirst
  | 'n' => some .next
  | 'N' => some .appendNext
  | 'g' => some .get
  | 'G' => some .appendHeld
  | 'h' => some .hold
  | 'H' => some .appendToHeld
  | 'x' => some .exchange
  | 'z' => some .clear
  | '=' => some .number
  | 'F' => some .fileName
  | 'l' => some .list
  | _ => none

/-- The action of a command by its letter, for some lines. -/
def action (x : Regex.Syntax) (ls : Lines) (c : Char) : Reader Action := do
  match plain? c with
  | some a =>
    endOfCommand
    pure a
  | none =>
    if c = 's' then substitution x
    else if c = 'y' then translation
    else if c = 'a' then return .append (← text)
    else if c = 'i' then return .insert (← text)
    else if c = 'c' then return .change (← text)
    else if c = 'q' then return .quit (← quitStatus ls) true
    else if c = 'Q' then return .quit (← quitStatus ls) false
    else if c = 'b' then return .branch (← label)
    else if c = 't' then return .branchIf true (← label)
    else if c = 'T' then return .branchIf false (← label)
    else if c = 'r' then return .readFile (← fileName)
    else if c = 'R' then return .readLine (← fileName)
    else if c = 'w' then return .writeFile (← fileName)
    else if c = 'W' then return .writeFirst (← fileName)
    else fail (.unknownCommand c)

/-- The program with the block that is innermost closed: the number of its first command. -/
def close (p : Program) (start : Nat) : Program :=
  match p.commands[start]? with
  | some c =>
    { p with
      commands := p.commands.set! start { c with action := .block p.commands.size } }
  | none => p

/-- Read commands up to the end of a script; `blocks` are the starts of the open blocks. -/
def commands (x : Regex.Syntax) : Nat → List Nat → Program → Reader Program
  | 0, _, p => pure p
  | fuel + 1, blocks, p => do
    let _ ← takeWhile fun c => c = ';' || c = '\n' || c = ' ' || c = '\t'
    if (← peek).isNone then
      if blocks.isEmpty then pure p else throw (.unmatchedOpening, 0)
    else
      let (ls, isZero) ← lines x
      blanks
      let isNegated := (← peek) = some '!'
      if isNegated then
        let _ ← take
        blanks
        if (← peek) = some '!' then
          let _ ← take
          fail .repeatedNegation
      let hasAddress := !(ls matches .all)
      match ← take with
      | none => fail .missingCommand
      | some c =>
        let add (a : Action) : Program :=
          { p with commands := p.commands.push ⟨ls, isNegated, a⟩ }
        if isZero then fail .zeroAddress
        else if c = '#' then
          let _ ← takeWhile (· ≠ '\n')
          commands x fuel blocks p
        else if c = '\x7b' then commands x fuel (p.commands.size :: blocks) (add .nothing)
        else if c = '\x7d' then
          match blocks with
          | [] => fail .unexpectedClosing
          | start :: blocks =>
            if hasAddress then fail (.addressOf c)
            else
              endOfCommand
              commands x fuel blocks (close p start)
        else if c = ':' then
          if hasAddress then fail (.addressOf c)
          else
            let name ← label
            if name.isEmpty then fail .noLabel
            else commands x fuel blocks { p with labels := (name, p.commands.size) :: p.labels }
        else
          let a ← action x ls c
          commands x fuel blocks (add a)

end Reader

/-- The program that a script spells, or an error and how many characters are left there. -/
def program (x : Regex.Syntax) (script : List Char) : Except (ScriptError × Nat) Program :=
  let isQuiet := match script with
    | ['#', 'n'] | '#' :: 'n' :: '\n' :: _ => true
    | _ => false
  (Reader.commands x (script.length + 1) [] { isQuiet := isQuiet } script).map Prod.fst

end Edit

end Shell

end Detour
