import Detour.Shell.Edit
import Detour.Text.Search
/-!
# Shell: editing lines

How a program of `sed` changes lines. Each cycle takes a line into the space where commands work on it,
and puts out what is there at the end. What is written to files is gathered in order.
-/

namespace Detour

namespace Shell

namespace Edit

/-- A line, and whether it has an end. -/
structure Line where
  text : List Char
  isEnded : Bool := true
deriving DecidableEq, Repr

/-- A line as it stands in a file. -/
def Line.toText (l : Line) : String :=
  String.ofList l.text ++ if l.isEnded then "\n" else ""

/-- A line behind another one. -/
def Line.append (l l' : Line) : Line :=
  { l' with text := l.text ++ '\n' :: l'.text }

/-- What is put out at the end of a cycle. -/
inductive Queued where
  | text (s : String)
  | file (name : String)
deriving DecidableEq, Repr

/-- Where a command is in its range of lines. -/
inductive RangeState where
  /-- Inside, up to the line with a number; up to one that is found, if there is none. -/
  | inside (last : Option Nat)
  /-- At the end of a range that cannot start again. -/
  | closed
deriving DecidableEq, Repr

/-- The state of an edit. -/
structure Editor where
  rest : List Line
  space : Line := { text := [] }
  hold : Line := { text := [] }
  number : Nat := 0
  queue : List Queued := []
  /-- What has been put out, last part first. -/
  output : List String := []
  /-- Whether the last line of the output has no end. -/
  lacksEnd : Bool := false
  /-- What has been written to files, last part first. -/
  written : List (String × String) := []
  /-- The lines of files that have not been taken. -/
  taken : List (String × List Line) := []
  hasReplaced : Bool := false
  ranges : List (Nat × RangeState) := []
  latest : Option Regex := none
  isOver : Bool := false

/-- What an edit works with. -/
structure Setting where
  program : Program
  isQuiet : Bool := false
  name : String := "-"
  /-- The texts of files that may be read. -/
  files : List (String × String) := []

/-- How a command goes on. -/
inductive Flow where
  | goesOn
  | goTo (number : Nat)
  /-- The end of the cycle. -/
  | ends (prints : Bool)
  /-- The start of a cycle with the line that is left. -/
  | again
  | quits (status : Nat) (prints : Bool)
  | fails (e : ScriptError)
deriving DecidableEq, Repr

/-- The lines of a text. -/
def linesOf (s : String) : List Line :=
  let ls := Text.splitOn '\n' s.toList
  ls.dropLast.map (fun l => { text := l }) ++
    match ls.getLast? with
    | some (c :: cs) => [{ text := c :: cs, isEnded := false }]
    | _ => []

namespace Editor

/-- Put out a text as it is. -/
def put (e : Editor) (s : String) : Editor :=
  { e with
    output := s :: (if e.lacksEnd then "\n" :: e.output else e.output)
    lacksEnd := false }

/-- Put out a line. -/
def putLine (e : Editor) (l : Line) : Editor :=
  { e.put l.toText with lacksEnd := !l.isEnded }

/-- Write to a file, or to the output. -/
def writeTo (e : Editor) (name : String) (l : Line) : Editor :=
  if name = "/dev/stdout" then e.putLine l
  else
    let gap := match e.written.lookup name with
      | some s => if s.toList.getLast? = some '\n' then "" else "\n"
      | none => ""
    { e with written := (name, gap ++ l.toText) :: e.written }

/-- Whether no line is left. -/
def isLast (e : Editor) : Bool :=
  e.rest.isEmpty

/-- Put out what is queued. -/
def flush (e : Editor) (files : List (String × String)) : Editor :=
  let e' := e.queue.foldl (fun (e : Editor) q => match q with
    | .text s => e.put s
    | .file name =>
      match files.lookup name with
      | some s => if s.isEmpty then e else e.put s
      | none => e) e
  { e' with queue := [] }

/-- Take the next line, behind what is in the space already; none if there is no next line. -/
def advance? (e : Editor) (front : List Char) : Option Editor :=
  match e.rest with
  | [] => none
  | l :: rest =>
    some { e with rest := rest, number := e.number + 1, space := { l with text := front ++ l.text } }

/-! ## Selecting lines -/

/-- The first match of an expression in the space; without one, of that used last. None if there is no
such expression. -/
def search? (e : Editor) (r : Option Regex) : Option (Option Regex.Match × Editor) :=
  (r.orElse fun _ => e.latest).map fun r => (r.search e.space.text, { e with latest := some r })

/-- Whether an address selects the line; none if it needs an expression that there is not. -/
def meets? (e : Editor) : Address → Option (Bool × Editor)
  | .line n => some (e.number = n, e)
  | .last => some (e.isLast, e)
  | .every first step => some (first ≤ e.number && (e.number - first) % step = 0, e)
  | .pattern r => (e.search? r).map fun (m, e) => (m.isSome, e)

/-- Note where a command is in its range. -/
def setRange (e : Editor) (index : Nat) (s : Option RangeState) : Editor :=
  let others := e.ranges.filter fun r => r.1 != index
  { e with
    ranges := match s with
      | some s => (index, s) :: others
      | none => others }

/-- The number of the line that ends a range, if it is known at its start. -/
def lastLine? (e : Editor) : RangeEnd → Option Nat
  | .address (.line n) => some n
  | .address _ => none
  | .behind n => some (e.number + n)
  | .multiple n => some (if n = 0 then e.number else (e.number + n - 1) / n * n)

/-- Whether the command with a number is for the line. -/
def selects? (e : Editor) (index : Nat) : Lines → Option (Bool × Editor)
  | .all => some (true, e)
  | .one a => e.meets? a
  | .range first last =>
    let fromZero := match first with
      | .line 0 => true
      | _ => false
    let inside (e : Editor) (lastLine : Option Nat) : Option (Bool × Editor) :=
      match lastLine, last with
      | some n, _ =>
        some (e.number ≤ n, if n ≤ e.number then e.setRange index none else e)
      | none, .address a =>
        (e.meets? a).map fun (isEnd, e) =>
          (true, if isEnd then e.setRange index (if fromZero then some .closed else none) else e)
      | none, _ => some (true, e)
    match e.ranges.lookup index with
    | some .closed => some (false, e)
    | some (.inside n) => inside e n
    | none =>
      if fromZero then inside (e.setRange index (some (.inside none))) none
      else
        (e.meets? first).map fun (isStart, e) =>
          if !isStart then (false, e)
          else
            match e.lastLine? last with
            | some n =>
              (true, if n ≤ e.number then e else e.setRange index (some (.inside (some n))))
            | none => (true, e.setRange index (some (.inside none)))

/-! ## Replacing -/

/-- A character with a change of case that holds for it, or for it alone. -/
def cased (mode next : CaseChange) (c : Char) : Char :=
  match next, mode with
  | .nextUpper, _ => c.toUpper
  | .nextLower, _ => c.toLower
  | _, .upper => c.toUpper
  | _, .lower => c.toLower
  | _, _ => c

/-- The text that pieces spell for a match. -/
def spell (m : Regex.Match) : CaseChange → CaseChange → List Piece → List Char
  | _, _, [] => []
  | mode, _, .change c :: rest =>
    if c = .nextUpper ∨ c = .nextLower then spell m mode c rest else spell m c .none rest
  | mode, next, .char c :: rest => cased mode next c :: spell m mode .none rest
  | mode, next, .group n :: rest =>
    let text := if n = 0 then m.text else (m.groups.lookup n).getD []
    match text with
    | [] => spell m mode next rest
    | c :: cs => cased mode next c :: cs.map (cased mode .none) ++ spell m mode .none rest

/-- A text with matches replaced from one with a number on, and whether one was. `passed` is the text in
front, last character first, and `wasMatch` says whether it ends with a match. The first number bounds
the matches. -/
def replaceFrom (s : Substitution) (r : Regex) : Nat → Nat → List Char → Bool → List Char →
    List Char × Bool
  | 0, _, _, _, text => (text, false)
  | fuel + 1, count, passed, wasMatch, text =>
    match r.searchFrom (fun _ _ => true) passed text with
    | none => (text, false)
    | some m =>
      let skipped := m.before.drop passed.length
      match m.text, m.after with
      | [], c :: after =>
        if wasMatch && skipped.isEmpty then
          let (rest, done) := replaceFrom s r fuel count (c :: passed) false after
          (c :: rest, done)
        else
          let isDone := s.number ≤ count
          let new := if isDone then spell m .none .none s.pieces else []
          if isDone && !s.isGlobal then (skipped ++ new ++ m.after, true)
          else
            let (rest, done) :=
              replaceFrom s r fuel (count + 1) (c :: m.before.reverse) false after
            (skipped ++ new ++ c :: rest, isDone || done)
      | [], [] =>
        if (wasMatch && skipped.isEmpty) || count < s.number then (text, false)
        else (skipped ++ spell m .none .none s.pieces, true)
      | found, after =>
        let isDone := s.number ≤ count
        let new := if isDone then spell m .none .none s.pieces else found
        if isDone && !s.isGlobal then (skipped ++ new ++ after, true)
        else
          let (rest, done) :=
            replaceFrom s r fuel (count + 1) (found.reverse ++ m.before.reverse) true after
          (skipped ++ new ++ rest, isDone || done)

/-- Do a substitution. -/
def substitute (e : Editor) (s : Substitution) : Flow × Editor :=
  match s.pattern.orElse fun _ => e.latest with
  | none => (.fails .noPrevious, e)
  | some r =>
    let (text, done) := replaceFrom s r (e.space.text.length + 2) 1 [] false e.space.text
    let e := { e with latest := some r }
    if !done then (.goesOn, e)
    else
      let e := { e with space := { e.space with text := text }, hasReplaced := true }
      let e := if s.prints then e.putLine e.space else e
      let e := match s.file with
        | some name => e.writeTo name e.space
        | none => e
      (.goesOn, e)

/-! ## Running -/

/-- A line as it is listed, without ambiguity and in parts of at most 69 characters. -/
def listing (text : List Char) : List Char :=
  let digit (n : Nat) : Char := Char.ofNat (48 + n % 8)
  let shown (c : Char) : List Char :=
    if c = '\\' then ['\\', '\\']
    else if c = '\n' then ['\\', 'n']
    else if c = '\x08' then ['\\', 'b']
    else if 32 ≤ c.toNat && c.toNat < 127 then [c]
    else
      match "aftrv".toList.find? fun d => Reader.control? d = some c with
      | some d => ['\\', d]
      | none => ['\\', digit (c.toNat / 64), digit (c.toNat / 8), digit c.toNat]
  let rec wrap : Nat → List (List Char) → List Char
    | _, [] => ['$']
    | width, cs :: rest =>
      if 69 < width + cs.length then '\\' :: '\n' :: cs ++ wrap cs.length rest
      else cs ++ wrap (width + cs.length) rest
  wrap 0 (text.map shown)

/-- Whether a command is at the end of its range, or has none. -/
def isAtRangeEnd (e : Editor) (index : Nat) : Bool :=
  match e.ranges.lookup index with
  | some (.inside _) => false
  | _ => true

/-- Do what a command does. -/
def act (x : Setting) (index : Nat) (a : Action) (e : Editor) : Flow × Editor :=
  let text := e.space.text
  let withText (text : List Char) : Editor := { e with space := { e.space with text := text } }
  let label (name : List Char) : Flow :=
    if name.isEmpty then .ends true else .goTo ((x.program.labels.lookup name).getD 0)
  match a with
  | .block _ | .nothing => (.goesOn, e)
  | .substitute s => e.substitute s
  | .translate pairs => (.goesOn, withText (text.map fun c => (pairs.lookup c).getD c))
  | .delete => (.ends false, e)
  | .deleteFirst =>
    if text.contains '\n' then (.again, withText ((text.dropWhile (· ≠ '\n')).drop 1))
    else (.ends false, e)
  | .print => (.goesOn, e.putLine e.space)
  | .printFirst => (.goesOn, e.putLine { text := text.takeWhile (· ≠ '\n') })
  | .next =>
    if e.isLast then (.quits 0 true, e)
    else
      let e := if x.isQuiet then e else e.putLine e.space
      match (e.flush x.files).advance? [] with
      | some e => (.goesOn, e)
      | none => (.quits 0 true, e)
  | .appendNext =>
    match (e.flush x.files).advance? (text ++ ['\n']) with
    | some e => (.goesOn, e)
    | none => (.quits 0 true, e)
  | .get => (.goesOn, { e with space := e.hold })
  | .appendHeld => (.goesOn, { e with space := e.space.append e.hold })
  | .hold => (.goesOn, { e with hold := e.space })
  | .appendToHeld => (.goesOn, { e with hold := e.hold.append e.space })
  | .exchange => (.goesOn, { e with space := e.hold, hold := e.space })
  | .clear => (.goesOn, withText [])
  | .quit status prints => (.quits status prints, e)
  | .append new => (.goesOn, { e with queue := e.queue ++ [.text (String.ofList new)] })
  | .insert new => (.goesOn, e.put (String.ofList new))
  | .change new => (.ends false, if e.isAtRangeEnd index then e.put (String.ofList new) else e)
  | .number => (.goesOn, e.put (toString e.number ++ "\n"))
  | .fileName => (.goesOn, e.put (x.name ++ "\n"))
  | .list => (.goesOn, e.put (String.ofList (listing text) ++ "\n"))
  | .branch name => (label name, e)
  | .branchIf replaced name =>
    (if e.hasReplaced = replaced then label name else .goesOn, { e with hasReplaced := false })
  | .readFile name => (.goesOn, { e with queue := e.queue ++ [.file name] })
  | .readLine name =>
    let ls := (e.taken.lookup name).getD (linesOf ((x.files.lookup name).getD ""))
    let queue := e.queue ++ (ls.take 1).map fun l => .text l.toText
    (.goesOn, { e with queue := queue, taken := (name, ls.drop 1) :: e.taken })
  | .writeFile name => (.goesOn, e.writeTo name e.space)
  | .writeFirst name => (.goesOn, e.writeTo name { text := text.takeWhile (· ≠ '\n') })

/-- Run commands from one with a number on. The first number bounds the steps. -/
def runFrom (x : Setting) : Nat → Nat → Editor → Flow × Editor
  | 0, _, e => (.ends true, e)
  | fuel + 1, index, e =>
    match x.program.commands[index]? with
    | none => (.ends true, e)
    | some c =>
      match e.selects? index c.lines with
      | none => (.fails .noPrevious, e)
      | some (isSelected, e) =>
        if isSelected = c.isNegated then
          match c.action with
          | .block behind => runFrom x fuel behind e
          | _ => runFrom x fuel (index + 1) e
        else
          match e.act x index c.action with
          | (.goesOn, e) => runFrom x fuel (index + 1) e
          | (.goTo n, e) => runFrom x fuel n e
          | (flow, e) => (flow, e)

/-- The greatest number of steps in one cycle. -/
def maxSteps : Nat := 100000

/-- Run cycles to the end of the lines; the status, and the error if there was one. The first number
bounds the cycles, and the flag says whether the next one starts without taking a line. -/
def runAll (x : Setting) : Nat → Bool → Editor → Nat × Option ScriptError × Editor
  | 0, _, e => (0, none, e)
  | fuel + 1, isAgain, e =>
    match (if isAgain then some e else e.advance? []) with
    | none => (0, none, e)
    | some e =>
      let printed (prints : Bool) (e : Editor) : Editor :=
        (if prints && !x.isQuiet then e.putLine e.space else e).flush x.files
      match runFrom x maxSteps 0 { e with hasReplaced := isAgain && e.hasReplaced } with
      | (.ends prints, e) => runAll x fuel false (printed prints e)
      | (.again, e) => runAll x fuel true (printed false e)
      | (.quits status prints, e) => (status, none, { printed prints e with isOver := true })
      | (.fails error, e) => (1, some error, e)
      | (.goesOn, e) | (.goTo _, e) => runAll x fuel false e

/-- Edit lines. -/
def run (x : Setting) (ls : List Line) : Nat × Option ScriptError × Editor :=
  runAll x (2 * (ls.foldl (fun n l => n + l.text.length + 1) 0) + maxSteps) false { rest := ls }

end Editor

end Edit

end Shell

end Detour
