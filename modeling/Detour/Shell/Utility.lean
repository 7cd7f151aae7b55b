import Detour.Shell.Machine
import Detour.Text.Blank
/-!
# Shell: utilities

What the utilities that scripts and builds may run have in common. A utility ends with a status, of
which zero means success; it writes to the streams of the shell that runs it, and begins its messages
with its own name. One of several files that fails does not keep it from the others.
-/

namespace Detour

namespace Shell

namespace Utility

open Act

/-- Put out a text. If it is lost, that is said at the end of the utility. -/
def put (s : String) : Act Unit := do
  if !(← write 1 s) then modify fun m => { m with isLost := true }

/-- Complain on a line, and give the status of a failure. -/
def complain (name message : String) : Act Nat := do
  let _ ← write 2 s!"{name}: {message}\n"
  pure 1

/-- Complain about how a utility is called. The utilities for which one is an answer fail with two. -/
def misuse (name message : String) : Act Nat := do
  let status ← complain name s!"{message}\nTry \x27{name} --help\x27 for more information."
  pure (if ["expr", "ls", "sort"].contains name then 2 else status)

/-- A word in a message, between quotes if it holds characters that a shell would not take as they
stand. -/
def shown (s : String) : String :=
  let isPlain (c : Char) := c.isAlphanum || "%+,-./:@_]#~\x7b\x7d".toList.contains c
  let isMarked := ["\x7b", "\x7d"].contains s || ['#', '~'].any (s.toList.head? = some ·)
  if !s.isEmpty && !isMarked && s.toList.all isPlain then s else "\x27" ++ s ++ "\x27"

/-- A word in a message, between quotes. -/
def quoted (s : String) : String :=
  "\x27" ++ s ++ "\x27"

/-- The options that the letters of a word spell. A letter of `valued` takes the rest of the word as its
value; if that is empty, the value is still to be found. -/
def letters (valued : List Char) : List Char → List (Char × String) × Option Char
  | [] => ([], none)
  | c :: cs =>
    if valued.contains c then
      if cs.isEmpty then ([], some c) else ([(c, String.ofList cs)], none)
    else
      let (options, last) := letters valued cs
      ((c, "") :: options, last)

/-- The options among some words, as letters with their values, and the operands. -/
def split (valued : List Char) : List String → List (Char × String) × List String
  | [] => ([], [])
  | w :: rest =>
    match w.toList with
    | ['-', '-'] => ([], rest)
    | '-' :: c :: cs =>
      match letters valued (c :: cs), rest with
      | (options, none), rest =>
        let (more, operands) := split valued rest
        (options ++ more, operands)
      | (options, some c), v :: rest =>
        let (more, operands) := split valued rest
        (options ++ (c, v) :: more, operands)
      | (options, some c), [] => (options ++ [(c, "")], [])
    | _ =>
      let (options, operands) := split valued rest
      (options, w :: operands)

/-- The letter that lacks its value, at the end of some words. -/
def lacking? (valued : List Char) : List String → Option Char
  | [] => none
  | w :: rest =>
    match w.toList with
    | ['-', '-'] => none
    | '-' :: c :: cs =>
      match (letters valued (c :: cs)).2, rest with
      | none, rest => lacking? valued rest
      | some _, _ :: rest => lacking? valued rest
      | some c, [] => some c
    | _ => lacking? valued rest

/-- A word with a long option spelt as its letter, behind which its value stands. -/
def spelt (long : List (String × Char)) (valued : List Char) (w : String) : String :=
  match w.toList with
  | '-' :: '-' :: cs =>
    let (name, value) := (Text.cut? '=' cs).getD (cs, [])
    match long.lookup (String.ofList name) with
    | some c => "-" ++ c.toString ++ (if valued.contains c then String.ofList value else "")
    | none => w
  | _ => w

/-- Run a utility on its options and operands, unless an option is not one of `known`. Long options are
spelt by letters. -/
def withOptions (name : String) (long : List (String × Char)) (known valued : List Char)
    (ws : List String) (body : List (Char × String) → List String → Act Nat) : Act Nat := do
  let ws := ws.takeWhile (· ≠ "--") |>.map (spelt long valued) |>.append (ws.dropWhile (· ≠ "--"))
  let (options, operands) := split valued ws
  let isLong (w : String) : Bool := 2 < w.length && "--".toList.isPrefixOf w.toList
  match (ws.takeWhile (· ≠ "--")).find? isLong,
    options.find? fun (c, _) => !known.contains c && !valued.contains c with
  | some w, _ => misuse name s!"unrecognized option {quoted w}"
  | none, some (c, _) => misuse name s!"invalid option -- \x27{c}\x27"
  | none, none =>
    match lacking? valued ws with
    | some c => misuse name s!"option requires an argument -- \x27{c}\x27"
    | none => body options operands

/-- Do the same for all operands; the status is that of the first failure. -/
def each (ws : List String) (f : String → Act Nat) : Act Nat :=
  ws.foldlM (fun status w => do
    let s ← f w
    pure (if status = 0 then s else status)) 0

/-- The text of a file, or of the stream for input if it is `-`. -/
def input (w : String) : Act (Except FileError String) := do
  if w = "-" || w = "/dev/stdin" then
    match ← remaining? 0 with
    | some _ => pure (.ok (← readAll 0))
    | none => pure (.ok "")
  else if w = "/dev/null" then pure (.ok "")
  else
    match (← get).place w with
    | .ok (.file _ text) => pure (.ok (Utf8.encode text))
    | .ok (.folder _) => pure (.error .isFolder)
    | .ok (.vacant _) => pure (.error .notFound)
    | .error e => pure (.error e)

/-- Write a file. -/
def output (w s : String) (appends : Bool) : Act (Except FileError Unit) := do
  match ← openFile (if appends then .append else .force) w with
  | .ok index =>
    let _ ← writeChannel index s
    pure (.ok ())
  | .error e => pure (.error e)

/-- The lines of a text, each with its end. -/
def lines (s : String) : List String :=
  let ls := Text.splitOn '\n' s.toList
  ls.dropLast.map (fun l => String.ofList (l ++ ['\n'])) ++
    match ls.getLast? with
    | some (c :: cs) => [String.ofList (c :: cs)]
    | _ => []

/-- The lines of a text, without their ends. -/
def bareLines (s : String) : List (List Char) :=
  (lines s).map fun l => Text.dropEnd (· = '\n') l.toList

/-- A text behind so many blanks that it fills a width. -/
def aligned (width : Nat) (s : String) : String :=
  "".pushn ' ' (width - s.length) ++ s

/-- The last name of a path. -/
def lastName (s : String) : String :=
  let cs := Text.dropEnd (· = '/') s.toList
  if cs.isEmpty then (if s.isEmpty then "" else "/")
  else String.ofList (cs.reverse.takeWhile (· ≠ '/')).reverse

end Utility

end Shell

end Detour
