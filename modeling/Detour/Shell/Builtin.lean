import Detour.Shell.Expansion
import Detour.Shell.Utility.All
/-!
# Shell: built-in commands

The commands that act on the shell itself, except for those that run other commands. A built-in
command that fails with an error ends the shell if it is one of the special ones.
-/

namespace Detour

namespace Shell

namespace Builtin

open Act

/-- Put out a text. If it is lost, that is said at the end of the command. -/
def put (s : String) : Act Nat := do
  if !(← write 1 s) then modify fun m => { m with isLost := true }
  pure 0

/-- The number that a word spells, from zero on. -/
def number (w : String) : Act Nat := do
  match Condition.number w with
  | .ok n => if 0 ≤ n ∧ n ≤ Int32.maxValue.toInt then pure n.toNat else fail s!"Illegal number: {w}"
  | .error _ => fail s!"Illegal number: {w}"

/-- The words without a mark that ends options. -/
def operands : List String → List String
  | "--" :: ws => ws
  | ws => ws

/-- Whether a word is an option. -/
def isOption (w : String) : Bool :=
  match w.toList with
  | '-' :: _ :: _ => true
  | _ => false

/-- The letters of the options in front of some words, each of which has to be known, and the words. -/
def takeOptions (known : List Char) : List String → Act (List Char × List String)
  | [] => pure ([], [])
  | "--" :: ws => pure ([], ws)
  | w :: ws => do
    match w.toList with
    | '-' :: c :: cs =>
      match (c :: cs).find? fun c => !known.contains c with
      | some c => fail ("Illegal option -" ++ c.toString)
      | none =>
        let (letters, ws) ← takeOptions known ws
        pure (c :: cs ++ letters, ws)
    | _ => pure ([], w :: ws)

/-! ## Printing and conditions -/

/-- Print words by a format. -/
def printf (ws : List String) : Act Nat := do
  match (← takeOptions [] ws).2 with
  | [] => fail "usage: printf format [arg ...]"
  | format :: ws =>
    let p := Format.print format ws
    for c in p.complaints do
      complain c
    match p.failure with
    | some e =>
      complain e
      let _ ← put (String.ofList p.output)
      throw .fault
    | none =>
      let status ← put (String.ofList p.output)
      pure (if p.complaints.isEmpty then status else 1)

/-- Decide on a condition. -/
def test (ws : List String) : Act Nat := do
  let m ← get
  let isBracket := m.builtin = some "["
  if isBracket && ws.getLast? ≠ some "]" then fail ConditionError.missingBracket.message
  else
    match Condition.holds m.view (if isBracket then ws.dropLast else ws) with
    | .ok holds => pure (if holds then 0 else 1)
    | .error e => fail e.message

/-! ## Leaving -/

/-- The status that a word gives; the current one, if there is none. -/
def statusOf (ws : List String) : Act Nat := do
  match ws with
  | [] => pure (← get).status
  | w :: _ => number w

/-- End the shell. -/
def exit (ws : List String) : Act Nat := do
  throw (.exit ((← statusOf ws) % 256))

/-- Leave a function or a script. -/
def leave (ws : List String) : Act Nat := do
  throw (.leave (← statusOf ws))

/-- Leave loops, or go on with the last one of them. -/
def leaveLoops (goesOn : Bool) (ws : List String) : Act Nat := do
  let n ← match ws with
    | [] => pure 1
    | w :: _ =>
      let n ← number w
      if n = 0 then fail s!"Illegal number: {w}" else pure n
  let around := (← get).loops
  if around = 0 then pure 0
  else
    modify fun m => { m with status := 0 }
    throw (.loops (min n around) goesOn)

/-! ## Variables -/

/-- A word as a name, and a value behind an equals sign. -/
def nameAndValue (w : String) : String × Option String :=
  match Text.cut? '=' w.toList with
  | some (name, value) => (String.ofList name, some (String.ofList value))
  | none => (w, none)

/-- Mark variables, and set those that have a value. -/
def mark (change : Variable → Variable) (ws : List String) : Act Nat := do
  let (_, ws) ← takeOptions ['p'] ws
  for w in ws do
    let (name, value) := nameAndValue w
    if !isName name.toList then fail s!"{name}: bad variable name"
    match value with
    | some v => setValue name v
    | none => pure ()
    putVariable name (some (change ((← declared? name).getD {})))
  pure 0

/-- Make variables local to the function that runs. -/
def makeLocal (ws : List String) : Act Nat := do
  match (← get).frames with
  | [] => fail "not in a function"
  | frame :: frames =>
    let mut frame := frame
    for w in ws do
      let (name, value) := nameAndValue w
      if !isName name.toList then fail s!"{name}: bad variable name"
      let old ← declared? name
      if (frame.lookup name).isNone then frame := (name, old) :: frame
      modify fun m => { m with frames := frame :: frames }
      match value with
      | some v => setValue name v
      | none => pure ()
    pure 0

/-- Remove variables or functions. -/
def unset (ws : List String) : Act Nat := do
  let (letters, ws) ← takeOptions ['v', 'f'] ws
  for w in ws do
    let name := (nameAndValue w).1
    if letters.contains 'f' then
      modify fun m => { m with functions := m.functions.filter fun e => e.1 != w }
    else if !isName name.toList then fail s!"{name}: bad variable name"
    else unsetVariable name
  pure 0

/-- Drop arguments of the shell. -/
def shift (ws : List String) : Act Nat := do
  let n ← match ws with
    | [] => pure 1
    | w :: _ => number w
  let m ← get
  if m.arguments.length < n then fail "can\x27t shift that many"
  else
    set { m with arguments := m.arguments.drop n }
    pure 0

/-- The options of the shell, by their letters and their names. -/
def optionNames : List (Char × String) :=
  [('e', "errexit"), ('f', "noglob"), ('I', "ignoreeof"), ('i', "interactive"), ('m', "monitor"),
    ('n', "noexec"), ('s', "stdin"), ('x', "xtrace"), ('v', "verbose"), ('V', "vi"),
    ('E', "emacs"), ('C', "noclobber"), ('a', "allexport"), ('b', "notify"), ('u', "nounset"),
    ('p', "privileged")]

/-- Set or clear an option. -/
def setOption (c : Char) (value : Bool) : Act Unit := do
  if (optionNames.lookup c).isNone then
    fail ("Illegal option " ++ (if value then "-" else "+") ++ c.toString)
  else
    modify fun m =>
      let others := m.options.filter (· ≠ c)
      { m with options := if value then others ++ [c] else others }

/-- Set or clear the options that letters spell; an `o` takes its name from the next word. -/
def setOptions (value : Bool) : List Char → List String → Act (List String)
  | [], ws => pure ws
  | 'o' :: cs, w :: ws => do
    match optionNames.find? fun e => e.2 = w with
    | some (c, _) => setOption c value
    | none => fail ("Illegal option " ++ (if value then "-o " else "+o ") ++ w)
    setOptions value cs ws
  | 'o' :: cs, [] => setOptions value cs []
  | c :: cs, ws => do
    setOption c value
    setOptions value cs ws

/-- Set options, and the arguments of the shell if there are some; the number bounds the words. -/
def setFrom : Nat → List String → Act Nat
  | 0, _ => pure 0
  | fuel + 1, ws => do
    let replace (ws : List String) : Act Nat := do
      modify fun m => { m with arguments := ws }
      pure 0
    match ws with
    | [] => pure 0
    | w :: rest =>
      match w.toList with
      | ['-'] =>
        if rest.isEmpty then pure 0 else replace rest
      | ['-', '-'] => replace rest
      | '-' :: cs => do
        let ws ← setOptions true cs rest
        setFrom fuel ws
      | '+' :: cs => do
        let ws ← setOptions false cs rest
        setFrom fuel ws
      | _ => replace ws

/-- Set options and arguments. -/
def setAll (ws : List String) : Act Nat := do
  if ws.isEmpty then
    let vs := ((← get).bindings.filterMap fun (n, v) => v.value.map fun s => s!"{n}=\x27{s}\x27\n")
    put (String.join (vs.mergeSort fun a b => a ≤ b))
  else setFrom (ws.length + 1) ws

/-- Cut a line into values for `n` variables, of which the last one takes all that remains. -/
def cutLine (separators : List Char) : Nat → Nat → List Char → List String
  | 0, _, _ | _, 0, _ => []
  | fuel + 1, n + 1, cs =>
    let isBlank (c : Char) := separators.contains c && (c = ' ' || c = '\t' || c = '\n')
    let cs := cs.dropWhile isBlank
    if n = 0 then [String.ofList (Text.dropEnd isBlank cs)]
    else
      let value := cs.takeWhile fun c => !separators.contains c
      let rest := (cs.drop value.length).dropWhile isBlank
      let rest := match rest with
        | c :: more => if separators.contains c && value.length < cs.length then more else rest
        | [] => []
      String.ofList value :: cutLine separators fuel n rest

/-- Drop the backslashes of a line; one at its end joins it with the next line. -/
def joinLine : List Char → List Char
  | '\\' :: '\n' :: rest => joinLine rest
  | '\\' :: c :: rest => c :: joinLine rest
  | c :: rest => c :: joinLine rest
  | [] => []

/-- The characters up to the end of a line, and whether there is one. -/
def lineOf (isRaw : Bool) : List Char → List Char × Bool
  | [] => ([], false)
  | '\n' :: _ => ([], true)
  | '\\' :: c :: rest =>
    let (l, ended) := if isRaw then lineOf isRaw (c :: rest) else
      ((c :: (lineOf isRaw rest).1), (lineOf isRaw rest).2)
    ('\\' :: l, ended)
  | c :: rest =>
    let (l, ended) := lineOf isRaw rest
    (c :: l, ended)

/-- Read a line into variables. -/
def read (ws : List String) : Act Nat := do
  let (letters, ws) ← takeOptions ['r'] ws
  let isRaw := letters.contains 'r'
  if ws.isEmpty then fail "arg count"
  else
    let text := (← remaining? 0).getD ""
    let (line, ended) := lineOf isRaw text.toList
    consume 0 (line.length + if ended then 1 else 0)
    let line := if isRaw then line else joinLine line
    let values := cutLine (← separators) (ws.length + 1) ws.length line
    for (w, i) in ws.zipIdx do
      let name := (nameAndValue w).1
      if !isName name.toList then fail s!"{name}: bad variable name"
      setValue name (values.getD i "")
    pure (if ended then 0 else 1)

/-! ## Places and signals -/

/-- Go to a folder. -/
def cd (ws : List String) : Act Nat := do
  let goal ← match (← takeOptions ['L', 'P'] ws).2 with
    | [] => pure ((← value? "HOME").getD "")
    | w :: _ => pure w
  if goal.isEmpty then pure 0
  else
    match (← get).place goal with
    | .ok (.folder l) =>
      modify fun m => { m with folder := l }
      pure 0
    | _ => fail s!"can\x27t cd to {goal}"

/-- The signals with their numbers. -/
def signals : List (String × Nat) :=
  [("HUP", 1), ("INT", 2), ("QUIT", 3), ("ILL", 4), ("TRAP", 5), ("ABRT", 6), ("BUS", 7), ("FPE", 8),
    ("KILL", 9), ("USR1", 10), ("SEGV", 11), ("USR2", 12), ("PIPE", 13), ("ALRM", 14), ("TERM", 15),
    ("STKFLT", 16), ("CHLD", 17), ("CONT", 18), ("STOP", 19), ("TSTP", 20), ("TTIN", 21),
    ("TTOU", 22), ("URG", 23), ("XCPU", 24), ("XFSZ", 25), ("VTALRM", 26), ("PROF", 27),
    ("WINCH", 28), ("POLL", 29), ("PWR", 30), ("SYS", 31)]

/-- The signals that end a shell unless they are caught. -/
def endsShell (signal : Nat) : Bool :=
  signal ≠ 0 && !([17, 18, 19, 20, 21, 22, 23, 28].contains signal)

/-- The signal that a word names. -/
def signal? (w : String) : Option Nat :=
  match Decimal.digitsValue? 10 w.toList with
  | some n => if n ≤ 64 then some n else none
  | none =>
    if w.toUpper = "EXIT" then some 0
    else signals.lookup (w.toUpper)

/-- What a shell prints of a program that a signal has ended. -/
def signalText (signal : Nat) : String :=
  match signal with
  | 1 => "Hangup"
  | 2 | 13 => ""
  | 3 => "Quit"
  | 4 => "Illegal instruction"
  | 5 => "Trace/breakpoint trap"
  | 6 => "Aborted"
  | 7 => "Bus error"
  | 8 => "Floating point exception"
  | 9 => "Killed"
  | 10 => "User defined signal 1"
  | 11 => "Segmentation fault"
  | 12 => "User defined signal 2"
  | 14 => "Alarm clock"
  | 15 => "Terminated"
  | n => s!"Signal {n}"

/-- The signal that the words behind `kill` name. -/
def signalOf : List String → Option Nat
  | "-s" :: w :: _ => signal? w
  | "--" :: _ | [] => some 15
  | w :: _ => if isOption w then signal? (String.ofList (w.toList.drop 1)) else some 15

/-- Send a signal to a process, of which the shell is the only one. -/
def kill (ws : List String) : Act Nat := do
  let usage : Act Nat := fail
    "Usage: kill [-s sigspec | -signum | -sigspec] [pid | job]... or\nkill -l [exitstatus]"
  let (signal, ws) ← match ws with
    | "-l" :: w :: _ => do
      let n ← number w
      let name := (signals.find? fun e => e.2 = n % 128).map Prod.fst
      let _ ← put (name.getD "" ++ "\n")
      pure (none, [])
    | "-l" :: [] => pure (none, [])
    | "-s" :: w :: ws =>
      match signal? w with
      | some n => pure (some n, operands ws)
      | none => fail s!"invalid signal number or name: {w}"
    | "--" :: ws => pure (some 15, ws)
    | w :: ws =>
      if isOption w then
        match signal? (String.ofList (w.toList.drop 1)) with
        | some n => pure (some n, operands ws)
        | none => fail s!"Illegal option {w.take 2}"
      else pure (some 15, w :: ws)
    | [] => pure (some 15, [])
  match signal with
  | none => pure 0
  | some signal =>
    if ws.isEmpty then usage
    else
      let mut status := 0
      for w in ws do
        match Condition.number w with
        | .error _ => fail s!"Illegal number: {w}"
        | .ok n =>
          if n = processNumber || n = 0 then
            if endsShell signal then throw (.killed signal)
          else
            complain "No such process\n"
            status := 1
      pure status

/-- The commands that act on the shell, except for those that run other commands. -/
def all : List (String × (List String → Act Nat)) :=
  [(":", fun _ => pure 0), ("true", fun _ => pure 0), ("false", fun _ => pure 1),
    ("echo", fun ws => put (Format.echo ws)), ("printf", printf), ("test", test), ("[", test),
    ("exit", exit), ("return", leave), ("break", leaveLoops false),
    ("continue", leaveLoops true), ("export", mark fun v => { v with isExported := true }),
    ("readonly", mark fun v => { v with isFixed := true }), ("local", makeLocal), ("unset", unset),
    ("shift", shift), ("set", setAll), ("read", read), ("cd", cd), ("chdir", cd),
    ("pwd", fun _ => do put ((← get).folder.text ++ "\n")), ("kill", kill),
    ("umask", fun ws => if ws.isEmpty then put "0022\n" else pure 0), ("ulimit", fun _ => put "unlimited\n"),
    ("wait", fun _ => pure 0), ("times", fun _ => put "0m0.000000s 0m0.000000s\n0m0.000000s 0m0.000000s\n"),
    ("hash", fun _ => pure 0), ("jobs", fun _ => pure 0), ("alias", fun _ => pure 0),
    ("unalias", fun _ => pure 0)]

end Builtin

end Shell

end Detour
