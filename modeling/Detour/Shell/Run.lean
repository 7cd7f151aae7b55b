import Detour.Shell.Builtin
/-!
# Shell: running commands

A command is run on the state of a shell; the first argument of `run` bounds how deep commands are
nested in each other. A subshell is a copy of the shell: of what it does, only what happens to files and
in channels remains. Commands with pipes between them run one after the other, since each of them gets
all that the one before it writes.
-/

namespace Detour

namespace Shell

namespace Act

/-- How commands are run: the flag says whether their failure is asked for, so that it does not end the
shell. -/
abbrev Runner := Bool → Command → Act Unit

/-- Set the status. -/
def setStatus (n : Nat) : Act Unit :=
  modify fun m => { m with status := n }

/-- Run the rest of a script, line by line. The flag says whether nothing has been run so far; the
status is zero if nothing has been run at all. -/
def runSource (run : Runner) (tested : Bool) : Nat → Bool → Source → Act Unit
  | 0, _, _ => pure ()
  | fuel + 1, isFirst, s => do
    match s.readLine with
    | .error (line, e) =>
      modify fun m => { m with line := line }
      fail s!"Syntax error: {e.message}"
    | .ok (c, rest) =>
      let isFirst := isFirst && c matches .nothing
      modify fun m => { m with readLine := rest.line }
      run tested c
      if !rest.rest.isEmpty then runSource run tested fuel isFirst rest
      else if isFirst then setStatus 0

/-- Run a script. -/
def runText (run : Runner) (tested : Bool) (text : String) : Act Unit := do
  let before := (← get).readLine
  try
    runSource run tested (text.length + 1) true { rest := text.toList }
  finally
    modify fun m => { m with readLine := before }

/-! ## Shells in shells -/

/-- The status with which a shell ends that runs a body. -/
def ended (body : Act Unit) : Act Nat := do
  try
    body
    pure (← get).status
  catch
    | .exit n | .leave n => pure n
    | .fault => pure 2
    | .loops _ _ => pure (← get).status
    | .killed n => throw (.killed n)

/-- Run the body of a shell, and what is to be run at its end. -/
def toEnd (run : Runner) (body : Act Unit) : Act Nat := do
  let status ← ended body
  match (← get).traps.lookup 0 with
  | none => pure status
  | some action =>
    modify fun m => { m with traps := m.traps.filter fun e => e.1 != 0 }
    setStatus status
    ended do
      runText run false action
      setStatus status

/-- Run a body in a subshell. -/
def subshell (run : Runner) (body : Act Unit) : Act Nat := do
  let before ← get
  set { before with traps := [], readLine := 1 }
  let status ← toEnd run body
  modify before.afterCopy
  pure status

/-- The output of a command, without the line ends at its end. -/
def capture (run : Runner) (c : Command) : Act String := do
  let index ← addChannel (.buffer "")
  let status ← subshell run do
    setStream 1 (some index)
    run false c
  modify fun m => { m with substituted := status }
  let text := match (← get).channels[index]? with
    | some (.buffer text) => text
    | _ => ""
  pure (String.ofList (Text.dropEnd (· = '\n') (text.toList.filter (· ≠ Char.ofNat 0))))

/-! ## Redirections -/

/-- A redirection with its target expanded. -/
def expandRedirect (run : Runner) : Redirect → Act (Nat × RedirectKind × String)
  | .mk stream kind w => do
    let s ← text (capture run) w
    let isStream := match s.toList with
      | [c] => c.isDigit || c = '-'
      | _ => false
    if kind = .duplicate && !isStream then
      modify fun m => { m with line := m.readLine }
      fail "Syntax error: Bad fd number"
    else pure (stream, kind, s)

/-- Do a redirection; false if it fails. -/
def redirect (stream : Nat) (kind : RedirectKind) (s : String) : Act Bool := do
  match kind with
  | .here =>
    setStream stream (some (← addChannel (.buffer s)))
    pure true
  | .duplicate =>
    if s = "-" then
      setStream stream none
      pure true
    else
      match (← get).streams.lookup ((Decimal.digitsValue? 10 s.toList).getD 0) with
      | some index =>
        setStream stream (some index)
        pure true
      | none =>
        complain s!"{s}: Bad file descriptor"
        pure false
  | kind =>
    match ← openFile kind s with
    | .ok index =>
      setStream stream (some index)
      pure true
    | .error e =>
      if kind = .input then complain s!"cannot open {s}: {reasonToOpen e}"
      else complain s!"cannot create {s}: {reasonToCreate e}"
      pure false

/-- Do redirections up to one that fails; false if one does. -/
def redirectAll (run : Runner) (rs : List Redirect) : Act Bool := do
  let rs ← rs.mapM (expandRedirect run)
  rs.foldlM (fun ok (stream, kind, s) => if ok then redirect stream kind s else pure false) true

/-- Run a body between redirections and their end; the status is 2 if one of them fails. -/
def withRedirects (run : Runner) (rs : List Redirect) (body : Act Unit) : Act Unit := do
  let streams := (← get).streams
  try
    if ← redirectAll run rs then body else setStatus 2
  finally
    modify fun m => { m with streams := streams }

/-! ## Programs -/

/-- What a name of a program leads to. -/
inductive Program where
  | utility (f : List String → Act Nat)
  | shell
  | environment
  /-- A file that another program runs, with the words that it is given in front. -/
  | script (program : String) (words : List String)
  | absent (status : Nat) (message : String)

/-- The program of a name, if there is one in the usual folders. -/
def known? (name : String) : Option Program :=
  match name with
  | "sh" | "dash" | "bash" => some .shell
  | "env" => some .environment
  | name => (Utility.all.lookup name).map .utility

/-- The folders that hold programs. -/
def binFolders : List String := ["/bin", "/usr/bin"]

/-- What is said of a program that cannot be run. -/
def absent (e : FileError) : Program :=
  match e with
  | .notFound | .notFolder => .absent 127 "not found"
  | .nameTooLong => .absent 127 (reason e)
  | e => .absent 126 (reason e)

/-- The program at a path in one of the usual folders. -/
def knownAt? (path : String) : Option Program :=
  binFolders.findSome? fun folder =>
    (Text.afterPrefix? (folder ++ "/").toList path.toList).bind fun cs => known? (String.ofList cs)

/-- What runs a text: the program that its first line names, perhaps with one word; a shell, if the line
names none. -/
def interpreter (text : List Char) : String × List String :=
  match Text.afterPrefix? ['#', '!'] (text.takeWhile (· ≠ '\n')) with
  | none => ("/bin/sh", [])
  | some cs =>
    let isBlank (c : Char) : Bool := c = ' ' || c = '\t'
    let cs := Text.dropEnd isBlank (cs.dropWhile isBlank)
    let name := cs.takeWhile fun c => !isBlank c
    let word := (cs.drop name.length).dropWhile isBlank
    (String.ofList name, if word.isEmpty then [] else [String.ofList word])

/-- The program at a path. A file of the tree is one if somebody may run it, and what runs it is there. -/
def programAt (m : Machine) (path : String) : Program :=
  match knownAt? path with
  | some p => p
  | none =>
    match m.place path with
    | .ok (.vacant _) => absent .notFound
    | .ok (.file l text) =>
      let (program, words) := interpreter (Utf8.encode text).toList
      if m.files.runners l = 0 then absent .permissionDenied
      else if (knownAt? program).isNone then absent .notFound
      else .script program (words ++ [path])
    | .ok (.folder _) => absent .permissionDenied
    | .error e => absent e

/-- The program of a name or a path. -/
def findProgram (name : String) : Act Program := do
  let m ← get
  if name.isEmpty then pure (.absent 127 "Permission denied")
  else if name.toList.contains '/' then pure (programAt m name)
  else
    let folders := Text.splitOn ':' ((← value? "PATH").getD "").toList
    let found := folders.map fun folder =>
      programAt m (if folder.isEmpty then name else String.ofList folder ++ "/" ++ name)
    let isThere : Program → Bool
      | .absent _ _ => false
      | _ => true
    let isDenied : Program → Bool
      | .absent 126 _ => true
      | _ => false
    match found.find? isThere with
    | some p => pure p
    | none => pure (if found.any isDenied then .absent 127 "Permission denied" else absent .notFound)

/-- The variables that every shell starts with. -/
def initialVariables : List (String × Variable) :=
  [("IFS", { value := some " \t\n" }), ("OPTIND", { value := some "1" }),
    ("PS4", { value := some "+ " }), ("PATH", { value := some programFolders, isExported := true })]

/-- The options and operands that a shell is called with: whether a script is an operand, and whether
the script is the input. -/
def shellOptions : List String → Act (Bool × Bool × List String)
  | [] => pure (false, false, [])
  | w :: rest => do
    match w.toList with
    | ['-'] | ['-', '-'] => pure (false, false, rest)
    | sign :: c :: cs =>
      if sign = '-' || sign = '+' then
        let letters := c :: cs
        let own (c : Char) := c = 'c' || c = 'l'
        let takesName := letters.contains 'o'
        let _ ← Builtin.setOptions (sign = '-') (letters.filter (!own ·)) (rest.take 1)
        let (text, input, operands) ←
          if takesName then
            match rest with
            | _ :: more => shellOptions more
            | [] => pure (false, false, [])
          else shellOptions rest
        pure (text || letters.contains 'c', input || letters.contains 's', operands)
      else pure (false, false, w :: rest)
    | _ => pure (false, false, w :: rest)

/-- The script that a shell is called for, by its operands. -/
def shellScript (run : Runner) (ws : List String) : Act Unit := do
  modify fun m => { m with line := 0 }
  let (isText, isInput, ws) ← shellOptions ws
  let start (arguments : List String) : Act Unit :=
    modify fun m => { m with line := 1, arguments := arguments }
  match isText, ws with
  | true, [] => fail "-c requires an argument"
  | true, script :: ws =>
    match ws with
    | name :: ws =>
      modify fun m => { m with name := name }
      start ws
    | [] => start []
    runText run false script
  | false, file :: ws =>
    if isInput then
      start (file :: ws)
      runText run false (← readAll 0)
    else
      match (← get).place file with
      | .ok (.file _ script) =>
        modify fun m => { m with name := file }
        start ws
        runText run false (Utf8.encode script)
      | .ok (.folder _) => pure ()
      | .ok (.vacant _) => fail s!"cannot open {file}: No such file"
      | .error e => fail s!"cannot open {file}: {reasonToOpen e}"
  | false, [] =>
    start []
    runText run false (← readAll 0)

/-- Run another shell. -/
def runShell (run : Runner) (name : String) (ws : List String) : Act Unit := do
  let before ← get
  let environment ← environment
  let inherited := initialVariables.filter fun e => (environment.lookup e.1).isNone
  set ({ files := before.files, output := before.output, complaint := before.complaint,
         channels := before.channels, streams := before.streams, folder := before.folder,
         name := name, bindings := environment ++ inherited } : Machine)
  let status ← toEnd run (shellScript run ws)
  modify before.afterCopy
  setStatus status

/-- Run a program by its name. The first number bounds how many programs are named in front of it. -/
def runProgram (run : Runner) : Nat → String → List String → Act Unit
  | 0, _, _ => setStatus 126
  | fuel + 1, name, ws => do
    match ← findProgram name with
    | .utility f =>
      modify fun m => { m with isLost := false }
      setStatus (← f ws)
      if (← get).isLost then
        let _ ← Utility.complain (Utility.lastName name) "write error: Bad file descriptor"
        setStatus 1
    | .shell => runShell run name ws
    | .script program words => runProgram run fuel program (words ++ ws)
    | .absent status message =>
      complain s!"{name}: {message}"
      setStatus status
    | .environment =>
      let ws ← match ws with
        | "-i" :: ws => do
          modify fun m => { m with bindings := m.bindings.filter fun e => !e.2.isExported }
          pure ws
        | ws => pure ws
      let isSetting (w : String) := w.toList.contains '='
      for w in ws.takeWhile isSetting do
        let (name, value) := Builtin.nameAndValue w
        putVariable name (some { value := value, isExported := true })
      match ws.dropWhile isSetting with
      | [] =>
        for (name, v) in ← environment do
          Utility.put (name ++ "=" ++ v.value.getD "" ++ "\n")
        setStatus 0
      | name :: ws =>
        match ← findProgram name with
        | .absent status message =>
          let message := if message = "not found" then reason .notFound else message
          let _ ← Utility.complain "env" s!"{Utility.quoted name}: {message}"
          setStatus status
        | _ => runProgram run fuel name ws

/-- Run a program as another process: it leaves the variables alone, and only itself ends by a
signal. -/
def spawn (run : Runner) (name : String) (ws : List String) : Act Unit := do
  let before ← get
  let signal ← try
      runProgram run (ws.length + 4) name ws
      pure none
    catch
      | .killed n => pure (some n)
      | _ => pure none
  let after ← get
  match signal with
  | none => set { before.afterCopy after with status := after.status }
  | some n =>
    set { before.afterCopy after with status := 128 + n }
    let message := Builtin.signalText n
    let _ ← write 2 (if message.isEmpty then "" else message ++ "\n")

/-! ## Simple commands -/

/-- Run a command up to where it is left. -/
def caught (run : Runner) (tested : Bool) (c : Command) : Act Unit := do
  try
    run tested c
  catch
    | .leave n => setStatus n
    | j => throw j

/-- Run a function. -/
def call (run : Runner) (tested : Bool) (body : Command) (ws : List String) : Act Unit := do
  let m ← get
  set { m with arguments := ws, frames := [] :: m.frames, loops := 0 }
  try
    caught run tested body
  finally
    for (name, old) in (← get).frames.headD [] do
      putVariable name old
    modify fun after => { after with arguments := m.arguments, frames := m.frames, loops := m.loops }

/-- What a name stands for as a command. -/
def describe (name : String) : Act (Option String) := do
  let m ← get
  if reservedWords.contains name then pure (some s!"{name} is a shell keyword")
  else if (m.functions.lookup name).isSome then pure (some s!"{name} is a shell function")
  else if specialCommands.contains name then pure (some s!"{name} is a special shell builtin")
  else if ((Builtin.all.map Prod.fst) ++ ["command", "type", "eval", "exec"]).contains name then
    pure (some s!"{name} is a shell builtin")
  else
    match ← findProgram name with
    | .absent _ _ =>
      if name.toList.contains '/' && (m.place? name).isSome then pure (some s!"{name} is {name}")
      else pure none
    | _ =>
      let path := if name.toList.contains '/' then name else "/usr/bin/" ++ name
      pure (some s!"{name} is {path}")

/-- Say what names stand for as commands. -/
def typeOf (ws : List String) : Act Nat := do
  let mut status := 0
  for w in ws do
    match ← describe w with
    | some s =>
      let _ ← Builtin.put (s ++ "\n")
    | none =>
      let _ ← Builtin.put s!"{w}: not found\n"
      status := 127
  pure status

/-- Say how a command of a name is found. -/
def pathOf (w : String) : Act Nat := do
  match ← describe w with
  | none => pure 127
  | some s =>
    let isProgram := s = w ++ " is " ++ w || s = w ++ " is /usr/bin/" ++ w
    Builtin.put ((if isProgram then String.ofList (s.toList.drop (w.length + 4)) else w) ++ "\n")

/-- Set what is run when signals arrive. -/
def setTraps (ws : List String) : Act Nat := do
  let (action, names) := match (← Builtin.takeOptions [] ws).2 with
    | [w] => (none, [w])
    | "-" :: names => (none, names)
    | action :: names =>
      if (Decimal.digitsValue? 10 action.toList).isSome then (none, action :: names)
      else (some action, names)
    | [] => (none, [])
  for w in names do
    match Builtin.signal? w with
    | none => return (← Utility.complain "trap" s!"{w}: bad trap")
    | some n =>
      modify fun m =>
        let others := m.traps.filter fun e => e.1 != n
        { m with
          traps := match action with
            | some a => (n, a) :: others
            | none => others }
  pure 0

/-- Run a script from a file. -/
def source (run : Runner) (ws : List String) : Act Nat := do
  match (← Builtin.takeOptions [] ws).2 with
  | [] => pure 0
  | file :: _ =>
    match file.toList.contains '/', (← get).place file with
    | true, .ok (.file _ script) =>
      modify fun m => { m with builtin := some file }
      try
        runText run false (Utf8.encode script)
      catch
        | .leave n => setStatus n
        | j => throw j
      pure (← get).status
    | true, .error e => fail s!"cannot open {file}: {reasonToOpen e}"
    | true, _ => fail s!"cannot open {file}: No such file"
    | false, _ => fail s!"{file}: not found"

/-- The built-in commands, with those that run other commands. -/
def builtin? (run : Runner) (tested : Bool) (name : String) : Option (List String → Act Nat) :=
  match name with
  | "eval" => some fun ws => do
    runText run tested (" ".intercalate ws)
    pure (← get).status
  | "." => some (source run)
  | "trap" => some setTraps
  | "type" => some typeOf
  | "exec" => some fun _ => pure 0
  | name => Builtin.all.lookup name

/-- Run a built-in command. -/
def runBuiltin (isSpecial : Bool) (name : String) (f : List String → Act Nat) (ws : List String) :
    Act Unit := do
  let before := (← get).builtin
  modify fun m => { m with builtin := some name, isLost := false }
  try
    setStatus (← f ws)
    if (← get).isLost then
      complain s!"{name}: I/O error"
      setStatus 1
  catch
    | .fault =>
      if isSpecial then throw .fault
      setStatus 2
    | .killed n =>
      match (← get).traps.lookup n with
      | some _ => if n = 9 then throw (.killed n) else setStatus 0
      | none => throw (.killed n)
    | j => throw j
  finally
    modify fun m => { m with builtin := before }

/-- The words in front of which `command` stands, and whether it does. -/
def behindCommand : List String → Bool × List String
  | "command" :: w :: ws =>
    if w = "-p" || w = "--" then (true, ws)
    else if w = "-V" then (false, "type" :: ws)
    else if Builtin.isOption w then (false, "command" :: w :: ws)
    else (true, (behindCommand (w :: ws)).2)
  | ["command"] => (true, [])
  | ws => (false, ws)

/-- Run the words of a simple command. -/
def runWords (run : Runner) (tested : Bool) (ws : List String) : Act Unit := do
  let (isPlain, ws) := behindCommand ws
  match ws with
  | [] => setStatus 0
  | "command" :: w :: names =>
    if w = "-v" then
      match names with
      | [] => setStatus 0
      | name :: _ => setStatus (← pathOf name)
    else
      modify fun m => { m with builtin := some "command" }
      complain s!"Illegal option {w.take 2}"
      modify fun m => { m with builtin := none, status := 2 }
  | name :: ws =>
    let isSpecial := specialCommands.contains name
    let m ← get
    let function := if isPlain || isSpecial then none else m.functions.lookup name
    match function, builtin? run tested name with
    | some body, _ => call run tested body ws
    | none, some f =>
      if name = "exec" && !ws.isEmpty then
        modify fun m => { m with builtin := some "exec" }
        if ws.headD "" = "" then
          complain s!": {reason .permissionDenied}"
          throw (.exit 126)
        else
          runProgram run (ws.length + 2) (ws.headD "") ws.tail
          throw (.exit (← get).status)
      else
        let before := (← get).traps
        runBuiltin (isSpecial && !isPlain) name f ws
        if name = "kill" && !before.isEmpty then
          match (Builtin.signalOf ws).bind fun n => before.lookup n with
          | some action =>
            let status := (← get).status
            runText run false action
            setStatus status
          | none => pure ()
    | none, none => spawn run name ws

/-- Whether a word looks like an assignment, and its text without cutting it into fields. -/
def declared (run : Runner) (w : Word) : Act (List String) := do
  match Reader.assignment? w with
  | some (name, value) => pure [name ++ "=" ++ (← text (capture run) value)]
  | none => fields (capture run) w

/-- The fields of the words of a simple command. Assignments behind a command that declares variables are
not cut. -/
def expandWords (run : Runner) : List Word → Act (List String)
  | [] => pure []
  | w :: rest => do
    let first ← fields (capture run) w
    match first with
    | [] => expandWords run rest
    | first =>
      let declares := ["export", "readonly", "local"].contains (first.headD "")
      let more ← rest.mapM fun w =>
        if declares then declared run w else fields (capture run) w
      pure (first ++ more.flatten)

/-- Show a command that is about to run, if the shell is asked to. -/
def traceTo (index : Option Nat) (assigned : List (String × String)) (ws : List String) : Act Unit := do
  if (← get).has 'x' then
    match index with
    | some index =>
      let shown := assigned.map (fun (x, s) => x ++ "=" ++ s) ++ ws
      let _ ← writeChannel index ((← value? "PS4").getD "" ++ " ".intercalate shown ++ "\n")
    | none => pure ()

/-- Run a simple command. -/
def simple (run : Runner) (tested : Bool) (line : Nat) (assignments : List (String × Word))
    (words : List Word) (redirects : List Redirect) : Act Unit := do
  modify fun m => { m with line := line, substituted := 0 }
  let ws ← expandWords run words
  let streams := (← get).streams
  let name := ((behindCommand ws).2).headD ""
  let isSpecial := specialCommands.contains (ws.headD "")
  let keeps := name = "exec" && (behindCommand ws).2.length = 1
  let restore : Act Unit := modify fun m => { m with streams := streams }
  if !(← redirectAll run redirects) then
    restore
    setStatus 2
    if isSpecial then throw .fault
  else
    let isLocal := !ws.isEmpty && !isSpecial
    let mut old : List (String × Option Variable) := []
    let mut assigned : List (String × String) := []
    for (x, w) in assignments do
      let s ← text (capture run) w
      assigned := assigned ++ [(x, s)]
      if isLocal then
        let v ← declared? x
        old := (x, v) :: old
        setValue x s
        putVariable x (some { ((← declared? x).getD {}) with isExported := true })
      else setValue x s
    traceTo (streams.lookup 2) assigned ws
    let undo := old
    try
      if ws.isEmpty then do setStatus (← get).substituted else runWords run tested ws
    finally
      if !keeps then restore
      for (x, v) in undo do
        putVariable x v

/-! ## Compound commands -/

/-- Run the body of a loop once; false if the loop is left. -/
def runBody (body : Act Unit) : Act Bool := do
  let loops := (← get).loops
  modify fun m => { m with loops := loops + 1 }
  try
    body
    pure true
  catch
    | .loops n goesOn =>
      if n ≤ 1 then pure goesOn else throw (.loops (n - 1) goesOn)
    | j => throw j
  finally
    modify fun m => { m with loops := loops }

/-- Repeat a step, which says whether to go on, and hands a status on; the first number bounds how
often. -/
def repeatWhile (step : Nat → Act (Bool × Nat)) : Nat → Nat → Act Nat
  | 0, _ => throw (.killed 9)
  | fuel + 1, status => do
    match ← step status with
    | (true, status) => repeatWhile step fuel status
    | (false, status) => pure status

/-- The greatest number of times that a loop is run. -/
def loopBound : Nat := 1000000

/-- Run a loop. Its status is the last one of its body. -/
def loop (run : Runner) (tested goal : Bool) (condition body : Command) : Act Unit := do
  let step (status : Nat) : Act (Bool × Nat) := do
    if !(← runBody (run true condition)) then pure (false, status)
    else if ((← get).status == 0) == goal then
      let goesOn ← runBody (run tested body)
      pure (goesOn, (← get).status)
    else pure (false, status)
  setStatus (← repeatWhile step loopBound 0)

/-- Run a body for each of some words. -/
def each (run : Runner) (tested : Bool) (name : String) (body : Command) : List String → Act Unit
  | [] => pure ()
  | w :: ws => do
    setValue name w
    if ← runBody (run tested body) then each run tested name body ws

/-- Run the command of the first case that matches. -/
def choose (run : Runner) (tested : Bool) (subject : String) :
    List (List Word × Command) → Act Unit
  | [] => setStatus 0
  | (patterns, body) :: rest => do
    let mut isMatch := false
    for w in patterns do
      if !isMatch then
        let p ← pattern (capture run) w
        isMatch := p.accepts subject.toList
    if isMatch then
      match body with
      | .nothing => setStatus 0
      | body => run tested body
    else choose run tested subject rest

/-- Run commands each of which reads what the one before it writes; `input` is where the first one
reads, if it is not the first of all. -/
def pipeline (run : Runner) (tested : Bool) (input : Option Nat) : List Command → Act Unit
  | [] => pure ()
  | [c] => do
    setStatus (← subshell run do
      match input with
      | some i => setStream 0 (some i)
      | none => pure ()
      run tested c)
  | c :: rest => do
    let output ← addChannel (.buffer "")
    let _ ← subshell run do
      match input with
      | some i => setStream 0 (some i)
      | none => pure ()
      setStream 1 (some output)
      run tested c
    pipeline run tested (some output) rest

/-- End the shell if it is to end with the failure of a command. -/
def check (tested : Bool) : Act Unit := do
  let m ← get
  if m.status ≠ 0 && !tested && m.has 'e' then throw (.exit m.status)

/-- Run a command. -/
def run : Nat → Runner
  | 0, _, _ => throw (.killed 11)
  | fuel + 1, tested, c => do
    match if (← get).has 'n' then .nothing else c with
    | .nothing => pure ()
    | .simple line assignments words redirects =>
      simple (run fuel) tested line assignments words redirects
      check tested
    | .pipeline cs =>
      pipeline (run fuel) tested none cs
      check tested
    | .not c =>
      run fuel true c
      setStatus (if (← get).status = 0 then 1 else 0)
    | .both a b =>
      run fuel true a
      if (← get).status = 0 then run fuel tested b
    | .either a b =>
      run fuel true a
      if (← get).status ≠ 0 then run fuel tested b
    | .sequence a b =>
      run fuel tested a
      run fuel tested b
    | .background c =>
      let _ ← subshell (run fuel) do
        setStream 0 (some 0)
        run fuel false c
      setStatus 0
    | .subshell line c redirects =>
      modify fun m => { m with line := line }
      setStatus (← subshell (run fuel) do
        if ← redirectAll (run fuel) redirects then run fuel tested c else throw .fault)
      check tested
    | .redirected line c redirects =>
      modify fun m => { m with line := line }
      withRedirects (run fuel) redirects (run fuel tested c)
    | .branch condition yes no =>
      run fuel true condition
      if (← get).status = 0 then run fuel tested yes
      else
        match no with
        | .nothing => setStatus 0
        | no => run fuel tested no
    | .loop goal condition body => loop (run fuel) tested goal condition body
    | .each line name words body =>
      modify fun m => { m with line := line }
      let ws ← words.mapM (fields (capture (run fuel)))
      if ws.flatten.isEmpty then setStatus 0
      each (run fuel) tested name body ws.flatten
    | .choice line subject cases =>
      modify fun m => { m with line := line }
      let s ← text (capture (run fuel)) subject
      choose (run fuel) tested s cases
    | .define name body =>
      modify fun m =>
        { m with functions := (name, body) :: m.functions.filter fun e => e.1 != name }
      setStatus 0

/-- The greatest depth of commands in commands. -/
def depth : Nat := 3000

end Act

end Shell

end Detour
