import Detour.Shell.Edit.Run
import Detour.Shell.Utility
/-!
# Shell: the editor of lines

`sed` edits the lines of its files by a script, and puts them out, or back into their files.
-/

namespace Detour

namespace Shell

namespace Utility

open Act

/-- Say how `sed` is called. -/
def editUsage : String :=
  "Usage: sed [OPTION]... \x7bscript-only-if-no-other-script\x7d [input-file]..."

/-- The long options of `sed`, with their letters. -/
def editOptions : List (String × Char) :=
  [("quiet", 'n'), ("silent", 'n'), ("expression", 'e'), ("file", 'f'), ("regexp-extended", 'E'),
    ("separate", 's'), ("unbuffered", 'u'), ("posix", 'u')]

/-- A word with the option for editing in place apart from its value, which stands behind it. -/
def inPlaceApart (w : String) : List String :=
  match w.toList with
  | '-' :: '-' :: cs =>
    match Text.afterPrefix? "in-place".toList cs with
    | some [] => ["-I", ""]
    | some ('=' :: ending) => ["-I", String.ofList ending]
    | _ => [spelt editOptions ['e', 'f'] w]
  | '-' :: cs =>
    let others := cs.takeWhile "nErsu".toList.contains
    match cs.drop others.length with
    | 'i' :: ending =>
      (if others.isEmpty then [] else ["-" ++ String.ofList others]) ++ ["-I", String.ofList ending]
    | _ => [w]
  | _ => [w]

/-- A part of a script, and the file that it is from. -/
structure ScriptPart where
  file : Option String
  text : List Char

/-- Where in a script a number of characters ends: the part, its number among the parts of its kind, and
the characters in it. -/
def placeIn (number count : Nat) : List ScriptPart → String
  | [] => s!"-e expression #{number}, char {count}"
  | p :: rest =>
    if count ≤ p.text.length || rest.isEmpty then
      match p.file with
      | none => s!"-e expression #{number}, char {count}"
      | some name =>
        let line := ((p.text.take count).filter (· = '\n')).length + 1
        s!"file {name} line {line}"
    else placeIn (if p.file.isNone then number + 1 else number) (count - p.text.length - 1) rest

/-- Complain about an edit, and give the status of its failure. -/
def editFault (status : Nat) (message : String) : Act Nat := do
  let _ ← complain "sed" message
  pure status

/-- Where the error is said to be that comes up while a program runs. -/
def noPlace : String := "-e expression #1, char 0"

/-- The files that a program reads and those that it writes. -/
def filesOf (p : Edit.Program) : List String × List String :=
  let actions := p.commands.toList.map fun c => c.action
  let reads := actions.filterMap fun
    | .readFile name | .readLine name => some name
    | _ => none
  let writes := actions.filterMap fun
    | .writeFile name | .writeFirst name => some name
    | .substitute s => s.file
    | _ => none
  (reads, writes.filter (· ≠ "/dev/stdout"))

/-- The first label that a program goes to without having it. -/
def missingLabel? (p : Edit.Program) : Option (List Char) :=
  p.commands.toList.findSome? fun c =>
    match c.action with
    | .branch name | .branchIf _ name =>
      if name.isEmpty || (p.labels.lookup name).isSome then none else some name
    | _ => none

/-- Write what an edit has written to files. -/
def writeFiles (e : Edit.Editor) : Act Unit := do
  for (name, s) in e.written.reverse do
    let _ ← output name s true

/-- Edit the lines of files by a program: of all files together, or of each of them on its own and back
into it. -/
def editFiles (x : Edit.Setting) (inPlace : Option String) (isApart : Bool) (names : List String) :
    Act Nat := do
  let mut status := 0
  let mut gathered : List Edit.Line := []
  let finish (r : Nat × Option Edit.ScriptError × Edit.Editor) : Act Nat := do
    writeFiles r.2.2
    match r.2.1 with
    | some e => editFault 1 s!"{noPlace}: {e.message}"
    | none => pure r.1
  for w in names do
    match ← input w with
    | .error .isFolder =>
      if inPlace.isSome then
        return (← editFault 4 s!"couldn\x27t edit {w}: not a regular file")
      if !isApart then
        let r := Edit.Editor.run { x with name := names.headD "-" } gathered
        put (String.join r.2.2.output.reverse)
        writeFiles r.2.2
      return (← editFault 4 s!"read error on {w}: {reason .isFolder}")
    | .error e => status ← editFault 2 s!"can\x27t read {w}: {reason e}"
    | .ok text =>
      let ls := Edit.linesOf text
      if inPlace.isNone && !isApart then gathered := gathered ++ ls
      else
        let r := Edit.Editor.run { x with name := w } ls
        let e := r.2.2
        let edited := String.join e.output.reverse
        match inPlace with
        | none => put edited
        | some ending =>
          if !ending.isEmpty then
            let backup :=
              if ending.toList.contains '*' then
                String.ofList (Text.replaceAll ['*'] (lastName w).toList ending.toList)
              else w ++ ending
            let _ ← output backup text false
          let left := e.rest.map Edit.Line.toText
          let _ ← output w (edited ++ String.join left) false
        let s ← finish r
        if e.isOver || r.2.1.isSome then return s
  if inPlace.isNone && !isApart then
    let r := Edit.Editor.run { x with name := names.headD "-" } gathered
    put (String.join r.2.2.output.reverse)
    let s ← finish r
    pure (if s = 0 then status else s)
  else pure status

/-- Edit lines by a script. -/
def sed (ws : List String) : Act Nat := do
  let valued := ['e', 'f', 'I']
  let (options, operands) := split valued (ws.flatMap inPlaceApart)
  let has (c : Char) : Bool := options.any fun o => o.1 = c
  match options.find? fun o => !("nErsu".toList ++ valued).contains o.1 with
  | some ('-', _) =>
    let w := (ws.find? fun w => "--".toList.isPrefixOf w.toList).getD ""
    editFault 1 s!"unrecognized option {quoted w}\n{editUsage}"
  | some (c, _) => editFault 1 s!"invalid option -- \x27{c}\x27\n{editUsage}"
  | none =>
    if let some c := lacking? valued ws then
      return (← editFault 1 s!"option requires an argument -- \x27{c}\x27\n{editUsage}")
    let isGiven := has 'e' || has 'f'
    if !isGiven && operands.isEmpty then
      let _ ← write 2 (editUsage ++ "\n")
      return 1
    let mut parts : List ScriptPart := []
    if !isGiven then parts := [⟨none, (operands.headD "").toList⟩]
    for (c, v) in options do
      if c = 'e' then parts := parts ++ [⟨none, v.toList⟩]
      if c = 'f' then
        match ← input v with
        | .ok text =>
          let text := text.toList
          parts := parts ++ [⟨some v, (Text.beforeSuffix? ['\n'] text).getD text⟩]
        | .error e => return (← editFault 4 s!"couldn\x27t open file {v}: {reason e}")
    let files := if isGiven then operands else operands.drop 1
    let script := List.intercalate ['\n'] (parts.map fun p => p.text)
    let x : Regex.Syntax := { extended := has 'E' || has 'r', strict := true }
    match Edit.program x script with
    | .error (e, left) =>
      let place :=
        if e = .unmatchedOpening then noPlace else placeIn 1 (script.length - left) parts
      editFault 1 s!"{place}: {e.message}"
    | .ok p =>
      match missingLabel? p with
      | some name => editFault 4 s!"can\x27t find label for jump to `{String.ofList name}\x27"
      | none =>
        let (reads, writes) := filesOf p
        for name in writes do
          if let .error e := (← output name "" false) then
            return (← editFault 4 s!"couldn\x27t open file {name}: {reason e}")
        let mut texts : List (String × String) := []
        for name in reads do
          match ← input name with
          | .ok text => texts := (name, text) :: texts
          | .error _ => pure ()
        let inPlace := options.lookup 'I'
        let setting : Edit.Setting :=
          { program := p, isQuiet := has 'n' || p.isQuiet, files := texts }
        if inPlace.isSome && files.isEmpty then editFault 4 "no input files"
        else editFiles setting inPlace (has 's') (if files.isEmpty then ["-"] else files)

end Utility

end Shell

end Detour
