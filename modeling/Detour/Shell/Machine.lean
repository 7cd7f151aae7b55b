import Detour.Files.Basic
import Detour.Shell.Condition
import Detour.Shell.Pattern
import Detour.Shell.Reader
import Detour.Text.Utf8
/-!
# Shell: the state of a shell

A shell works on a tree of files, with variables and with numbered streams. A stream leads to a
channel, and streams that lead to one channel share its position. All texts in a shell are byte
strings; the names and the texts of files are decoded where files are used.
-/

namespace Detour

namespace Shell

/-- What an open stream leads to. -/
inductive Channel where
  /-- To nothing: what is written is lost, and there is nothing to read. -/
  | null
  /-- To what the whole run puts out. -/
  | output
  /-- To what the whole run complains about. -/
  | complaint
  | file (l : Location) (position : Nat) (reads writes appends : Bool)
  /-- To a text that is read from its start and written at its end. -/
  | buffer (text : String)
deriving DecidableEq, Repr

/-- A variable. -/
structure Variable where
  value : Option String := none
  isExported : Bool := false
  isFixed : Bool := false
deriving DecidableEq, Repr

/-- Why a shell leaves the commands that it runs. -/
inductive Jump where
  | exit (status : Nat)
  /-- The end of a shell because of an error. -/
  | fault
  | leave (status : Nat)
  /-- Leave loops, the last of which may go on. -/
  | loops (count : Nat) (goesOn : Bool)
  /-- The end of all shells, by a signal. -/
  | killed (signal : Nat)
deriving DecidableEq, Repr

/-- The state of a shell. -/
structure Machine where
  files : Files
  /-- What has been put out. -/
  output : String := ""
  /-- What has been complained about. -/
  complaint : String := ""
  channels : Array Channel := #[.null, .output, .complaint]
  /-- Where the open streams lead, by the indexes of channels. -/
  streams : List (Nat × Nat) := [(0, 0), (1, 1), (2, 2)]
  folder : Location := []
  name : String := "sh"
  arguments : List String := []
  bindings : List (String × Variable) := []
  functions : List (String × Command) := []
  options : List Char := []
  /-- What is run when a signal arrives; for zero, when the shell ends. -/
  traps : List (Nat × String) := []
  status : Nat := 0
  /-- The status of the latest substitution of the command that runs. -/
  substituted : Nat := 0
  /-- The line of the command that runs. -/
  line : Nat := 1
  /-- The line up to which the script has been read. -/
  readLine : Nat := 1
  /-- The built-in command that runs. -/
  builtin : Option String := none
  /-- Whether a command has written to a stream that is closed. -/
  isLost : Bool := false
  /-- The variables that the functions under way have made local, as they were before. -/
  frames : List (List (String × Option Variable)) := []
  /-- The number of loops around the command that runs. -/
  loops : Nat := 0

/-- A step of a shell. -/
abbrev Act (α : Type) := ExceptT Jump (StateM Machine) α

/-- The number by which a shell knows itself. -/
def processNumber : Nat := 4242

/-- The folders in which programs are found. -/
def programFolders : String := "/usr/local/sbin:/usr/local/bin:/usr/sbin:/usr/bin:/sbin:/bin"

/-- Whether an option of the shell is set. -/
def Machine.has (m : Machine) (option : Char) : Bool :=
  m.options.contains option

/-- The state of a shell after a copy of it has run. -/
def Machine.afterCopy (before after : Machine) : Machine :=
  { before with
    files := after.files
    output := after.output
    complaint := after.complaint
    channels := after.channels }

/-- The path that a byte string spells in the folder of a shell. -/
def Machine.path (m : Machine) (s : String) : Path :=
  .ofText (Path.join m.folder.text (Utf8.decode s))

/-- What a path leads to. -/
def Machine.place (m : Machine) (s : String) : Except FileError Place :=
  if s.isEmpty then .error .notFound
  else
    match m.files.place (m.path s) with
    | .ok (.file l text) => if (m.path s).endsWithSlash then .error .notFolder else .ok (.file l text)
    | result => result

/-- What a path leads to, if to a file or a folder. -/
def Machine.place? (m : Machine) (s : String) : Option Place :=
  match m.place s with
  | .ok (.file l text) => some (.file l text)
  | .ok (.folder l) => some (.folder l)
  | _ => none

/-- The files that conditions in a shell ask about. -/
def Machine.view (m : Machine) : Condition.View :=
  { place := m.place?, isRunnable := fun l => m.files.runners l != 0 }

/-- The words for an error on files. -/
def reason : FileError → String
  | .notFound => "No such file or directory"
  | .permissionDenied => "Permission denied"
  | .present => "File exists"
  | .notFolder => "Not a directory"
  | .isFolder => "Is a directory"
  | .nameTooLong => "File name too long"
  | .nulInPath => "Invalid argument"

/-- The words of the shell for a file that cannot be opened. -/
def reasonToOpen : FileError → String
  | .notFound | .notFolder => "No such file"
  | e => reason e

/-- The words of the shell for a file that cannot be created. -/
def reasonToCreate : FileError → String
  | .notFound | .notFolder => "Directory nonexistent"
  | e => reason e

namespace Act

/-- Change the tree of files. -/
def setFiles (fs : Files) : Act Unit :=
  modify fun m => { m with files := fs }

/-! ## Streams -/

/-- The text with `s` written over it from a position on. -/
def overwrite (text : String) (position : Nat) (s : String) : String :=
  let cs := text.toList
  let gap := List.replicate (position - cs.length) (Char.ofNat 0)
  String.ofList (cs.take position ++ gap ++ s.toList ++ cs.drop (position + s.length))

/-- Write to a channel; false if it cannot be written to. -/
def writeChannel (index : Nat) (s : String) : Act Bool := do
  let m ← get
  match m.channels[index]? with
  | some .null => pure true
  | some .output =>
    set { m with output := m.output ++ s }
    pure true
  | some .complaint =>
    set { m with complaint := m.complaint ++ s }
    pure true
  | some (.buffer text) =>
    set { m with channels := m.channels.set! index (.buffer (text ++ s)) }
    pure true
  | some (.file l position reads true appends) =>
    match m.files.text? l with
    | none => pure true
    | some old =>
      let old := Utf8.encode old
      let position := if appends then old.length else position
      set { m with
        files := m.files.put l (Utf8.decode (overwrite old position s))
        channels := m.channels.set! index
          (.file l (position + s.length) reads true appends) }
      pure true
  | _ => pure false

/-- Write to a stream; false if it cannot be written to. -/
def write (stream : Nat) (s : String) : Act Bool := do
  match (← get).streams.lookup stream with
  | some index => if s.isEmpty then pure true else writeChannel index s
  | none => pure s.isEmpty

/-- What remains to be read from a stream; none if it cannot be read. -/
def remaining? (stream : Nat) : Act (Option String) := do
  let m ← get
  match (m.streams.lookup stream).bind fun index => m.channels[index]? with
  | some .null => pure (some "")
  | some (.buffer text) => pure (some text)
  | some (.file l position true _ _) =>
    match m.files.text? l with
    | some text => pure (some (String.ofList ((Utf8.encode text).toList.drop position)))
    | none => pure (some "")
  | _ => pure none

/-- Pass over characters of a stream that have been read. -/
def consume (stream count : Nat) : Act Unit :=
  modify fun m =>
    match m.streams.lookup stream with
    | none => m
    | some index =>
      match m.channels[index]? with
      | some (.buffer text) =>
        { m with
          channels := m.channels.set! index (.buffer (String.ofList (text.toList.drop count))) }
      | some (.file l position reads writes appends) =>
        { m with
          channels := m.channels.set! index (.file l (position + count) reads writes appends) }
      | _ => m

/-- Take all that remains to be read from a stream. -/
def readAll (stream : Nat) : Act String := do
  let text := (← remaining? stream).getD ""
  consume stream text.length
  pure text

/-- Add a channel, and give its index. -/
def addChannel (c : Channel) : Act Nat := do
  let m ← get
  set { m with channels := m.channels.push c }
  pure m.channels.size

/-- Lead a stream to a channel, or close it. -/
def setStream (stream : Nat) (index : Option Nat) : Act Unit :=
  modify fun m =>
    let others := m.streams.filter fun e => e.1 != stream
    { m with
      streams := match index with
        | some i => (stream, i) :: others
        | none => others }

/-! ## Messages -/

/-- Write a message about the command that runs. -/
def complain (message : String) : Act Unit := do
  let m ← get
  let builtin := match m.builtin with
    | some b => b ++ ": "
    | none => ""
  let _ ← write 2 s!"{m.name}: {m.line}: {builtin}{message}\n"

/-- Fail with a message about the command that runs. -/
def fail {α : Type} (message : String) : Act α := do
  complain message
  throw .fault

/-! ## Variables -/

/-- A variable. -/
def declared? (name : String) : Act (Option Variable) := do
  pure ((← get).bindings.lookup name)

/-- The value of a variable. -/
def value? (name : String) : Act (Option String) := do
  pure ((← declared? name).bind Variable.value)

/-- Put a variable in the place of one of the same name. -/
def putVariable (name : String) (v : Option Variable) : Act Unit :=
  modify fun m =>
    let others := m.bindings.filter fun e => e.1 != name
    { m with
      bindings := match v with
        | some v => (name, v) :: others
        | none => others }

/-- Set the value of a variable. -/
def setValue (name value : String) : Act Unit := do
  let v := (← declared? name).getD {}
  if v.isFixed then fail s!"{name}: is read only"
  else putVariable name (some { v with value := some value, isExported := v.isExported || (← get).has 'a' })

/-- Remove a variable. -/
def unsetVariable (name : String) : Act Unit := do
  if ((← declared? name).getD {}).isFixed then fail s!"{name}: is read only"
  else putVariable name none

/-- The variables that programs are given. -/
def environment : Act (List (String × Variable)) := do
  pure ((← get).bindings.filter fun e => e.2.isExported && e.2.value.isSome)

/-! ## Files -/

/-- Write the text of a file at a location. -/
def putFile (l : Location) (s : String) : Act Unit :=
  modify fun m => { m with files := m.files.put l (Utf8.decode s) }

/-- The location at which a path lets a file be written, and whether one is there. -/
def target (s : String) : Act (Except FileError (Location × Bool)) := do
  let m ← get
  if s.isEmpty then pure (.error .notFound)
  else pure ((m.files.target (m.path s)).map fun l => (l, (m.files.text? l).isSome))

/-- The stream that a path to a device names. -/
def deviceStream? (s : String) : Option Nat :=
  if s = "/dev/stdin" then some 0
  else if s = "/dev/stdout" then some 1
  else if s = "/dev/stderr" then some 2
  else
    match Text.afterPrefix? "/dev/fd/".toList s.toList with
    | some ds => Decimal.digitsValue? 10 ds
    | none => none

/-- Open a file for a redirection. -/
def openFile (kind : RedirectKind) (s : String) : Act (Except FileError Nat) := do
  let m ← get
  if s = "/dev/null" then pure (.ok (← addChannel .null))
  else
    match (deviceStream? s).bind fun n => m.streams.lookup n with
    | some index => pure (.ok index)
    | none =>
      match kind with
      | .input =>
        match m.place s with
        | .ok (.file l _) => pure (.ok (← addChannel (.file l 0 true false false)))
        | .ok (.folder _) => pure (.ok (← addChannel .null))
        | .ok (.vacant _) => pure (.error .notFound)
        | .error e => pure (.error e)
      | kind =>
        match ← target s with
        | .error e => pure (.error e)
        | .ok (l, isPresent) =>
          if kind = .output && isPresent && m.has 'C' then pure (.error .present)
          else
            if !isPresent || kind = .output || kind = .force then putFile l ""
            pure (.ok (← addChannel (.file l 0 (kind = .update) true (kind = .append))))

end Act

end Shell

end Detour
