import Detour.Build.Summary
import Detour.Command.Basic
import Detour.Command.Host
import Detour.Json.Printer
/-!
# The work of commands

A command reads its documents from a tree of files, computes what it shows, and delivers that: as text
for the standard output, or into a file. It fails with the first cause, and nothing is delivered then.
An `Outcome` is what can be seen of this from outside.
-/

namespace Detour

/-- What a document that is read from a file holds. -/
inductive DocumentRole where
  | settings
  | database
  /-- One of the two documents of a merge. -/
  | free
deriving DecidableEq, Repr

/-- How a document is named in front of its path. -/
def DocumentRole.words : DocumentRole → String
  | settings => "settings "
  | database => "profile database "
  | free => ""

/-- The causes for which a command fails. -/
inductive CommandError where
  | unreadable (role : DocumentRole) (path : String) (e : FileError)
  /-- A document is refused as JSON and as YAML, for these reasons. -/
  | unparsable (role : DocumentRole) (path : String) (json yaml : Option String)
  | profileMissing (id : Int64)
  | build (profile : String) (e : BuildError)
  | batch (e : BuildError)
  | folder (path : String) (e : FileError)
  | unwritable (path : String) (e : FileError)
deriving DecidableEq, Repr

/-- A reason in brackets, if there is one. -/
def CommandError.aside : Option String → String
  | some reason => s!" ({reason})"
  | none => ""

/-- The message of an error. -/
def CommandError.message : CommandError → String
  | unreadable role path e => s!"read {role.words}{path}: {e.message}"
  | unparsable role path json yaml =>
    s!"parse {role.words}{path}: neither JSON{aside json} nor YAML{aside yaml}"
  | profileMissing id => Store.missingMessage id
  | build profile e => s!"build profile {profile}: {e.message}"
  | batch e => s!"build batch document: {e.message}"
  | folder path e => s!"create {path}: {e.message}"
  | unwritable path e => s!"write {path}: {e.message}"

/-- What a command shows. -/
inductive Shown where
  | tree (t : Tree)
  | lines (text : String)

/-- What a command shows, as text for the standard output. -/
def Shown.text : Shown → String
  | tree t => Json.pretty t ++ "\n"
  | lines text => text

/-- A computation on a tree of files that may fail. -/
abbrev Run (α : Type) := ExceptT CommandError (StateM Files) α

namespace Run

/-- Fail unless a computation without effects succeeds. -/
def ofExcept {α : Type} : Except CommandError α → Run α
  | .ok a => pure a
  | .error e => throw e

/-- Read a document. -/
def load {α : Type} (role : DocumentRole) (r : DocumentReader α) (path : String) : Run α := do
  match (← get).read (.ofText path) with
  | .error e => throw (.unreadable role path e)
  | .ok text =>
    match r.read text with
    | .ok a => pure a
    | .error (json, yaml) => throw (.unparsable role path json yaml)

end Run

/-! ## The setup -/

namespace Source

/-- The variable of the environment that decides on the core's log level, unless it is blank. -/
def logLevelVariable : String := "BC_CORE_LOG_LEVEL"

/-- Settings with the log level of the environment. -/
def withLogLevel (env : String → Option String) (s : Settings) : Settings :=
  match env logLevelVariable with
  | some level => if Text.isBlankText level then s else { s with logLevel := Text.trim level }
  | none => s

/-- Settings with the directory of rule sets that a source names. -/
def withRuleSetsDir (source : Source) (s : Settings) : Settings :=
  match source.ruleSetsDir with
  | some dir => { s with routing := { s.routing with ruleSetsDir := dir } }
  | none => s

/-- The settings of a source; the default ones if it names none. -/
def loadSettings (source : Source) (host : Host) : Run Settings := do
  let s ← match source.settings with
    | some path => Run.load .settings host.settings path
    | none => pure {}
  pure (source.withRuleSetsDir (withLogLevel host.env s))

/-- The setup of a source. -/
def load (source : Source) (host : Host) : Run Setup := do
  let settings ← source.loadSettings host
  let db ← Run.load .database host.database source.database
  pure { store := .ofDatabase db, settings := settings }

/-- The state in which builds start. -/
def start (source : Source) (host : Host) (setup : Setup) (fs : Files) :
    BuildState DirectoryRuleSets :=
  { ports := (source.portBase.map fun base => ⟨base.toNat⟩).getD host.ports
    ruleSets :=
      { files := fs, dir := setup.settings.routing.ruleSetsDir, launch := host.launch,
        compiler := source.compiler, geoDir := source.geoDir } }

/-- Do the work of builds. What compiling rule sets does to the files remains. -/
def work {α : Type} (source : Source) (host : Host) (setup : Setup)
    (m : StateM (BuildState DirectoryRuleSets) α) : Run α := do
  let (a, state) := m (source.start host setup (← get))
  set state.ruleSets.files
  pure a

end Source

namespace Command

/-- The profiles with some ids; all of them, if no id is given. -/
def select (s : Store) (ids : List Int64) : Except CommandError (List Profile) :=
  (if ids.isEmpty then s.profileIds else ids).mapM fun id =>
    match s.profile? id with
    | some p => .ok p
    | none => .error (.profileMissing id)

/-- The reports of a probe in a format. -/
def reports (rs : List Report) : ReportFormat → Shown
  | .human => .lines (String.join (rs.map Report.line))
  | .json => .tree (.list (rs.map Report.toTree))

/-- Compute what a command shows. -/
def compute (host : Host) : Command → Run Shown
  | build source id request extras _ => do
    let setup ← source.load host
    match setup.store.profile? id with
    | none => throw (.profileMissing id)
    | some p =>
      match ← source.work host setup (ExceptT.run (Build.profile setup request p)) with
      | .ok o => pure (.tree (if extras then o.toTree else o.document))
      | .error e => throw (.build p.displayName e)
  | batch source ids extras _ => do
    let setup ← source.load host
    let ps ← Run.ofExcept (select setup.store ids)
    match ← source.work host setup (ExceptT.run (Build.batch setup ps)) with
    | .ok o => pure (.tree (if extras then o.toTree else o.document))
    | .error e => throw (.batch e)
  | probe source ids format => do
    let setup ← source.load host
    let ps ← Run.ofExcept (select setup.store ids)
    let rs ← source.work host setup (Probe.all setup ps)
    pure (reports rs format)
  | merge base overlay _ => do
    let b ← Run.load .free host.free base
    let o ← Run.load .free host.free overlay
    pure (.tree (b.tree.merge o.tree))

/-! ## Delivering -/

/-- The file that a command writes, if it names one. -/
def out? : Command → Option String
  | build _ _ _ _ out => out
  | batch _ _ _ out => out
  | probe _ _ _ => none
  | merge _ _ out => out

/-- Write a text to a file, whose folder is added unless it is there. -/
def writeOut (path text : String) : Run Unit := do
  let p := Path.ofText path
  let (made, fs) := (← get).ensureFolders p.parent
  set fs
  match made with
  | .error e => throw (.folder p.parent.text e)
  | .ok () =>
    match fs.write p text with
    | .error e => throw (.unwritable path e)
    | .ok fs => set fs

/-- Deliver what a command shows; the result is the text for the standard output. -/
def deliver : Option String → Shown → Run String
  | some path, .tree t => do
    writeOut path (Json.pretty t)
    pure ""
  | _, shown => pure shown.text

/-- Run a command on a host and a tree of files. -/
def runOn (host : Host) (c : Command) : Run String := do
  let shown ← c.compute host
  deliver c.out? shown

end Command

/-! ## Outcomes -/

namespace Program

/-- What is said to arguments that are no command. Asking for help or for the version is none either. -/
def usage : String :=
  "usage: detour build|batch|probe -d DB [OPTIONS]\n       detour merge BASE OVERRIDE [-o OUT]"

/-- What a run of the program comes to. -/
structure Outcome where
  status : UInt32
  stdout : String := ""
  stderr : String := ""
  files : Files
deriving DecidableEq, Repr

/-- What arguments come to on a host and a tree of files. -/
def outcome (host : Host) (args : List String) (fs : Files) : Outcome :=
  match Command.ofArguments? args with
  | none => { status := 2, stderr := usage ++ "\n", files := fs }
  | some c =>
    match c.runOn host fs with
    | (.ok text, after) => { status := 0, stdout := text, files := after }
    | (.error e, after) => { status := 1, stderr := s!"Error: {e.message}\n", files := after }

end Program

end Detour
