import Detour.Files.Basic
import Detour.RuleSet
import Detour.Text.Blank
/-!
# Rule sets in a directory

A service whose rule sets are files of one directory. A missing one is compiled by a program, whose
arguments name the rule set, its kind and the file to write; what counts is that the file is there
when the program has succeeded. The databases that rule sets are made from may be asked for.

How a program is launched, and what it does to the files, is not for this library to say: a service
comes with a `Launcher`.
-/

namespace Detour

/-- What a program ends with. -/
structure Ended where
  succeeded : Bool
  /-- What it has written to its standard error. -/
  complaint : String := ""
deriving DecidableEq, Repr

/-- What comes of launching a program with some words on a tree of files: how it ends and the files
that it leaves, or the message of the error that kept it from starting. -/
abbrev Launcher := String → List String → Files → Except String (Ended × Files)

/-- A service of rule sets on a tree of files. -/
structure DirectoryRuleSets where
  files : Files
  /-- The directory of the rule sets. -/
  dir : String
  launch : Launcher
  /-- The program that compiles rule sets, and its arguments. -/
  compiler : List String := []
  /-- The directory that has to hold the databases, if any has to. -/
  geoDir : Option String := none

namespace DirectoryRuleSets

/-- Where a rule set is. -/
def path (s : DirectoryRuleSets) (name : String) : String :=
  Path.join s.dir (name ++ ".srs")

/-- Whether a rule set is there. -/
def isPresent (s : DirectoryRuleSets) (name : String) : Bool :=
  s.files.isFile (.ofText (s.path name))

/-- An argument of the compiler with its placeholders filled in. -/
def fillIn (s : DirectoryRuleSets) (name : String) (kind : RuleSetKind) (argument : String) :
    String :=
  String.ofList <|
    Text.replaceAll "%output%".toList (s.path name).toList <|
      Text.replaceAll "%kind%".toList kind.word.toList <|
        Text.replaceAll "%name%".toList name.toList argument.toList

/-- What the end of the compiler means for a rule set. -/
def outcome (s : DirectoryRuleSets) (name : String) (ended : Ended) : Except String Unit :=
  if !ended.succeeded then
    .error s!"rule set compiler failed for {name}: {Text.trim ended.complaint}"
  else if s.isPresent name then .ok ()
  else .error s!"rule set compiler did not produce {s.path name}"

/-- Compile a rule set. -/
def compile (name : String) (kind : RuleSetKind) (s : DirectoryRuleSets) :
    Except String Unit × DirectoryRuleSets :=
  match s.compiler with
  | [] => (.error s!"rule set {name} is missing from {s.dir} and no compiler is configured", s)
  | program :: arguments =>
    match s.files.ensureFolders (.ofText s.dir) with
    | (.error e, files) => (.error s!"create {s.dir}: {e.message}", { s with files := files })
    | (.ok (), files) =>
      let s := { s with files := files }
      match s.launch program (arguments.map (s.fillIn name kind)) files with
      | .error message => (.error s!"run {program}: {message}", s)
      | .ok (ended, files) =>
        let s := { s with files := files }
        (s.outcome name ended, s)

/-- The first database that is missing. -/
def missingDatabase? (s : DirectoryRuleSets) (dir : String) : Option String :=
  ["geosite.db", "geoip.db"].find? fun db => !s.files.isFile (.ofText (Path.join dir db))

instance : RuleSetService DirectoryRuleSets where
  path := path
  isPresent := isPresent
  compile := compile
  sourcesError? s :=
    (s.geoDir.bind s.missingDatabase?).map fun db =>
      s!"{db} not found, it is needed for generating rule sets"

end DirectoryRuleSets

end Detour
