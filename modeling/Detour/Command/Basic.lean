import Detour.Build.Basic
import Detour.Command.Arguments
import Detour.Number.Decimal
/-!
# Commands

What a user may ask for: to build one profile, to build a batch, to probe profiles, or to merge two
documents. `Command.ofArguments?` reads a command from its arguments.
-/

namespace Detour

/-- Where a command takes its setup from. -/
structure Source where
  /-- The file of the database. -/
  database : String
  /-- The file of the settings. -/
  settings : Option String := none
  /-- The directory of rule sets, in the place of the one in the settings. -/
  ruleSetsDir : Option String := none
  /-- The program that compiles rule sets, and its arguments. -/
  compiler : List String := []
  /-- The directory that has to hold the databases of addresses and sites. -/
  geoDir : Option String := none
  /-- The first of the local ports. -/
  portBase : Option UInt16 := none
deriving DecidableEq, Repr

/-- How the reports of a probe are written. -/
inductive ReportFormat where
  | human
  | json
deriving DecidableEq, Repr

/-- What a user asks for. -/
inductive Command where
  | build (source : Source) (profile : Int64) (request : Request) (extras : Bool)
      (out : Option String)
  /-- A batch of some profiles; of all, if none is named. -/
  | batch (source : Source) (profiles : List Int64) (extras : Bool) (out : Option String)
  /-- Probes of some profiles; of all, if none is named. -/
  | probe (source : Source) (profiles : List Int64) (format : ReportFormat)
  | merge (base overlay : String) (out : Option String)
deriving DecidableEq, Repr

namespace Command

/-! ## Reading values -/

/-- A text that is not empty. -/
def path? (s : String) : Option String :=
  if s.isEmpty then none else some s

/-- An integer of decimal digits with an optional sign. -/
def integer? (s : String) : Option Int :=
  match s.toList with
  | '-' :: ds => (Decimal.digitsValue? 10 ds).map fun n => -(n : Int)
  | '+' :: ds => (Decimal.digitsValue? 10 ds).map Int.ofNat
  | ds => (Decimal.digitsValue? 10 ds).map Int.ofNat

/-- An integer within bounds. -/
def integerIn? (low high : Int) (s : String) : Option Int :=
  (integer? s).filter fun n => low ≤ n && n ≤ high

/-- A natural number below a bound. -/
def naturalBelow? (bound : Nat) (s : String) : Option Nat :=
  (integerIn? 0 (bound - 1) s).map Int.toNat

/-- The id of a profile. -/
def id? (s : String) : Option Int64 :=
  (integerIn? Int64.minValue.toInt Int64.maxValue.toInt s).map Int64.ofInt

/-- A port, or zero. -/
def port? (s : String) : Option UInt16 :=
  (naturalBelow? UInt16.size s).map UInt16.ofNat

/-- A sequence number. -/
def seq? (s : String) : Option Nat :=
  naturalBelow? UInt32.size s

/-- A number of workers, which has no sign but an optional plus. -/
def workers? (s : String) : Option Nat :=
  if s.toList.head? = some '-' then none else naturalBelow? UInt64.size s

/-- The format of reports. -/
def format? : String → Option ReportFormat
  | "human" => some .human
  | "json" => some .json
  | _ => none

/-! ## Options -/

/-- The options of every command that builds. -/
def sourceOptions : List CommandOption :=
  [{ name := "db", letter := some 'd' }, { name := "settings", letter := some 's' },
    { name := "rule-sets-dir" }, { name := "ruleset-compiler" },
    { name := "ruleset-compiler-arg", repeatable := true, dashed := true },
    { name := "geo-dir" }, { name := "port-base" }]

/-- The option for a file to write to. -/
def outOption : CommandOption := { name := "out", letter := some 'o' }

/-- The option for more than the document. -/
def extrasOption : CommandOption := { name := "with-extras", arity := .none }

/-- The option for the profiles of a batch or a probe. -/
def profilesOption : CommandOption :=
  { name := "profile", letter := some 'p', arity := .several, repeatable := true }

/-- The options of a build. -/
def buildOptions : List CommandOption :=
  sourceOptions ++ [{ name := "profile", letter := some 'p' }, { name := "test", arity := .none },
    { name := "export", arity := .none }, { name := "seq" }, outOption, extrasOption]

/-- The options of a batch. -/
def batchOptions : List CommandOption :=
  sourceOptions ++ [profilesOption, outOption, extrasOption]

/-- The options of a probe. -/
def probeOptions : List CommandOption :=
  sourceOptions ++
    [profilesOption, { name := "concurrency", letter := some 'j' }, { name := "format" }]

/-! ## Reading commands -/

/-- Where the setup comes from. -/
def sourceOf? (a : Arguments) : Option Source := do
  let database ← ← a.value? "db" path?
  let settings ← a.value? "settings" path?
  let ruleSetsDir ← a.value? "rule-sets-dir" path?
  let geoDir ← a.value? "geo-dir" path?
  let portBase ← a.value? "port-base" port?
  let compiler := a.values "ruleset-compiler" ++ a.values "ruleset-compiler-arg"
  return { database, settings, ruleSetsDir, compiler, geoDir, portBase }

/-- Sort arguments that must not hold positionals. -/
def optionsOnly? (known : List CommandOption) (args : List String) : Option Arguments :=
  (Arguments.ofList? known args).filter fun a => a.positionals.isEmpty

/-- A build. -/
def build? (args : List String) : Option Command := do
  let a ← optionsOnly? buildOptions args
  let source ← sourceOf? a
  let profile ← ← a.value? "profile" id?
  let seq ← a.value? "seq" seq?
  let out ← a.value? "out" path?
  return .build source profile
    { test := a.has "test", exporting := a.has "export", seq := seq.getD 0 } (a.has "with-extras") out

/-- A batch. -/
def batch? (args : List String) : Option Command := do
  let a ← optionsOnly? batchOptions args
  let source ← sourceOf? a
  let profiles ← (a.values "profile").mapM id?
  let out ← a.value? "out" path?
  return .batch source profiles (a.has "with-extras") out

/-- A probe. The number of workers is read but makes no difference, since reports come in the order of
the profiles. -/
def probe? (args : List String) : Option Command := do
  let a ← optionsOnly? probeOptions args
  let source ← sourceOf? a
  let profiles ← (a.values "profile").mapM id?
  let _ ← a.value? "concurrency" workers?
  let format ← a.value? "format" format?
  return .probe source profiles (format.getD .human)

/-- A merge. -/
def merge? (args : List String) : Option Command := do
  let a ← Arguments.ofList? [outOption] args
  let out ← a.value? "out" path?
  match a.positionals with
  | [base, overlay] => return .merge (← path? base) (← path? overlay) out
  | _ => none

/-- The command that arguments ask for. -/
def ofArguments? : List String → Option Command
  | "build" :: args => build? args
  | "batch" :: args => batch? args
  | "probe" :: args => probe? args
  | "merge" :: args => merge? args
  | _ => none

end Command

end Detour
