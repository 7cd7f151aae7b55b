import Detour.Build.Document
/-!
# Probes

A probe builds a test document for each of some profiles and reports on every one of them. A failure
concerns its own profile only. Sequence numbers count the positions from 1.
-/

namespace Detour

/-- The report on one profile. -/
structure Report where
  id : Int64
  name : String
  ok : Bool := false
  entryTag : Option String := none
  outbounds : Nat := 0
  externals : Nat := 0
  error : Option String := none
  errorClass : Option ErrorClass := none
deriving DecidableEq, Repr

namespace Report

/-- The report on a profile before its build. -/
def blank (p : Profile) : Report :=
  { id := p.id, name := p.displayName }

/-- The report on a build that succeeded. -/
def ofOutput (p : Profile) (o : Output) : Report :=
  { blank p with
    ok := true
    entryTag := some o.entryTag
    outbounds := (((o.document.get? "outbounds").bind Tree.items?).map List.length).getD 0
    externals := o.externals.length }

/-- The report on a build that failed. -/
def ofError (p : Profile) (e : BuildError) : Report :=
  { blank p with error := some e.message, errorClass := some e.kind }

/-- The report on a profile that cannot be built. -/
def invalid (p : Profile) : Report :=
  { blank p with error := some "invalid profile" }

end Report

namespace Probe

variable {σ : Type} [RuleSetService σ]

/-- Probe one profile. -/
def one (setup : Setup) (seq : Nat) (p : Profile) : StateM (BuildState σ) Report :=
  if p.protocol.isValid then do
    let result ← ExceptT.run (Build.profile setup { test := true, seq := seq } p)
    match result with
    | .ok output => pure (.ofOutput p output)
    | .error e => pure (.ofError p e)
  else do
    modify fun s => { s with ledger := s.ledger.setLatency p.id Account.unavailable }
    pure (.invalid p)

/-- Probe some profiles, from a sequence number on. -/
def allFrom (setup : Setup) : Nat → List Profile → StateM (BuildState σ) (List Report)
  | _, [] => pure []
  | seq, p :: rest => do
    let report ← one setup seq p
    let reports ← allFrom setup (seq + 1) rest
    pure (report :: reports)

/-- Probe some profiles. -/
def all (setup : Setup) (profiles : List Profile) : StateM (BuildState σ) (List Report) :=
  allFrom setup 1 profiles

end Probe

end Detour
