import Detour.Hops
import Detour.Ledger
import Detour.Port
import Detour.RuleSet
/-!
# Builds

A build reads a `Setup`, which it never changes, and works on a `BuildState`: the counter of local
ports, the service of rule sets and the ledger. What a build does to the state remains when it fails.
-/

namespace Detour

/-- What a build reads. -/
structure Setup where
  store : Store
  settings : Settings

/-- What a build changes. -/
structure BuildState (σ : Type) where
  ports : PortCounter
  ruleSets : σ
  ledger : Ledger := []

/-- A computation on the state of builds that may fail. -/
abbrev Build (σ α : Type) := ExceptT BuildError (StateM (BuildState σ)) α

/-- What is asked of a build. -/
structure Request where
  /-- Leave out the local inbounds, the wrappers of the group and the default outbound. -/
  test : Bool := false
  /-- Leave out the control interface. -/
  exporting : Bool := false
  /-- The number that sets the tags of this build apart. -/
  seq : Nat := 0
deriving DecidableEq, Repr

namespace Build

variable {σ α : Type}

/-- Fail unless a computation without effects succeeds. -/
def ofExcept : Except BuildError α → Build σ α
  | .ok a => pure a
  | .error e => throw e

/-- Change the ledger. -/
def onLedger (f : Ledger → Ledger) : Build σ Unit :=
  modify fun s => { s with ledger := f s.ledger }

/-- Request a local port. -/
def requestPort : Build σ Nat := do
  let s ← get
  set { s with ports := s.ports.request.2 }
  ofExcept s.ports.request.1

/-- A fixed port where it is valid, and otherwise a requested one. -/
def pickPort (fixed : Int64) : Build σ Nat :=
  if isValidPort fixed.toInt then pure fixed.toInt.toNat else requestPort

/-- Compile a rule set that is not there. -/
def ensureRuleSet [RuleSetService σ] (name : String) : Build σ Unit := do
  let s ← get
  if RuleSetService.isPresent s.ruleSets name then pure ()
  else
    let (result, ruleSets) :=
      RuleSetService.compile name (RuleSetKind.ofName name) s.ruleSets
    set { s with ruleSets := ruleSets }
    match result with
    | .ok _ => pure ()
    | .error message => throw (.ruleSet message)

/-- The entries of rule sets in a document, each of them compiled if it is not there. -/
def ruleSetEntries [RuleSetService σ] : List String → Build σ (List Tree)
  | [] => pure []
  | name :: rest => do
    ensureRuleSet name
    let s ← get
    let entry := Tree.ofFields [("type", .str "local"), ("tag", .str name),
      ("format", .str "binary"), ("path", .str (RuleSetService.path s.ruleSets name))]
    let entries ← ruleSetEntries rest
    pure (entry :: entries)

end Build

end Detour
