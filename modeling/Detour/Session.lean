import Detour.Build.Batch
import Detour.Build.Probe
/-!
# Sessions

A `World` holds a setup and a state of builds. A session is a list of steps on one world: builds of
every kind, and changes of the store, the settings, the service of rule sets and the ledger. A step
that fails leaves behind what it did before it failed, and the session goes on.
-/

namespace Detour

/-- Everything that a session works on. -/
structure World where
  setup : Setup
  state : BuildState MemoryRuleSets

/-- Why a step has no result. -/
inductive StepError where
  | profileMissing (id : Int64)
  | build (e : BuildError)
deriving DecidableEq, Repr

/-- The steps of a session. -/
inductive Step where
  | build (profile : Int64) (request : Request)
  /-- A batch of some profiles, or of all. -/
  | batch (profiles : Option (List Int64))
  | probe (profiles : Option (List Int64))
  | resolve (profile : Int64) (wrappers : Bool)
  | allocPort
  | setLatency (profile : Int64) (ms : Int32)
  | addTraffic (profile : Int64) (up down : UInt64)
  /-- Bind the counters of a profile to a tag and an id. -/
  | bindTraffic (profile : Int64) (tag : String) (id : Int64)
  | insert (profile : Profile)
  | settings (s : Settings)
  | ruleSets (s : MemoryRuleSets)

/-- What a step results in. -/
inductive StepResult where
  | built (o : Output)
  | batched (o : Batch.Output)
  | probed (reports : List Report)
  | resolved (hops : List Profile)
  | port (n : Nat)
  | inserted (id : Int64)
  | done

namespace World

/-- The world at the start of a session. -/
def start (db : Database) (settings : Settings) (portBase : UInt16) (ruleSets : MemoryRuleSets) :
    World :=
  { setup := { store := .ofDatabase db, settings := settings }
    state := { ports := ⟨portBase.toNat⟩, ruleSets := ruleSets } }

/-- The profile with an id. -/
def profile (w : World) (id : Int64) : Except StepError Profile :=
  match w.setup.store.profile? id with
  | some p => .ok p
  | none => .error (.profileMissing id)

/-- The profiles with some ids, or all of them in the order of their ids. -/
def select (w : World) (ids : Option (List Int64)) : Except StepError (List Profile) :=
  (ids.getD w.setup.store.profileIds).mapM w.profile

/-- Run a build on the world. -/
def run {α : Type} (w : World) (result : α → StepResult) (b : Build MemoryRuleSets α) :
    Except StepError StepResult × World :=
  match b w.state with
  | (.ok a, state) => (.ok (result a), { w with state := state })
  | (.error e, state) => (.error (.build e), { w with state := state })

/-- Change the ledger of the world. -/
def onLedger (w : World) (f : Ledger → Ledger) : World :=
  { w with state := { w.state with ledger := f w.state.ledger } }

/-- Take a step whose profile is stored. -/
def withProfile (w : World) (id : Int64)
    (k : Profile → Except StepError StepResult × World) : Except StepError StepResult × World :=
  match w.profile id with
  | .ok p => k p
  | .error e => (.error e, w)

/-- Take a step whose profiles are stored. -/
def withProfiles (w : World) (ids : Option (List Int64))
    (k : List Profile → Except StepError StepResult × World) :
    Except StepError StepResult × World :=
  match w.select ids with
  | .ok ps => k ps
  | .error e => (.error e, w)

/-- Take a step. -/
def step (w : World) : Step → Except StepError StepResult × World
  | .build id request =>
    w.withProfile id fun p => w.run .built (Build.profile w.setup request p)
  | .batch ids => w.withProfiles ids fun ps => w.run .batched (Build.batch w.setup ps)
  | .probe ids => w.withProfiles ids fun ps =>
    let (reports, state) := Probe.all w.setup ps w.state
    (.ok (.probed reports), { w with state := state })
  | .resolve id wrappers =>
    w.withProfile id fun p =>
      match w.setup.store.hops p wrappers with
      | .ok hops => (.ok (.resolved hops), w)
      | .error e => (.error (.build e), w)
  | .allocPort => w.run .port Build.requestPort
  | .setLatency id ms =>
    w.withProfile id fun p => (.ok .done, w.onLedger (Ledger.setLatency p.id ms))
  | .addTraffic id up down =>
    w.withProfile id fun p => (.ok .done, w.onLedger (Ledger.addTraffic p.id up down))
  | .bindTraffic id tag bound =>
    w.withProfile id fun p => (.ok .done, w.onLedger (Ledger.bind p.id bound tag))
  | .insert p =>
    (.ok (.inserted p.id),
      { w.onLedger (Ledger.reset p.id) with
        setup := { w.setup with store := w.setup.store.insert p } })
  | .settings s => (.ok .done, { w with setup := { w.setup with settings := s } })
  | .ruleSets s => (.ok .done, { w with state := { w.state with ruleSets := s } })

/-- Take several steps, one after the other. -/
def steps (w : World) : List Step → List (Except StepError StepResult) × World
  | [] => ([], w)
  | s :: rest =>
    let (result, w) := w.step s
    let (results, w) := w.steps rest
    (result :: results, w)

end World

end Detour
