import Detour.Profile
import Detour.Route.Chain
/-!
# The store

A `Database` is what is written to a file; a `Store` is what a build looks things up in. Of several
profiles, groups or chains with one id the last one counts, except that the chain of batch documents
is looked for in the order of the file. The built-in chains are found unless stored ones hide them.
-/

namespace Detour

/-- The last element of a list that satisfies a test. -/
def lastWhere? {α : Type} (p : α → Bool) (xs : List α) : Option α :=
  xs.reverse.find? p

/-- What a file of profiles holds. -/
structure Database where
  profiles : List Profile := []
  groups : List Group := []
  chains : List RuleChain := []
  /-- The chain of batch documents. -/
  defaultChainId : Option Int64 := none

namespace Database

/-- The stored form of a database. -/
def codec : Codec Database := .record [
  .opt "profiles" (.list Profile.codec) profiles fun x d => { d with profiles := x },
  .opt "groups" (.list Group.codec) groups fun x d => { d with groups := x },
  .opt "routing_chains" (.list RuleChain.codec) chains fun x d => { d with chains := x },
  .opt "default_chain_id" (.optional .int64) defaultChainId
    fun x d => { d with defaultChainId := x }] {}

/-- The chain of batch documents: the first one with the chosen id, else the first one of all, else
the built-in one. -/
def defaultChain (d : Database) : RuleChain :=
  match d.defaultChainId.bind fun id => d.chains.find? fun c => c.id == id with
  | some c => c
  | none => d.chains.head?.getD .default

end Database

/-- What a build looks things up in. -/
structure Store where
  profiles : List Profile
  groups : List Group
  chains : List RuleChain
  defaultChain : RuleChain
deriving Inhabited

namespace Store

/-- The store of a database. -/
def ofDatabase (d : Database) : Store :=
  { profiles := d.profiles, groups := d.groups, chains := d.chains,
    defaultChain := d.defaultChain }

/-- The profile with an id. -/
def profile? (s : Store) (id : Int64) : Option Profile :=
  lastWhere? (fun p => p.id == id) s.profiles

/-- What is said of a profile that is not stored. -/
def missingMessage (id : Int64) : String :=
  s!"profile {id} not found"

/-- The group with an id. -/
def group? (s : Store) (id : Int64) : Option Group :=
  lastWhere? (fun g => g.id == id) s.groups

/-- The chain of rules with an id. -/
def chain? (s : Store) (id : Int64) : Option RuleChain :=
  (lastWhere? (fun c => c.id == id) s.chains).or (RuleChain.preset? id)

/-- The ids of the profiles, each once, in rising order. -/
def profileIds (s : Store) : List Int64 :=
  (firstOccurrences (s.profiles.map Profile.id)).mergeSort fun a b => a ≤ b

/-- Put a profile in, in the place of one with the same id. -/
def insert (s : Store) (p : Profile) : Store :=
  { s with profiles := s.profiles ++ [p] }

/-- A profile that was put in is found. -/
@[simp] theorem profile?_insert_self (s : Store) (p : Profile) :
    (s.insert p).profile? p.id = some p := by
  simp [insert, profile?, lastWhere?]

/-- Putting a profile in leaves the others alone. -/
theorem profile?_insert_of_ne {s : Store} {p : Profile} {id : Int64} (h : p.id ≠ id) :
    (s.insert p).profile? id = s.profile? id := by
  simp [insert, profile?, lastWhere?, h]

/-- A profile is found under its own id. -/
theorem id_of_profile? {s : Store} {id : Int64} {p : Profile} (h : s.profile? id = some p) :
    p.id = id := by
  have := List.find?_some h
  simpa using this

end Store

end Detour
