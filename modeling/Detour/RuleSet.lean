import Detour.Error
import Detour.Tag
/-!
# Rule sets

A rule set is a compiled file that rules refer to by name. A service of rule sets knows the path of
each file and which files are there, and can compile a missing one. `MemoryRuleSets` is such a
service without files: it keeps a log of what it compiled.
-/

namespace Detour

/-- What a rule set is made of. -/
inductive RuleSetKind where
  | ip
  | site
deriving DecidableEq, Repr

namespace RuleSetKind

/-- The kind of a rule set: those of addresses have `_IP` in their names. -/
def ofName (name : String) : RuleSetKind :=
  if Text.contains "_IP".toList name.toList then ip else site

/-- The word for a kind. -/
def word : RuleSetKind → String
  | ip => "ip"
  | site => "site"

end RuleSetKind

/-- A service of rule sets, over a state of its own. -/
class RuleSetService (σ : Type) where
  /-- Where the core finds a rule set. -/
  path : σ → String → String
  /-- Whether a rule set is there. -/
  isPresent : σ → String → Bool
  /-- Compile a rule set, or say why that fails. -/
  compile : String → RuleSetKind → σ → Except String Unit × σ
  /-- What the sources of rule sets lack, if anything. -/
  sourcesError? : σ → Option String

/-- A service that holds its rule sets in memory. -/
structure MemoryRuleSets where
  dir : String := "rule_sets"
  present : List String := []
  /-- The message with which every compilation fails. -/
  fail : Option String := none
  /-- What the sources lack. -/
  sourcesError : Option String := none
  /-- The compilations so far, as `kind:name`. -/
  compiled : List String := []
deriving DecidableEq, Repr

namespace MemoryRuleSets

/-- A service is read without its log. -/
def codec : Codec MemoryRuleSets := .record [
  .opt "dir" .text dir fun x s => { s with dir := x },
  .opt "present" (.list .text) present fun x s => { s with present := x },
  .opt "fail" (.optional .text) fail fun x s => { s with fail := x },
  .opt "sources_error" (.optional .text) sourcesError fun x s => { s with sourcesError := x }] {}

/-- Compile a rule set: it is logged and present from then on. -/
def compile (name : String) (kind : RuleSetKind) (s : MemoryRuleSets) :
    Except String Unit × MemoryRuleSets :=
  match s.fail with
  | some message => (.error message, s)
  | none =>
    (.ok (), { s with
      present := s.present ++ [name]
      compiled := s.compiled ++ [kind.word ++ ":" ++ name] })

instance : RuleSetService MemoryRuleSets where
  path s name := s.dir ++ "/" ++ name ++ ".srs"
  isPresent s name := s.present.contains name
  compile := compile
  sourcesError? s := s.sourcesError

end MemoryRuleSets

end Detour
