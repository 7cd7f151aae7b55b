import Detour.Address
import Detour.Build.Hop
import Detour.Route.Dns
/-!
# The routing of a document

The profiles that the rules of the active chain select are compiled natively, each once, in the order
of first use. A rule set that the rules refer to is compiled unless it is there. The route section
starts with the redirects of the hops and goes on with the rules of the chain.
-/

namespace Detour

/-- A profile that routing rules select, compiled. -/
structure Target where
  profile : Profile
  tag : String
  outbound : Fields

namespace Target

variable {σ : Type}

/-- Compile the targets of some ids, from a rank on. Those whose counters are in use keep what they
are bound to; the others are bound to their new outbounds. -/
def compileFrom (setup : Setup) (seq : Nat) (bound : List Int64) :
    Nat → List Int64 → Build σ (List Target)
  | _, [] => pure []
  | rank, id :: rest =>
    match setup.store.profile? id with
    | none => throw .routingTargetMissing
    | some p => do
      let tag := Tag.routeTarget seq rank
      let outbound ← Build.ofExcept (compileNative setup.settings p tag)
      if p.id ∈ bound then pure ()
      else Build.onLedger (Ledger.bind p.id p.id tag)
      let targets ← compileFrom setup seq bound (rank + 1) rest
      pure (⟨p, tag, outbound⟩ :: targets)

end Target

/-- The compiled routing of a document. -/
structure Routing where
  chain : RuleChain
  targets : List Target
  ruleSets : List Tree

namespace Routing

variable {σ : Type} [RuleSetService σ]

/-- The ids of the profiles that the rules of a chain select. -/
def targetIds (c : RuleChain) : List Int64 :=
  c.usedOutbounds.filter fun id => 0 ≤ id

/-- Compile the routing of a document whose hops use some counters. -/
def compile (setup : Setup) (seq : Nat) (bound : List Int64) : Build σ Routing := do
  match RuleSetService.sourcesError? (← get).ruleSets with
  | some message => throw (.ruleSet message)
  | none => pure ()
  match setup.store.chain? setup.settings.routing.currentRouteId with
  | none => throw .routingChainMissing
  | some chain => do
    let targets ← Target.compileFrom setup seq bound 0 (targetIds chain)
    let ruleSets ← Build.ruleSetEntries chain.usedRuleSets
    pure { chain := chain, targets := targets, ruleSets := ruleSets }

/-- The tags of the outbounds that rules may select. -/
def tagMap (entryTag : String) (targets : List Target) : TagMap :=
  Tag.sentinels ++ [(sentinelProxy, entryTag)] ++ targets.map fun t => (t.profile.id, t.tag)

/-- The outbound of the traffic that no rule selects. -/
def finalTag (settings : Settings) (entryTag : String) : String :=
  if settings.routing.defOutbound = Tag.proxy then entryTag else settings.routing.defOutbound

/-- The route section. -/
def toTree (settings : Settings) (request : Request) (entryTag : String)
    (redirects : List Hop.Redirect) (r : Routing) : Tree :=
  .ofFields (Entry.onlyIf settings.vpn.enabled "auto_detect_interface" (.bool true) ++
    Entry.onlyIf (!request.test) "final" (.str (finalTag settings entryTag)) ++
    [("rules", .list (redirects.map Hop.Redirect.toTree ++
        r.chain.routeRules (tagMap entryTag r.targets))),
      ("rule_set", .list r.ruleSets)])

/-- The names among some addresses that the direct resolver has to answer for: trimmed, each once,
without blank ones and address literals. -/
def lookups (addresses : List String) : List String :=
  firstOccurrences ((addresses.map Text.trim).filter fun a => !a.isEmpty && !Address.isIp a)

end Routing

end Detour
