import Detour.Route.Rule
/-!
# Chains of rules

The first rule of a chain that matches decides. Rules name their outbounds by id; `routeRules` writes
them with the tags that a map gives to the ids, and leaves out the rules whose target has no tag.
-/

namespace Detour

/-- The first occurrences of the elements of a list, in order. -/
def firstOccurrences {α : Type} [DecidableEq α] (xs : List α) : List α :=
  xs.foldl (fun seen x => if x ∈ seen then seen else seen ++ [x]) []

/-- Tags of outbound ids. An id that is listed twice has the tag that stands last. -/
abbrev TagMap := List (Int64 × String)

namespace TagMap

/-- The tag of an id. -/
def get? (id : Int64) (m : TagMap) : Option String :=
  (m.reverse.find? fun e => e.1 == id).map Prod.snd

end TagMap

/-- A chain of routing rules. -/
structure RuleChain where
  id : Int64 := 0
  name : String := ""
  rules : List Rule := []
deriving DecidableEq, Repr, Inhabited

namespace RuleChain

/-- The stored form of a chain of rules. -/
def codec : Codec RuleChain := .record [
  .opt "id" .int64 id fun x c => { c with id := x },
  .opt "name" .text name fun x c => { c with name := x },
  .opt "rules" (.list Rule.codec) rules fun x c => { c with rules := x }] {}

/-- The targets of the rules, each once, in the order of first use. -/
def usedOutbounds (c : RuleChain) : List Int64 :=
  firstOccurrences (c.rules.map Rule.outboundId)

/-- The rule sets that the rules refer to, each once, in the order of first use. -/
def usedRuleSets (c : RuleChain) : List String :=
  firstOccurrences (c.rules.flatMap Rule.ruleSet)

/-- What a rule sends out directly by name, each name behind the word for its kind. Rule sets of
addresses hold no names. -/
def sitesOf (r : Rule) : List String :=
  r.domain.map ("domain:" ++ ·) ++ r.domainSuffix.map ("suffix:" ++ ·) ++
    r.domainKeyword.map ("keyword:" ++ ·) ++ r.domainRegex.map ("regex:" ++ ·) ++
    (r.ruleSet.filter fun s => RuleSetKind.ofName s == .site).map ("ruleset:" ++ ·)

/-- The names whose traffic goes out directly, so that the direct resolver has to answer for them.
An inverted rule names what does not go out directly. -/
def directSites (c : RuleChain) : List String :=
  (c.rules.filter fun r => r.outboundId == sentinelDirect && !r.invert).flatMap sitesOf

/-- The rules with a predicate and a tag, as the core reads them. -/
def routeRules (c : RuleChain) (tags : TagMap) : List Tree :=
  c.rules.filterMap fun r =>
    if r.isEmpty then none else (TagMap.get? r.outboundId tags).map r.toTree

/-- The rule that sends name lookups to the resolver. -/
def dnsRule : Rule :=
  { name := "Route DNS", protocol := "dns", outboundId := sentinelDnsOut }

/-- The chain in the place of one that is not stored. -/
def default : RuleChain :=
  { id := 0, name := "Default", rules := [dnsRule] }

/-- The id of the built-in chain for Iran. -/
def iranId : Int64 := -100

/-- The id of the built-in chain for China. -/
def chinaId : Int64 := -101

/-- A built-in chain that sends the names and addresses of a region out directly. -/
def bypass (id : Int64) (name region : String) : RuleChain :=
  { id := id, name := name,
    rules := [dnsRule,
      { name := "Private addresses", ipIsPrivate := true },
      { name := s!"Domains of {region}", ruleSet := [s!"geosite-{region}"] },
      { name := s!"Addresses of {region}", ruleSet := [s!"geoip-{region}_IP"] }] }

/-- The built-in chain of an id. -/
def preset? (id : Int64) : Option RuleChain :=
  if id = iranId then some (bypass iranId "Bypass Iran" "ir")
  else if id = chinaId then some (bypass chinaId "Bypass China" "cn")
  else none

/-- Whether a chain is one of the built-in ones, which nobody can edit. -/
def isViewOnly (c : RuleChain) : Bool :=
  c.id == iranId || c.id == chinaId

end RuleChain

end Detour
