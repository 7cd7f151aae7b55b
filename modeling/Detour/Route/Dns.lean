import Detour.Route.Chain
import Detour.Settings
import Detour.Tree.Override
/-!
# Name resolution

The generated section has a remote resolver behind the proxy, a direct one, and a local one that
looks up the names of the other two. Names that must not depend on the proxy are sent to the direct
resolver by one rule. A section of the user's own takes the place of all of it.
-/

namespace Detour

namespace Dns

/-- The tag of the resolver behind the proxy. -/
def remote : String := "dns-remote"

/-- The tag of the resolver that is reached directly. -/
def direct : String := "dns-direct"

/-- The tag of the resolver that answers with nothing. -/
def block : String := "dns-block"

/-- The tag of the resolver that makes addresses up. -/
def fake : String := "dns-fake"

/-- The tag of the machine's own resolver. -/
def «local» : String := "dns-local"

/-- The names that the direct resolver answers for, by the kind of match. -/
structure DirectSites where
  ruleSet : List String := []
  domain : List String := []
  domainSuffix : List String := []
  domainKeyword : List String := []
  domainRegex : List String := []
deriving DecidableEq, Repr

namespace DirectSites

/-- A site behind the word for its kind. -/
def strip? (word site : String) : Option String :=
  (Text.afterPrefix? word.toList site.toList).map String.ofList

/-- Take a site in by the word before it; without a known word it is passed over. -/
def add (d : DirectSites) (site : String) : DirectSites :=
  match strip? "ruleset:" site with
  | some v => { d with ruleSet := d.ruleSet ++ [v] }
  | none =>
  match strip? "domain:" site with
  | some v => { d with domain := d.domain ++ [v] }
  | none =>
  match strip? "suffix:" site with
  | some v => { d with domainSuffix := d.domainSuffix ++ [v] }
  | none =>
  match strip? "keyword:" site with
  | some v => { d with domainKeyword := d.domainKeyword ++ [v] }
  | none =>
  match strip? "regex:" site with
  | some v => { d with domainRegex := d.domainRegex ++ [v] }
  | none => d

/-- Names of servers, and sites behind the words for their kinds. -/
def classify (servers sites : List String) : DirectSites :=
  sites.foldl add { domain := servers }

/-- Whether no names are listed. -/
def isEmpty (d : DirectSites) : Bool :=
  d.ruleSet.isEmpty && d.domain.isEmpty && d.domainSuffix.isEmpty && d.domainKeyword.isEmpty &&
    d.domainRegex.isEmpty

/-- The rule that sends the sites to the direct resolver. -/
def toRule (d : DirectSites) : Tree :=
  .ofFields (Entry.nonEmptyList "rule_set" d.ruleSet ++ Entry.nonEmptyList "domain" d.domain ++
    Entry.nonEmptyList "domain_suffix" d.domainSuffix ++
    Entry.nonEmptyList "domain_keyword" d.domainKeyword ++
    Entry.nonEmptyList "domain_regex" d.domainRegex ++ [("server", .str direct)])

end DirectSites

/-- A resolver that is reached through an outbound. -/
def server (tag address strategy detour : String) : Tree :=
  .ofFields ([("tag", .str tag), ("address", .str address), ("address_resolver", .str «local»)] ++
    Entry.nonEmpty "strategy" strategy ++ [("detour", .str detour)])

/-- The resolver behind the proxy. -/
def remoteServer (routing : RoutingSettings) (entryTag : String) : Tree :=
  server remote routing.remoteDns routing.remoteDnsStrategy entryTag

/-- The resolver that is reached directly; `localhost` stands for the machine's own. -/
def directServer (routing : RoutingSettings) : Tree :=
  server direct (if routing.directDns = "localhost" then "local" else routing.directDns)
    routing.directDnsStrategy Tag.direct

/-- The resolvers; the settings say whether the remote or the direct one comes first. -/
def servers (settings : Settings) (entryTag : String) : List Tree :=
  let routing := settings.routing
  (if routing.dnsFinalOut = Tag.direct then
      [directServer routing, remoteServer routing entryTag]
    else [remoteServer routing entryTag, directServer routing]) ++
    [.ofFields [("tag", .str block), ("address", .str "rcode://success")]] ++
    (if settings.vpn.fakeDns then
      [.ofFields [("tag", .str fake), ("address", .str "fakeip")]] else []) ++
    [.ofFields [("tag", .str «local»), ("address", .str "local"), ("detour", .str Tag.direct)]]

/-- The rules that choose a resolver. -/
def rules (settings : Settings) (sites : DirectSites) : List Tree :=
  (if settings.vpn.fakeDns then
      [.ofFields [("outbound", .str "any"), ("server", .str «local»)],
        .ofFields [("query_type", .ofStrings ["A", "AAAA"]), ("server", .str fake)]]
    else []) ++
    (if sites.isEmpty then [] else [sites.toRule])

/-- The ranges of the resolver that makes addresses up. -/
def fakeRanges : Tree :=
  .ofFields [("enabled", .bool true), ("inet4_range", .str "198.18.0.0/15"),
    ("inet6_range", .str "fc00::/18")]

/-- The section of name resolution. -/
def build (settings : Settings) (entryTag : String) (sites : DirectSites) : Tree :=
  if settings.routing.useDnsObject then .object settings.routing.dnsObject.tree.override
  else
    .ofFields (Entry.onlyIf settings.vpn.fakeDns "fakeip" fakeRanges ++
      Entry.onlyIf settings.vpn.fakeDns "independent_cache" (.bool true) ++
      [("servers", .list (servers settings entryTag)), ("rules", .list (rules settings sites))])

end Dns

end Detour
