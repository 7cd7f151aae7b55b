import Detour.RuleSet
import Detour.Text.Blank
import Detour.Tree.Entry
/-!
# Routing rules

A rule selects an outbound for the traffic that its predicates match. Ports and the address version
are stored as texts and written as numbers; what is no number in range is left out. A rule without
predicates is never written.
-/

namespace Detour

/-- A routing rule. -/
structure Rule where
  name : String := ""
  ipVersion : String := ""
  network : String := ""
  protocol : String := ""
  inbound : List String := []
  domain : List String := []
  domainSuffix : List String := []
  domainKeyword : List String := []
  domainRegex : List String := []
  sourceIpCidr : List String := []
  sourceIpIsPrivate : Bool := false
  ipCidr : List String := []
  ipIsPrivate : Bool := false
  sourcePort : List String := []
  sourcePortRange : List String := []
  port : List String := []
  portRange : List String := []
  processName : List String := []
  processPath : List String := []
  processPathRegex : List String := []
  ruleSet : List String := []
  invert : Bool := false
  /-- The profile that the traffic goes to; below zero, one of the fixed outbounds. -/
  outboundId : Int64 := sentinelDirect
deriving DecidableEq, Repr

namespace Rule

/-- The stored form of a rule. -/
def codec : Codec Rule := .record [
  .opt "name" .text name fun x r => { r with name := x },
  .opt "ip_version" .text ipVersion fun x r => { r with ipVersion := x },
  .opt "network" .text network fun x r => { r with network := x },
  .opt "protocol" .text protocol fun x r => { r with protocol := x },
  .opt "inbound" (.list .text) inbound fun x r => { r with inbound := x },
  .opt "domain" (.list .text) domain fun x r => { r with domain := x },
  .opt "domain_suffix" (.list .text) domainSuffix fun x r => { r with domainSuffix := x },
  .opt "domain_keyword" (.list .text) domainKeyword fun x r => { r with domainKeyword := x },
  .opt "domain_regex" (.list .text) domainRegex fun x r => { r with domainRegex := x },
  .opt "source_ip_cidr" (.list .text) sourceIpCidr fun x r => { r with sourceIpCidr := x },
  .opt "source_ip_is_private" .bool sourceIpIsPrivate
    fun x r => { r with sourceIpIsPrivate := x },
  .opt "ip_cidr" (.list .text) ipCidr fun x r => { r with ipCidr := x },
  .opt "ip_is_private" .bool ipIsPrivate fun x r => { r with ipIsPrivate := x },
  .opt "source_port" (.list .text) sourcePort fun x r => { r with sourcePort := x },
  .opt "source_port_range" (.list .text) sourcePortRange
    fun x r => { r with sourcePortRange := x },
  .opt "port" (.list .text) port fun x r => { r with port := x },
  .opt "port_range" (.list .text) portRange fun x r => { r with portRange := x },
  .opt "process_name" (.list .text) processName fun x r => { r with processName := x },
  .opt "process_path" (.list .text) processPath fun x r => { r with processPath := x },
  .opt "process_path_regex" (.list .text) processPathRegex
    fun x r => { r with processPathRegex := x },
  .opt "rule_set" (.list .text) ruleSet fun x r => { r with ruleSet := x },
  .opt "invert" .bool invert fun x r => { r with invert := x },
  .opt "outbound_id" .int64 outboundId fun x r => { r with outboundId := x }] {}

/-- The predicates that are lists of texts and are written as they are. -/
def textLists (r : Rule) : List (String × List String) :=
  [("inbound", r.inbound), ("domain", r.domain), ("domain_suffix", r.domainSuffix),
    ("domain_keyword", r.domainKeyword), ("domain_regex", r.domainRegex),
    ("source_ip_cidr", r.sourceIpCidr), ("ip_cidr", r.ipCidr),
    ("source_port_range", r.sourcePortRange), ("port_range", r.portRange),
    ("process_name", r.processName), ("process_path", r.processPath),
    ("process_path_regex", r.processPathRegex), ("rule_set", r.ruleSet)]

/-- Whether a rule has no predicates. -/
def isEmpty (r : Rule) : Bool :=
  r.ipVersion.isEmpty && r.network.isEmpty && r.protocol.isEmpty && !r.sourceIpIsPrivate &&
    !r.ipIsPrivate && r.sourcePort.isEmpty && r.port.isEmpty &&
    r.textLists.all fun kv => kv.2.isEmpty

/-- A trimmed text of decimal digits behind an optional plus sign, as a number below a bound. -/
def number? (bound : Nat) (s : String) : Option Nat :=
  let digits := match (Text.trim s).toList with
    | '+' :: rest => rest
    | cs => cs
  (Decimal.digitsValue? 10 digits).bind fun n => if n < bound then some n else none

/-- The numbers of a list of ports; what is no port is left out. -/
def ports (texts : List String) : List Nat :=
  texts.filterMap (number? UInt16.size)

/-- An entry for ports, left out when there are none. -/
def portEntry (key : String) (texts : List String) : Fields :=
  Entry.onlyIf (!(ports texts).isEmpty) key (.list ((ports texts).map fun n => .int (Int.ofNat n)))

/-- The entries of a rule apart from its target. -/
def entries (r : Rule) : Fields :=
  Entry.present "ip_version" ((number? UInt8.size r.ipVersion).map fun n => .int (Int.ofNat n)) ++
    Entry.nonEmpty "network" r.network ++ Entry.nonEmpty "protocol" r.protocol ++
    r.textLists.flatMap (fun kv => Entry.nonEmptyList kv.1 kv.2) ++
    portEntry "source_port" r.sourcePort ++ portEntry "port" r.port ++
    Entry.onlyIf r.sourceIpIsPrivate "source_ip_is_private" (.bool true) ++
    Entry.onlyIf r.ipIsPrivate "ip_is_private" (.bool true) ++
    Entry.onlyIf r.invert "invert" (.bool true)

/-- A rule as the core reads it, with the outbound that it selects. -/
def toTree (r : Rule) (outbound : String) : Tree :=
  .ofFields (r.entries ++ [("outbound", .str outbound)])

end Rule

end Detour
