import Detour.Build.Routing
/-!
# Documents

The document of a profile is put together from its linked hops and the routing. An `internal-full`
profile is its own document. The profile's override is merged in last.
-/

namespace Detour

/-- What a build results in. -/
structure Output where
  document : Tree
  /-- The helpers that have to run before the core. -/
  externals : List Descriptor := []
  /-- The profiles whose counters are bound to outbounds of the document. -/
  traffic : List Int64 := []
  /-- The tag of the hop nearest to the destination. -/
  entryTag : String := ""
  /-- The profile of that hop. -/
  primaryTraffic : Option Int64 := none
  /-- The tags of the hops behind the first one, which a log of connections should not report. -/
  ignoreConnTags : List String := []
  redirects : List Hop.Redirect := []
  /-- A helper dials its server by itself, which the VPN would lead in a circle. -/
  keepVpnOff : Bool := false

namespace Output

/-- The redirects as rules of the document. -/
def chainRules (o : Output) : List Tree :=
  o.redirects.map Hop.Redirect.toTree

/-- The helper programs that the VPN has to let through, with slashes between directories. -/
def bypassPaths (o : Output) : List String :=
  (o.externals.filter fun d => !Text.isBlankText d.program).map fun d =>
    String.ofList (Text.replaceAll ['\\'] ['/'] d.program.toList)

end Output

namespace Document

/-! ## Inbounds -/

/-- What an inbound does with the names that connections reveal. -/
def sniffing (settings : Settings) : Fields :=
  (if settings.routing.sniffing = .disable then []
    else [("sniff", .bool true), ("sniff_override_destination",
      .bool (settings.routing.sniffing == .forDestination))]) ++
    [("domain_strategy", .str settings.routing.domainStrategy)]

/-- The local inbound. -/
def mixedInbound (settings : Settings) : Tree :=
  .ofFields ([("tag", .str "mixed-in"), ("type", .str "mixed"),
    ("listen", .str settings.inboundAddress),
    ("listen_port", .int settings.inboundSocksPort.toInt)] ++ sniffing settings)

/-- The addresses of the VPN's interface. -/
def tunAddresses (vpn : VpnSettings) : List String :=
  ["172.19.0.1/24"] ++ if vpn.ipv6 then ["fdfe:dcba:9876::1/96"] else []

/-- The inbound of the VPN. -/
def tunInbound (settings : Settings) : Tree :=
  let vpn := settings.vpn
  .ofFields ([("tag", .str "tun-in"), ("type", .str "tun"), ("interface_name", .str vpn.tunName),
    ("auto_route", .bool true), ("endpoint_independent_nat", .bool true),
    ("mtu", .int vpn.mtu.toNat), ("stack", .str vpn.stack), ("strict_route", .bool vpn.strictRoute),
    ("gso", .bool vpn.gso), ("auto_redirect", .bool vpn.autoRedirect),
    ("address", .ofStrings (tunAddresses vpn))] ++ sniffing settings)

/-- The inbounds that do not depend on the profile. -/
def localInbounds (settings : Settings) (request : Request) : List Tree :=
  if request.test then []
  else
    (if isValidPort settings.inboundSocksPort.toInt then [mixedInbound settings] else []) ++
      (if settings.vpn.enabled then [tunInbound settings] else [])

/-- The inbounds of the user's own. -/
def extraInbounds (settings : Settings) (request : Request) : List Tree :=
  if request.test then []
  else ((settings.customInbound.tree.get? "inbounds").bind Tree.items?).getD []

/-! ## Sections -/

/-- The section of the clock. -/
def ntp (settings : Settings) : Tree :=
  .ofFields [("enabled", .bool true), ("server", .str settings.ntp.server),
    ("server_port", .int settings.ntp.serverPort.toNat), ("interval", .str settings.ntp.interval)]

/-- The control interface, if it has a port and the build asks for it. -/
def experimental? (settings : Settings) (request : Request) : Option Tree :=
  let api := settings.clashApi
  if request.test || request.exporting || api.port ≤ 0 then none
  else
    some (.ofFields [("clash_api", .ofFields
      [("external_controller", .str s!"{api.listen}:{api.port}"), ("secret", .str api.secret),
        ("external_ui", .str "dashboard")])])

/-- The inbounds of a document. -/
def inbounds (settings : Settings) (request : Request) (hops : List Hop) : List Tree :=
  localInbounds settings request ++ hops.filterMap Hop.redirect ++ extraInbounds settings request

/-- The outbounds of a document: the hops, the reserved ones, and the targets of rules. -/
def outbounds (hops : List Hop) (targets : List Target) : List Tree :=
  (Hop.linkedOutbounds hops).map .object ++ reservedOutbounds ++
    targets.map fun t => .object t.outbound

/-- The names that the direct resolver answers for. -/
def directSites (hops : List Hop) (r : Routing) : Dns.DirectSites :=
  .classify (Routing.lookups
    (hops.map (fun h => h.profile.protocol.dialAddress) ++
      r.targets.map fun t => t.profile.protocol.dialAddress)) r.chain.directSites

/-- The sections of a document. -/
def sections (settings : Settings) (request : Request) (hops : List Hop) (r : Routing) : Fields :=
  let entryTag := Hop.entryTag hops
  Entry.onlyIf settings.ntp.enabled "ntp" (ntp settings) ++
    [("log", .ofFields [("level", .str settings.logLevel)]),
      ("dns", Dns.build settings entryTag (directSites hops r)),
      ("inbounds", .list (inbounds settings request hops)),
      ("outbounds", .list (outbounds hops r.targets)),
      ("route", r.toTree settings request entryTag (Hop.redirects hops))] ++
    Entry.present "experimental" (experimental? settings request)

/-- The profiles whose counters are bound: those of the hops, the root of several hops, and the
targets that are neither. -/
def traffic (root : Profile) (hops : List Hop) (targets : List Target) : List Int64 :=
  let own := hops.map (fun h => h.profile.id) ++ if 1 < hops.length then [root.id] else []
  own ++ (targets.map fun t => t.profile.id).filter fun id => id ∉ own

/-- What a build of hops and routing results in, before the override. -/
def assemble (settings : Settings) (request : Request) (root : Profile) (hops : List Hop)
    (r : Routing) : Output :=
  { document := .ofFields (sections settings request hops r)
    externals := hops.filterMap Hop.helper
    traffic := traffic root hops r.targets
    entryTag := Hop.entryTag hops
    primaryTraffic := hops.head?.map fun h => h.profile.id
    ignoreConnTags := hops.tail.map Hop.tag
    redirects := Hop.redirects hops
    keepVpnOff := hops.any fun h => h.bridging == .full }

end Document

namespace Build

variable {σ : Type} [RuleSetService σ]

/-- Build the document of a profile from its hops and the routing. -/
def generate (setup : Setup) (request : Request) (root : Profile) : Build σ Output := do
  let profiles ← ofExcept (setup.store.hops root (!request.test))
  let hops ← Hop.compileAll setup.settings request.seq profiles
  if 1 < hops.length then
    onLedger (Ledger.bind root.id root.id (Hop.entryTag hops))
  let routing ← Routing.compile setup request.seq
    (Document.traffic root hops [])
  pure (Document.assemble setup.settings request root hops routing)

/-- Build a profile, apart from its override. -/
def plain (setup : Setup) (request : Request) (root : Profile) : Build σ Output :=
  match root.protocol with
  | .custom c =>
    if c.isInternalFull then
      match c.configObject? with
      | some fields => pure { document := .object fields }
      | none => throw .documentNotObject
    else generate setup request root
  | _ => generate setup request root

/-- Build a profile. -/
def profile (setup : Setup) (request : Request) (root : Profile) : Build σ Output := do
  let output ← plain setup request root
  pure { output with
    document := output.document.merge (.object root.customConfig.tree.override) }

end Build

end Detour
