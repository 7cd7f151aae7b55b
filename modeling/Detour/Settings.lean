import Detour.Table
/-!
# Settings

What a user may choose for all builds: the local inbounds, resolvers, multiplexing, the VPN and the
control interface. Each record of settings starts from its defaults.
-/

namespace Detour

/-- What local inbounds do with the name that a connection reveals. -/
inductive Sniffing where
  | disable
  /-- Use it for routing only. -/
  | forRouting
  /-- Use it as the destination as well. -/
  | forDestination
deriving DecidableEq, Repr

namespace Sniffing

/-- The word for a mode. -/
def word : Sniffing → String
  | disable => "disable"
  | forRouting => "for_routing"
  | forDestination => "for_destination"

/-- The mode of a word. -/
def ofWord? (word : String) : Option Sniffing :=
  [disable, forRouting, forDestination].find? fun m => m.word == word

/-- A mode is written as its word; an entry from the word to null is read as well. -/
def codec : Codec Sniffing where
  encode m := .str m.word
  decode
    | .text s => ofWord? s
    | .plain s => ofWord? s
    | .object [(.text s, .null)] => ofWord? s
    | _ => none

end Sniffing

/-- Routing and name resolution. -/
structure RoutingSettings where
  /-- The id of the active chain of rules. -/
  currentRouteId : Int64 := 0
  /-- The outbound of traffic that no rule selects. -/
  defOutbound : String := "proxy"
  remoteDns : String := "8.8.8.8"
  remoteDnsStrategy : String := ""
  directDns : String := "localhost"
  directDnsStrategy : String := ""
  /-- Put `dnsObject` in the place of the generated section. -/
  useDnsObject : Bool := false
  dnsObject : FreeForm := .null
  /-- `direct` puts the direct resolver first. -/
  dnsFinalOut : String := "proxy"
  domainStrategy : String := "AsIs"
  outboundDomainStrategy : String := "AsIs"
  sniffing : Sniffing := .forRouting
  /-- The directory of compiled rule sets. -/
  ruleSetsDir : String := "rule_sets"

namespace RoutingSettings

/-- The stored form of the routing settings. -/
def codec : Codec RoutingSettings := .record [
  .opt "current_route_id" .int64 currentRouteId fun x s => { s with currentRouteId := x },
  .opt "def_outbound" .text defOutbound fun x s => { s with defOutbound := x },
  .opt "remote_dns" .text remoteDns fun x s => { s with remoteDns := x },
  .opt "remote_dns_strategy" .text remoteDnsStrategy fun x s => { s with remoteDnsStrategy := x },
  .opt "direct_dns" .text directDns fun x s => { s with directDns := x },
  .opt "direct_dns_strategy" .text directDnsStrategy fun x s => { s with directDnsStrategy := x },
  .opt "use_dns_object" .bool useDnsObject fun x s => { s with useDnsObject := x },
  .opt "dns_object" .freeForm dnsObject fun x s => { s with dnsObject := x },
  .opt "dns_final_out" .text dnsFinalOut fun x s => { s with dnsFinalOut := x },
  .opt "domain_strategy" .text domainStrategy fun x s => { s with domainStrategy := x },
  .opt "outbound_domain_strategy" .text outboundDomainStrategy
    fun x s => { s with outboundDomainStrategy := x },
  .opt "sniffing_mode" Sniffing.codec sniffing fun x s => { s with sniffing := x },
  .opt "rule_sets_dir" .text ruleSetsDir fun x s => { s with ruleSetsDir := x }] {}

end RoutingSettings

/-- Multiplexing. -/
structure MuxSettings where
  protocol : String := ""
  padding : Bool := false
  /-- The most streams in one connection; zero or less turns multiplexing off. -/
  concurrency : Int64 := 8
  /-- Multiplex the hops that do not say otherwise. -/
  defaultOn : Bool := false

namespace MuxSettings

/-- The stored form of the multiplexing settings. -/
def codec : Codec MuxSettings := .record [
  .opt "protocol" .text protocol fun x s => { s with protocol := x },
  .opt "padding" .bool padding fun x s => { s with padding := x },
  .opt "concurrency" .int64 concurrency fun x s => { s with concurrency := x },
  .opt "default_on" .bool defaultOn fun x s => { s with defaultOn := x }] {}

end MuxSettings

/-- The inbound that takes all traffic of the machine. -/
structure VpnSettings where
  enabled : Bool := false
  fakeDns : Bool := false
  gso : Bool := false
  autoRedirect : Bool := false
  stack : String := "mixed"
  mtu : UInt32 := 9000
  ipv6 : Bool := false
  strictRoute : Bool := false
  interfaceName : String := ""

namespace VpnSettings

/-- The stored form of the VPN's settings. -/
def codec : Codec VpnSettings := .record [
  .opt "enabled" .bool enabled fun x s => { s with enabled := x },
  .opt "fake_dns" .bool fakeDns fun x s => { s with fakeDns := x },
  .opt "gso" .bool gso fun x s => { s with gso := x },
  .opt "auto_redirect" .bool autoRedirect fun x s => { s with autoRedirect := x },
  .opt "stack" .text stack fun x s => { s with stack := x },
  .opt "mtu" .uint32 mtu fun x s => { s with mtu := x },
  .opt "ipv6" .bool ipv6 fun x s => { s with ipv6 := x },
  .opt "strict_route" .bool strictRoute fun x s => { s with strictRoute := x },
  .opt "interface_name" .text interfaceName fun x s => { s with interfaceName := x }] {}

/-- The name of the interface; an empty one gives way to a fixed name. -/
def tunName (s : VpnSettings) : String :=
  if s.interfaceName.isEmpty then "boxchain-tun" else s.interfaceName

end VpnSettings

/-- The clock. -/
structure NtpSettings where
  enabled : Bool := false
  server : String := ""
  serverPort : UInt16 := 0
  interval : String := ""

namespace NtpSettings

/-- The stored form of the clock's settings. -/
def codec : Codec NtpSettings := .record [
  .opt "enabled" .bool enabled fun x s => { s with enabled := x },
  .opt "server" .text server fun x s => { s with server := x },
  .opt "server_port" .uint16 serverPort fun x s => { s with serverPort := x },
  .opt "interval" .text interval fun x s => { s with interval := x }] {}

end NtpSettings

/-- The control interface. -/
structure ClashApiSettings where
  /-- Zero or less turns the interface off. -/
  port : Int64 := -9090
  listen : String := "127.0.0.1"
  secret : String := ""

namespace ClashApiSettings

/-- The stored form of the control interface's settings. -/
def codec : Codec ClashApiSettings := .record [
  .opt "port" .int64 port fun x s => { s with port := x },
  .opt "listen" .text listen fun x s => { s with listen := x },
  .opt "secret" .text secret fun x s => { s with secret := x }] {}

end ClashApiSettings

/-- No inbounds beyond the generated ones. -/
def FreeForm.noInbounds : FreeForm :=
  ⟨.object [("inbounds", .list [])],
    by simp [Tree.Ordered, Tree.OrderedFields, Tree.OrderedItems]⟩

/-- The settings of all builds. -/
structure Settings where
  logLevel : String := "warning"
  inboundAddress : String := "127.0.0.1"
  /-- The local inbound listens here; without a valid port there is no such inbound. -/
  inboundSocksPort : Int64 := 2080
  /-- Inbounds that are put behind the generated ones. -/
  customInbound : FreeForm := .noInbounds
  /-- The programs that external cores are launched with, by the name of the core. -/
  extraCores : Table String := .empty
  /-- Whether privileged features may be used. -/
  elevated : Bool := false
  /-- Accept any certificate. -/
  skipCert : Bool := false
  /-- The client hello of profiles that do not name one. -/
  utlsFingerprint : String := ""
  routing : RoutingSettings := {}
  mux : MuxSettings := {}
  vpn : VpnSettings := {}
  ntp : NtpSettings := {}
  clashApi : ClashApiSettings := {}

namespace Settings

/-- The stored form of the settings. -/
def codec : Codec Settings := .record [
  .opt "log_level" .text logLevel fun x s => { s with logLevel := x },
  .opt "inbound_address" .text inboundAddress fun x s => { s with inboundAddress := x },
  .opt "inbound_socks_port" .int64 inboundSocksPort fun x s => { s with inboundSocksPort := x },
  .opt "custom_inbound" .freeForm customInbound fun x s => { s with customInbound := x },
  .opt "extra_cores" (Table.codec .text) extraCores fun x s => { s with extraCores := x },
  .opt "elevated" .bool elevated fun x s => { s with elevated := x },
  .opt "skip_cert" .bool skipCert fun x s => { s with skipCert := x },
  .opt "utls_fingerprint" .text utlsFingerprint fun x s => { s with utlsFingerprint := x },
  .opt "routing" RoutingSettings.codec routing fun x s => { s with routing := x },
  .opt "mux" MuxSettings.codec mux fun x s => { s with mux := x },
  .opt "vpn" VpnSettings.codec vpn fun x s => { s with vpn := x },
  .opt "ntp" NtpSettings.codec ntp fun x s => { s with ntp := x },
  .opt "clash_api" ClashApiSettings.codec clashApi fun x s => { s with clashApi := x }] {}

end Settings

end Detour
