import Detour.Protocol.Stream
import Detour.Tree.Override
/-!
# Protocols

What a profile speaks: one of ten simple protocols, a configuration of the user's own, or a chain of
other profiles. A custom protocol is `internal` when its configuration is an outbound,
`internal-full` when it is a whole document, and otherwise names an external core.
-/

namespace Detour

/-- Where a server is reached. -/
structure Endpoint where
  server : String := ""
  serverPort : UInt16 := 0
deriving DecidableEq, Repr

namespace Endpoint

/-- The two fields of an endpoint, in a record that holds one. -/
def fields {ρ : Type} (get : ρ → Endpoint) (put : Endpoint → ρ → ρ) : List (Field ρ) := [
  .opt "server" .text (fun r => (get r).server) fun x r => put { get r with server := x } r,
  .opt "server_port" .uint16 (fun r => (get r).serverPort)
    fun x r => put { get r with serverPort := x } r]

end Endpoint

/-- The SOCKS protocol of version 4, 4a or 5. -/
structure Socks extends Endpoint where
  /-- 4, 40 for 4a, or 5. -/
  version : UInt8 := 5
  username : String := ""
  password : String := ""

/-- The stored form of a SOCKS protocol. -/
def Socks.codec : Codec Socks := .record (
  Endpoint.fields Socks.toEndpoint (fun e r => { r with toEndpoint := e }) ++ [
  .opt "version" .uint8 Socks.version fun x r => { r with version := x },
  .opt "username" .text Socks.username fun x r => { r with username := x },
  .opt "password" .text Socks.password fun x r => { r with password := x }]) {}

/-- An HTTP proxy, over TLS if its stream says so. -/
structure Http extends Endpoint where
  username : String := ""
  password : String := ""
  stream : Stream := {}

/-- The stored form of an HTTP proxy. -/
def Http.codec : Codec Http := .record (
  Endpoint.fields Http.toEndpoint (fun e r => { r with toEndpoint := e }) ++ [
  .opt "username" .text Http.username fun x r => { r with username := x },
  .opt "password" .text Http.password fun x r => { r with password := x },
  .opt "stream" Stream.codec Http.stream fun x r => { r with stream := x }]) {}

/-- The Shadowsocks protocol. -/
structure Shadowsocks extends Endpoint where
  method : String := ""
  password : String := ""
  /-- The name of a plugin and its options, with a semicolon between. -/
  plugin : String := ""
  udpOverTcp : Bool := false

/-- The stored form of a Shadowsocks protocol. -/
def Shadowsocks.codec : Codec Shadowsocks := .record (
  Endpoint.fields Shadowsocks.toEndpoint (fun e r => { r with toEndpoint := e }) ++ [
  .opt "method" .text Shadowsocks.method fun x r => { r with method := x },
  .opt "password" .text Shadowsocks.password fun x r => { r with password := x },
  .opt "plugin" .text Shadowsocks.plugin fun x r => { r with plugin := x },
  .opt "udp_over_tcp" .bool Shadowsocks.udpOverTcp fun x r => { r with udpOverTcp := x }]) {}

/-- The VMess protocol over a stream. -/
structure Vmess extends Endpoint where
  uuid : String := ""
  alterId : UInt32 := 0
  security : String := "auto"
  stream : Stream := {}

/-- The stored form of a VMess protocol. -/
def Vmess.codec : Codec Vmess := .record (
  Endpoint.fields Vmess.toEndpoint (fun e r => { r with toEndpoint := e }) ++ [
  .opt "uuid" .text Vmess.uuid fun x r => { r with uuid := x },
  .opt "alter_id" .uint32 Vmess.alterId fun x r => { r with alterId := x },
  .opt "security" .text Vmess.security fun x r => { r with security := x },
  .opt "stream" Stream.codec Vmess.stream fun x r => { r with stream := x }]) {}

/-- The VLESS protocol over a stream; a flow takes the place of multiplexing. -/
structure Vless extends Endpoint where
  uuid : String := ""
  flow : String := ""
  stream : Stream := {}

/-- The stored form of a VLESS protocol. -/
def Vless.codec : Codec Vless := .record (
  Endpoint.fields Vless.toEndpoint (fun e r => { r with toEndpoint := e }) ++ [
  .opt "uuid" .text Vless.uuid fun x r => { r with uuid := x },
  .opt "flow" .text Vless.flow fun x r => { r with flow := x },
  .opt "stream" Stream.codec Vless.stream fun x r => { r with stream := x }]) {}

/-- The Trojan protocol over a stream. -/
structure Trojan extends Endpoint where
  password : String := ""
  stream : Stream := {}

/-- The stored form of a Trojan protocol. -/
def Trojan.codec : Codec Trojan := .record (
  Endpoint.fields Trojan.toEndpoint (fun e r => { r with toEndpoint := e }) ++ [
  .opt "password" .text Trojan.password fun x r => { r with password := x },
  .opt "stream" Stream.codec Trojan.stream fun x r => { r with stream := x }]) {}

/-- The Hysteria2 protocol, which brings its own encryption. -/
structure Hysteria2 extends Endpoint where
  password : String := ""
  upMbps : UInt32 := 0
  downMbps : UInt32 := 0
  obfsPassword : String := ""
  sni : String := ""
  alpn : String := ""
  allowInsecure : Bool := false

/-- The stored form of a Hysteria2 protocol. -/
def Hysteria2.codec : Codec Hysteria2 := .record (
  Endpoint.fields Hysteria2.toEndpoint (fun e r => { r with toEndpoint := e }) ++ [
  .opt "password" .text Hysteria2.password fun x r => { r with password := x },
  .opt "up_mbps" .uint32 Hysteria2.upMbps fun x r => { r with upMbps := x },
  .opt "down_mbps" .uint32 Hysteria2.downMbps fun x r => { r with downMbps := x },
  .opt "obfs_password" .text Hysteria2.obfsPassword fun x r => { r with obfsPassword := x },
  .opt "sni" .text Hysteria2.sni fun x r => { r with sni := x },
  .opt "alpn" .text Hysteria2.alpn fun x r => { r with alpn := x },
  .opt "allow_insecure" .bool Hysteria2.allowInsecure
    fun x r => { r with allowInsecure := x }]) {}

/-- The TUIC protocol, which brings its own encryption. -/
structure Tuic extends Endpoint where
  uuid : String := ""
  password : String := ""
  congestionControl : String := "bbr"
  udpRelayMode : String := "native"
  zeroRtt : Bool := false
  heartbeat : String := "10s"
  sni : String := ""
  alpn : String := ""
  allowInsecure : Bool := false

/-- The stored form of a TUIC protocol. -/
def Tuic.codec : Codec Tuic := .record (
  Endpoint.fields Tuic.toEndpoint (fun e r => { r with toEndpoint := e }) ++ [
  .opt "uuid" .text Tuic.uuid fun x r => { r with uuid := x },
  .opt "password" .text Tuic.password fun x r => { r with password := x },
  .opt "congestion_control" .text Tuic.congestionControl
    fun x r => { r with congestionControl := x },
  .opt "udp_relay_mode" .text Tuic.udpRelayMode fun x r => { r with udpRelayMode := x },
  .opt "zero_rtt" .bool Tuic.zeroRtt fun x r => { r with zeroRtt := x },
  .opt "heartbeat" .text Tuic.heartbeat fun x r => { r with heartbeat := x },
  .opt "sni" .text Tuic.sni fun x r => { r with sni := x },
  .opt "alpn" .text Tuic.alpn fun x r => { r with alpn := x },
  .opt "allow_insecure" .bool Tuic.allowInsecure fun x r => { r with allowInsecure := x }]) {}

/-- A WireGuard tunnel to one peer. -/
structure Wireguard extends Endpoint where
  privateKey : String := ""
  peerPublicKey : String := ""
  preSharedKey : String := ""
  localAddress : List String := []
  reserved : List UInt8 := []
  mtu : UInt32 := 1420
  /-- Use an interface of the system, which needs privileges. -/
  systemInterface : Bool := false

/-- The stored form of a WireGuard tunnel. -/
def Wireguard.codec : Codec Wireguard := .record (
  Endpoint.fields Wireguard.toEndpoint (fun e r => { r with toEndpoint := e }) ++ [
  .opt "private_key" .text Wireguard.privateKey fun x r => { r with privateKey := x },
  .opt "peer_public_key" .text Wireguard.peerPublicKey fun x r => { r with peerPublicKey := x },
  .opt "pre_shared_key" .text Wireguard.preSharedKey fun x r => { r with preSharedKey := x },
  .opt "local_address" (.list .text) Wireguard.localAddress
    fun x r => { r with localAddress := x },
  .opt "reserved" (.list .uint8) Wireguard.reserved fun x r => { r with reserved := x },
  .opt "mtu" .uint32 Wireguard.mtu fun x r => { r with mtu := x },
  .opt "system_interface" .bool Wireguard.systemInterface
    fun x r => { r with systemInterface := x }]) {}

/-- A connection over SSH. -/
structure Ssh extends Endpoint where
  user : String := ""
  password : String := ""
  privateKey : String := ""
  hostKey : List String := []

/-- The stored form of an SSH connection. -/
def Ssh.codec : Codec Ssh := .record (
  Endpoint.fields Ssh.toEndpoint (fun e r => { r with toEndpoint := e }) ++ [
  .opt "user" .text Ssh.user fun x r => { r with user := x },
  .opt "password" .text Ssh.password fun x r => { r with password := x },
  .opt "private_key" .text Ssh.privateKey fun x r => { r with privateKey := x },
  .opt "host_key" (.list .text) Ssh.hostKey fun x r => { r with hostKey := x }]) {}

/-- A configuration of the user's own. -/
structure Custom extends Endpoint where
  core : String := ""
  /-- An outbound, a document, or the configuration of an external core. -/
  config : FreeForm := .null
  /-- The arguments of an external core. -/
  command : List String := []
  env : List String := []
  /-- The local ports of the bridge; others are requested in the place of invalid ones. -/
  mappingPort : Int64 := 0
  socksPort : Int64 := 0

namespace Custom

/-- The stored form of a custom protocol. -/
def codec : Codec Custom := .record (
  [.opt "core" .text core fun x r => { r with core := x }] ++
  Endpoint.fields toEndpoint (fun e r => { r with toEndpoint := e }) ++ [
  .opt "config" .freeForm config fun x r => { r with config := x },
  .opt "command" (.list .text) command fun x r => { r with command := x },
  .opt "env" (.list .text) env fun x r => { r with env := x },
  .opt "mapping_port" .int64 mappingPort fun x r => { r with mappingPort := x },
  .opt "socks_port" .int64 socksPort fun x r => { r with socksPort := x }]) {}

/-- The core whose configuration is an outbound. -/
def internalCore : String := "internal"

/-- The core whose configuration is a whole document. -/
def internalFullCore : String := "internal-full"

/-- The configuration is a whole document. -/
def isInternalFull (c : Custom) : Bool :=
  c.core == internalFullCore

/-- No external core is needed. -/
def isInternal (c : Custom) : Bool :=
  c.core == internalCore || c.isInternalFull

/-- The configuration as an object. -/
def configObject? (c : Custom) : Option Fields :=
  c.config.tree.heldObject?

end Custom

/-- What a profile speaks. -/
inductive Protocol where
  | socks (p : Socks)
  | http (p : Http)
  | shadowsocks (p : Shadowsocks)
  | vmess (p : Vmess)
  | vless (p : Vless)
  | trojan (p : Trojan)
  | hysteria2 (p : Hysteria2)
  | tuic (p : Tuic)
  | wireguard (p : Wireguard)
  | ssh (p : Ssh)
  | custom (p : Custom)
  /-- Other profiles by their ids, the one nearest to the client first. -/
  | chain (members : List Int64)

namespace Protocol

/-- The name of a protocol in documents. -/
def name : Protocol → String
  | socks _ => "socks"
  | http _ => "http"
  | shadowsocks _ => "shadowsocks"
  | vmess _ => "vmess"
  | vless _ => "vless"
  | trojan _ => "trojan"
  | hysteria2 _ => "hysteria2"
  | tuic _ => "tuic"
  | wireguard _ => "wireguard"
  | ssh _ => "ssh"
  | custom _ => "custom"
  | chain _ => "chain"

/-- The name of a protocol for the user; a custom one goes by its core. -/
def displayName : Protocol → String
  | socks _ => "Socks"
  | http _ => "HTTP"
  | shadowsocks _ => "Shadowsocks"
  | vmess _ => "VMess"
  | vless _ => "VLESS"
  | trojan _ => "Trojan"
  | hysteria2 _ => "Hysteria2"
  | tuic _ => "TUIC"
  | wireguard _ => "WireGuard"
  | ssh _ => "SSH"
  | custom p => p.core
  | chain _ => "Chain"

/-- Where the server is reached; a chain has none. -/
def endpoint : Protocol → Endpoint
  | socks p => p.toEndpoint
  | http p => p.toEndpoint
  | shadowsocks p => p.toEndpoint
  | vmess p => p.toEndpoint
  | vless p => p.toEndpoint
  | trojan p => p.toEndpoint
  | hysteria2 p => p.toEndpoint
  | tuic p => p.toEndpoint
  | wireguard p => p.toEndpoint
  | ssh p => p.toEndpoint
  | custom p => p.toEndpoint
  | chain _ => {}

/-- The stream of the protocols that run over one. -/
def stream? : Protocol → Option Stream
  | http p => some p.stream
  | vmess p => some p.stream
  | vless p => some p.stream
  | trojan p => some p.stream
  | _ => none

/-- Whether the protocol is a chain. -/
def isChain : Protocol → Bool
  | chain _ => true
  | _ => false

/-- Whether the protocol is a whole document of the user's own. -/
def isFullDocument : Protocol → Bool
  | custom p => p.isInternalFull
  | _ => false

/-- What a chain holds. -/
def chainCodec : Codec (List Int64) :=
  .record [.opt "list" (.list .int64) id fun x _ => x] []

/-- Put the name of a protocol before its own fields. -/
def tagged (name : String) : Tree → Tree
  | .object fields => .object (Fields.set "type" (.str name) fields)
  | t => t

/-- Read the fields of the protocol with a name. -/
def decodeNamed? (name : String) (n : Node) : Option Protocol :=
  if name = "socks" then (Socks.codec.decode n).map socks
  else if name = "http" then (Http.codec.decode n).map http
  else if name = "shadowsocks" then (Shadowsocks.codec.decode n).map shadowsocks
  else if name = "vmess" then (Vmess.codec.decode n).map vmess
  else if name = "vless" then (Vless.codec.decode n).map vless
  else if name = "trojan" then (Trojan.codec.decode n).map trojan
  else if name = "hysteria2" then (Hysteria2.codec.decode n).map hysteria2
  else if name = "tuic" then (Tuic.codec.decode n).map tuic
  else if name = "wireguard" then (Wireguard.codec.decode n).map wireguard
  else if name = "ssh" then (Ssh.codec.decode n).map ssh
  else if name = "custom" then (Custom.codec.decode n).map custom
  else if name = "chain" then (chainCodec.decode n).map chain
  else none

/-- The fields of a protocol, without its name. -/
def encodeFields : Protocol → Tree
  | socks p => Socks.codec.encode p
  | http p => Http.codec.encode p
  | shadowsocks p => Shadowsocks.codec.encode p
  | vmess p => Vmess.codec.encode p
  | vless p => Vless.codec.encode p
  | trojan p => Trojan.codec.encode p
  | hysteria2 p => Hysteria2.codec.encode p
  | tuic p => Tuic.codec.encode p
  | wireguard p => Wireguard.codec.encode p
  | ssh p => Ssh.codec.encode p
  | custom p => Custom.codec.encode p
  | chain members => chainCodec.encode members

/-- The values under the key `type`. -/
def names (entries : List (Node × Node)) : List Node :=
  entries.filterMap fun
    | (.text "type", n) => some n
    | _ => none

/-- A protocol is written with its name under `type`, beside its own fields, and read by it. In a
list, its name comes first. -/
def codec : Codec Protocol := .settled {
  encode p := tagged p.name p.encodeFields
  decode
    | .object entries =>
      match names entries with
      | [.text name] => decodeNamed? name (.object entries)
      | _ => none
    | .list (.text name :: items) => decodeNamed? name (.list items)
    | _ => none }

end Protocol

end Detour
