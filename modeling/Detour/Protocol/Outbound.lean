import Detour.Protocol.Basic
import Detour.Text.Blank
import Detour.Error
import Detour.Settings
import Detour.Tree.Entry
/-!
# Native outbounds

The outbound that the core builds for a protocol by itself. Protocols refuse parameters that the
core does not know; chains and external cores have no outbound of their own.
-/

namespace Detour

namespace Text

/-- The non-blank pieces of a text between commas, trimmed. -/
def commaList (s : String) : List String :=
  ((splitOn ',' s.toList).map fun piece => trim (String.ofList piece)).filter fun x => !x.isEmpty

end Text

namespace Stream

/-- The transport of an outbound; plain connections have none. -/
def transport? (s : Stream) : Option Tree :=
  if s.network = "ws" then
    some (.ofFields ([("type", .str "ws")] ++ Entry.nonEmpty "path" s.path ++
      Entry.onlyIf (!s.host.isEmpty) "headers" (.ofFields [("Host", .str s.host)])))
  else if s.network = "http" then
    some (.ofFields ([("type", .str "http")] ++ Entry.nonEmpty "path" s.path ++
      Entry.onlyIf (!s.host.isEmpty) "host" (.ofStrings (Text.commaList s.host))))
  else if s.network = "httpupgrade" then
    some (.ofFields ([("type", .str "httpupgrade")] ++ Entry.nonEmpty "path" s.path ++
      Entry.nonEmpty "host" s.host))
  else if s.network = "grpc" then
    some (.ofFields [("type", .str "grpc"), ("service_name", .str s.path)])
  else if s.network = "quic" then some (.ofFields [("type", .str "quic")])
  else none

/-- The client hello: the stream's own, or else that of the settings; a reality handshake needs
one. -/
def fingerprint (settings : Settings) (s : Stream) : String :=
  let own := if s.utlsFingerprint.isEmpty then settings.utlsFingerprint else s.utlsFingerprint
  if s.security = "reality" ∧ own.isEmpty then "chrome" else own

/-- The encryption of an outbound. -/
def tls? (settings : Settings) (s : Stream) : Option Tree :=
  if s.isTls then
    some (.ofFields ([("enabled", .bool true)] ++ Entry.nonEmpty "server_name" s.sni ++
      Entry.onlyIf (s.allowInsecure || settings.skipCert) "insecure" (.bool true) ++
      Entry.onlyIf (!s.alpn.isEmpty) "alpn" (.ofStrings (Text.commaList s.alpn)) ++
      Entry.onlyIf (s.security == "reality") "reality" (.ofFields [("enabled", .bool true),
        ("public_key", .str s.realityPublicKey), ("short_id", .str s.realityShortId)]) ++
      Entry.onlyIf (!(s.fingerprint settings).isEmpty) "utls" (.ofFields
        [("enabled", .bool true), ("fingerprint", .str (s.fingerprint settings))])))
  else none

/-- What a stream adds to an outbound. -/
def entries (settings : Settings) (s : Stream) : Fields :=
  Entry.present "transport" s.transport? ++ Entry.present "tls" (s.tls? settings) ++
    Entry.nonEmpty "packet_encoding" s.packetEncoding

end Stream

namespace Protocol

/-- What an outbound starts with: its type and where the server is. -/
def head (type : String) (e : Endpoint) : Fields :=
  [("type", .str type), ("server", .str e.server), ("server_port", .int e.serverPort.toNat)]

/-- The encryption of the protocols that run over QUIC. -/
def quicTls (sni alpn : String) (insecure : Bool) : Tree :=
  .ofFields ([("enabled", .bool true)] ++ Entry.nonEmpty "server_name" sni ++
    Entry.onlyIf insecure "insecure" (.bool true) ++
    Entry.onlyIf (!alpn.isEmpty) "alpn" (.ofStrings (Text.commaList alpn)))

/-- The name of a SOCKS version. -/
def socksVersion (version : UInt8) : String :=
  if version = 4 then "4" else if version = 40 then "4a" else "5"

/-- The ciphers that the core knows for Shadowsocks. -/
def shadowsocksMethods : List String :=
  ["none", "2022-blake3-aes-128-gcm", "2022-blake3-aes-256-gcm", "2022-blake3-chacha20-poly1305",
    "aes-128-gcm", "aes-192-gcm", "aes-256-gcm", "chacha20-ietf-poly1305",
    "xchacha20-ietf-poly1305", "aes-128-ctr", "aes-192-ctr", "aes-256-ctr", "aes-128-cfb",
    "aes-192-cfb", "aes-256-cfb", "rc4-md5", "chacha20-ietf", "xchacha20"]

/-- The flows that the core knows for VLESS. -/
def vlessFlows : List String := ["", "xtls-rprx-vision"]

/-- The congestion controls that the core knows for TUIC. -/
def tuicCongestions : List String := ["cubic", "new_reno", "bbr"]

/-- The ways of relaying datagrams that the core knows for TUIC. -/
def tuicRelayModes : List String := ["native", "quic"]

/-- The plugin of a shadowsocks outbound: its name, and its options behind the first semicolon. -/
def pluginEntries (plugin : String) : Fields :=
  if Text.isBlankText plugin then []
  else
    let (name, options) := (Text.cut? ';' plugin.toList).getD (plugin.toList, [])
    [("plugin", .str (Text.trim (String.ofList name)))] ++
      Entry.nonEmpty "plugin_opts" (Text.trim (String.ofList options))

/-- The entries of a protocol's own outbound. -/
def outboundEntries (settings : Settings) : Protocol → Except BuildError Fields
  | socks p => .ok (head "socks" p.toEndpoint ++ [("version", .str (socksVersion p.version))] ++
      Entry.nonEmpty "username" p.username ++ Entry.nonEmpty "password" p.password)
  | http p => .ok (head "http" p.toEndpoint ++ Entry.nonEmpty "username" p.username ++
      Entry.nonEmpty "password" p.password ++ Entry.present "tls" (p.stream.tls? settings))
  | shadowsocks p =>
    if shadowsocksMethods.contains p.method then
      .ok (head "shadowsocks" p.toEndpoint ++
        [("method", .str p.method), ("password", .str p.password)] ++ pluginEntries p.plugin ++
        Entry.onlyIf p.udpOverTcp "udp_over_tcp" (.bool true))
    else .error (.shadowsocksMethod p.method)
  | vmess p => .ok (head "vmess" p.toEndpoint ++ [("uuid", .str p.uuid),
      ("alter_id", .int p.alterId.toNat),
      ("security", .str (if p.security.isEmpty then "auto" else p.security))] ++
      p.stream.entries settings)
  | vless p =>
    if vlessFlows.contains p.flow then
      .ok (head "vless" p.toEndpoint ++ [("uuid", .str p.uuid), ("flow", .str p.flow)] ++
        p.stream.entries settings)
    else .error (.vlessFlow p.flow)
  | trojan p => .ok (head "trojan" p.toEndpoint ++ [("password", .str p.password)] ++
      p.stream.entries settings)
  | hysteria2 p => .ok (head "hysteria2" p.toEndpoint ++ [("password", .str p.password)] ++
      Entry.onlyIf (0 < p.upMbps) "up_mbps" (.int p.upMbps.toNat) ++
      Entry.onlyIf (0 < p.downMbps) "down_mbps" (.int p.downMbps.toNat) ++
      Entry.onlyIf (!p.obfsPassword.isEmpty) "obfs"
        (.ofFields [("type", .str "salamander"), ("password", .str p.obfsPassword)]) ++
      [("tls", quicTls p.sni p.alpn (p.allowInsecure || settings.skipCert))])
  | tuic p =>
    if !tuicCongestions.contains p.congestionControl then
      .error (.tuicCongestion p.congestionControl)
    else if !tuicRelayModes.contains p.udpRelayMode then .error (.tuicRelayMode p.udpRelayMode)
    else
      .ok (head "tuic" p.toEndpoint ++ [("uuid", .str p.uuid)] ++
        Entry.nonEmpty "password" p.password ++
        [("congestion_control", .str p.congestionControl),
          ("udp_relay_mode", .str p.udpRelayMode)] ++
        Entry.onlyIf p.zeroRtt "zero_rtt_handshake" (.bool true) ++
        Entry.nonEmpty "heartbeat" p.heartbeat ++
        [("tls", quicTls p.sni p.alpn (p.allowInsecure || settings.skipCert))])
  | wireguard p => .ok (head "wireguard" p.toEndpoint ++
      [("local_address", .ofStrings p.localAddress), ("private_key", .str p.privateKey),
        ("peer_public_key", .str p.peerPublicKey)] ++
      Entry.nonEmpty "pre_shared_key" p.preSharedKey ++
      Entry.onlyIf (!p.reserved.isEmpty) "reserved"
        (.list (p.reserved.map fun b => .int b.toNat)) ++
      [("mtu", .int p.mtu.toNat)] ++
      Entry.onlyIf p.systemInterface "system_interface" (.bool true))
  | ssh p => .ok (head "ssh" p.toEndpoint ++ [("user", .str p.user)] ++
      Entry.nonEmpty "password" p.password ++ Entry.nonEmpty "private_key" p.privateKey ++
      Entry.nonEmptyList "host_key" p.hostKey)
  | custom _ => .ok []
  | chain _ => .ok []

/-- The outbound of a protocol. An `internal` configuration is its own outbound; no fields at all
mean that the protocol has none. -/
def nativeOutbound (settings : Settings) (p : Protocol) : Except BuildError Fields :=
  match p with
  | custom c => .ok (if c.core = Custom.internalCore then c.configObject?.getD [] else [])
  | p => (p.outboundEntries settings).map Fields.ofList

/-- Whether a server and a port are given. -/
def hasEndpoint (e : Endpoint) : Bool :=
  !Text.isBlankText e.server && 0 < e.serverPort

/-- Whether a protocol has the parameters without which nothing can be built. -/
def isValid : Protocol → Bool
  | socks p => hasEndpoint p.toEndpoint
  | http p => hasEndpoint p.toEndpoint
  | shadowsocks p => hasEndpoint p.toEndpoint && !p.method.isEmpty
  | vmess p => hasEndpoint p.toEndpoint && !p.uuid.isEmpty
  | vless p => hasEndpoint p.toEndpoint && !p.uuid.isEmpty
  | trojan p => hasEndpoint p.toEndpoint && !p.password.isEmpty
  | hysteria2 p => hasEndpoint p.toEndpoint
  | tuic p => hasEndpoint p.toEndpoint && !p.uuid.isEmpty
  | wireguard p =>
    hasEndpoint p.toEndpoint && !p.privateKey.isEmpty && !p.peerPublicKey.isEmpty
  | ssh p => hasEndpoint p.toEndpoint && !p.user.isEmpty
  | custom p => if p.isInternal then p.configObject?.isSome else !p.core.isEmpty
  | chain members => !members.isEmpty

/-- The server that an `internal` configuration names. -/
def namedServer? : Protocol → Option String
  | custom c =>
    if c.core = Custom.internalCore then
      match c.configObject?.bind (Fields.get? "server") with
      | some (.str s) => if s.isEmpty then none else some s
      | _ => none
    else none
  | _ => none

/-- The address that the core looks up before it dials the server. -/
def dialAddress (p : Protocol) : String :=
  p.namedServer?.getD p.endpoint.server

end Protocol

end Detour
