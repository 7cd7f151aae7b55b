import Detour.Codec
/-!
# Streams

The transport and the security that several protocols run over.
-/

namespace Detour

/-- Transport and security of a connection. -/
structure Stream where
  /-- `tcp`, `ws`, `http`, `grpc`, `quic` or `httpupgrade`. -/
  network : String := "tcp"
  /-- Empty or `none`, `tls`, or `reality`. -/
  security : String := ""
  sni : String := ""
  /-- Application protocols, between commas. -/
  alpn : String := ""
  /-- The path of a request, or the name of a service. -/
  path : String := ""
  host : String := ""
  allowInsecure : Bool := false
  utlsFingerprint : String := ""
  realityPublicKey : String := ""
  realityShortId : String := ""
  packetEncoding : String := ""
deriving DecidableEq, Repr

namespace Stream

/-- The stored form of a stream. -/
def codec : Codec Stream := .record [
  .opt "network" .text network fun x s => { s with network := x },
  .opt "security" .text security fun x s => { s with security := x },
  .opt "sni" .text sni fun x s => { s with sni := x },
  .opt "alpn" .text alpn fun x s => { s with alpn := x },
  .opt "path" .text path fun x s => { s with path := x },
  .opt "host" .text host fun x s => { s with host := x },
  .opt "allow_insecure" .bool allowInsecure fun x s => { s with allowInsecure := x },
  .opt "utls_fingerprint" .text utlsFingerprint fun x s => { s with utlsFingerprint := x },
  .opt "reality_public_key" .text realityPublicKey fun x s => { s with realityPublicKey := x },
  .opt "reality_short_id" .text realityShortId fun x s => { s with realityShortId := x },
  .opt "packet_encoding" .text packetEncoding fun x s => { s with packetEncoding := x }] {}

/-- Whether the connection is encrypted. -/
def isTls (s : Stream) : Bool :=
  s.security == "tls" || s.security == "reality"

end Stream

end Detour
