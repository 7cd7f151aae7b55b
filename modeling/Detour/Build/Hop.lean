import Detour.Build.Basic
/-!
# Hops of a document

Each hop is compiled to an outbound: natively, or as the local end of a bridge. The hops are then
linked into a chain: a native hop names the next one as its detour, and behind a bridged hop a rule
sends what arrives at its redirect inbound to the next one. Nothing is behind the last hop, so what
its helper sends through the redirect goes out directly.
-/

namespace Detour

/-- The native outbound of a profile under a tag. -/
def compileNative (settings : Settings) (p : Profile) (tag : String) :
    Except BuildError Fields :=
  let needsElevation := match p.protocol with
    | .wireguard w => w.systemInterface && !settings.elevated
    | _ => false
  if needsElevation then .error .needsElevation
  else
    match p.protocol.nativeOutbound settings with
    | .error e => .error e
    | .ok [] => .error .unsupportedOutbound
    | .ok fields => .ok (Fields.setAll ([("tag", .str tag),
        ("domain_strategy", .str settings.routing.outboundDomainStrategy)] ++
        Entry.onlyIf (p.multiplexed settings.mux) "multiplex" (p.multiplex settings.mux)) fields)

/-- A compiled hop. -/
structure Hop where
  profile : Profile
  tag : String
  bridging : Bridging
  outbound : Fields
  /-- The redirect inbound that a helper dials in the place of its server. -/
  redirect : Option Tree := none
  /-- The helper of a bridged hop. -/
  helper : Option Descriptor := none

namespace Hop

/-- The local end of a bridge, seen as an outbound. -/
def bridgeOutbound (tag : String) (port : Nat) : Fields :=
  .ofList [("type", .str "socks"), ("server", .str "127.0.0.1"), ("server_port", .int port),
    ("tag", .str tag)]

/-- The inbound that leads from a local port to the server of a hop. -/
def redirectInbound (tag : String) (port : Nat) (server : Endpoint) : Tree :=
  .ofFields [("type", .str "direct"), ("tag", .str (Tag.mapping tag)),
    ("listen", .str "127.0.0.1"), ("listen_port", .int port),
    ("override_address", .str server.server), ("override_port", .int server.serverPort.toNat)]

/-- The fixed ports of a protocol; zero asks for a fresh one. -/
def fixedPorts : Protocol → Int64 × Int64
  | .custom c => (c.mappingPort, c.socksPort)
  | _ => (0, 0)

variable {σ : Type}

/-- Compile a hop that the core realises by itself. -/
def compileDirect (settings : Settings) (p : Profile) (tag : String) : Build σ Hop := do
  let outbound ← Build.ofExcept (compileNative settings p tag)
  Build.onLedger (Ledger.bind p.id p.id tag)
  pure { profile := p, tag := tag, bridging := .native, outbound := outbound }

/-- Compile a hop that a helper realises. -/
def compileBridged (settings : Settings) (p : Profile) (tag : String) (mode : Bridging) :
    Build σ Hop := do
  let mappingPort ← Build.pickPort (fixedPorts p.protocol).1
  let socksPort ← Build.pickPort (fixedPorts p.protocol).2
  let helper ← Build.ofExcept
    (Bridge.descriptor settings ⟨mappingPort, socksPort⟩ mode p.protocol)
  Build.onLedger (Ledger.bind p.id p.id tag)
  pure {
    profile := p
    tag := tag
    bridging := mode
    outbound := bridgeOutbound tag socksPort
    redirect :=
      if mode = .mapping then some (redirectInbound tag mappingPort p.protocol.endpoint) else none
    helper := some { helper with outbound := tag } }

/-- Merge the profile's override into a hop's outbound. -/
def overridden (h : Hop) : Hop :=
  { h with outbound := Fields.merge h.profile.customOutbound.tree.override h.outbound }

/-- Compile a hop; `nearest` says that no other hop is nearer to the client. -/
def compile (settings : Settings) (p : Profile) (tag : String) (nearest : Bool) :
    Build σ Hop :=
  match p.protocol.bridging nearest settings.vpn.enabled with
  | .unsupported => throw .cannotBridge
  | .native => overridden <$> compileDirect settings p tag
  | mode => overridden <$> compileBridged settings p tag mode

/-- Compile the hops of a chain of a length, from a position on. -/
def compileFrom (settings : Settings) (seq length : Nat) :
    Nat → List Profile → Build σ (List Hop)
  | _, [] => pure []
  | index, p :: rest => do
    let hop ← compile settings p (Tag.hop seq p.id index length) (index + 1 == length)
    let hops ← compileFrom settings seq length (index + 1) rest
    pure (hop :: hops)

/-- Compile the hops of a chain. -/
def compileAll (settings : Settings) (seq : Nat) (ps : List Profile) : Build σ (List Hop) :=
  compileFrom settings seq ps.length 0 ps

/-! ## Linking -/

/-- A rule that sends what arrives at the redirect inbound of a hop to an outbound. -/
structure Redirect where
  hop : String
  outbound : String
deriving DecidableEq, Repr

/-- A redirect as the core reads it. -/
def Redirect.toTree (r : Redirect) : Tree :=
  .ofFields [("inbound", .ofStrings [Tag.mapping r.hop]), ("outbound", .str r.outbound)]

/-- The outbounds of linked hops: each native one names the next hop as its detour. -/
def linkedOutbounds : List Hop → List Fields
  | [] => []
  | [h] => [h.outbound]
  | h :: next :: rest =>
    (if h.bridging = .native then Fields.set "detour" (.str next.tag) h.outbound
      else h.outbound) :: linkedOutbounds (next :: rest)

/-- The redirects of linked hops: each bridged one leads to the next hop, and the last one out. -/
def redirects : List Hop → List Redirect
  | [] => []
  | [h] => if h.bridging = .mapping then [⟨h.tag, Tag.direct⟩] else []
  | h :: next :: rest =>
    if h.bridging = .native then redirects (next :: rest)
    else ⟨h.tag, next.tag⟩ :: redirects (next :: rest)

/-- The tag of the hop nearest to the destination; empty if there are no hops. -/
def entryTag (hops : List Hop) : String :=
  (hops.head?.map Hop.tag).getD ""

end Hop

end Detour
