import Detour.Protocol.Outbound
import Detour.Json.Printer
/-!
# Bridges to external cores

A hop of an external core is bridged: a helper program speaks the protocol, and the core reaches it
through a local port. In `mapping` mode the helper dials a local redirect instead of the server, so
that its traffic can go on through other hops; in `full` mode it dials the server itself, which only
the hop nearest to the client may do, and only without the VPN.
-/

namespace Detour

/-- How a hop is realised. -/
inductive Bridging where
  | native
  | mapping
  | full
  /-- The hop cannot be realised at its place. -/
  | unsupported
deriving DecidableEq, Repr

namespace Bridging

/-- The number of a mode. -/
def code : Bridging → Int
  | native => 0
  | mapping => 1
  | full => 2
  | unsupported => -1

/-- Whether a helper program takes part. -/
def isBridged : Bridging → Bool
  | mapping | full => true
  | _ => false

end Bridging

/-- How a helper program is launched. -/
structure Descriptor where
  /-- The name of the bridged protocol. -/
  tag : String
  /-- The outbound that the helper serves. -/
  outbound : String
  program : String
  arguments : List String
  env : List String
  /-- The text of the helper's configuration file. -/
  config : Option String
deriving DecidableEq, Repr, Inhabited

namespace Descriptor

/-- The fields of a descriptor; only the outbound and the configuration may be absent. -/
def fields : List (Field Descriptor) := [
  .req "tag" .text tag fun x d => { d with tag := x },
  .opt "outbound" .text outbound fun x d => { d with outbound := x },
  .req "program" .text program fun x d => { d with program := x },
  .req "arguments" (.list .text) arguments fun x d => { d with arguments := x },
  .req "env" (.list .text) env fun x d => { d with env := x },
  .maybe "config" .text config fun x d => { d with config := x }]

/-- The stored form of a descriptor. -/
def codec : Codec Descriptor := .record fields ⟨"", "", "", [], [], none⟩

/-- A descriptor as it is shown, with its fields in their own order. -/
def toTree (d : Descriptor) : Tree :=
  .object (Field.encodeAll fields d)

end Descriptor

namespace Protocol

/-- How a hop of this protocol is realised; `nearest` says that no other hop is nearer to the
client. A redirect needs a server to point at. -/
def bridging (p : Protocol) (nearest vpn : Bool) : Bridging :=
  match p with
  | custom c =>
    if c.isInternal then .native
    else if nearest && !vpn then .full
    else if Text.isBlankText c.server then .unsupported
    else .mapping
  | chain _ => .unsupported
  | _ => .native

end Protocol

namespace Bridge

/-- The ports at the local ends of a bridge. -/
structure Ports where
  mapping : Nat
  socks : Nat
deriving DecidableEq, Repr

/-- The placeholders of command lines and configurations, with what they stand for. -/
def placeholders (ports : Ports) (mode : Bridging) (server : Endpoint) : List (String × String) :=
  let (address, port) :=
    if mode = .mapping then ("127.0.0.1", ports.mapping) else (server.server, server.serverPort.toNat)
  [("%mapping_port%", toString ports.mapping), ("%socks_port%", toString ports.socks),
    ("%server_addr%", address), ("%server_port%", toString port)]

/-- Replace the placeholders, one after the other. -/
def substitute (values : List (String × String)) (template : String) : String :=
  String.ofList (values.foldl
    (fun text v => Text.replaceAll v.1.toList v.2.toList text) template.toList)

/-- The text of a configuration: a text as it is, and any other value but null as indented JSON. -/
def configText : Tree → String
  | .null => ""
  | .str text => text
  | t => Json.pretty t

/-- The program that a core is launched with; empty if there is none. -/
def program (settings : Settings) (core : String) : String :=
  Text.trim ((settings.extraCores.get? core).getD "")

/-- How the helper of a bridged hop is launched. -/
def descriptor (settings : Settings) (ports : Ports) (mode : Bridging) :
    Protocol → Except BuildError Descriptor
  | .custom c =>
    let program := program settings c.core
    if program.isEmpty then .error (.coreNotFound c.core)
    else if c.command.isEmpty then .error (.emptyCommand c.core)
    else
      let values := placeholders ports mode c.toEndpoint
      let config := configText c.config.tree
      .ok { tag := c.core
            outbound := ""
            program := program
            arguments := c.command.map (substitute values)
            env := c.env
            config := if config.isEmpty then none else some (substitute values config) }
  | p => .error (.notBridgeable p.displayName)

end Bridge

end Detour
