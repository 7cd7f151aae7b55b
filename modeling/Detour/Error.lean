import Detour.Codec
/-!
# Failures of a build

`BuildError` lists the causes for which a build is refused. Each has a class and a message for the
user. A `Failure` is what remains of an error when it is stored: the class and the message.
-/

namespace Detour

/-- The classes of failures. -/
inductive ErrorClass where
  /-- A reference that leads nowhere, or a set of outbounds without members. -/
  | structural
  /-- A protocol that can be realised neither natively nor through a bridge. -/
  | capability
  /-- A program, a port or a rule set that is not to be had. -/
  | resource
  /-- A mode that needs privileges. -/
  | permission
  /-- Parameters that a protocol refuses. -/
  | policy
deriving DecidableEq, Repr

/-- The word for a class. -/
def ErrorClass.word : ErrorClass → String
  | .structural => "structural"
  | .capability => "capability"
  | .resource => "resource"
  | .permission => "permission"
  | .policy => "policy"

/-- The causes for which a build is refused. -/
inductive BuildError where
  | noGroup
  | archivedGroup
  | memberMissing (id : Int64)
  | nestedChain (id : Int64)
  | frontMissing
  | landingMissing
  | routingChainMissing
  | routingTargetMissing
  | noOutbounds (profile : String)
  | unsupportedOutbound
  | cannotBridge
  | notBridgeable (protocol : String)
  | portsExhausted
  | coreNotFound (core : String)
  /-- What the service of rule sets says. -/
  | ruleSet (message : String)
  | needsElevation
  | shadowsocksMethod (name : String)
  | vlessFlow (name : String)
  | tuicCongestion (name : String)
  | tuicRelayMode (name : String)
  | emptyCommand (core : String)
  | documentNotObject
deriving DecidableEq, Repr

namespace BuildError

/-- The class of an error. -/
def kind : BuildError → ErrorClass
  | noGroup | archivedGroup | memberMissing _ | nestedChain _ | frontMissing | landingMissing
  | routingChainMissing | routingTargetMissing | noOutbounds _ => .structural
  | unsupportedOutbound | cannotBridge | notBridgeable _ => .capability
  | portsExhausted | coreNotFound _ | ruleSet _ => .resource
  | needsElevation => .permission
  | shadowsocksMethod _ | vlessFlow _ | tuicCongestion _ | tuicRelayMode _ | emptyCommand _
  | documentNotObject => .policy

/-- The message of an error. -/
def message : BuildError → String
  | noGroup => "This profile is not in any group, your data may be corrupted."
  | archivedGroup => "This profile belongs to an archived group and cannot be started."
  | memberMissing id => s!"chain missing ent: {id}"
  | nestedChain id => s!"chain in chain is not allowed: {id}"
  | frontMissing => "front proxy ent not found."
  | landingMissing => "landing proxy ent not found."
  | routingChainMissing =>
    "Routing profile does not exist, try resetting the route profile in Routing Settings"
  | routingTargetMissing =>
    "The routing profile is referencing outbounds that no longer exists, " ++
      "consider revising your settings"
  | noOutbounds profile => s!"outbounds is empty for {profile}"
  | unsupportedOutbound => "unsupported outbound"
  | cannotBridge => "This configuration cannot be set automatically, please try another."
  | notBridgeable protocol => s!"{protocol} cannot be bridged"
  | portsExhausted => "local port range exhausted"
  | coreNotFound core => s!"Core not found: {core}"
  | ruleSet message => message
  | needsElevation => "using wireguard system interface requires elevated permissions"
  | shadowsocksMethod name => s!"unsupported shadowsocks method: {name}"
  | vlessFlow name => s!"unsupported vless flow: {name}"
  | tuicCongestion name => s!"unsupported tuic congestion control: {name}"
  | tuicRelayMode name => s!"unsupported tuic udp relay mode: {name}"
  | emptyCommand core => s!"custom core {core} has an empty command line"
  | documentNotObject => "internal-full profile does not hold a JSON object"

end BuildError

/-- An error as it is stored. -/
structure Failure where
  kind : ErrorClass
  message : String
deriving DecidableEq, Repr

namespace Failure

/-- The name under which a failure of a class is stored. -/
def label : ErrorClass → String
  | .structural => "Structural"
  | .capability => "Capability"
  | .resource => "Resource"
  | .permission => "Permission"
  | .policy => "Rejected"

/-- The class of a stored name. -/
def ofLabel? (name : String) : Option ErrorClass :=
  [.structural, .capability, .resource, .permission, .policy].find? fun c => label c == name

/-- What a failure holds besides its class. -/
def fields : List (Field String) :=
  [.req "message" .text id fun s _ => s]

/-- A failure is stored as one entry, from the name of its class to an object with its message. -/
def codec : Codec Failure where
  encode f := .object [(label f.kind, (Codec.record fields "").encode f.message)]
  decode
    | .object [(.text name, .object entries)] =>
      match ofLabel? name, Codec.decodeEntries fields "" (.object entries) with
      | some kind, some message => some ⟨kind, message⟩
      | _, _ => none
    | _ => none

end Failure

/-- The failure that stores an error. -/
def BuildError.toFailure (e : BuildError) : Failure :=
  ⟨e.kind, e.message⟩

/-- The stored name of a class on its own. -/
def ErrorClass.name : ErrorClass → String
  | .policy => "Policy"
  | c => Failure.label c

end Detour
