import Detour.Protocol.Bridge
/-!
# Profiles and groups

A profile is a protocol with its parameters, and belongs to a group. A group may put one profile in
front of each of its members and another one behind them.
-/

namespace Detour

/-- Whether a profile says for itself if it is multiplexed. -/
inductive MuxState where
  | unset
  | forceOn
  | forceOff
deriving DecidableEq, Repr

namespace MuxState

/-- The name of a state. -/
def name : MuxState → String
  | unset => "Unset"
  | forceOn => "ForceOn"
  | forceOff => "ForceOff"

/-- The number under which a state is stored. -/
def code : MuxState → UInt8
  | unset => 0
  | forceOn => 1
  | forceOff => 2

/-- The state of a number. -/
def ofCode? (code : UInt8) : Option MuxState :=
  [unset, forceOn, forceOff].find? fun s => s.code == code

/-- What is said of a number without a state. -/
def complaint (code : UInt8) : String :=
  s!"invalid mux_state {code}, expected 0, 1 or 2"

/-- A state is stored as its number; other numbers are refused. -/
def codec : Codec MuxState where
  encode s := Codec.uint8.encode s.code
  decode n := (Codec.uint8.decode n).bind ofCode?

end MuxState

/-- A stored profile. -/
structure Profile where
  id : Int64 := 0
  gid : Int64 := 0
  name : String := ""
  protocol : Protocol := .chain []
  muxState : MuxState := .unset
  /-- Give the connection a fixed bandwidth. -/
  enableBrutal : Bool := false
  /-- That bandwidth, in megabits per second. -/
  brutalSpeed : Int64 := 0
  /-- The override of the profile's outbound. -/
  customOutbound : FreeForm := .null
  /-- The override of the whole document. -/
  customConfig : FreeForm := .null

instance : Inhabited Profile := ⟨{}⟩

namespace Profile

/-- A profile is stored with an id, a group and a protocol; the other fields have defaults. -/
def codec : Codec Profile := .record [
  .req "id" .int64 id fun x p => { p with id := x },
  .req "gid" .int64 gid fun x p => { p with gid := x },
  .opt "name" .text name fun x p => { p with name := x },
  .req "bean" Protocol.codec protocol fun x p => { p with protocol := x },
  .opt "mux_state" MuxState.codec muxState fun x p => { p with muxState := x },
  .opt "enable_brutal" .bool enableBrutal fun x p => { p with enableBrutal := x },
  .opt "brutal_speed" .int64 brutalSpeed fun x p => { p with brutalSpeed := x },
  .opt "custom_outbound" .freeForm customOutbound fun x p => { p with customOutbound := x },
  .opt "custom_config" .freeForm customConfig fun x p => { p with customConfig := x }] {}

/-- Whether the profile is a chain of other profiles. -/
def isChain (p : Profile) : Bool :=
  p.protocol.isChain

/-- Whether the profile is a whole document of the user's own. -/
def isFullDocument (p : Profile) : Bool :=
  p.protocol.isFullDocument

/-- The kinds of profiles. -/
def kind (p : Profile) : String :=
  match p.protocol with
  | .chain _ => "chain"
  | .custom _ => "custom"
  | _ => "simple"

/-- The name of a profile, or its protocol and id if it has none. -/
def displayName (p : Profile) : String :=
  if p.name.isEmpty then s!"{p.protocol.name}#{p.id}" else p.name

/-- Whether the stream of a protocol carries several connections by itself. -/
def streamMultiplexes (protocol : Protocol) : Bool :=
  match protocol.stream? with
  | some s => s.network == "grpc" || s.network == "quic" || (s.network == "http" && s.isTls)
  | none => false

/-- Whether a protocol can be multiplexed. -/
def canMultiplex : Protocol → Bool
  | .vmess _ | .trojan _ | .vless _ | .shadowsocks _ => true
  | _ => false

/-- Whether a protocol has a flow that rules multiplexing out. -/
def hasFlow : Protocol → Bool
  | .vless p => !p.flow.isEmpty
  | _ => false

/-- Whether the native outbound of a profile is multiplexed. The profile's own state decides before
the settings do, but never against a flow. -/
def multiplexed (p : Profile) (mux : MuxSettings) : Bool :=
  !hasFlow p.protocol &&
    match p.muxState with
    | .forceOn => true
    | .forceOff => false
    | .unset =>
      canMultiplex p.protocol && 0 < mux.concurrency && !streamMultiplexes p.protocol &&
        (mux.defaultOn || p.enableBrutal)

/-- How an outbound is multiplexed. -/
def multiplex (p : Profile) (mux : MuxSettings) : Tree :=
  .ofFields ([("enabled", .bool true), ("protocol", .str mux.protocol),
      ("padding", .bool mux.padding), ("max_streams", .int mux.concurrency.toInt)] ++
    (if p.enableBrutal then
      [("max_connections", .int 1),
        ("brutal", .ofFields [("enabled", .bool true), ("up_mbps", .int p.brutalSpeed.toInt),
          ("down_mbps", .int p.brutalSpeed.toInt)])]
    else []))

end Profile

/-- A group of profiles. -/
structure Group where
  id : Int64 := 0
  name : String := ""
  /-- The profile in front of each member, on the client's side; below zero there is none. -/
  frontProxyId : Option Int64 := none
  /-- The profile behind each member, on the destination's side; below zero there is none. -/
  landingProxyId : Option Int64 := none
  archived : Bool := false
deriving DecidableEq, Repr

namespace Group

/-- A group is stored with all fields optional. -/
def codec : Codec Group := .record [
  .opt "id" .int64 id fun x g => { g with id := x },
  .opt "name" .text name fun x g => { g with name := x },
  .opt "front_proxy_id" (.optional .int64) frontProxyId fun x g => { g with frontProxyId := x },
  .opt "landing_proxy_id" (.optional .int64) landingProxyId
    fun x g => { g with landingProxyId := x },
  .opt "archived" .bool archived fun x g => { g with archived := x }] {}

/-- The profile in front of each member. -/
def front? (g : Group) : Option Int64 :=
  g.frontProxyId.filter fun id => 0 ≤ id

/-- The profile behind each member. -/
def landing? (g : Group) : Option Int64 :=
  g.landingProxyId.filter fun id => 0 ≤ id

end Group

end Detour
