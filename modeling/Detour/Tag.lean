import Detour.Text.Search
import Detour.Tree.Basic
/-!
# Tags

Outbounds and inbounds of a document are referred to by their tags. The hops of a chain are named
after the sequence number of the build, the profile and the position in the chain: the hop nearest
to the client is `g-<id>-<index>`, any other one `c-<sequence>-<id>-<index>`, and the hop nearest to
the destination in sequence 0 is `proxy`. A redirect inbound is named after the hop that it feeds,
and a profile that a routing rule selects after its rank among such profiles.
-/

namespace Detour

/-- The target of rules whose traffic goes through the chain. -/
def sentinelProxy : Int64 := -1

/-- The target of rules whose traffic goes out directly. -/
def sentinelDirect : Int64 := -2

/-- The target of rules whose traffic is blocked. -/
def sentinelBlock : Int64 := -3

/-- The target of rules whose traffic is answered by the resolver. -/
def sentinelDnsOut : Int64 := -4

namespace Tag

/-- The destination of the primary chain. -/
def proxy : String := "proxy"

/-- The outbound that leads out directly. -/
def direct : String := "direct"

/-- The outbound that drops traffic. -/
def block : String := "block"

/-- The outbound that answers name lookups. -/
def dnsOut : String := "dns-out"

/-- The tags that every document has and no chain uses. -/
def reserved : List String := [direct, block, dnsOut]

/-- Whether a tag is one of those that every document has. -/
def isReserved (tag : String) : Bool :=
  reserved.contains tag

/-- The tag of the hop at a position of a chain. -/
def hop (seq : Nat) (id : Int64) (index length : Nat) : String :=
  if seq = 0 ∧ index = 0 then proxy
  else if index + 1 = length then s!"g-{id}-{index}"
  else s!"c-{seq}-{id}-{index}"

/-- What the tag of a redirect inbound ends in. -/
def mappingEnding : String := "-mapping"

/-- The tag of the redirect inbound that feeds a bridged hop. -/
def mapping (hop : String) : String :=
  hop ++ mappingEnding

/-- The hop that an inbound's tag names, when it is that of a redirect. -/
def mappedHop? (inbound : String) : Option String :=
  (Text.beforeSuffix? mappingEnding.toList inbound.toList).map String.ofList

/-- The tag of the profile of a rank among those that routing rules select. -/
def routeTarget (seq rank : Nat) : String :=
  if seq = 0 then s!"rout-{rank}" else s!"rout-{seq}-{rank}"

/-- The ids below zero that stand for fixed outbounds. -/
def sentinels : List (Int64 × String) :=
  [(sentinelProxy, proxy), (sentinelDirect, direct), (sentinelBlock, block),
    (sentinelDnsOut, dnsOut)]

/-- The tag of a redirect inbound leads back to its hop. -/
@[simp] theorem mappedHop?_mapping (hop : String) : mappedHop? (mapping hop) = some hop := by
  simp [mappedHop?, mapping, Text.beforeSuffix?_eq_some_iff.2 rfl, String.toList_append]

end Tag

/-- The three outbounds that every document has. -/
def reservedOutbounds : List Tree :=
  [.ofFields [("type", .str "direct"), ("tag", .str Tag.direct)],
    .ofFields [("type", .str "block"), ("tag", .str Tag.block)],
    .ofFields [("type", .str "dns"), ("tag", .str Tag.dnsOut)]]

end Detour
