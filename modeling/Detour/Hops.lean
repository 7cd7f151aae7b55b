import Detour.Error
import Detour.Store
/-!
# The hops of a profile

A profile is realised by a list of hops, the one nearest to the destination first. A chain stands
for its members, of which the one nearest to the client is listed first in the chain and comes last
among the hops; chains do not nest. Outside of tests, the landing proxy of the profile's group comes
before these hops and its front proxy behind them.
-/

namespace Detour

namespace Store

/-- A member of a chain, which must not be a chain. -/
def member (s : Store) (id : Int64) : Except BuildError Profile :=
  match s.profile? id with
  | none => .error (.memberMissing id)
  | some p => if p.isChain then .error (.nestedChain id) else .ok p

/-- The members with some ids, in their order. -/
def members (s : Store) : List Int64 → Except BuildError (List Profile)
  | [] => .ok []
  | id :: rest =>
    match s.member id with
    | .error e => .error e
    | .ok p => (s.members rest).map (p :: ·)

/-- What a single profile stands for. -/
def expand (s : Store) (p : Profile) : Except BuildError (List Profile) :=
  match p.protocol with
  | .chain ids => s.members ids.reverse
  | _ => .ok [p]

/-- What a wrapper of a group stands for: nothing if the group has none. -/
def wrapper (s : Store) (missing : BuildError) : Option Int64 → Except BuildError (List Profile)
  | none => .ok []
  | some id =>
    match s.profile? id with
    | none => .error missing
    | some p => s.expand p

/-- The hops of a profile. With `wrappers`, those of its group are added, and an archived group is
refused. -/
def hops (s : Store) (root : Profile) (wrappers : Bool) : Except BuildError (List Profile) := do
  let some group := s.group? root.gid | throw .noGroup
  let own ← s.expand root
  if wrappers then
    if group.archived then throw .archivedGroup
    let front ← s.wrapper .frontMissing group.front?
    let landing ← s.wrapper .landingMissing group.landing?
    return landing ++ own ++ front
  else
    return own

end Store

end Detour
