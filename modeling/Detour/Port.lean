import Detour.Error
/-!
# Local ports

Ports for the local ends of bridges are handed out upwards from a base. Port 65535 is the last one;
after it, and for base 0, every request fails and the counter stays where it is.
-/

namespace Detour

/-- Whether a number can be used as a port. -/
def isValidPort (port : Int) : Bool :=
  1 ≤ port && port ≤ 65535

/-- A counter of local ports. -/
structure PortCounter where
  /-- The port that the next request is given. -/
  next : Nat
deriving DecidableEq, Repr

namespace PortCounter

/-- Request a port. -/
def request (c : PortCounter) : Except BuildError Nat × PortCounter :=
  if c.next = 0 ∨ 65535 < c.next then (.error .portsExhausted, c)
  else (.ok c.next, ⟨c.next + 1⟩)

/-- The answers to several requests. -/
def requests : Nat → PortCounter → List (Except BuildError Nat)
  | 0, _ => []
  | n + 1, c => c.request.1 :: requests n c.request.2

/-- A request fails exactly at a counter without ports, and leaves it as it is. -/
theorem request_of_exhausted {c : PortCounter} (h : c.next = 0 ∨ 65535 < c.next) :
    c.request = (.error .portsExhausted, c) := by
  simp [request, h]

/-- A request that succeeds is given a valid port, and the next one the port after it. -/
theorem request_of_available {c : PortCounter} (h : 1 ≤ c.next) (h' : c.next ≤ 65535) :
    c.request = (.ok c.next, ⟨c.next + 1⟩) := by
  have : ¬ (c.next = 0 ∨ 65535 < c.next) := by omega
  simp [request, this]

end PortCounter

end Detour
