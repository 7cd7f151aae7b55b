import Detour.Codec
/-!
# The ledger

What is kept of each profile beside its parameters: the latency that was measured last, and the
counters of its traffic with the outbound that they belong to. A profile without an entry has a fresh
account.
-/

namespace Detour

/-- The account of a profile. -/
structure Account where
  /-- In milliseconds; 0 before the first measurement, -1 if none is possible. -/
  latency : Int32 := 0
  /-- The profile and the outbound that the counters are bound to. -/
  boundId : Int64 := 0
  boundTag : String := ""
  up : UInt64 := 0
  down : UInt64 := 0
deriving DecidableEq, Repr

namespace Account

/-- The latency of a profile that cannot be measured. -/
def unavailable : Int32 := -1

end Account

/-- Accounts by the ids of profiles. -/
abbrev Ledger := List (Int64 × Account)

namespace Ledger

/-- The account of a profile. -/
def get (id : Int64) : Ledger → Account
  | [] => {}
  | (k, a) :: rest => if k = id then a else get id rest

/-- Change the account of a profile. -/
def update (id : Int64) (f : Account → Account) : Ledger → Ledger
  | [] => [(id, f {})]
  | (k, a) :: rest => if k = id then (k, f a) :: rest else (k, a) :: update id f rest

@[simp] theorem get_update_self (id : Int64) (f : Account → Account) (l : Ledger) :
    (l.update id f).get id = f (l.get id) := by
  induction l with
  | nil => simp [update, get]
  | cons e rest ih =>
    obtain ⟨k, a⟩ := e
    by_cases h : k = id <;> simp [update, get, h, ih]

theorem get_update_of_ne {id other : Int64} (h : other ≠ id) (f : Account → Account)
    (l : Ledger) : (l.update id f).get other = l.get other := by
  induction l with
  | nil => simp [update, get, Ne.symm h]
  | cons e rest ih =>
    obtain ⟨k, a⟩ := e
    by_cases hk : k = id
    · subst hk
      simp [update, get, Ne.symm h]
    · simp only [update, hk, if_false, get, ih]

/-- Record a latency. -/
def setLatency (id : Int64) (ms : Int32) (l : Ledger) : Ledger :=
  l.update id fun a => { a with latency := ms }

/-- Bind the counters of a profile to an outbound. -/
def bind (id boundId : Int64) (tag : String) (l : Ledger) : Ledger :=
  l.update id fun a => { a with boundId := boundId, boundTag := tag }

/-- Add to the counters, modulo `2 ^ 64`. -/
def addTraffic (id : Int64) (up down : UInt64) (l : Ledger) : Ledger :=
  l.update id fun a => { a with up := a.up + up, down := a.down + down }

/-- Start an account afresh. -/
def reset (id : Int64) (l : Ledger) : Ledger :=
  l.update id fun _ => {}

end Ledger

end Detour
