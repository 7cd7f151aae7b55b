import Detour.Proofs.Hop.Compiled
/-!
# Ports of bridges

A bridged hop has two local ports. The profile may fix them; a port that is not fixed, or not a
valid one, is requested from the counter. `Allots` follows the counter along the hops of a chain, and
`allots_of_run` says that a run which compiles the hops gives each of them the ports that it allots.
-/

namespace Detour

/-- What a port is when it is asked for: a fixed one that is valid is taken as it is, and otherwise
the counter gives one. -/
inductive PortCounter.Gives (c : PortCounter) (fixed : Int64) : Nat → PortCounter → Prop
  | taken : 1 ≤ fixed.toInt → fixed.toInt ≤ 65535 → Gives c fixed fixed.toInt.toNat c
  | drawn {port : Nat} {c' : PortCounter} : ¬ (1 ≤ fixed.toInt ∧ fixed.toInt ≤ 65535) →
      c.request = (.ok port, c') → Gives c fixed port c'

/-- Only an external core can speak the protocol. -/
def Protocol.isExternal : Protocol → Bool
  | custom c => !c.isInternal
  | _ => false

namespace Protocol

variable {p : Protocol}

/-- A hop of an external core is bridged, if anything: by itself where it is nearest to the client
and there is no VPN, and through a redirect otherwise. -/
theorem bridging_of_external (nearest vpn : Bool) (h : p.isExternal = true) :
    p.bridging nearest vpn = .unsupported ∨
      p.bridging nearest vpn = if nearest = true ∧ vpn = false then .full else .mapping := by
  cases p with
  | custom c =>
    have hc : c.isInternal = false := by simpa [isExternal] using h
    cases nearest <;> cases vpn <;> simp [bridging, hc]
  | _ => cases h

theorem isExternal_of_native {nearest vpn : Bool} (h : p.bridging nearest vpn = .native) :
    p.isExternal = false := by
  refine Bool.eq_false_iff.2 fun hext => ?_
  have hbridged := bridging_of_external nearest vpn hext
  rw [h] at hbridged
  rcases hbridged with hb | hb
  · cases hb
  · split at hb <;> cases hb

/-- Only hops of external cores are bridged. -/
theorem isExternal_of_bridged {nearest vpn : Bool} (h : (p.bridging nearest vpn).isBridged = true) :
    p.isExternal = true := by
  cases p with
  | custom c =>
    cases hc : c.isInternal with
    | false => simp [isExternal, hc]
    | true =>
      rw [bridging, if_pos hc] at h
      cases h
  | _ => cases h

end Protocol

namespace Hop

variable {σ : Type} {settings : Settings} {p : Profile} {tag : String} {nearest : Bool} {h : Hop}
  {s s' : BuildState σ}

/-- The ports that the hops of some profiles are given: none to a hop that the core realises by
itself, and first the one of the redirect, then the one of the helper to a bridged hop. -/
inductive Allots : PortCounter → List Profile → List (Option Bridge.Ports) → Prop
  | nil {c : PortCounter} : Allots c [] []
  | native {c : PortCounter} {p : Profile} {rest : List Profile}
      {ports : List (Option Bridge.Ports)} :
      p.protocol.isExternal = false → Allots c rest ports → Allots c (p :: rest) (none :: ports)
  | bridged {c c₁ c₂ : PortCounter} {p : Profile} {rest : List Profile} {pair : Bridge.Ports}
      {ports : List (Option Bridge.Ports)} :
      p.protocol.isExternal = true → c.Gives (fixedPorts p.protocol).1 pair.mapping c₁ →
      c₁.Gives (fixedPorts p.protocol).2 pair.socks c₂ → Allots c₂ rest ports →
      Allots c (p :: rest) (some pair :: ports)

/-- Exactly the hops of external cores have helpers. -/
theorem Compiled.isSome_helper (hc : Compiled settings p tag nearest h) :
    h.helper.isSome = h.profile.protocol.isExternal := by
  cases hc with
  | native hmode _ => exact (Protocol.isExternal_of_native hmode).symm
  | bridged hmode hb _ => exact (Protocol.isExternal_of_bridged (hmode ▸ hb)).symm

/-- Nearest to the client and without the VPN, the helper of an external core dials its server by
itself; at any other place it dials a redirect. -/
theorem Compiled.bridging_of_external (hc : Compiled settings p tag nearest h)
    (hext : p.protocol.isExternal = true) :
    h.bridging = if nearest = true ∧ settings.vpn.enabled = false then .full else .mapping := by
  have hplace := hc.place.2.2
  rcases Protocol.bridging_of_external nearest settings.vpn.enabled hext with hb | hb
  · cases hc with
    | native hmode _ =>
      rw [hmode] at hb
      cases hb
    | bridged hmode hbridged _ =>
      rw [← hmode, hb] at hbridged
      cases hbridged
  · exact hplace.trans hb

/-! ## One hop -/

theorem gives_of_run {fixed : Int64} {port : Nat}
    (hr : Build.run (Build.pickPort fixed) s = (.ok port, s')) :
    s.ports.Gives fixed port s'.ports := by
  unfold Build.pickPort at hr
  split at hr
  · rename_i hvalid
    obtain ⟨hlow, hhigh⟩ : 1 ≤ fixed.toInt ∧ fixed.toInt ≤ 65535 := by
      simpa [isValidPort] using hvalid
    cases hr
    exact .taken hlow hhigh
  · rename_i hvalid
    rw [Build.run_requestPort, Prod.mk.injEq] at hr
    obtain ⟨hport, rfl⟩ := hr
    exact .drawn (by simpa [isValidPort] using hvalid) (Prod.ext hport rfl)

/-- What a run compiles for a profile, with the ports that it takes. -/
theorem allotted_of_run (hr : Build.run (compile settings p tag nearest) s = (.ok h, s')) :
    (p.protocol.isExternal = false ∧ s'.ports = s.ports) ∨
      (p.protocol.isExternal = true ∧ ∃ pair c,
        s.ports.Gives (fixedPorts p.protocol).1 pair.mapping c ∧
        c.Gives (fixedPorts p.protocol).2 pair.socks s'.ports ∧
        BridgedWith settings p tag nearest pair h) := by
  unfold compile at hr
  split at hr
  · cases hr
  · rename_i hmode
    obtain ⟨h₀, hdirect, -⟩ := Build.run_map_eq_ok.1 hr
    simp only [compileDirect, Build.run_bind_eq_ok, Build.run_ofExcept_eq_ok] at hdirect
    obtain ⟨own, s₁, ⟨-, rfl⟩, ⟨⟩, s₂, hbind, hpure⟩ := hdirect
    cases hbind
    cases hpure
    exact .inl ⟨Protocol.isExternal_of_native hmode, rfl⟩
  · rename_i hu hn
    obtain ⟨h₀, hbridged, rfl⟩ := Build.run_map_eq_ok.1 hr
    simp only [compileBridged, Build.run_bind_eq_ok, Build.run_ofExcept_eq_ok] at hbridged
    obtain ⟨mapping, s₁, hmapping, socks, s₂, hsocks, helper, s₃, ⟨hhelper, rfl⟩, ⟨⟩, s₄, hbind,
      hpure⟩ := hbridged
    have hm := gives_of_run hmapping
    have hs := gives_of_run hsocks
    cases hbind
    cases hpure
    exact .inr ⟨Protocol.isExternal_of_bridged (Bridging.isBridged_of_ne hu hn), ⟨mapping, socks⟩,
      s₁.ports, hm, hs, helper, hhelper, rfl⟩

/-! ## All hops of a chain -/

/-- The part of a run from a position on. -/
theorem allots_of_runFrom {seq length index : Nat} {ps : List Profile} {hops : List Hop}
    (hr : Build.run (compileFrom settings seq length index ps) s = (.ok hops, s')) :
    ∃ ports, Allots s.ports ps ports ∧
      ∀ i p, ps[i]? = some p → p.protocol.isExternal = true →
        ∃ pair h, ports[i]? = some (some pair) ∧ hops[i]? = some h ∧
          BridgedWith settings p (Tag.hop seq p.id (index + i) length) (index + i + 1 == length)
            pair h := by
  induction ps generalizing index hops s with
  | nil => exact ⟨[], .nil, by simp⟩
  | cons q rest ih =>
    simp only [compileFrom, Build.run_bind_eq_ok] at hr
    obtain ⟨h₀, s₁, hhead, hs, s₂, hrest, hpure⟩ := hr
    cases hpure
    obtain ⟨ports, hports, htail⟩ := ih hrest
    -- the first profile stands at the index itself, the others behind it
    have hbehind : ∀ (first : Option Bridge.Ports) (i : Nat) (p : Profile),
        rest[i]? = some p → p.protocol.isExternal = true →
          ∃ pair h, (first :: ports)[i + 1]? = some (some pair) ∧ (h₀ :: hs)[i + 1]? = some h ∧
            BridgedWith settings p (Tag.hop seq p.id (index + (i + 1)) length)
              (index + (i + 1) + 1 == length) pair h := by
      intro first i p hp hext
      have := htail i p hp hext
      rw [Nat.add_right_comm index 1 i] at this
      exact this
    rcases allotted_of_run hhead with ⟨hnative, hsame⟩ | ⟨hext, pair, c, hm, hs, hbridged⟩
    · refine ⟨none :: ports, .native hnative (hsame ▸ hports), fun i p hp hext => ?_⟩
      cases i with
      | zero =>
        cases hp
        rw [hnative] at hext
        cases hext
      | succ i => exact hbehind none i p (by simpa using hp) hext
    · refine ⟨some pair :: ports, .bridged hext hm hs hports, fun i p hp hext => ?_⟩
      cases i with
      | zero =>
        cases hp
        exact ⟨pair, h₀, rfl, rfl, hbridged⟩
      | succ i => exact hbehind (some pair) i p (by simpa using hp) hext

/-- **A run gives each bridged hop the ports that the counter allots to it.** -/
theorem allots_of_run {seq : Nat} {ps : List Profile} {hops : List Hop}
    (hr : Build.run (compileAll settings seq ps) s = (.ok hops, s')) :
    ∃ ports, Allots s.ports ps ports ∧
      ∀ i p, ps[i]? = some p → p.protocol.isExternal = true →
        ∃ pair h, ports[i]? = some (some pair) ∧ hops[i]? = some h ∧
          BridgedWith settings p (Tag.hop seq p.id i ps.length) (i + 1 == ps.length) pair h := by
  obtain ⟨ports, hports, hget⟩ := allots_of_runFrom hr
  refine ⟨ports, hports, fun i p hp hext => ?_⟩
  have := hget i p hp hext
  rwa [Nat.zero_add] at this

end Hop

end Detour
