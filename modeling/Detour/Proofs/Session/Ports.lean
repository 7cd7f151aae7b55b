import Detour.Proofs.Session.Visits
/-!
# Ports of sessions

The ports of bridges are handed out upwards over a whole session, and never a second time. A bridged
hop takes the next ones for those that its profile does not fix, first for the redirect and then for
the helper, so the ports that the hops of a document draw are an interval, and the intervals of the
documents of a session follow each other. `numbered_of_session` puts this together with what each
single request is answered with.
-/

namespace Detour

/-! ## Ports that are drawn -/

/-- How many ports a hop draws: none where its profile fixes valid ones. -/
def Protocol.portDemand (p : Protocol) : Nat :=
  if p.isExternal then
    (if isValidPort (Hop.fixedPorts p).1.toInt then 0 else 1) +
      (if isValidPort (Hop.fixedPorts p).2.toInt then 0 else 1)
  else 0

namespace PortCounter

variable {c c' : PortCounter} {fixed : Int64} {port : Nat}

/-- A valid fixed port is taken without the counter, and any other one is the next. -/
theorem Gives.cases_eq (h : c.Gives fixed port c') :
    (isValidPort fixed.toInt = true ∧ port = fixed.toInt.toNat ∧ c' = c) ∨
      (isValidPort fixed.toInt = false ∧ port = c.next ∧ c'.next = c.next + 1) := by
  cases h with
  | taken hlow hhigh =>
    refine .inl ⟨?_, rfl, rfl⟩
    simp [isValidPort, hlow, hhigh]
  | drawn hinvalid hreq =>
    refine .inr ⟨?_, ?_⟩
    · refine Bool.eq_false_iff.2 fun hvalid => hinvalid ?_
      simpa [isValidPort] using hvalid
    · rcases request_cases c with ⟨hrefused, -⟩ | ⟨-, -, hgiven⟩
      · rw [hrefused] at hreq
        cases hreq
      · rw [hgiven] at hreq
        cases hreq
        exact ⟨rfl, rfl⟩

end PortCounter

namespace Hop

variable {σ : Type} {settings : Settings} {p : Profile} {tag : String} {nearest : Bool} {ps : List Profile}
  {ports : List (Option Bridge.Ports)} {c : PortCounter} {s s' : BuildState σ}

/-- The ports of some hops that do not stem from their profiles. -/
def drawn : List Profile → List (Option Bridge.Ports) → List Nat
  | p :: ps, some pair :: ports =>
    (if isValidPort (fixedPorts p.protocol).1.toInt then [] else [pair.mapping]) ++
      (if isValidPort (fixedPorts p.protocol).2.toInt then [] else [pair.socks]) ++ drawn ps ports
  | _ :: ps, none :: ports => drawn ps ports
  | _, _ => []

/-- What the counter allots is drawn from it in order. -/
theorem Allots.drawn_eq (h : Allots c ps ports) :
    drawn ps ports = List.range' c.next (ps.map fun p => p.protocol.portDemand).sum := by
  induction h with
  | nil => rfl
  | native hext _ ih =>
    rw [drawn, ih, List.map_cons, List.sum_cons, Protocol.portDemand, hext]
    simp
  | bridged hext hmapping hsocks _ ih =>
    rw [drawn, ih, List.map_cons, List.sum_cons, Protocol.portDemand, if_pos hext]
    -- each of the two ports is fixed or the next one of the counter
    rcases hmapping.cases_eq with ⟨hv, -, rfl⟩ | ⟨hv, hm, hnext⟩ <;>
      rcases hsocks.cases_eq with ⟨hv', -, rfl⟩ | ⟨hv', hs, hnext'⟩
    · simp [hv, hv']
    · rw [hnext', hs]
      simp [hv, hv', List.range'_succ, Nat.add_comm 1]
    · rw [hnext, hm]
      simp [hv, hv', List.range'_succ, Nat.add_comm 1]
    · rw [hnext', hs, hnext, hm]
      have htwo : ∀ n : Nat, 1 + 1 + n = n + 1 + 1 := fun n => by omega
      simp [hv, hv', htwo, List.range'_succ]

/-! ## One hop -/

/-- Picking a port takes at most the next one. -/
theorem next_of_pickPort {fixed : Int64} {port : Nat}
    (hr : Build.run (Build.pickPort fixed) s = (.ok port, s')) :
    port = (if isValidPort fixed.toInt then fixed.toInt.toNat else s.ports.next) ∧
      s'.ports.next = s.ports.next + if isValidPort fixed.toInt then 0 else 1 := by
  rcases (gives_of_run hr).cases_eq with ⟨hv, hport, hsame⟩ | ⟨hv, hport, hnext⟩
  · rw [hsame]
    simp [hv, hport]
  · simp [hv, hport, hnext]

/-- Only for want of ports can a port not be picked. -/
theorem error_of_pickPort {fixed : Int64} {e : BuildError}
    (hr : Build.run (Build.pickPort fixed) s = (.error e, s')) : e = .portsExhausted := by
  unfold Build.pickPort at hr
  split at hr
  · cases hr
  · rw [Build.run_requestPort] at hr
    rcases s.ports.request_cases with ⟨hreq, -⟩ | ⟨-, -, hreq⟩
    · rw [hreq] at hr
      cases hr
      rfl
    · rw [hreq] at hr
      cases hr

/-- What a bridged hop is given of the counter: first the port of the redirect, then the one of the
helper, the next one for each that its profile does not fix. -/
structure Numbered (settings : Settings) (p : Profile) (tag : String) (nearest : Bool)
    (c : PortCounter) (h : Hop) (pair : Bridge.Ports) : Prop where
  bridged : BridgedWith settings p tag nearest pair h
  mapping : pair.mapping =
    if isValidPort (fixedPorts p.protocol).1.toInt then (fixedPorts p.protocol).1.toInt.toNat
    else c.next
  socks : pair.socks =
    if isValidPort (fixedPorts p.protocol).2.toInt then (fixedPorts p.protocol).2.toInt.toNat
    else c.next + if isValidPort (fixedPorts p.protocol).1.toInt then 0 else 1

theorem compile_of_bridged
    (hb : (p.protocol.bridging nearest settings.vpn.enabled).isBridged = true) :
    (compile settings p tag nearest : Build σ Hop) = overridden <$>
      compileBridged settings p tag (p.protocol.bridging nearest settings.vpn.enabled) := by
  unfold compile
  cases hmode : p.protocol.bridging nearest settings.vpn.enabled with
  | unsupported | native =>
    rw [hmode] at hb
    cases hb
  | mapping | full => rfl

/-- **A bridged hop takes the ports that its profile does not fix, in order.** It takes them also where
it fails in the end, unless there are none. -/
theorem numbered_of_compile (settings : Settings) (p : Profile) (tag : String) (nearest : Bool)
    (s : BuildState σ) (hb : (p.protocol.bridging nearest settings.vpn.enabled).isBridged = true) :
    (Build.run (compile settings p tag nearest) s).1 = .error .portsExhausted ∨
      ((Build.run (compile settings p tag nearest) s).2.ports.next =
          s.ports.next + p.protocol.portDemand ∧
        ∀ h, (Build.run (compile settings p tag nearest) s).1 = .ok h →
          ∃ pair, Numbered settings p tag nearest s.ports h pair) := by
  rw [compile_of_bridged hb, Build.run_map, compileBridged, Build.run_bind]
  rcases hm : Build.run (Build.pickPort (fixedPorts p.protocol).1) s with ⟨e | mapping, s₁⟩
  · rw [error_of_pickPort hm]
    exact .inl rfl
  · dsimp only
    rw [Build.run_bind]
    rcases hs : Build.run (Build.pickPort (fixedPorts p.protocol).2) s₁ with ⟨e | socks, s₂⟩
    · rw [error_of_pickPort hs]
      exact .inl rfl
    · right
      dsimp only
      obtain ⟨hmapping, hnext⟩ := next_of_pickPort hm
      obtain ⟨hsocks, hnext'⟩ := next_of_pickPort hs
      rw [hnext] at hsocks hnext'
      have hdemand : s₂.ports.next = s.ports.next + p.protocol.portDemand := by
        rw [hnext', Protocol.portDemand, if_pos (Protocol.isExternal_of_bridged hb), Nat.add_assoc]
      -- the ports are gone whether or not the helper can be described
      cases hd : Bridge.descriptor settings ⟨mapping, socks⟩
          (p.protocol.bridging nearest settings.vpn.enabled) p.protocol with
      | error e =>
        refine ⟨hdemand, fun h hok => ?_⟩
        cases hok
      | ok helper =>
        refine ⟨hdemand, fun h hok => ?_⟩
        cases hok
        exact ⟨⟨mapping, socks⟩, ⟨helper, hd, rfl⟩, hmapping, hsocks⟩

/-! ## All hops of a chain -/

/-- Compiling hops takes the ports that they draw. -/
theorem next_of_compile (hr : Build.run (compile settings p tag nearest) s = (.ok h, s')) :
    s'.ports.next = s.ports.next + p.protocol.portDemand := by
  rcases allotted_of_run hr with ⟨hext, hsame⟩ | ⟨hext, pair, c, hm, hs, -⟩
  · rw [hsame, Protocol.portDemand, hext]
    rfl
  · rw [Protocol.portDemand, if_pos hext]
    rcases hm.cases_eq with ⟨hv, -, rfl⟩ | ⟨hv, -, hnext⟩ <;>
      rcases hs.cases_eq with ⟨hv', -, hsame⟩ | ⟨hv', -, hnext'⟩
    · simp [hv, hv', hsame]
    · simp [hv, hv', hnext']
    · simp [hv, hv', hsame, hnext]
    · simp [hv, hv', hnext, hnext']

theorem next_of_compileFrom {seq length index : Nat} {hops : List Hop}
    (hr : Build.run (compileFrom settings seq length index ps) s = (.ok hops, s')) :
    s'.ports.next = s.ports.next + (ps.map fun p => p.protocol.portDemand).sum := by
  induction ps generalizing index hops s with
  | nil =>
    cases hr
    rfl
  | cons p rest ih =>
    simp only [compileFrom, Build.run_bind_eq_ok] at hr
    obtain ⟨h, s₁, hhead, hs, s₂, hrest, hpure⟩ := hr
    cases hpure
    rw [ih hrest, next_of_compile hhead, List.map_cons, List.sum_cons, Nat.add_assoc]

end Hop

/-! ## Documents -/

section Builds

variable {σ : Type} [RuleSetService σ] {s s' s₁ : BuildState σ}

/-- No step of a build gives a port back. -/
theorem Build.Composed.next_le {α : Type} {b : Build σ α} (hb : Build.Composed b)
    (s : BuildState σ) : s.ports.next ≤ (Build.run b s).2.ports.next := by
  obtain ⟨log, hlog⟩ := hb.traced s
  exact hlog.answers.granted_eq.1

namespace Visit

variable {v : Visit σ} {vs : List (Visit σ)}

/-- The ports that the hops of a visited profile draw: those of the hops that its document is put
together from. Without a document, and for a document of the user's own, there are none. -/
inductive Draws (v : Visit σ) : List Nat → Prop
  | nothing : v.output? = none → Draws v []
  | whole {o : Output} : v.output? = some o → v.root.isFullDocument = true → Draws v []
  | hops {o : Output} {ps : List Profile} {hops : List Hop} {r : Routing}
      {ports : List (Option Bridge.Ports)} :
      v.output? = some o → v.root.isFullDocument = false →
      Built v.setup v.request v.root ps hops r o → Hop.Allots v.state.ports ps ports →
      (∀ i p, ps[i]? = some p → p.protocol.isExternal = true →
        ∃ pair h, ports[i]? = some (some pair) ∧ hops[i]? = some h ∧
          Hop.BridgedWith v.setup.settings p (Tag.hop v.request.seq p.id i ps.length)
            (i + 1 == ps.length) pair h) →
      Draws v (Hop.drawn ps ports)

/-- The ports of a document are the next ones of the counter, as many as its hops ask for. -/
theorem Draws.eq_range' {ports : List Nat} {o : Output} {ps : List Profile} (h : v.Draws ports)
    (ho : v.output? = some o) (hroot : v.root.isFullDocument = false)
    (hps : v.setup.store.hops v.root (!v.request.test) = .ok ps) :
    ports = List.range' v.state.ports.next (ps.map fun p => p.protocol.portDemand).sum := by
  cases h with
  | nothing hnone =>
    rw [hnone] at ho
    cases ho
  | whole _ hwhole =>
    rw [hwhole] at hroot
    cases hroot
  | hops _ _ hb hallots _ =>
    rw [← hb.resolved_eq hps]
    exact hallots.drawn_eq

/-- No visit gives a port back. -/
theorem next_le (v : Visit σ) : v.state.ports.next ≤ v.after.ports.next := by
  rw [after]
  split
  · exact Nat.le_refl _
  · exact (Build.composed_profile v.setup v.request v.root).next_le v.state

/-- What a visit draws is among the ports that the counter has passed in it. -/
theorem exists_draws (v : Visit σ) : ∃ ports, v.Draws ports ∧
    ports.Sublist (v.state.ports.between v.after.ports) := by
  cases ho : v.output? with
  | none => exact ⟨[], .nothing ho, List.nil_sublist _⟩
  | some o =>
    cases hroot : v.root.isFullDocument with
    | true => exact ⟨[], .whole ho hroot, List.nil_sublist _⟩
    | false =>
      obtain ⟨ps, hops, r, s₁, s₂, hps, hhops, hs₂, hrouting, ho'⟩ :=
        steps_of_run hroot (run_of_output? ho)
      obtain ⟨ports, hallots, hbridged⟩ := Hop.allots_of_run hhops
      have hb : Built v.setup v.request v.root ps hops r o :=
        ⟨hps, Hop.compiledChain_of_run hhops, Routing.compiled_of_run hrouting, ho'⟩
      refine ⟨_, .hops ho hroot hb hallots hbridged, ?_⟩
      -- the hops come first, and the routing behind them gives nothing back
      have hnext := Hop.next_of_compileFrom hhops
      have hrest : s₁.ports.next ≤ v.after.ports.next := by
        have hports : s₂.ports = s₁.ports := by
          rw [hs₂]
          split <;> rfl
        have hle := (Build.composed_routing v.setup v.request.seq
          (Document.traffic v.root hops [])).next_le s₂
        rw [hrouting, hports] at hle
        exact hle
      rw [hallots.drawn_eq]
      exact List.range'_sublist_right.2 (by omega)

/-- So do several visits, in order. -/
theorem Path.exists_draws (h : Path s vs s') :
    s.ports.next ≤ s'.ports.next ∧ ∃ drawn, List.Forall₂ Draws vs drawn ∧
      drawn.flatten.Sublist (s.ports.between s'.ports) := by
  induction h with
  | nil => exact ⟨Nat.le_refl _, [], .nil, List.nil_sublist _⟩
  | @cons v rest s' _ ih =>
    obtain ⟨hle, drawn, hdrawn, hsub⟩ := ih
    obtain ⟨ports, hports, hfirst⟩ := v.exists_draws
    refine ⟨Nat.le_trans v.next_le hle, ports :: drawn, .cons hports hdrawn, ?_⟩
    rw [List.flatten_cons, ← PortCounter.between_append v.next_le hle]
    exact hfirst.append hsub

end Visit

end Builds

/-! ## Sessions -/

namespace World

variable {w : World} {step : Step} {steps : List Step} {log : List (Except BuildError Nat)}

/-- What the visits of a step draw is among the ports that the counter has passed in it. -/
theorem exists_draws_step (w : World) (step : Step) :
    w.state.ports.next ≤ (w.step step).2.state.ports.next ∧
      ∃ drawn, List.Forall₂ Visit.Draws (w.visits step) drawn ∧
        drawn.flatten.Sublist (w.state.ports.between (w.step step).2.state.ports) := by
  cases hbuilds : step.builds with
  | true =>
    obtain ⟨s₁, hpath, hports, -⟩ := w.path_step hbuilds
    rw [← hports]
    exact hpath.exists_draws
  | false =>
    obtain ⟨log, hlog⟩ := w.exists_asks step
    refine ⟨hlog.answers.granted_eq.1, [], ?_, List.nil_sublist _⟩
    rw [w.visits_of_quiet hbuilds]
    exact .nil

theorem exists_draws_steps (w : World) (steps : List Step) :
    w.state.ports.next ≤ (w.steps steps).2.state.ports.next ∧
      ∃ drawn, List.Forall₂ Visit.Draws (w.visitsAlong steps) drawn ∧
        drawn.flatten.Sublist (w.state.ports.between (w.steps steps).2.state.ports) := by
  induction steps generalizing w with
  | nil => exact ⟨Nat.le_refl _, [], .nil, List.nil_sublist _⟩
  | cons step rest ih =>
    obtain ⟨hle, drawn, hdrawn, hsub⟩ := w.exists_draws_step step
    obtain ⟨hle', drawn', hdrawn', hsub'⟩ := ih (w.step step).2
    refine ⟨Nat.le_trans hle hle', drawn ++ drawn', List.rel_append hdrawn hdrawn', ?_⟩
    rw [List.flatten_append, steps_cons, ← PortCounter.between_append hle hle']
    exact hsub.append hsub'

/-- What can be said of the requests of a session and of the ports of its documents. -/
structure Served (w : World) (steps : List Step) (base : Nat)
    (log : List (Except BuildError Nat)) : Prop where
  /-- Requests are answered by counting up from the base, as long as there are ports. -/
  answers : ∀ (k : Nat) (a : Except BuildError Nat), log[k]? = some a →
    a = if 1 ≤ base ∧ base + k ≤ 65535 then .ok (base + k) else .error .portsExhausted
  /-- After a request that fails all others do. -/
  refused : ∀ (j k : Nat) (e : BuildError) (a : Except BuildError Nat),
    log[j]? = some (.error e) → j ≤ k → log[k]? = some a → a = .error e
  valid : ∀ port ∈ PortCounter.granted log, 1 ≤ port ∧ port ≤ 65535
  distinct : (PortCounter.granted log).Nodup
  /-- The ports that the documents draw are such ports, each of them drawn once. -/
  drawn : ∃ drawn, List.Forall₂ Visit.Draws (w.visitsAlong steps) drawn ∧
    drawn.flatten.Sublist (PortCounter.granted log) ∧ drawn.flatten.Nodup

theorem AsksAlong.served (h : AsksAlong w steps log) : w.Served steps w.state.ports.next log := by
  obtain ⟨-, drawn, hdrawn, hsub⟩ := w.exists_draws_steps steps
  rw [← h.answers.granted_eq.2] at hsub
  exact {
    answers := fun k a hk => h.answers.getElem?_eq hk
    refused := fun j k e a hj hjk hk => h.answers.refused_after hj hjk hk
    valid := fun port hport => h.answers.valid_of_granted hport
    distinct := h.answers.nodup_granted
    drawn := ⟨drawn, hdrawn, hsub, h.answers.nodup_granted.sublist hsub⟩ }

/-- **Ports never wrap or repeat over a whole session.** Whatever its steps are and however they end,
the requests that they make are answered by counting up from the base to the last port, and refused
from there on. The ports that hops draw for documents are among those that were granted, and no port
is drawn twice: not in one document, and not in two. A bridged hop takes one port for each that its
profile does not fix, that of the redirect before that of the helper. -/
theorem numbered_of_session (db : Database) (settings : Settings) (base : UInt16)
    (ruleSets : MemoryRuleSets) (steps : List Step) :
    (∃ log, AsksAlong (start db settings base ruleSets) steps log) ∧
    (∀ log, AsksAlong (start db settings base ruleSets) steps log →
      (start db settings base ruleSets).Served steps base.toNat log) ∧
    BuildError.portsExhausted.kind = .resource ∧
    BuildError.portsExhausted.message = "local port range exhausted" ∧
    (∀ (w : World) (id : Int64) (request : Request) (o : Output),
      (w.step (.build id request)).1 = .ok (.built o) →
        (w.visits (.build id request)).filterMap Visit.output? = [o]) ∧
    (∀ (w : World) (ids : Option (List Int64)) (out : Batch.Output),
      (w.step (.batch ids)).1 = .ok (.batched out) →
        out.MadeOf ((w.visits (.batch ids)).filterMap Visit.output?)) ∧
    ∀ (settings : Settings) (p : Profile) (tag : String) (nearest : Bool)
      (s : BuildState MemoryRuleSets),
      (p.protocol.bridging nearest settings.vpn.enabled).isBridged = true →
      (Build.run (Hop.compile settings p tag nearest) s).1 = .error .portsExhausted ∨
        ((Build.run (Hop.compile settings p tag nearest) s).2.ports.next =
            s.ports.next + p.protocol.portDemand ∧
          ∀ h, (Build.run (Hop.compile settings p tag nearest) s).1 = .ok h →
            ∃ pair, Hop.Numbered settings p tag nearest s.ports h pair) :=
  ⟨exists_asksAlong _ steps, fun _ h => h.served, rfl, rfl,
    fun _ _ _ _ h => document_of_build h, fun _ _ _ h => document_of_batch h,
    Hop.numbered_of_compile⟩

/-- A directory of the two servers of the setting. -/
def served : Database :=
  { profiles := [Setting.bridged, Setting.native], groups := [{}], chains := [Setting.rules] }

/-- The document of the bridged server draws the last two ports, and the request after it is refused. -/
theorem numbered_of_session_last_port :
    ∃ (w : World) (o : Output) (log : List (Except BuildError Nat)),
      w = start served Setting.setup.settings 65534 {} ∧
      (w.step (.build 1 {})).1 = .ok (.built o) ∧
      AsksAlong w [.build 1 {}, .allocPort] (log ++ [.error .portsExhausted]) ∧
      PortCounter.granted log = [65534, 65535] ∧
      List.Forall₂ Visit.Draws (w.visitsAlong [.build 1 {}, .allocPort]) [[65534, 65535]] := by
  obtain ⟨-, hserved, -⟩ := numbered_of_session served Setting.setup.settings 65534 {}
    [.build 1 {}, .allocPort]
  generalize hw : start served Setting.setup.settings 65534 {} = w at hserved
  have hprofile : w.profile 1 = .ok Setting.bridged := by subst hw; rfl
  obtain ⟨o, s', hr⟩ := Build.exists_run_eq_ok
    (b := Build.profile w.setup {} Setting.bridged) (s := w.state) (by subst hw; decide +kernel)
  have hstep : (w.step (.build 1 {})).1 = .ok (.built o) := by
    rw [fst_step_build hprofile, hr]
    rfl
  obtain ⟨log, hlog⟩ := (Build.composed_profile w.setup {} Setting.bridged).traced w.state
  have hasks : w.Asks log (.build 1 {}) := by
    rw [Asks, hprofile]
    exact hlog
  have hlast : (w.step (.build 1 {})).2.Asks [.error .portsExhausted] .allocPort := by
    have hrefused : (Build.run Build.requestPort (w.step (.build 1 {})).2.state).1 =
        .error .portsExhausted := by
      subst hw
      decide +kernel
    rw [← hrefused]
    exact .requestPort _
  have hall : AsksAlong w [.build 1 {}, .allocPort] (log ++ [.error .portsExhausted]) :=
    .cons hasks (.cons hlast .nil)
  have hgranted : PortCounter.granted log = [65534, 65535] := by
    rw [hlog.answers.granted_eq.2]
    subst hw
    decide +kernel
  -- the session has one visit, and what that draws is counted by its hops
  have halong : w.visitsAlong [.build 1 {}, .allocPort] =
      [⟨w.setup, {}, Setting.bridged, false, w.state⟩] := by
    rw [visitsAlong, visits_build hprofile]
    rfl
  obtain ⟨drawn, hdrawn, -, -⟩ := (hserved _ hall).drawn
  have hports : drawn = [[65534, 65535]] := by
    rw [halong] at hdrawn
    cases hdrawn with
    | cons hfirst hrest =>
      cases hrest
      have houtput := output?_of_build hprofile hstep
      subst hw
      have hhops : Setting.setup.store.hops Setting.bridged true = .ok [Setting.bridged] := rfl
      rw [hfirst.eq_range' houtput rfl hhops]
      rfl
  exact ⟨w, o, log, rfl, hstep, hall, hgranted, hports ▸ hdrawn⟩

end World

end Detour
