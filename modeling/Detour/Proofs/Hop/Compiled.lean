import Detour.Build.Hop
import Detour.Proofs.Run
import Detour.Proofs.Tree.Fields
/-!
# Compiled hops

`Compiled` says what a hop may be that was compiled for a profile at a place of a chain, and
`CompiledChain` the same of all hops of a chain, position by position. Both are read off the run
(`compiled_of_run`, `compiledChain_of_run`); later modules use them and never the run.
-/

namespace Detour

/-- A configuration that is an outbound is no whole document. -/
theorem Custom.not_isInternalFull {c : Custom} (h : c.core = internalCore) :
    c.isInternalFull = false := by
  rw [isInternalFull, h]
  decide

namespace Protocol

/-- The outbound that an `internal` configuration is; no fields for any other protocol. -/
def ownOutbound : Protocol → Fields
  | custom c => if c.core = Custom.internalCore then c.configObject?.getD [] else []
  | _ => []

/-- The keys that a protocol's own outbound may have. -/
def entryKeys : List String := [
  "type", "server", "server_port", "version", "username", "password", "tls", "method", "plugin",
  "plugin_opts", "udp_over_tcp", "uuid", "alter_id", "security", "flow", "transport",
  "packet_encoding", "up_mbps", "down_mbps", "obfs", "congestion_control", "udp_relay_mode",
  "zero_rtt_handshake", "heartbeat", "local_address", "private_key", "peer_public_key",
  "pre_shared_key", "reserved", "mtu", "system_interface", "user", "host_key"]

/-- Any other key can only come from a configuration of the user's own. -/
theorem lacks_of_outboundEntries {settings : Settings} {p : Protocol} {entries : Fields}
    {key : String} (hkey : key ∉ entryKeys) (h : p.outboundEntries settings = .ok entries) :
    Fields.Lacks key entries := by
  have hne : ∀ k ∈ entryKeys, k ≠ key := fun k hk he => hkey (he ▸ hk)
  simp only [entryKeys, List.forall_mem_cons] at hne
  cases p with
  | shadowsocks p =>
    simp only [outboundEntries] at h
    split at h <;> cases h
    simp only [pluginEntries]
    split <;> simp [head, hne]
  | vless p =>
    simp only [outboundEntries] at h
    split at h <;> cases h
    simp [head, Stream.entries, hne]
  | tuic p =>
    simp only [outboundEntries] at h
    split at h
    · cases h
    · split at h <;> cases h
      simp [head, hne]
  | _ =>
    cases h
    simp [head, Stream.entries, hne]

/-- All but custom protocols are compiled from entries. -/
theorem nativeOutbound_eq_map {settings : Settings} {p : Protocol} (h : ∀ c, p ≠ .custom c) :
    p.nativeOutbound settings = (p.outboundEntries settings).map Fields.ofList := by
  unfold nativeOutbound
  split
  · exact absurd rfl (h _)
  · rfl

/-- A native outbound is a configuration of the user's own, or made of the entries of its
protocol. -/
theorem nativeOutbound_cases {settings : Settings} {p : Protocol} {fields : Fields}
    (h : p.nativeOutbound settings = .ok fields) :
    (∃ c, p = .custom c ∧ fields = p.ownOutbound) ∨
      (∀ c, p ≠ .custom c) ∧ ∃ entries, p.outboundEntries settings = .ok entries ∧
        fields = .ofList entries := by
  by_cases hcustom : ∃ c, p = .custom c
  · obtain ⟨c, rfl⟩ := hcustom
    cases h
    exact .inl ⟨c, rfl, rfl⟩
  · have hne : ∀ c, p ≠ .custom c := fun c hc => hcustom ⟨c, hc⟩
    rw [nativeOutbound_eq_map hne] at h
    cases he : p.outboundEntries settings with
    | error e =>
      rw [he] at h
      cases h
    | ok entries =>
      rw [he] at h
      cases h
      exact .inr ⟨hne, entries, rfl, rfl⟩

theorem get?_of_nativeOutbound {settings : Settings} {p : Protocol} {fields : Fields} {key : String}
    (hkey : key ∉ entryKeys) (h : p.nativeOutbound settings = .ok fields) :
    Fields.get? key fields = Fields.get? key p.ownOutbound := by
  rcases nativeOutbound_cases h with ⟨c, rfl, rfl⟩ | ⟨hne, entries, hentries, rfl⟩
  · rfl
  · have hown : p.ownOutbound = [] := by
      unfold ownOutbound
      split
      · exact absurd rfl (hne _)
      · rfl
    rw [hown, Fields.get?_ofList_of_lacks (lacks_of_outboundEntries hkey hentries)]
    rfl

/-- Only the hop nearest to the client may have a helper that dials its server by itself. -/
theorem bridging_far_ne_full (p : Protocol) (vpn : Bool) : p.bridging false vpn ≠ .full := by
  cases p with
  | custom c =>
    simp only [bridging, Bool.false_and, Bool.false_eq_true, if_false]
    split
    · simp
    · split <;> simp
  | _ => simp [bridging]

end Protocol

theorem Bridging.isBridged_of_ne {mode : Bridging} (hu : mode ≠ .unsupported)
    (hn : mode ≠ .native) : mode.isBridged = true := by
  cases mode with
  | mapping => rfl
  | full => rfl
  | native => exact absurd rfl hn
  | unsupported => exact absurd rfl hu

/-- A native outbound is the protocol's own with a tag and a few settings put in. -/
theorem eq_setAll_of_compileNative {settings : Settings} {p : Profile} {tag : String}
    {fields : Fields} (h : compileNative settings p tag = .ok fields) :
    ∃ own, p.protocol.nativeOutbound settings = .ok own ∧ own ≠ [] ∧
      fields = Fields.setAll ([("tag", .str tag),
        ("domain_strategy", .str settings.routing.outboundDomainStrategy)] ++
        Entry.onlyIf (p.multiplexed settings.mux) "multiplex" (p.multiplex settings.mux)) own := by
  unfold compileNative at h
  extract_lets needsElevation at h
  by_cases he : needsElevation = true
  · rw [if_pos he] at h
    cases h
  · rw [if_neg he] at h
    split at h
    · cases h
    · cases h
    · rename_i own hne hown
      cases h
      exact ⟨own, hown, hne, rfl⟩

/-- So it has the tag it was compiled under, and no detour but one of the user's own. -/
theorem get?_compileNative {settings : Settings} {p : Profile} {tag : String} {fields : Fields}
    (h : compileNative settings p tag = .ok fields) :
    fields.get? "tag" = some (.str tag) ∧
      fields.get? "detour" = p.protocol.ownOutbound.get? "detour" := by
  obtain ⟨own, hown, -, rfl⟩ := eq_setAll_of_compileNative h
  have hdetour : Fields.get? "detour" own = Fields.get? "detour" p.protocol.ownOutbound :=
    Protocol.get?_of_nativeOutbound (by decide) hown
  simp [Fields.get?_set, hdetour]

namespace Hop

variable {σ : Type} {settings : Settings} {p : Profile} {tag : String} {nearest : Bool} {h : Hop}

/-- A hop that the core realises by itself. -/
def ofNative (p : Profile) (tag : String) (own : Fields) : Hop :=
  overridden { profile := p, tag := tag, bridging := .native, outbound := own }

/-- A hop that a helper realises. -/
def ofBridge (p : Profile) (tag : String) (mode : Bridging) (ports : Bridge.Ports)
    (helper : Descriptor) : Hop :=
  overridden {
    profile := p
    tag := tag
    bridging := mode
    outbound := bridgeOutbound tag ports.socks
    redirect :=
      if mode = .mapping then some (redirectInbound tag ports.mapping p.protocol.endpoint) else none
    helper := some { helper with outbound := tag } }

/-- A hop is the local end of a bridge with some ports, and its helper is launched with them. -/
def BridgedWith (settings : Settings) (p : Profile) (tag : String) (nearest : Bool)
    (ports : Bridge.Ports) (h : Hop) : Prop :=
  ∃ helper, Bridge.descriptor settings ports (p.protocol.bridging nearest settings.vpn.enabled)
      p.protocol = .ok helper ∧
    h = ofBridge p tag (p.protocol.bridging nearest settings.vpn.enabled) ports helper

/-- Without an override, all that belongs to a bridged hop has its ports. -/
theorem BridgedWith.parts {ports : Bridge.Ports}
    (hb : BridgedWith settings p tag nearest ports h) (ho : p.customOutbound.tree.override = []) :
    ∃ raw, Bridge.descriptor settings ports h.bridging p.protocol = .ok raw ∧
      h.helper = some { raw with outbound := tag } ∧
      h.outbound = bridgeOutbound tag ports.socks ∧
      h.redirect = if h.bridging = .mapping then
        some (redirectInbound tag ports.mapping p.protocol.endpoint) else none := by
  obtain ⟨raw, hraw, rfl⟩ := hb
  refine ⟨raw, hraw, rfl, ?_, rfl⟩
  change Fields.merge p.customOutbound.tree.override _ = _
  rw [ho, Fields.merge_nil]

/-- What compiling a profile may result in under a tag. -/
inductive Compiled (settings : Settings) (p : Profile) (tag : String) (nearest : Bool) :
    Hop → Prop
  | native {own : Fields} :
      p.protocol.bridging nearest settings.vpn.enabled = .native →
      compileNative settings p tag = .ok own →
      Compiled settings p tag nearest (ofNative p tag own)
  | bridged {mode : Bridging} {ports : Bridge.Ports} {helper : Descriptor} :
      p.protocol.bridging nearest settings.vpn.enabled = mode → mode.isBridged = true →
      Bridge.descriptor settings ports mode p.protocol = .ok helper →
      Compiled settings p tag nearest (ofBridge p tag mode ports helper)

namespace Compiled

/-- A hop is of the profile, under the tag, and realised in the way that its place asks for. -/
theorem place (hc : Compiled settings p tag nearest h) :
    h.profile = p ∧ h.tag = tag ∧
      h.bridging = p.protocol.bridging nearest settings.vpn.enabled := by
  cases hc with
  | native hmode _ => exact ⟨rfl, rfl, hmode.symm⟩
  | bridged hmode _ _ => exact ⟨rfl, rfl, hmode.symm⟩

/-- Away from the client a hop is native or redirected. -/
theorem eq_mapping_of_far (hc : Compiled settings p tag false h) (hn : h.bridging ≠ .native) :
    h.bridging = .mapping := by
  cases hc with
  | native _ _ => exact absurd rfl hn
  | @bridged mode _ _ hmode hb _ =>
    change mode = .mapping
    cases mode with
    | mapping => rfl
    | full => exact absurd hmode (Protocol.bridging_far_ne_full p.protocol _)
    | native => cases hb
    | unsupported => cases hb

/-- A hop's outbound has the hop's tag, unless the profile's override says otherwise. -/
theorem get?_tag (hc : Compiled settings p tag nearest h)
    (ho : Fields.Lacks "tag" p.customOutbound.tree.override) :
    h.outbound.get? "tag" = some (.str tag) := by
  cases hc with
  | native _ hown =>
    change Fields.get? "tag" (Fields.merge _ _) = _
    rw [Fields.get?_merge_of_lacks ho, (get?_compileNative hown).1]
  | bridged _ _ _ =>
    change Fields.get? "tag" (Fields.merge _ _) = _
    rw [Fields.get?_merge_of_lacks ho]
    simp [bridgeOutbound, Fields.ofList]

/-- And no detour, unless the user put one in. -/
theorem get?_detour (hc : Compiled settings p tag nearest h)
    (ho : Fields.Lacks "detour" p.customOutbound.tree.override)
    (hown : Fields.Lacks "detour" p.protocol.ownOutbound) :
    h.outbound.get? "detour" = none := by
  cases hc with
  | native _ hcompile =>
    change Fields.get? "detour" (Fields.merge _ _) = _
    rw [Fields.get?_merge_of_lacks ho, (get?_compileNative hcompile).2,
      Fields.get?_eq_none_iff.2 hown]
  | bridged _ _ _ =>
    change Fields.get? "detour" (Fields.merge _ _) = _
    rw [Fields.get?_merge_of_lacks ho]
    simp [bridgeOutbound, Fields.ofList, Fields.get?_set]

/-- A hop has a redirect inbound exactly in `mapping` mode, under the tag that belongs to it. -/
theorem get?_redirect (hc : Compiled settings p tag nearest h) {inbound : Tree}
    (hi : h.redirect = some inbound) :
    h.bridging = .mapping ∧ inbound.get? "tag" = some (.str (Tag.mapping tag)) := by
  cases hc with
  | native _ _ => cases hi
  | @bridged mode _ _ _ _ _ =>
    change (if mode = .mapping then some (redirectInbound _ _ _) else none) = _ at hi
    split at hi
    · rename_i hm
      cases hi
      exact ⟨hm, by simp [redirectInbound, Fields.get?_set]⟩
    · cases hi

theorem redirect_isSome (hc : Compiled settings p tag nearest h) (hm : h.bridging = .mapping) :
    ∃ inbound, h.redirect = some inbound := by
  cases hc with
  | native _ _ => cases hm
  | bridged _ _ _ => exact ⟨_, if_pos hm⟩

/-- A helper serves the outbound of its hop. -/
theorem outbound_helper (hc : Compiled settings p tag nearest h) {d : Descriptor}
    (hd : h.helper = some d) : d.outbound = h.tag := by
  cases hc with
  | native _ _ => cases hd
  | bridged _ _ _ =>
    cases hd
    rfl

/-- Only a bridged hop has a helper. -/
theorem isBridged_of_helper (hc : Compiled settings p tag nearest h) {d : Descriptor}
    (hd : h.helper = some d) : h.bridging.isBridged = true := by
  cases hc with
  | native _ _ => cases hd
  | bridged _ hb _ => exact hb

/-- A bridged hop has all that its ports were given for. -/
theorem bridge (hc : Compiled settings p tag nearest h) (hb : h.bridging.isBridged = true)
    (ho : p.customOutbound.tree.override = []) :
    ∃ ports raw, Bridge.descriptor settings ports h.bridging p.protocol = .ok raw ∧
      h.helper = some { raw with outbound := tag } ∧
      h.outbound = bridgeOutbound tag ports.socks ∧
      h.redirect = if h.bridging = .mapping then
        some (redirectInbound tag ports.mapping p.protocol.endpoint) else none := by
  cases hc with
  | native _ _ => cases hb
  | @bridged _ ports raw hmode _ hdesc =>
    subst hmode
    exact ⟨ports, BridgedWith.parts ⟨raw, hdesc, rfl⟩ ho⟩

/-- Two hops compiled for one profile at one place have the same outbound, but for the port of a
bridge. -/
theorem agree {h' : Hop} (hc : Compiled settings p tag nearest h)
    (hc' : Compiled settings p tag nearest h') :
    h.outbound = h'.outbound ∨ (h.bridging.isBridged = true ∧
      Fields.AgreeOff "server_port" h.outbound h'.outbound) := by
  cases hc with
  | native hmode hown =>
    cases hc' with
    | native _ hown' =>
      rw [hown] at hown'
      cases hown'
      exact .inl rfl
    | bridged hmode' hb _ =>
      rw [← hmode', hmode] at hb
      cases hb
  | @bridged mode ports _ hmode hb _ =>
    cases hc' with
    | native hmode' _ =>
      rw [← hmode, hmode'] at hb
      cases hb
    | @bridged _ ports' _ _ _ _ =>
      refine .inr ⟨hb, Fields.AgreeOff.merge (fun key hkey => ?_) _⟩
      simp [bridgeOutbound, Fields.ofList, Fields.get?_set, hkey]

end Compiled

/-- The run of a bridge: whatever ports it was given, the helper was launched with them. -/
theorem ofBridge_of_run {mode : Bridging} {s s' : BuildState σ}
    (hr : Build.run (overridden <$> compileBridged settings p tag mode) s = (.ok h, s')) :
    ∃ ports helper, Bridge.descriptor settings ports mode p.protocol = .ok helper ∧
      h = ofBridge p tag mode ports helper := by
  obtain ⟨h₀, hbridged, rfl⟩ := Build.run_map_eq_ok.1 hr
  simp only [compileBridged, Build.run_bind_eq_ok] at hbridged
  obtain ⟨m, s₁, -, n, s₂, -, helper, s₃, hhelper, -, s₄, -, hpure⟩ := hbridged
  cases hpure
  exact ⟨⟨m, n⟩, helper, (Build.run_ofExcept_eq_ok.1 hhelper).1, rfl⟩

/-- What a run compiles is compiled. -/
theorem compiled_of_run {s s' : BuildState σ}
    (hr : Build.run (compile settings p tag nearest) s = (.ok h, s')) :
    Compiled settings p tag nearest h := by
  unfold compile at hr
  split at hr
  · cases hr
  · rename_i hmode
    obtain ⟨h₀, hdirect, rfl⟩ := Build.run_map_eq_ok.1 hr
    simp only [compileDirect, Build.run_bind_eq_ok] at hdirect
    obtain ⟨own, s₁, hown, -, s₂, -, hpure⟩ := hdirect
    cases hpure
    exact .native hmode (Build.run_ofExcept_eq_ok.1 hown).1
  · rename_i hu hn
    obtain ⟨ports, helper, hdesc, rfl⟩ := ofBridge_of_run hr
    exact .bridged rfl (Bridging.isBridged_of_ne hu hn) hdesc

/-- What compiling all hops of a chain results in, position by position. -/
structure CompiledChain (settings : Settings) (seq : Nat) (ps : List Profile)
    (hops : List Hop) : Prop where
  length_eq : hops.length = ps.length
  /-- Each hop is compiled for the profile and the place at its position. -/
  compiled : ∀ i p h, ps[i]? = some p → hops[i]? = some h →
    Compiled settings p (Tag.hop seq p.id i ps.length) (i + 1 == ps.length) h

/-- At the position of each profile there is a hop. -/
theorem CompiledChain.exists_hop {seq i : Nat} {ps : List Profile} {hops : List Hop}
    (hc : CompiledChain settings seq ps hops) (hp : ps[i]? = some p) :
    ∃ h, hops[i]? = some h ∧
      Compiled settings p (Tag.hop seq p.id i ps.length) (i + 1 == ps.length) h := by
  have hi : i < hops.length := by
    rw [hc.length_eq]
    exact (List.getElem?_eq_some_iff.1 hp).1
  have hh : hops[i]? = some hops[i] := List.getElem?_eq_getElem hi
  exact ⟨hops[i], hh, hc.compiled i p _ hp hh⟩

/-- And at that of each hop a profile. -/
theorem CompiledChain.exists_profile {seq i : Nat} {ps : List Profile} {hops : List Hop}
    (hc : CompiledChain settings seq ps hops) (hh : hops[i]? = some h) :
    ∃ p, ps[i]? = some p ∧
      Compiled settings p (Tag.hop seq p.id i ps.length) (i + 1 == ps.length) h := by
  have hi : i < ps.length := by
    rw [← hc.length_eq]
    exact (List.getElem?_eq_some_iff.1 hh).1
  have hp : ps[i]? = some ps[i] := List.getElem?_eq_getElem hi
  exact ⟨ps[i], hp, hc.compiled i _ h hp hh⟩

/-- A helper serves the outbound of the hop that it belongs to. -/
theorem CompiledChain.outbound_helper {seq : Nat} {ps : List Profile} {hops : List Hop}
    {d : Descriptor} (hc : CompiledChain settings seq ps hops) (hh : h ∈ hops)
    (hd : h.helper = some d) : d.outbound = h.tag := by
  obtain ⟨i, hi⟩ := List.mem_iff_getElem?.1 hh
  obtain ⟨p, -, hcompiled⟩ := hc.exists_profile hi
  exact hcompiled.outbound_helper hd

/-- The part of a run from a position on. -/
theorem compiled_of_runFrom {seq length index : Nat} {ps : List Profile} {hops : List Hop}
    {s s' : BuildState σ}
    (hr : Build.run (compileFrom settings seq length index ps) s = (.ok hops, s')) :
    hops.length = ps.length ∧ ∀ i p h, ps[i]? = some p → hops[i]? = some h →
      Compiled settings p (Tag.hop seq p.id (index + i) length) (index + i + 1 == length) h := by
  induction ps generalizing index hops s with
  | nil =>
    cases hr
    simp
  | cons q rest ih =>
    -- the first profile stands at the index itself, the others behind it
    simp only [compileFrom, Build.run_bind_eq_ok] at hr
    obtain ⟨h₀, s₁, hhead, hs, s₂, hrest, hpure⟩ := hr
    cases hpure
    obtain ⟨hlen, hget⟩ := ih hrest
    refine ⟨by simp [hlen], fun i p h hp hh => ?_⟩
    cases i with
    | zero =>
      cases hp
      cases hh
      exact compiled_of_run hhead
    | succ i =>
      have := hget i p h (by simpa using hp) (by simpa using hh)
      rwa [Nat.add_right_comm index 1 i] at this

/-- What a run compiles of a chain is a compiled chain. -/
theorem compiledChain_of_run {seq : Nat} {ps : List Profile} {hops : List Hop}
    {s s' : BuildState σ}
    (hr : Build.run (compileAll settings seq ps) s = (.ok hops, s')) :
    CompiledChain settings seq ps hops := by
  obtain ⟨hlen, hget⟩ := compiled_of_runFrom hr
  refine ⟨hlen, fun i p h hp hh => ?_⟩
  have := hget i p h hp hh
  rwa [Nat.zero_add] at this

end Hop

end Detour
