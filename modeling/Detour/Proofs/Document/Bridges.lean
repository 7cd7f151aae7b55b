import Detour.Proofs.Document.Tags
import Detour.Proofs.Hop.Ports
/-!
# Bridges of documents

A hop of an external core takes part in a document four times: as a helper to launch, as an outbound
that leads to the helper, perhaps as an inbound that the helper dials in the place of its server, and
in the decision to keep the VPN off. `bridges_of_run` says that the four agree, at every position of
a chain and whether its ports are fixed or requested.
-/

namespace Detour

/-- The tags of the hops that a helper realises, in the order of the hops. -/
def Hop.bridgedTags (seq : Nat) (ps : List Profile) : List String :=
  ((ps.zip (tags seq ps)).filter fun hop => hop.1.protocol.isExternal).map Prod.snd

namespace Output

/-- The inbounds of the document. -/
def inbounds (o : Output) : List Tree :=
  ((o.document.get? "inbounds").bind Tree.items?).getD []

/-- The inbounds with a tag. -/
def inboundsWith (tag : String) (o : Output) : List Tree :=
  o.inbounds.filter fun t => t.textAt? "tag" = some tag

/-- What there is for a hop that a helper realises in some mode with some ports. -/
structure HasBridge (settings : Settings) (i : Nat) (p : Profile) (tag : String) (mode : Bridging)
    (ports : Bridge.Ports) (o : Output) : Prop where
  /-- One helper, which is launched with these ports. -/
  helper : ∃ raw, Bridge.descriptor settings ports mode p.protocol = .ok raw ∧
    o.externals.filter (fun d => d.outbound = tag) = [{ raw with outbound := tag }]
  /-- At the position of the hop, an outbound that leads to the helper. -/
  outbound : o.outbounds[i]? = some (.ofFields [("type", .str "socks"),
    ("server", .str "127.0.0.1"), ("server_port", .int ports.socks), ("tag", .str tag)])
  /-- One inbound that leads to the server, if the helper is to dial it. -/
  inbound : o.inboundsWith (Tag.mapping tag) =
    if mode = .mapping then
      [.ofFields [("type", .str "direct"), ("tag", .str (Tag.mapping tag)),
        ("listen", .str "127.0.0.1"), ("listen_port", .int ports.mapping),
        ("override_address", .str p.protocol.endpoint.server),
        ("override_port", .int p.protocol.endpoint.serverPort.toNat)]]
    else []

/-- What a document and its helpers have for some hops, whose bridges have been given ports. -/
structure Bridges (settings : Settings) (seq : Nat) (ps : List Profile)
    (ports : List (Option Bridge.Ports)) (o : Output) : Prop where
  /-- The helpers are those of the bridged hops, in their order. -/
  externals : o.externals.map Descriptor.outbound = Hop.bridgedTags seq ps
  /-- A helper dials its server by itself only nearest to the client and without the VPN. -/
  bridged : ∀ i p, ps[i]? = some p → p.protocol.isExternal = true → ∃ pair,
    ports[i]? = some (some pair) ∧ o.HasBridge settings i p (Tag.hop seq p.id i ps.length)
      (if i + 1 = ps.length ∧ settings.vpn.enabled = false then .full else .mapping) pair
  native : ∀ i p, ps[i]? = some p → p.protocol.isExternal = false →
    o.inboundsWith (Tag.mapping (Tag.hop seq p.id i ps.length)) = []
  /-- The VPN is kept off exactly for such a helper. -/
  keepVpnOff : o.keepVpnOff = true ↔ settings.vpn.enabled = false ∧
    ∃ p, ps.getLast? = some p ∧ p.protocol.isExternal = true

end Output

section Built

variable {setup : Setup} {request : Request} {root : Profile} {ps : List Profile} {hops : List Hop}
  {r : Routing} {o : Output} {i : Nat} {h : Hop}

namespace Hop

variable {settings : Settings} {seq : Nat}

/-- The helpers have the tags of the bridged hops. -/
theorem CompiledChain.outbounds_helpers (hc : CompiledChain settings seq ps hops) :
    (hops.filterMap helper).map Descriptor.outbound = bridgedTags seq ps := by
  have hzip : ps.zip (tags seq ps) = hops.map fun h => (h.profile, h.tag) := by
    rw [← hc.map_tag]
    conv => lhs; rw [← hc.map_profile]
    exact List.zip_map'
  have hsome : ∀ h ∈ hops, h.helper.isSome = h.profile.protocol.isExternal := by
    intro h hh
    obtain ⟨i, hi⟩ := List.mem_iff_getElem?.1 hh
    obtain ⟨p, -, hcompiled⟩ := hc.exists_profile hi
    exact hcompiled.isSome_helper
  rw [map_filterMap_eq_map_filter fun h hh d hd => hc.outbound_helper hh hd, bridgedTags, hzip, List.filter_map, List.map_map,
    List.filter_congr hsome]
  rfl

end Hop

namespace Output

theorem inbounds_of_built (hb : Built setup request root ps hops r o)
    (hdoc : Fields.Lacks "inbounds" root.customConfig.tree.override)
    (hextra : Document.extraInbounds setup.settings request = []) :
    o.inbounds = Document.localInbounds setup.settings request ++ hops.filterMap Hop.redirect := by
  rw [inbounds, get?_inbounds_of_built hb hdoc, Document.inbounds, hextra, List.append_nil]
  rfl

theorem externals_of_built (hb : Built setup request root ps hops r o) :
    o.externals = hops.filterMap Hop.helper := by
  rw [hb.output]
  rfl

theorem filter_externals (hb : Built setup request root ps hops r o) (hi : hops[i]? = some h) :
    o.externals.filter (fun d => d.outbound = h.tag) = h.helper.toList := by
  rw [externals_of_built hb, hb.compiled.filter_helpers hi]

/-- The redirect inbound of a hop is found by the tag of the hop: the local inbounds have others. -/
theorem inboundsWith_mapping (hb : Built setup request root ps hops r o)
    (hdoc : Fields.Lacks "inbounds" root.customConfig.tree.override)
    (hextra : Document.extraInbounds setup.settings request = []) (hi : hops[i]? = some h) :
    o.inboundsWith (Tag.mapping h.tag) = h.redirect.toList := by
  have hlocal : (Document.localInbounds setup.settings request).filter
      (fun t => t.textAt? "tag" = some (Tag.mapping h.tag)) = [] := by
    refine List.filter_eq_nil_iff.2 fun t ht he => ?_
    obtain ⟨tags, htags, hsub⟩ := Document.tags_localInbounds setup.settings request
    have hmem : some (Tag.mapping h.tag) ∈ tags.map some := by
      rw [← htags, ← of_decide_eq_true he]
      exact List.mem_map_of_mem ht
    have hthree := Tag.family_of_mem_localInbounds (hsub.subset (by simpa using hmem))
    rw [Tag.family_mapping] at hthree
    cases hthree
  have hnodup : (hops.map fun g => some (Tag.mapping g.tag)).Nodup :=
    List.pairwise_map.2 <| (List.pairwise_map.1 hb.compiled.nodup).imp fun hne he =>
      hne (Tag.mapping_injective (Option.some.inj he))
  rw [inboundsWith, inbounds_of_built hb hdoc hextra, List.filter_append, hlocal, List.nil_append]
  exact filter_filterMap_eq hnodup (fun g hg t ht => hb.compiled.textAt?_redirect hg ht)
    (List.mem_of_getElem? hi)

theorem keepVpnOff_iff (hb : Built setup request root ps hops r o) :
    o.keepVpnOff = true ↔ setup.settings.vpn.enabled = false ∧
      ∃ p, ps.getLast? = some p ∧ p.protocol.isExternal = true := by
  have hany : o.keepVpnOff = hops.any fun h => h.bridging == .full := by
    rw [hb.output]
    rfl
  rw [hany, List.any_eq_true]
  constructor
  · rintro ⟨h, hh, hfull⟩
    -- only next to the client is a hop bridged as a whole, and only without the VPN
    obtain ⟨i, hi⟩ := List.mem_iff_getElem?.1 hh
    obtain ⟨p, hp, hc⟩ := hb.compiled.exists_profile hi
    have hmode : h.bridging = .full := by simpa using hfull
    have hext : p.protocol.isExternal = true := by
      refine Protocol.isExternal_of_bridged (?_ : (p.protocol.bridging (i + 1 == ps.length)
        setup.settings.vpn.enabled).isBridged = true)
      rw [← hc.place.2.2, hmode]
      rfl
    have hplace := hc.bridging_of_external hext
    rw [hmode] at hplace
    split at hplace
    · rename_i hlast
      refine ⟨hlast.2, p, ?_, hext⟩
      rw [List.getLast?_eq_getElem?, ← beq_iff_eq.1 hlast.1, Nat.add_sub_cancel, hp]
    · cases hplace
  · rintro ⟨hvpn, p, hlast, hext⟩
    rw [List.getLast?_eq_getElem?] at hlast
    obtain ⟨h, hh, hc⟩ := hb.compiled.exists_hop hlast
    refine ⟨h, List.mem_of_getElem? hh, ?_⟩
    have hpos := (List.getElem?_eq_some_iff.1 hlast).1
    have hnearest : (ps.length - 1 + 1 == ps.length) = true := by
      rw [beq_iff_eq]
      omega
    rw [hc.bridging_of_external hext, if_pos ⟨hnearest, hvpn⟩]
    rfl

/-- What there is for a bridged hop has the ports that the hop was given. -/
theorem hasBridge_of_built {p : Profile} {pair : Bridge.Ports} {nearest : Bool}
    (hb : Built setup request root ps hops r o)
    (hout : Fields.Lacks "outbounds" root.customConfig.tree.override)
    (hin : Fields.Lacks "inbounds" root.customConfig.tree.override)
    (hextra : Document.extraInbounds setup.settings request = []) (hi : hops[i]? = some h)
    (hbridged : Hop.BridgedWith setup.settings p h.tag nearest pair h)
    (hown : p.customOutbound.tree.override = []) (hn : h.bridging ≠ .native) :
    o.HasBridge setup.settings i p h.tag h.bridging pair := by
  obtain ⟨raw, hraw, hhelper, houtbound, hredirect⟩ := hbridged.parts hown
  refine { helper := ⟨raw, hraw, ?_⟩, outbound := ?_, inbound := ?_ }
  · rw [filter_externals hb hi, hhelper]
    rfl
  · rw [getElem?_outbounds hb hout hi, Hop.linkedTo_of_ne_native hn, houtbound]
    rfl
  · rw [inboundsWith_mapping hb hin hextra hi, hredirect]
    split <;> rfl

end Output

end Built

/-- **Helpers, outbounds, redirects and the VPN agree.** Whatever hops a profile resolves to, each
helper listens on the port that its outbound leads to and dials the port of its redirect inbound, and
a helper that dials its server by itself keeps the VPN off. -/
theorem bridges_of_run {σ : Type} [RuleSetService σ] {setup : Setup} {request : Request}
    {root : Profile} {ps : List Profile} {o : Output} {s s' : BuildState σ}
    (hroot : root.isFullDocument = false)
    (hr : Build.run (Build.profile setup request root) s = (.ok o, s'))
    (hps : setup.store.hops root (!request.test) = .ok ps)
    (hown : ∀ p ∈ ps, p.protocol.isExternal = true → p.customOutbound.tree.override = [])
    (hdoc : root.customConfig.tree.override = [])
    (hextra : Document.extraInbounds setup.settings request = []) :
    ∃ ports, Hop.Allots s.ports ps ports ∧ o.Bridges setup.settings request.seq ps ports := by
  have hout : Fields.Lacks "outbounds" root.customConfig.tree.override := by simp [hdoc]
  have hin : Fields.Lacks "inbounds" root.customConfig.tree.override := by simp [hdoc]
  obtain ⟨ps', hops, r, s₁, hb, hrun⟩ := built_with_hops_of_run hroot hr
  obtain rfl := hb.resolved_eq hps
  obtain ⟨ports, hports, hget⟩ := Hop.allots_of_run hrun
  refine ⟨ports, hports, ?_⟩
  exact {
    externals := Output.externals_of_built hb ▸ hb.compiled.outbounds_helpers
    bridged := fun i p hp hext => by
      obtain ⟨pair, h, hpair, hh, hbridged⟩ := hget i p hp hext
      have hc := hb.compiled.compiled i p h hp hh
      have hmode := hc.bridging_of_external hext
      simp only [beq_iff_eq] at hmode
      have hn : h.bridging ≠ .native := by
        rw [hmode]
        split <;> decide
      rw [← hmode, ← hc.place.2.1]
      rw [← hc.place.2.1] at hbridged
      exact ⟨pair, hpair, Output.hasBridge_of_built hb hout hin hextra hh hbridged
        (hown p (List.mem_of_getElem? hp) hext) hn⟩
    native := fun i p hp hnative => by
      obtain ⟨h, hh, hc⟩ := hb.compiled.exists_hop hp
      rw [← hc.place.2.1, Output.inboundsWith_mapping hb hin hextra hh]
      cases hc with
      | native _ _ => rfl
      | bridged hmode hbr _ =>
        rw [Protocol.isExternal_of_bridged (hmode ▸ hbr)] at hnative
        cases hnative
    keepVpnOff := Output.keepVpnOff_iff hb }

/-- The setting without the VPN. -/
def Setting.withoutVpn : Setup :=
  { Setting.setup with settings := { Setting.setup.settings with vpn := {} } }

/-- A chain that passes a bridged server behind a redirect and, nearest to the client, by itself. -/
theorem bridges_of_run_twice_bridged :
    ∃ o s' ports, Build.run (Build.profile Setting.withoutVpn {} Setting.chain) Setting.start =
        (.ok o, s') ∧
      Hop.Allots Setting.start.ports [Setting.bridged, Setting.native, Setting.bridged] ports ∧
      o.Bridges Setting.withoutVpn.settings 0 [Setting.bridged, Setting.native, Setting.bridged]
        ports := by
  obtain ⟨o, s', hr⟩ := Build.exists_run_eq_ok
    (b := Build.profile Setting.withoutVpn {} Setting.chain) (s := Setting.start) (by decide)
  have hown : ∀ p ∈ [Setting.bridged, Setting.native, Setting.bridged],
      p.customOutbound.tree.override = [] := by
    simp only [List.forall_mem_cons]
    exact ⟨rfl, rfl, rfl, by simp⟩
  obtain ⟨ports, hports, hbridges⟩ :=
    bridges_of_run rfl hr Setting.hops_chain (fun p hp _ => hown p hp) rfl rfl
  exact ⟨o, s', ports, hr, hports, hbridges⟩

end Detour
