import Detour.Proofs.Document.References
import Detour.Proofs.Document.Tags
/-!
# Look-ups of servers

Before the core can dial a server by its name, a resolver has to know the name, and the one behind
the proxy is no help with reaching the proxy. The names that the direct resolver answers for are
gathered from the profiles, the servers of a document stand in its outbounds, and an override may
come between the two. `looksUp_of_run` says which names the direct resolver answers for, and that
they cover every server that no override has named.
-/

namespace Detour

/-- The direct resolver is told to answer for a name. -/
def Output.ResolvesDirectly (name : String) (o : Output) : Prop :=
  ∃ rules t names, o.document.at? ["dns", "rules"] = some (.list rules) ∧ t ∈ rules ∧
    t.get? "server" = some (.str Dns.direct) ∧ t.get? "domain" = some (.ofStrings names) ∧
    name ∈ names

/-- A document has an outbound for a profile: that of a hop or of the target of a rule. -/
def Setup.Dials (setup : Setup) (ps : List Profile) (chain : RuleChain) (p : Profile) : Prop :=
  p ∈ ps ∨ ∃ rule ∈ chain.rules, 0 ≤ rule.outboundId ∧
    setup.store.profile? rule.outboundId = some p

/-- A text has to be looked up: it is neither empty nor an address. -/
def Address.IsName (text : String) : Prop :=
  text ≠ "" ∧ Address.isIp text = false

/-- How a document has names looked up. -/
structure Output.LooksUp (setup : Setup) (ps : List Profile) (chain : RuleChain) (o : Output) :
    Prop where
  /-- The direct resolver answers for the addresses of profiles that are names, without the blanks
  around them, and for the names that rules send out directly. -/
  names : ∀ name, o.ResolvesDirectly name ↔
    (∃ p, setup.Dials ps chain p ∧ Text.trim p.protocol.dialAddress = name ∧ Address.IsName name) ∨
      ∃ rule ∈ chain.rules, rule.outboundId = sentinelDirect ∧ rule.invert = false ∧
        name ∈ rule.domain
  /-- So it does for the server of every outbound, unless the override of a hop has named it. -/
  servers : ∀ (i : Nat) (t : Tree) (server : String), o.outbounds[i]? = some t →
    t.textAt? "server" = some server → Address.IsName (Text.trim server) →
    (∀ p, ps[i]? = some p → Fields.Lacks "server" p.customOutbound.tree.override) →
    o.ResolvesDirectly (Text.trim server)

/-! ## Addresses of outbounds -/

namespace Protocol

variable {settings : Settings} {p : Protocol} {fields : Fields} {server : String}

theorem get?_server_head {type : String} {e : Endpoint} {rest : Fields}
    (h : Fields.Lacks "server" rest) :
    (Fields.ofList (head type e ++ rest)).get? "server" = some (.str e.server) := by
  rw [Fields.ofList, Fields.setAll_append, Fields.get?_setAll_of_lacks h]
  simp [head, Fields.get?_set]

/-- The outbound of a protocol that has entries of its own names the server of the profile. -/
theorem get?_server_of_outboundEntries (h : p.outboundEntries settings = .ok fields)
    (hne : fields ≠ []) : (Fields.ofList fields).get? "server" = some (.str p.endpoint.server) := by
  cases p with
  | shadowsocks p =>
    simp only [outboundEntries] at h
    split at h <;> cases h
    simp only [pluginEntries, List.append_assoc]
    refine get?_server_head ?_
    split <;> simp
  | vless p =>
    simp only [outboundEntries] at h
    split at h <;> cases h
    simp only [List.append_assoc]
    exact get?_server_head (by simp [Stream.entries])
  | tuic p =>
    simp only [outboundEntries] at h
    split at h
    · cases h
    · split at h <;> cases h
      simp only [List.append_assoc]
      exact get?_server_head (by simp)
  | custom c =>
    cases h
    exact absurd rfl hne
  | chain ids =>
    cases h
    exact absurd rfl hne
  | _ =>
    cases h
    simp only [List.append_assoc]
    exact get?_server_head (by simp [Stream.entries])

/-- **The address that is looked up is the one that is dialled.** An `internal` configuration names
its server by itself, and so do the outbounds of all other protocols. -/
theorem dialAddress_of_nativeOutbound (h : p.nativeOutbound settings = .ok fields)
    (hserver : fields.get? "server" = some (.str server)) (hne : server ≠ "") :
    p.dialAddress = server := by
  rcases nativeOutbound_cases h with ⟨c, rfl, rfl⟩ | ⟨hcustom, entries, hentries, rfl⟩
  · rw [ownOutbound] at hserver
    split at hserver
    · rename_i hcore
      -- a configuration of the user's own is searched for the server
      have hnamed : (custom c).namedServer? = some server := by
        cases hconfig : c.configObject? with
        | none =>
          rw [hconfig] at hserver
          cases hserver
        | some config =>
          rw [hconfig, Option.getD_some] at hserver
          simp [namedServer?, hcore, hconfig, hserver, hne]
      rw [dialAddress, hnamed]
      rfl
    · cases hserver
  · -- all other outbounds dial the endpoint of their profile
    have hnamed : p.namedServer? = none := by
      unfold namedServer?
      split
      · exact absurd rfl (hcustom _)
      · rfl
    have hnonempty : entries ≠ [] := by
      rintro rfl
      cases hserver
    rw [get?_server_of_outboundEntries hentries hnonempty] at hserver
    cases hserver
    rw [dialAddress, hnamed]
    rfl

end Protocol

/-- A native outbound dials the address of its profile. -/
theorem dialAddress_of_compileNative {settings : Settings} {p : Profile} {tag server : String}
    {fields : Fields} (h : compileNative settings p tag = .ok fields)
    (hserver : fields.get? "server" = some (.str server)) (hne : server ≠ "") :
    p.protocol.dialAddress = server := by
  obtain ⟨own, hown, -, rfl⟩ := eq_setAll_of_compileNative h
  refine Protocol.dialAddress_of_nativeOutbound hown ?_ hne
  simpa [Fields.get?_set] using hserver

/-- Without an override of the server, a hop dials the address of its profile or of this machine. -/
theorem Hop.Compiled.dialAddress {settings : Settings} {p : Profile} {tag server : String}
    {nearest : Bool} {h : Hop} (hc : Hop.Compiled settings p tag nearest h)
    (hserver : h.outbound.get? "server" = some (.str server))
    (hlacks : Fields.Lacks "server" p.customOutbound.tree.override) (hne : server ≠ "") :
    p.protocol.dialAddress = server ∨ server = "127.0.0.1" := by
  cases hc with
  | native _ hown =>
    change Fields.get? "server" (Fields.merge _ _) = _ at hserver
    rw [Fields.get?_merge_of_lacks hlacks] at hserver
    exact .inl (dialAddress_of_compileNative hown hserver hne)
  | bridged _ _ _ =>
    change Fields.get? "server" (Fields.merge _ _) = _ at hserver
    rw [Fields.get?_merge_of_lacks hlacks] at hserver
    simp [bridgeOutbound, Fields.ofList, Fields.get?_set] at hserver
    exact .inr hserver.symm

/-! ## Names of the direct resolver -/

namespace Dns

variable {d : DirectSites}

/-- The rule of the direct resolver is the only one that lists names. -/
theorem exists_rule_iff (settings : Settings) {name : String} :
    (∃ t names, t ∈ rules settings d ∧ t.get? "server" = some (.str direct) ∧
      t.get? "domain" = some (.ofStrings names) ∧ name ∈ names) ↔ name ∈ d.domain := by
  have hrule : d.toRule.get? "domain" =
      if d.domain = [] then none else some (.ofStrings d.domain) := by
    simp [DirectSites.toRule, Fields.get?_set]
  constructor
  · rintro ⟨t, names, ht, -, hnames, hname⟩
    -- the rules of made-up addresses choose by the kind of the query and list no names
    rcases mem_rules.1 ht with ⟨-, rfl | rfl⟩ | ⟨-, rfl⟩
    · simp [Fields.get?_set] at hnames
    · simp [Fields.get?_set] at hnames
    · rw [hrule] at hnames
      split at hnames
      · cases hnames
      · have he : d.domain.map Tree.str = names.map Tree.str := by
          simpa [Tree.ofStrings] using hnames
        rw [(List.map_inj_right fun _ _ h => Tree.str.inj h).1 he]
        exact hname
  · intro hname
    have hne : d.domain ≠ [] := List.ne_nil_of_mem hname
    refine ⟨d.toRule, d.domain, mem_rules.2 (.inr ⟨?_, rfl⟩), ?_, ?_, hname⟩
    · simp [DirectSites.isEmpty, hne]
    · simp [DirectSites.toRule]
    · rw [hrule, if_neg hne]

end Dns

/-- The names among some addresses. -/
theorem Routing.mem_lookups {name : String} {addresses : List String} :
    name ∈ lookups addresses ↔
      (∃ a ∈ addresses, Text.trim a = name) ∧ Address.IsName name := by
  rw [lookups, mem_firstOccurrences, List.mem_filter, List.mem_map, Address.IsName]
  simp

/-! ## Documents -/

section Built

variable {setup : Setup} {request : Request} {root : Profile} {ps : List Profile} {hops : List Hop}
  {r : Routing} {o : Output} {h : Hop} {name : String}

/-- The targets are the profiles that rules select. -/
theorem Routing.Compiled.exists_target_iff {seq : Nat} (hc : Routing.Compiled setup seq r)
    {p : Profile} : (∃ t ∈ r.targets, t.profile = p) ↔
      ∃ rule ∈ r.chain.rules, 0 ≤ rule.outboundId ∧
        setup.store.profile? rule.outboundId = some p := by
  constructor
  · rintro ⟨t, ht, rfl⟩
    obtain ⟨k, id, hk, hp, -⟩ := hc.targets.exists_id ht
    obtain ⟨hid, rule, hrule, rfl⟩ := RuleChain.mem_targetIds.1 (List.mem_of_getElem? hk)
    exact ⟨rule, hrule, hid, hp⟩
  · rintro ⟨rule, hrule, hid, hp⟩
    have hmem : rule.outboundId ∈ Routing.targetIds r.chain :=
      RuleChain.mem_targetIds.2 ⟨hid, rule, hrule, rfl⟩
    obtain ⟨k, hk⟩ := List.mem_iff_getElem?.1 hmem
    have hlt : k < r.targets.length := by
      rw [hc.targets.length_eq]
      exact (List.getElem?_eq_some_iff.1 hk).1
    obtain ⟨hown, -, -⟩ := hc.targets.compiled k _ _ hk (List.getElem?_eq_getElem hlt)
    rw [hp] at hown
    exact ⟨r.targets[k], List.getElem_mem hlt, (Option.some.inj hown).symm⟩

/-- What a document looks up are the names among the addresses that its outbounds dial. -/
theorem Document.mem_lookups (hb : Built setup request root ps hops r o) :
    name ∈ Routing.lookups (hops.map (fun h => h.profile.protocol.dialAddress) ++
        r.targets.map fun t => t.profile.protocol.dialAddress) ↔
      ∃ p, setup.Dials ps r.chain p ∧ Text.trim p.protocol.dialAddress = name ∧
        Address.IsName name := by
  have haddress : ∀ a, a ∈ hops.map (fun h => h.profile.protocol.dialAddress) ++
      r.targets.map (fun t => t.profile.protocol.dialAddress) ↔
        ∃ p, setup.Dials ps r.chain p ∧ p.protocol.dialAddress = a := by
    intro a
    rw [List.mem_append, List.mem_map, List.mem_map]
    constructor
    · rintro (⟨h, hh, rfl⟩ | ⟨t, ht, rfl⟩)
      · refine ⟨h.profile, .inl ?_, rfl⟩
        rw [← hb.compiled.map_profile]
        exact List.mem_map_of_mem hh
      · exact ⟨t.profile, .inr (hb.routing.exists_target_iff.1 ⟨t, ht, rfl⟩), rfl⟩
    · rintro ⟨p, hp | hp, rfl⟩
      · rw [← hb.compiled.map_profile] at hp
        obtain ⟨h, hh, rfl⟩ := List.mem_map.1 hp
        exact .inl ⟨h, hh, rfl⟩
      · obtain ⟨t, ht, rfl⟩ := hb.routing.exists_target_iff.2 hp
        exact .inr ⟨t, ht, rfl⟩
  rw [Routing.mem_lookups]
  constructor
  · rintro ⟨⟨a, ha, htrim⟩, hname⟩
    obtain ⟨p, hp, rfl⟩ := (haddress a).1 ha
    exact ⟨p, hp, htrim, hname⟩
  · rintro ⟨p, hp, htrim, hname⟩
    exact ⟨⟨_, (haddress _).2 ⟨p, hp, rfl⟩, htrim⟩, hname⟩

variable (hb : Built setup request root ps hops r o)
  (hcfg : root.customConfig.tree.override = [])
  (hdns : setup.settings.routing.useDnsObject = false)

include hb hcfg hdns in
theorem Output.resolvesDirectly_of_built (name : String) : o.ResolvesDirectly name ↔
    (∃ p, setup.Dials ps r.chain p ∧ Text.trim p.protocol.dialAddress = name ∧
        Address.IsName name) ∨
      ∃ rule ∈ r.chain.rules, rule.outboundId = sentinelDirect ∧ rule.invert = false ∧
        name ∈ rule.domain := by
  have hrules := (hasParts_of_built hb hcfg hdns).dnsRules
  rw [← Document.mem_lookups hb, ← RuleChain.mem_domain_classify,
    ← Dns.exists_rule_iff setup.settings]
  constructor
  · rintro ⟨rules, t, names, hat, ht, hserver, hnames, hname⟩
    rw [hrules] at hat
    cases hat
    exact ⟨t, names, ht, hserver, hnames, hname⟩
  · rintro ⟨t, names, ht, hserver, hnames, hname⟩
    exact ⟨_, t, names, hrules, ht, hserver, hnames, hname⟩

include hb in
/-- An outbound dials the address of a profile or of this machine, unless the override of a hop has
named the server. -/
theorem Document.dials_of_outbound {i : Nat} {t : Tree} {server : String}
    (ht : (Document.outbounds hops r.targets)[i]? = some t)
    (hserver : t.textAt? "server" = some server) (hne : server ≠ "")
    (hlacks : ∀ p, ps[i]? = some p → Fields.Lacks "server" p.customOutbound.tree.override) :
    (∃ p, setup.Dials ps r.chain p ∧ p.protocol.dialAddress = server) ∨ server = "127.0.0.1" := by
  have hget : t.get? "server" = some (.str server) := by
    obtain ⟨v, hv, htext⟩ := Option.bind_eq_some_iff.1 hserver
    cases v <;> cases htext
    exact hv
  cases hi : hops[i]? with
  | some h =>
    obtain ⟨p, hp, hc⟩ := hb.compiled.exists_profile hi
    rw [Document.getElem?_outbounds r.targets hi, Option.some.injEq] at ht
    rw [← ht, Tree.get?_object, Hop.get?_linkedTo_of_ne (by decide)] at hget
    rcases hc.dialAddress hget (hlacks p hp) hne with he | he
    · exact .inl ⟨p, .inl (List.mem_of_getElem? hp), he⟩
    · exact .inr he
  | none =>
    -- behind the hops there are the reserved outbounds and the targets
    have hmem : t ∈ reservedOutbounds ++ r.targets.map fun t => Tree.object t.outbound := by
      have hle : ((Hop.linkedOutbounds hops).map Tree.object).length ≤ i := by
        rw [List.length_map, Hop.length_linkedOutbounds]
        exact List.getElem?_eq_none_iff.1 hi
      rw [Document.outbounds, List.append_assoc, List.getElem?_append_right hle] at ht
      exact List.mem_of_getElem? ht
    rcases List.mem_append.1 hmem with hres | htarget
    · simp only [reservedOutbounds, List.mem_cons, List.not_mem_nil, or_false] at hres
      rcases hres with rfl | rfl | rfl <;> simp [Fields.get?_set] at hget
    · obtain ⟨target, hin, rfl⟩ := List.mem_map.1 htarget
      obtain ⟨-, -, -, -, -, hown⟩ := hb.routing.targets.exists_id hin
      exact .inl ⟨target.profile, .inr (hb.routing.exists_target_iff.1 ⟨target, hin, rfl⟩),
        dialAddress_of_compileNative hown hget hne⟩

end Built

/-- **Every server that no override has named is resolved directly.** The direct resolver answers for
exactly the names that profiles and direct rules give, without the blanks around them. An override
that names another server is not among them: that one is looked up only if it is the server of some
profile, too. -/
theorem looksUp_of_run {σ : Type} [RuleSetService σ] {setup : Setup} {request : Request}
    {root : Profile} {o : Output} {s s' : BuildState σ} (hroot : root.isFullDocument = false)
    (hr : Build.run (Build.profile setup request root) s = (.ok o, s'))
    (hdns : setup.settings.routing.useDnsObject = false)
    (hcfg : root.customConfig.tree.override = []) :
    ∃ ps chain, setup.store.hops root (!request.test) = .ok ps ∧
      setup.store.chain? setup.settings.routing.currentRouteId = some chain ∧
      o.LooksUp setup ps chain := by
  obtain ⟨ps, hops, r, hb⟩ := built_of_run hroot hr
  have hnames := Output.resolvesDirectly_of_built hb hcfg hdns
  refine ⟨ps, r.chain, hb.resolved, hb.routing.chain, hnames, ?_⟩
  intro i t server ht hserver hname hlacks
  have hne : server ≠ "" := by
    rintro rfl
    exact hname.1 rfl
  rw [Output.outbounds_of_built hb (by simp [hcfg])] at ht
  rcases Document.dials_of_outbound hb ht hserver hne hlacks with ⟨p, hp, he⟩ | rfl
  · exact (hnames _).2 (.inl ⟨p, hp, congrArg Text.trim he, hname⟩)
  · exact absurd hname.2 (by decide)

/-! ## A server under another name -/

/-- The native server, which an override names differently. -/
def Setting.moved : Profile :=
  { Setting.native with
    id := 5
    customOutbound := ⟨.ofFields [("server", .str "other.example")],
      Tree.ordered_ofFields (by simp [Tree.OrderedFields, Tree.Ordered])⟩ }

/-- The setting with that profile. -/
def Setting.overridden : Setup :=
  { Setting.setup with
    store := { Setting.setup.store with profiles := [Setting.native, Setting.moved] } }

/-- The server that the document names is not the one that is resolved directly. -/
theorem looksUp_of_run_moved :
    ∃ o s', Build.run (Build.profile Setting.overridden {} Setting.moved) Setting.start =
        (.ok o, s') ∧ o.outbounds[0]?.bind (Tree.textAt? "server") = some "other.example" ∧
      ¬ o.ResolvesDirectly "other.example" := by
  obtain ⟨o, s', hr⟩ := Build.exists_run_eq_ok
    (b := Build.profile Setting.overridden {} Setting.moved) (s := Setting.start) (by decide)
  obtain ⟨ps, chain, hps, hchain, hlooks⟩ := looksUp_of_run rfl hr rfl rfl
  have hserver : o.outbounds[0]?.bind (Tree.textAt? "server") = some "other.example" := by
    have hrun : (Build.run (Build.profile Setting.overridden {} Setting.moved)
        Setting.start).1.toOption.bind (fun o => o.outbounds[0]?.bind (Tree.textAt? "server")) =
          some "other.example" := by
      decide +kernel
    rw [hr] at hrun
    exact hrun
  refine ⟨o, s', hr, hserver, fun hdirect => ?_⟩
  cases hps
  cases hchain
  rcases (hlooks.names "other.example").1 hdirect with ⟨p, hp, htrim, -⟩ | ⟨rule, hrule, -, -, hname⟩
  · -- both profiles of the document have the address of the native server
    have haddress : p = Setting.moved ∨ p = Setting.native := by
      rcases hp with hp | ⟨rule, hrule, hid, hp⟩
      · exact .inl (List.mem_singleton.1 hp)
      · have hmem : p ∈ [Setting.native, Setting.moved] := Store.mem_of_profile? hp
        simpa [or_comm] using hmem
    rcases haddress with rfl | rfl <;> exact absurd htrim (by decide)
  · revert hname
    revert rule
    decide

end Detour
