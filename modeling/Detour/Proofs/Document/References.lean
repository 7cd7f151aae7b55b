import Detour.Proofs.Document.Chain
import Detour.Proofs.Route.Sites
import Detour.Proofs.Store
/-!
# References of documents

The parts of a document refer to each other by tags: outbounds, rules and resolvers to outbounds,
chain rules to inbounds, resolvers and their rules to resolvers, and rules to rule sets. Each part is
written by itself, and `closed_of_run` says that they agree: nothing is referred to that is not
there.
-/

namespace Detour

namespace Tree

/-- Whether a value is the tag of one of some entries. -/
def IsTagIn (entries : List Tree) (v : Tree) : Prop :=
  ∃ tag, v = .str tag ∧ ∃ t ∈ entries, t.get? "tag" = some (.str tag)

/-- What an entry refers to under a key, if anything, is one of some entries. -/
def RefersInto (entries : List Tree) (key : String) (t : Tree) : Prop :=
  ∀ v, t.get? key = some v → IsTagIn entries v

/-- And every element of a list under a key does. -/
def RefersAllInto (entries : List Tree) (key : String) (t : Tree) : Prop :=
  ∀ v, t.get? key = some v → ∃ names, v = .list names ∧ ∀ name ∈ names, IsTagIn entries name

end Tree

/-- The lists of a document between which references lead. -/
structure Output.Parts where
  outbounds : List Tree
  inbounds : List Tree
  rules : List Tree
  ruleSets : List Tree
  servers : List Tree
  dnsRules : List Tree

/-- The parts stand where the core looks for them. -/
structure Output.HasParts (o : Output) (d : Output.Parts) : Prop where
  outbounds : o.document.at? ["outbounds"] = some (.list d.outbounds)
  inbounds : o.document.at? ["inbounds"] = some (.list d.inbounds)
  rules : o.document.at? ["route", "rules"] = some (.list d.rules)
  ruleSets : o.document.at? ["route", "rule_set"] = some (.list d.ruleSets)
  servers : o.document.at? ["dns", "servers"] = some (.list d.servers)
  dnsRules : o.document.at? ["dns", "rules"] = some (.list d.dnsRules)

/-- No reference of a document leads nowhere. -/
structure Output.Closed (o : Output) (d : Output.Parts) : Prop where
  detours : ∀ t ∈ d.outbounds, t.RefersInto d.outbounds "detour"
  /-- Every rule selects an outbound. -/
  rules : ∀ t ∈ d.rules, ∃ v, t.get? "outbound" = some v ∧ v.IsTagIn d.outbounds
  final : ∀ v, o.document.at? ["route", "final"] = some v → v.IsTagIn d.outbounds
  serverDetours : ∀ t ∈ d.servers, t.RefersInto d.outbounds "detour"
  /-- Every chain rule is a rule about one inbound. -/
  chainRules : ∀ t ∈ o.chainRules, t ∈ d.rules ∧
    ∃ tag, t.get? "inbound" = some (.list [tag]) ∧ tag.IsTagIn d.inbounds
  resolvers : ∀ t ∈ d.servers, t.RefersInto d.servers "address_resolver"
  /-- Every rule of the resolvers selects one. -/
  dnsRules : ∀ t ∈ d.dnsRules, ∃ v, t.get? "server" = some v ∧ v.IsTagIn d.servers
  ruleSets : ∀ t ∈ d.rules ++ d.dnsRules, t.RefersAllInto d.ruleSets "rule_set"

/-! ## Resolvers -/

namespace Dns

variable {settings : Settings} {entryTag : String} {sites : DirectSites} {t : Tree}

/-- The five resolvers. -/
theorem mem_servers :
    t ∈ servers settings entryTag ↔
      t = remoteServer settings.routing entryTag ∨ t = directServer settings.routing ∨
        t = .ofFields [("tag", .str block), ("address", .str "rcode://success")] ∨
          (settings.vpn.fakeDns = true ∧
            t = .ofFields [("tag", .str fake), ("address", .str "fakeip")]) ∨
            t = .ofFields [("tag", .str «local»), ("address", .str "local"),
              ("detour", .str Tag.direct)] := by
  -- the two that the settings put in order, and the one that may be missing
  have hboth : ∀ a b : Tree,
      t ∈ (if settings.routing.dnsFinalOut = Tag.direct then [a, b] else [b, a]) ↔
        t = b ∨ t = a := by
    intro a b
    split
    · simp [or_comm]
    · simp
  have hfake : ∀ a : Tree, t ∈ (if settings.vpn.fakeDns = true then [a] else []) ↔
      settings.vpn.fakeDns = true ∧ t = a := by
    intro a
    split <;> simp [*]
  simp only [servers, List.mem_append, hboth, hfake, List.mem_singleton, or_assoc]

/-- The rules of the resolvers. -/
theorem mem_rules :
    t ∈ rules settings sites ↔
      (settings.vpn.fakeDns = true ∧
        (t = .ofFields [("outbound", .str "any"), ("server", .str «local»)] ∨
          t = .ofFields [("query_type", .ofStrings ["A", "AAAA"]), ("server", .str fake)])) ∨
        (sites.isEmpty = false ∧ t = sites.toRule) := by
  rw [rules, List.mem_append]
  refine or_congr ?_ ?_
  · split <;> simp [*]
  · split <;> simp [*]

variable {tag address strategy detour : String}

theorem get?_tag_server :
    (server tag address strategy detour).get? "tag" = some (.str tag) := by
  simp [server, Fields.get?_set]

theorem get?_detour_server :
    (server tag address strategy detour).get? "detour" = some (.str detour) := by
  simp [server]

theorem get?_resolver_server :
    (server tag address strategy detour).get? "address_resolver" = some (.str «local») := by
  simp [server, Fields.get?_set]

theorem isTagIn_local : (Tree.str «local»).IsTagIn (servers settings entryTag) :=
  ⟨«local», rfl, _, mem_servers.2 (.inr (.inr (.inr (.inr rfl)))), by simp [Fields.get?_set]⟩

theorem isTagIn_direct : (Tree.str direct).IsTagIn (servers settings entryTag) :=
  ⟨direct, rfl, _, mem_servers.2 (.inr (.inl rfl)), get?_tag_server⟩

/-- The one of made-up addresses is there where it is asked for. -/
theorem isTagIn_fake (h : settings.vpn.fakeDns = true) :
    (Tree.str fake).IsTagIn (servers settings entryTag) :=
  ⟨fake, rfl, _, mem_servers.2 (.inr (.inr (.inr (.inl ⟨h, rfl⟩)))), by simp [Fields.get?_set]⟩

/-- A resolver is reached through the entry or directly, if it is not the machine's own. -/
theorem detour_of_server {v : Tree} (ht : t ∈ servers settings entryTag)
    (hv : t.get? "detour" = some v) : v = .str entryTag ∨ v = .str Tag.direct := by
  rcases mem_servers.1 ht with rfl | rfl | rfl | ⟨-, rfl⟩ | rfl
  · rw [remoteServer, get?_detour_server] at hv
    cases hv
    exact .inl rfl
  · rw [directServer, get?_detour_server] at hv
    cases hv
    exact .inr rfl
  · simp [Fields.get?_set] at hv
  · simp [Fields.get?_set] at hv
  · simp at hv
    exact .inr hv.symm

/-- The names of resolvers are looked up by the machine's own. -/
theorem refersInto_resolver (ht : t ∈ servers settings entryTag) :
    t.RefersInto (servers settings entryTag) "address_resolver" := by
  intro v hv
  rcases mem_servers.1 ht with rfl | rfl | rfl | ⟨-, rfl⟩ | rfl
  · rw [remoteServer, get?_resolver_server] at hv
    cases hv
    exact isTagIn_local
  · rw [directServer, get?_resolver_server] at hv
    cases hv
    exact isTagIn_local
  · simp [Fields.get?_set] at hv
  · simp [Fields.get?_set] at hv
  · simp [Fields.get?_set] at hv

/-- Every rule selects a resolver, and one that makes addresses up only where there is one. -/
theorem exists_server_of_rule (ht : t ∈ rules settings sites) :
    ∃ v, t.get? "server" = some v ∧ v.IsTagIn (servers settings entryTag) := by
  rcases mem_rules.1 ht with ⟨hfake, rfl | rfl⟩ | ⟨-, rfl⟩
  · exact ⟨.str «local», by simp, isTagIn_local⟩
  · exact ⟨.str fake, by simp, isTagIn_fake hfake⟩
  · exact ⟨.str direct, by simp [DirectSites.toRule], isTagIn_direct⟩

/-- Only the rule of the direct resolver is about rule sets. -/
theorem ruleSet_of_rule {v : Tree} (ht : t ∈ rules settings sites)
    (hv : t.get? "rule_set" = some v) : v = .ofStrings sites.ruleSet := by
  rcases mem_rules.1 ht with ⟨-, rfl | rfl⟩ | ⟨-, rfl⟩
  · simp [Fields.get?_set] at hv
  · simp [Fields.get?_set] at hv
  · simp [DirectSites.toRule, Fields.get?_set] at hv
    exact hv.2.symm

end Dns

/-! ## What a build writes -/

/-- The parts that a document is written with. -/
def Document.parts (settings : Settings) (request : Request) (hops : List Hop) (r : Routing) :
    Output.Parts where
  outbounds := outbounds hops r.targets
  inbounds := inbounds settings request hops
  rules := (Hop.redirects hops).map Hop.Redirect.toTree ++
    r.chain.routeRules (Routing.tagMap (Hop.entryTag hops) r.targets)
  ruleSets := r.ruleSets
  servers := Dns.servers settings (Hop.entryTag hops)
  dnsRules := Dns.rules settings (directSites hops r)

section Built

variable {setup : Setup} {request : Request} {root : Profile} {ps : List Profile} {hops : List Hop}
  {r : Routing} {o : Output} {h : Hop}

namespace Output

/-- Without an override, a document is what its sections say. -/
theorem document_of_built (hb : Built setup request root ps hops r o)
    (hcfg : root.customConfig.tree.override = []) :
    o.document = .ofFields (Document.sections setup.settings request hops r) := by
  rw [hb.output, hcfg]
  rfl

/-- And without a resolver of the user's own, its parts are those that it was put together from. -/
theorem hasParts_of_built (hb : Built setup request root ps hops r o)
    (hcfg : root.customConfig.tree.override = [])
    (hdns : setup.settings.routing.useDnsObject = false) :
    o.HasParts (Document.parts setup.settings request hops r) := by
  have hdoc := document_of_built hb hcfg
  refine ⟨?_, ?_, ?_, ?_, ?_, ?_⟩ <;>
    simp [Tree.at?, hdoc, Document.sections, Document.parts, Routing.toTree, Dns.build, hdns,
      Fields.get?_set]

end Output

/-- An outbound with a reserved tag is in every document. -/
theorem isTagIn_reservedOutbounds {tag : String} (h : Tag.isReserved tag = true) :
    (Tree.str tag).IsTagIn reservedOutbounds := by
  refine ⟨tag, rfl, ?_⟩
  rcases Tag.isReserved_iff.1 h with rfl | rfl | rfl
  · exact ⟨_, List.mem_cons_self, by simp⟩
  · exact ⟨_, List.mem_cons_of_mem _ List.mem_cons_self, by simp⟩
  · exact ⟨_, List.mem_cons_of_mem _ (List.mem_cons_of_mem _ List.mem_cons_self), by simp⟩

/-- A tag is still found among more entries. -/
theorem Tree.IsTagIn.mono {entries more : List Tree} {v : Tree} (h : v.IsTagIn entries)
    (hsub : ∀ t ∈ entries, t ∈ more) : v.IsTagIn more := by
  obtain ⟨tag, hv, t, ht, htag⟩ := h
  exact ⟨tag, hv, t, hsub t ht, htag⟩

namespace Document

variable (hb : Built setup request root ps hops r o) (hown : ∀ p ∈ ps, p.LeavesLinks)

/-! ### References to outbounds -/

/-- Every document has the reserved outbounds. -/
theorem isTagIn_of_reserved {targets : List Target} {tag : String}
    (h : Tag.isReserved tag = true) : (Tree.str tag).IsTagIn (outbounds hops targets) := by
  refine (isTagIn_reservedOutbounds h).mono fun t ht => ?_
  rw [outbounds, List.append_assoc]
  exact List.mem_append_right _ (List.mem_append_left _ ht)

include hb hown in
theorem isTagIn_of_hop (hh : h ∈ hops) : (Tree.str h.tag).IsTagIn (outbounds hops r.targets) := by
  obtain ⟨i, hi⟩ := List.mem_iff_getElem?.1 hh
  obtain ⟨p, hp, hc⟩ := hb.compiled.exists_profile hi
  refine ⟨h.tag, rfl, .object (h.linkedTo hops[i + 1]?), ?_, ?_⟩
  · rw [outbounds, List.append_assoc]
    exact List.mem_append_left _
      (List.mem_map_of_mem (Hop.mem_linkedOutbounds.2 ⟨i, h, hi, rfl⟩))
  · rw [Tree.get?_object, Hop.get?_tag_linkedTo, hc.place.2.1]
    exact hc.get?_tag (hown p (List.mem_of_getElem? hp)).tag

include hb in
theorem isTagIn_of_target {t : Target} (ht : t ∈ r.targets) :
    (Tree.str t.tag).IsTagIn (outbounds hops r.targets) := by
  refine ⟨t.tag, rfl, .object t.outbound, ?_, ?_⟩
  · exact List.mem_append_right _ (List.mem_map_of_mem ht)
  · obtain ⟨-, -, -, -, -, hcompile⟩ := hb.routing.targets.exists_id ht
    exact (get?_compileNative hcompile).1

include hb hown in
theorem isTagIn_entry (hne : ps ≠ []) :
    (Tree.str (Hop.entryTag hops)).IsTagIn (outbounds hops r.targets) := by
  have hne' : hops ≠ [] := by
    intro he
    have hlen := hb.compiled.length_eq
    rw [he] at hlen
    exact hne (List.length_eq_zero_iff.1 hlen.symm)
  obtain ⟨h, rest, rfl⟩ := List.exists_cons_of_ne_nil hne'
  exact isTagIn_of_hop hb hown List.mem_cons_self

include hb hown in
/-- The outbounds that rules may select are there: the entry takes the place of the fixed name of
the chain. -/
theorem isTagIn_of_tagMap (hne : ps ≠ []) {id : Int64} {tag : String}
    (h : TagMap.get? id (Routing.tagMap (Hop.entryTag hops) r.targets) = some tag) :
    (Tree.str tag).IsTagIn (outbounds hops r.targets) := by
  -- the targets decide first, then the entry, and the fixed names last
  rw [Routing.tagMap, TagMap.get?_append, TagMap.get?_append] at h
  cases htarget : TagMap.get? id (r.targets.map fun t => (t.profile.id, t.tag)) with
  | some tag' =>
    rw [htarget, Option.some_or] at h
    cases h
    obtain ⟨t, ht, he⟩ := List.mem_map.1 (TagMap.mem_of_get? htarget)
    cases he
    exact isTagIn_of_target hb ht
  | none =>
    rw [htarget, Option.none_or] at h
    by_cases hid : id = sentinelProxy
    · subst hid
      cases h
      exact isTagIn_entry hb hown hne
    · have hnone : TagMap.get? id [(sentinelProxy, Hop.entryTag hops)] = none := by
        simp [TagMap.get?, Ne.symm hid]
      rw [hnone, Option.none_or] at h
      rcases TagMap.get?_sentinels h with ⟨he, -⟩ | hreserved
      · exact absurd he hid
      · exact isTagIn_of_reserved hreserved

include hb hown in
/-- A detour is written by linking, which names the next hop; targets have none. -/
theorem refersInto_detour
    (htargets : ∀ p ∈ setup.store.profiles, Fields.Lacks "detour" p.protocol.ownOutbound)
    {t : Tree} (ht : t ∈ outbounds hops r.targets) :
    t.RefersInto (outbounds hops r.targets) "detour" := by
  intro v hv
  rw [outbounds, List.mem_append, List.mem_append] at ht
  rcases ht with (ht | ht) | ht
  · obtain ⟨fields, hf, rfl⟩ := List.mem_map.1 ht
    obtain ⟨i, h, hh, rfl⟩ := Hop.mem_linkedOutbounds.1 hf
    -- the only detour of a hop is the one that linking puts there
    have hdetour := Output.get?_detour_of_hop hb hown hh
    rw [Tree.get?_object] at hv
    unfold Hop.linkedTo at hv
    split at hv
    · rename_i n hn
      split at hv
      · rw [Fields.get?_set_self] at hv
        cases hv
        exact isTagIn_of_hop hb hown (List.mem_of_getElem? hn)
      · rw [hdetour] at hv
        cases hv
    · rw [hdetour] at hv
      cases hv
  · simp only [reservedOutbounds, List.mem_cons, List.not_mem_nil, or_false] at ht
    rcases ht with rfl | rfl | rfl <;> simp [Fields.get?_set] at hv
  · obtain ⟨target, ht', rfl⟩ := List.mem_map.1 ht
    obtain ⟨_, _, -, hp, -, hcompile⟩ := hb.routing.targets.exists_id ht'
    have hlacks := htargets _ (Store.mem_of_profile? hp)
    rw [Tree.get?_object, (get?_compileNative hcompile).2, Fields.get?_eq_none_iff.2 hlacks] at hv
    cases hv

include hb hown in
/-- A rule is written only for an id that has a tag, and each such tag is found. -/
theorem exists_outbound_of_rule (hne : ps ≠ []) {t : Tree}
    (ht : t ∈ (parts setup.settings request hops r).rules) :
    ∃ v, t.get? "outbound" = some v ∧ v.IsTagIn (outbounds hops r.targets) := by
  rcases List.mem_append.1 ht with ht | ht
  · obtain ⟨d, hd, rfl⟩ := List.mem_map.1 ht
    refine ⟨.str d.outbound, by simp [Hop.Redirect.toTree], ?_⟩
    obtain ⟨i, h, hi, hr⟩ := Hop.mem_redirects.1 hd
    rcases Hop.outbound_of_redirectTo hr with ⟨n, hn, he⟩ | he
    · rw [he]
      exact isTagIn_of_hop hb hown (List.mem_of_getElem? hn)
    · rw [he]
      exact isTagIn_of_reserved (by decide)
  · obtain ⟨rule, -, -, tag, htag, rfl⟩ := RuleChain.mem_routeRules.1 ht
    exact ⟨.str tag, rule.get?_outbound_toTree tag, isTagIn_of_tagMap hb hown hne htag⟩

include hb hown in
/-- What no rule matches goes to the entry, or to a reserved outbound. -/
theorem isTagIn_final (hne : ps ≠ [])
    (hdef : setup.settings.routing.defOutbound = Tag.proxy ∨
      Tag.isReserved setup.settings.routing.defOutbound = true) :
    (Tree.str (Routing.finalTag setup.settings (Hop.entryTag hops))).IsTagIn
      (outbounds hops r.targets) := by
  unfold Routing.finalTag
  split
  · exact isTagIn_entry hb hown hne
  · rename_i hproxy
    rcases hdef with hdef | hdef
    · exact absurd hdef hproxy
    · exact isTagIn_of_reserved hdef

/-! ### References to inbounds -/

include hb in
/-- The rule of a redirect names its inbound. -/
theorem exists_inbound_of_chainRule {t : Tree} (ht : t ∈ o.chainRules) :
    t ∈ (parts setup.settings request hops r).rules ∧
      ∃ tag, t.get? "inbound" = some (.list [tag]) ∧
        tag.IsTagIn (inbounds setup.settings request hops) := by
  rw [Output.chainRules, Output.redirects_of_built hb] at ht
  refine ⟨List.mem_append_left _ ht, ?_⟩
  obtain ⟨d, hd, rfl⟩ := List.mem_map.1 ht
  refine ⟨.str (Tag.mapping d.hop), by simp [Hop.Redirect.toTree, Tree.ofStrings, Fields.get?_set], ?_⟩
  obtain ⟨i, h, hi, hr⟩ := Hop.mem_redirects.1 hd
  obtain ⟨p, hp, hc⟩ := hb.compiled.exists_profile hi
  obtain ⟨inbound, hin⟩ := hc.redirect_isSome (hb.compiled.eq_mapping_of_redirectTo hi hr)
  refine ⟨Tag.mapping d.hop, rfl, inbound, ?_, ?_⟩
  · refine List.mem_append_left _ (List.mem_append_right _ ?_)
    exact List.mem_filterMap.2 ⟨h, List.mem_of_getElem? hi, hin⟩
  · rw [(hc.get?_redirect hin).2, Hop.hop_of_redirectTo hr, hc.place.2.1]

/-! ### References to rule sets -/

include hb in
/-- Every rule set that is used has an entry. -/
theorem isTagIn_ruleSets {name : String} (h : name ∈ r.chain.usedRuleSets) :
    (Tree.str name).IsTagIn r.ruleSets := by
  have hmem : some (Tree.str name) ∈ r.ruleSets.map (Tree.get? "tag") := by
    rw [hb.routing.ruleSets]
    exact List.mem_map_of_mem h
  obtain ⟨t, ht, htag⟩ := List.mem_map.1 hmem
  exact ⟨name, rfl, t, ht, htag⟩

include hb in
theorem refersAllInto_ruleSets {t : Tree}
    (ht : t ∈ (parts setup.settings request hops r).rules ++
      (parts setup.settings request hops r).dnsRules) :
    t.RefersAllInto r.ruleSets "rule_set" := by
  intro v hv
  -- whichever rule it is, what it lists are rule sets of the chain
  have hnames : ∃ names : List String, v = .ofStrings names ∧
      ∀ name ∈ names, name ∈ r.chain.usedRuleSets := by
    rcases List.mem_append.1 ht with ht | ht
    · rcases List.mem_append.1 ht with ht | ht
      · obtain ⟨d, -, rfl⟩ := List.mem_map.1 ht
        simp [Hop.Redirect.toTree, Fields.get?_set] at hv
      · obtain ⟨rule, hrule, -, tag, -, rfl⟩ := RuleChain.mem_routeRules.1 ht
        rw [Rule.get?_ruleSet_toTree] at hv
        split at hv
        · cases hv
        · cases hv
          exact ⟨_, rfl, fun name hname => RuleChain.mem_usedRuleSets.2 ⟨rule, hrule, hname⟩⟩
    · exact ⟨_, Dns.ruleSet_of_rule ht hv,
        fun name hname => RuleChain.mem_usedRuleSets_of_classify hname⟩
  obtain ⟨names, rfl, hused⟩ := hnames
  refine ⟨_, rfl, fun name hname => ?_⟩
  obtain ⟨text, htext, rfl⟩ := List.mem_map.1 hname
  exact isTagIn_ruleSets hb (hused text htext)

end Document

end Built

/-- **No reference of a document leads nowhere.** The override of the document and a section of name
resolution of the user's own are left out, since they may refer to anything, and the traffic that no
rule selects must go to the chain or to an outbound that every document has. -/
theorem closed_of_run {σ : Type} [RuleSetService σ] {setup : Setup} {request : Request}
    {root : Profile} {ps : List Profile} {o : Output} {s s' : BuildState σ}
    (hroot : root.isFullDocument = false)
    (hr : Build.run (Build.profile setup request root) s = (.ok o, s'))
    (hps : setup.store.hops root (!request.test) = .ok ps) (hne : ps ≠ [])
    (hdns : setup.settings.routing.useDnsObject = false)
    (hdef : setup.settings.routing.defOutbound = Tag.proxy ∨
      Tag.isReserved setup.settings.routing.defOutbound = true)
    (hcfg : root.customConfig.tree.override = [])
    (hown : ∀ p ∈ ps, p.LeavesLinks)
    (htargets : ∀ p ∈ setup.store.profiles, Fields.Lacks "detour" p.protocol.ownOutbound) :
    ∃ d, o.HasParts d ∧ o.Closed d := by
  obtain ⟨hops, r, hb⟩ := built_of_hops hroot hr hps
  refine ⟨Document.parts setup.settings request hops r, Output.hasParts_of_built hb hcfg hdns, ?_⟩
  have hentry := Document.isTagIn_entry hb hown hne
  have hdirect : (Tree.str Tag.direct).IsTagIn (Document.outbounds hops r.targets) :=
    Document.isTagIn_of_reserved (by decide)
  refine {
    detours := fun t ht => Document.refersInto_detour hb hown htargets ht
    rules := fun t ht => Document.exists_outbound_of_rule hb hown hne ht
    final := fun v hv => ?_
    serverDetours := fun t ht v hv => ?_
    chainRules := fun t ht => Document.exists_inbound_of_chainRule hb ht
    resolvers := fun t ht => Dns.refersInto_resolver ht
    dnsRules := fun t ht => Dns.exists_server_of_rule ht
    ruleSets := fun t ht => Document.refersAllInto_ruleSets hb ht }
  · have hfinal : v = .str (Routing.finalTag setup.settings (Hop.entryTag hops)) := by
      simp [Tree.at?, Output.document_of_built hb hcfg, Document.sections, Routing.toTree,
        Fields.get?_set] at hv
      exact hv.2.symm
    rw [hfinal]
    exact Document.isTagIn_final hb hown hne hdef
  · rcases Dns.detour_of_server ht hv with rfl | rfl
    · exact hentry
    · exact hdirect

/-- A build outside of the primary sequence, with rules for all kinds of targets. -/
theorem closed_of_run_sequence_two :
    ∃ o s' d,
      Build.run (Build.profile Setting.setup { seq := 2 } Setting.chain) Setting.start = (.ok o, s') ∧
        o.HasParts d ∧ o.Closed d := by
  obtain ⟨o, s', hr⟩ := Build.exists_run_eq_ok
    (b := Build.profile Setting.setup { seq := 2 } Setting.chain) (s := Setting.start) (by decide)
  obtain ⟨d, hparts, hclosed⟩ := closed_of_run rfl hr Setting.hops_chain (by simp) rfl (.inl rfl) rfl
    Setting.leavesLinks (by decide)
  exact ⟨o, s', d, hr, hparts, hclosed⟩

end Detour
