import Detour.Proofs.Document.Routed
import Detour.Proofs.Document.Lookups
/-!
# The rule of the direct resolver

One rule of a document chooses the direct resolver. What it names is gathered in three passes: over
the hops, over the selected profiles, and over the texts that the chain of rules makes of its direct
rules. `directed_of_run` says what comes of it, kind by kind and in order: `Setup.directSites` reads
it off the store and the chain alone.
-/

namespace Detour

instance (text : String) : Decidable (Address.IsName text) :=
  inferInstanceAs (Decidable (_ ∧ _))

/-- The names among some addresses, without the blanks around them, each where it comes first. -/
def Address.names (addresses : List String) : List String :=
  ((addresses.map Text.trim).filter fun a => IsName a).eraseDups

/-- What a document has to have looked up directly: the servers of its hops and of the profiles that
rules select, and then what the direct rules name. -/
def Setup.directSites (setup : Setup) (ps : List Profile) (chain : RuleChain) :
    Dns.DirectSites where
  domain := Address.names ((ps ++ chain.selected.filterMap setup.store.profile?).map
      fun p => p.protocol.dialAddress) ++ chain.directRules.flatMap Rule.domain
  domainSuffix := chain.directRules.flatMap Rule.domainSuffix
  domainKeyword := chain.directRules.flatMap Rule.domainKeyword
  domainRegex := chain.directRules.flatMap Rule.domainRegex
  ruleSet := (chain.directRules.flatMap Rule.ruleSet).filter
    fun name => ¬ "_IP".toList <:+: name.toList

namespace Dns

/-- A list of names as the value of a key, which is absent without names. -/
def listed? (names : List String) : Option Tree :=
  if names = [] then none else some (.ofStrings names)

/-- What a rule that sends the sites to the direct resolver has under a key. -/
def DirectSites.value? (d : DirectSites) (key : String) : Option Tree :=
  if key = "server" then some (.str direct)
  else if key = "domain_regex" then listed? d.domainRegex
  else if key = "domain_keyword" then listed? d.domainKeyword
  else if key = "domain_suffix" then listed? d.domainSuffix
  else if key = "domain" then listed? d.domain
  else if key = "rule_set" then listed? d.ruleSet
  else none

/-- A rule chooses the direct resolver. -/
def ChoosesDirect (t : Tree) : Prop :=
  t.textAt? "server" = some direct

instance (t : Tree) : Decidable (ChoosesDirect t) :=
  inferInstanceAs (Decidable (_ = _))

end Dns

/-- A document sends some sites to the direct resolver and nothing else: by one rule, which lists
them, or by no rule if there are none. -/
def Output.SendsDirectly (sites : Dns.DirectSites) (o : Output) : Prop :=
  ∃ rules, o.document.at? ["dns", "rules"] = some (.list rules) ∧
    (sites = {} → ∀ t ∈ rules, ¬ Dns.ChoosesDirect t) ∧
    (sites ≠ {} → ∃ t, rules.filter (Dns.ChoosesDirect ·) = [t] ∧
      ∀ key, t.get? key = sites.value? key)

namespace Dns

variable {settings : Settings} {d : DirectSites}

namespace DirectSites

theorem isEmpty_iff : d.isEmpty = true ↔ d = {} := by
  obtain ⟨ruleSet, domain, suffix, keyword, regex⟩ := d
  simp [isEmpty, and_assoc]

theorem get?_toRule (d : DirectSites) (key : String) : d.toRule.get? key = d.value? key := by
  have hlisted : ∀ {names : List String} {other : String} {rest : Option Tree},
      (key = other → rest = none) →
      (if names ≠ [] ∧ key = other then some (.ofStrings names) else rest) =
        if key = other then listed? names else rest := by
    intro names other rest hrest
    by_cases hkey : key = other
    · by_cases hnames : names = [] <;> simp [hkey, hnames, listed?, hrest hkey]
    · simp [hkey]
  simp only [toRule, Tree.get?_ofFields, Fields.setAll_append, Fields.setAll_cons,
    Fields.setAll_nil, Fields.get?_set, Fields.get?_setAll_nonEmptyList, Fields.get?_nil]
  rw [value?]
  refine if_congr Iff.rfl rfl ?_
  rw [hlisted, hlisted, hlisted, hlisted, hlisted]
  all_goals
    rintro rfl
    simp

end DirectSites

/-- The rules of made-up addresses choose other resolvers. -/
theorem filter_rules (settings : Settings) (d : DirectSites) :
    (rules settings d).filter (ChoosesDirect ·) = if d = {} then [] else [d.toRule] := by
  have hdirect : ChoosesDirect d.toRule := by
    rw [ChoosesDirect, Tree.textAt?, DirectSites.get?_toRule]
    rfl
  have hlocal : ¬ ChoosesDirect (.ofFields [("outbound", .str "any"), ("server", .str «local»)]) := by
    decide
  have hfake : ¬ ChoosesDirect (.ofFields [("query_type", .ofStrings ["A", "AAAA"]),
      ("server", .str fake)]) := by
    decide
  simp only [rules, DirectSites.isEmpty_iff]
  by_cases hd : d = {}
  · cases settings.vpn.fakeDns <;> simp [hd, hlocal, hfake]
  · cases settings.vpn.fakeDns <;> simp [hd, hlocal, hfake, hdirect]

end Dns

/-- The names that are looked up are those among the addresses. -/
theorem Routing.lookups_eq_names (addresses : List String) :
    lookups addresses = Address.names addresses := by
  rw [lookups, firstOccurrences_eq_eraseDups, Address.names]
  congr 1
  refine List.filter_congr fun a _ => ?_
  rw [Bool.eq_iff_iff, decide_eq_true_eq, Address.IsName]
  simp

section Built

variable {setup : Setup} {request : Request} {root : Profile} {ps : List Profile} {hops : List Hop}
  {r : Routing} {o : Output}

/-- The targets of a compiled routing are the stored profiles that rules select, in their order. -/
theorem Routing.Compiled.map_profile {seq : Nat} (hc : Routing.Compiled setup seq r) :
    r.targets.map Target.profile = r.chain.selected.filterMap setup.store.profile? := by
  have hstored : r.targets.map (fun t => some t.profile) =
      r.chain.selected.map setup.store.profile? := by
    rw [← Routing.targetIds_eq_selected]
    refine List.ext_getElem (by simp [hc.targets.length_eq]) fun i hi hi' => ?_
    rw [List.length_map] at hi hi'
    obtain ⟨hp, -⟩ := hc.targets.compiled i _ _ (List.getElem?_eq_getElem hi')
      (List.getElem?_eq_getElem hi)
    rw [List.getElem_map, List.getElem_map, hp]
  have hsome := congrArg (List.filterMap id) hstored
  rw [List.filterMap_map, List.filterMap_map] at hsome
  rw [← List.filterMap_eq_map]
  exact hsome

/-- A document has looked up what its store and its chain say. -/
theorem Document.directSites_of_built (hb : Built setup request root ps hops r o) :
    Document.directSites hops r = setup.directSites ps r.chain := by
  have haddresses : hops.map (fun h => h.profile.protocol.dialAddress) ++
      r.targets.map (fun t => t.profile.protocol.dialAddress) =
        (ps ++ r.chain.selected.filterMap setup.store.profile?).map
          fun p => p.protocol.dialAddress := by
    rw [List.map_append, ← hb.routing.map_profile, ← hb.compiled.map_profile, List.map_map,
      List.map_map]
    rfl
  rw [Document.directSites, haddresses, Routing.lookups_eq_names,
    Dns.DirectSites.classify_directSites]
  rfl

end Built

/-- **The rule of the direct resolver names what it is meant to.** Under each kind stand the names of
the direct rules of the active chain, in their order and whatever texts they are; before the full
names stand those of the servers of hops and of selected profiles. A kind without names is left out,
and so is the rule if there are none at all. -/
theorem directed_of_run {σ : Type} [RuleSetService σ] {setup : Setup} {request : Request}
    {root : Profile} {o : Output} {s s' : BuildState σ} (hroot : root.isFullDocument = false)
    (hr : Build.run (Build.profile setup request root) s = (.ok o, s'))
    (hdns : setup.settings.routing.useDnsObject = false)
    (hcfg : root.customConfig.tree.override = []) :
    ∃ ps chain, setup.store.hops root (!request.test) = .ok ps ∧
      setup.store.chain? setup.settings.routing.currentRouteId = some chain ∧
      o.SendsDirectly (setup.directSites ps chain) := by
  obtain ⟨ps, hops, r, hb⟩ := built_of_run hroot hr
  have hrules := (Output.hasParts_of_built hb hcfg hdns).dnsRules
  have hfilter := Dns.filter_rules setup.settings (setup.directSites ps r.chain)
  rw [Document.parts, Document.directSites_of_built hb] at hrules
  refine ⟨ps, r.chain, hb.resolved, hb.routing.chain, _, hrules, fun hempty => ?_, fun hsome => ?_⟩
  · rw [if_pos hempty] at hfilter
    exact fun t ht => by simpa using List.filter_eq_nil_iff.1 hfilter t ht
  · rw [if_neg hsome] at hfilter
    exact ⟨_, hfilter, Dns.DirectSites.get?_toRule _⟩

/-! ## Names that look like words -/

/-- Rules of which two name what looks like the words for other kinds, and an inverted one. -/
def Setting.wordy : RuleChain :=
  { rules := [
      { domain := ["ruleset:a", "b.example"], domainRegex := ["keyword:c"] },
      { domain := ["d.example"], invert := true },
      { domainSuffix := ["domain:e"], ruleSet := ["suffix:f", "geoip-g_IP"] },
      { network := "udp", outboundId := 2 }] }

/-- The setting with these rules. -/
def Setting.worded : Setup :=
  { Setting.setup with store := { Setting.setup.store with chains := [Setting.wordy] } }

/-- What looks like a word is named as it is, and a server that is passed twice stands once. -/
theorem directed_of_run_wordy :
    ∃ o s', Build.run (Build.profile Setting.worded {} Setting.chain) Setting.start = (.ok o, s') ∧
      o.SendsDirectly {
        domain := ["far.example", "near.example", "ruleset:a", "b.example"]
        domainSuffix := ["domain:e"]
        domainRegex := ["keyword:c"]
        ruleSet := ["suffix:f"] } := by
  obtain ⟨o, s', hr⟩ := Build.exists_run_eq_ok
    (b := Build.profile Setting.worded {} Setting.chain) (s := Setting.start) (by decide)
  obtain ⟨ps, chain, hps, hchain, hsends⟩ := directed_of_run rfl hr rfl rfl
  refine ⟨o, s', hr, ?_⟩
  have hsites : Setting.worded.directSites [Setting.bridged, Setting.native, Setting.bridged]
      Setting.wordy = {
        domain := ["far.example", "near.example", "ruleset:a", "b.example"]
        domainSuffix := ["domain:e"]
        domainRegex := ["keyword:c"]
        ruleSet := ["suffix:f"] } := by
    decide +kernel
  cases hps
  cases hchain
  rw [← hsites]
  exact hsends

end Detour
