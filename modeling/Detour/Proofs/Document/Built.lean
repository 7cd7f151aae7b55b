import Detour.Build.Document
import Detour.Proofs.Hop.Compiled
/-!
# What a document is built from

A build that succeeds has compiled the hops of its profile and the routing of the active chain, and
put them together. `built_of_run` gives both for every profile that is not a whole document, with
the facts about them that the run guarantees: `Hop.CompiledChain` and `Routing.Compiled`.
-/

namespace Detour

section Runs

variable {σ : Type} {setup : Setup} {s s' : BuildState σ}

/-! ## Routing -/

/-- What compiling the targets of some ids results in, position by position. -/
structure Target.Compiled (setup : Setup) (seq : Nat) (ids : List Int64)
    (targets : List Target) : Prop where
  length_eq : targets.length = ids.length
  /-- Each target is the stored profile of the id at its position, compiled natively under the tag
  of its rank. -/
  compiled : ∀ i id t, ids[i]? = some id → targets[i]? = some t →
    setup.store.profile? id = some t.profile ∧ t.tag = Tag.routeTarget seq i ∧
      compileNative setup.settings t.profile t.tag = .ok t.outbound

/-- Every target has an id at its position. -/
theorem Target.Compiled.exists_id {seq : Nat} {ids : List Int64} {targets : List Target}
    {t : Target} (hc : Target.Compiled setup seq ids targets) (ht : t ∈ targets) :
    ∃ i id, ids[i]? = some id ∧ setup.store.profile? id = some t.profile ∧
      t.tag = Tag.routeTarget seq i ∧
        compileNative setup.settings t.profile t.tag = .ok t.outbound := by
  obtain ⟨i, hi⟩ := List.mem_iff_getElem?.1 ht
  have hlt : i < ids.length := by
    rw [← hc.length_eq]
    exact (List.getElem?_eq_some_iff.1 hi).1
  have hid : ids[i]? = some ids[i] := List.getElem?_eq_getElem hlt
  exact ⟨i, ids[i], hid, hc.compiled i _ t hid hi⟩

/-- The targets are the profiles with the ids. -/
theorem Target.Compiled.map_id {seq : Nat} {ids : List Int64} {targets : List Target}
    (hc : Target.Compiled setup seq ids targets) :
    targets.map (fun t => t.profile.id) = ids := by
  refine List.ext_getElem (by rw [List.length_map, hc.length_eq]) fun i hi hi' => ?_
  rw [List.getElem_map]
  rw [List.length_map] at hi
  exact Store.id_of_profile? (hc.compiled i ids[i] targets[i] (List.getElem?_eq_getElem hi')
    (List.getElem?_eq_getElem hi)).1

/-- The part of a run from a rank on. -/
theorem Target.compiled_of_runFrom {seq rank : Nat} {bound ids : List Int64}
    {targets : List Target}
    (hr : Build.run (Target.compileFrom setup seq bound rank ids) s = (.ok targets, s')) :
    targets.length = ids.length ∧ ∀ i id t, ids[i]? = some id → targets[i]? = some t →
      setup.store.profile? id = some t.profile ∧ t.tag = Tag.routeTarget seq (rank + i) ∧
        compileNative setup.settings t.profile t.tag = .ok t.outbound := by
  induction ids generalizing rank targets s with
  | nil =>
    cases hr
    simp
  | cons id rest ih =>
    simp only [compileFrom] at hr
    split at hr
    · cases hr
    · rename_i p hp
      simp only [Build.run_bind_eq_ok, Build.run_ofExcept_eq_ok] at hr
      obtain ⟨outbound, s₁, ⟨hown, -⟩, hr⟩ := hr
      -- whether the counters are bound or not, the same targets are compiled behind this one
      have htail : ∃ (ts : List Target) (s₂ : BuildState σ),
          Build.run (compileFrom setup seq bound (rank + 1) rest) s₂ = (.ok ts, s') ∧
            targets = ⟨p, Tag.routeTarget seq rank, outbound⟩ :: ts := by
        split at hr
        · obtain ⟨ts, s₂, hrest, hpure⟩ := Build.run_bind_eq_ok.1 hr
          cases hpure
          exact ⟨ts, s₁, hrest, rfl⟩
        · obtain ⟨-, s₂, -, hr⟩ := Build.run_bind_eq_ok.1 hr
          obtain ⟨ts, s₃, hrest, hpure⟩ := Build.run_bind_eq_ok.1 hr
          cases hpure
          exact ⟨ts, s₂, hrest, rfl⟩
      obtain ⟨ts, s₂, hrest, rfl⟩ := htail
      obtain ⟨hlen, hget⟩ := ih hrest
      refine ⟨by simp [hlen], fun i id' t hid ht => ?_⟩
      cases i with
      | zero =>
        cases hid
        cases ht
        exact ⟨hp, rfl, hown⟩
      | succ i =>
        have := hget i id' t (by simpa using hid) (by simpa using ht)
        rwa [Nat.add_right_comm rank 1 i] at this

variable [RuleSetService σ]

namespace Build

/-- The entries of rule sets have the names as their tags, in order. -/
theorem tags_of_ruleSetEntries {names : List String} {entries : List Tree}
    (hr : run (ruleSetEntries names) s = (.ok entries, s')) :
    entries.map (Tree.get? "tag") = names.map fun name => some (.str name) := by
  induction names generalizing entries s with
  | nil =>
    cases hr
    rfl
  | cons name rest ih =>
    simp only [ruleSetEntries, run_bind_eq_ok] at hr
    obtain ⟨-, s₁, -, s₂, s₃, -, es, s₄, hrest, hpure⟩ := hr
    cases hpure
    simp [ih hrest, Fields.get?_set]

end Build

/-- What compiling the routing of a document results in. -/
structure Routing.Compiled (setup : Setup) (seq : Nat) (r : Routing) : Prop where
  chain : setup.store.chain? setup.settings.routing.currentRouteId = some r.chain
  targets : Target.Compiled setup seq (Routing.targetIds r.chain) r.targets
  /-- Each rule set that the chain refers to has an entry. -/
  ruleSets : r.ruleSets.map (Tree.get? "tag") =
    r.chain.usedRuleSets.map fun name => some (.str name)

theorem Routing.compiled_of_run {seq : Nat} {bound : List Int64} {r : Routing}
    (hr : Build.run (Routing.compile setup seq bound) s = (.ok r, s')) :
    Routing.Compiled setup seq r := by
  simp only [Routing.compile, Build.run_bind_eq_ok] at hr
  obtain ⟨s₁, s₂, -, hr⟩ := hr
  split at hr
  · obtain ⟨_, _, hthrow, _⟩ := Build.run_bind_eq_ok.1 hr
    cases hthrow
  · split at hr
    · cases hr
    · rename_i chain hchain
      simp only [Build.run_bind_eq_ok] at hr
      obtain ⟨targets, s₄, htargets, ruleSets, s₅, hsets, hpure⟩ := hr
      cases hpure
      obtain ⟨hlen, hget⟩ := Target.compiled_of_runFrom htargets
      refine ⟨hchain, ⟨hlen, fun i id t hid ht => ?_⟩, Build.tags_of_ruleSetEntries hsets⟩
      have := hget i id t hid ht
      rwa [Nat.zero_add] at this

/-! ## Documents -/

/-- The hops and the routing that a build was put together from. -/
structure Built (setup : Setup) (request : Request) (root : Profile) (ps : List Profile)
    (hops : List Hop) (r : Routing) (o : Output) : Prop where
  resolved : setup.store.hops root (!request.test) = .ok ps
  compiled : Hop.CompiledChain setup.settings request.seq ps hops
  routing : Routing.Compiled setup request.seq r
  /-- The override of the profile is merged in last. -/
  output : o = { Document.assemble setup.settings request root hops r with
    document := (Tree.ofFields (Document.sections setup.settings request hops r)).merge
      (.object root.customConfig.tree.override) }

theorem Built.resolved_eq {request : Request} {root : Profile} {ps ps' : List Profile}
    {hops : List Hop} {r : Routing} {o : Output} (hb : Built setup request root ps hops r o)
    (hps : setup.store.hops root (!request.test) = .ok ps') : ps = ps' := by
  have := hb.resolved
  rw [hps] at this
  exact (Except.ok.inj this).symm

/-- A whole document is a configuration of the user's own. -/
theorem Profile.exists_custom_of_full {root : Profile} (hroot : root.isFullDocument = true) :
    ∃ c, root.protocol = .custom c ∧ c.isInternalFull = true := by
  unfold Profile.isFullDocument Protocol.isFullDocument at hroot
  split at hroot
  · rename_i c hc
    exact ⟨c, hc, hroot⟩
  · cases hroot

theorem Build.plain_eq_generate {request : Request} {root : Profile}
    (hroot : root.isFullDocument = false) :
    (Build.plain setup request root : Build σ Output) = Build.generate setup request root := by
  unfold Build.plain
  split
  · rename_i c hc
    have : c.isInternalFull = false := by
      simpa [Profile.isFullDocument, Protocol.isFullDocument, hc] using hroot
    simp [this]
  · rfl

/-- A whole document is the configuration that it holds, with the override merged in, whatever else is
asked for. -/
theorem Build.run_profile_of_full {root : Profile} {c : Custom} (hc : root.protocol = .custom c)
    (hfull : c.isInternalFull = true) (request : Request) (s : BuildState σ) :
    Build.run (Build.profile setup request root) s = (match c.configObject? with
      | some fields => .ok {
          document := (Tree.object fields).merge (.object root.customConfig.tree.override) }
      | none => .error .documentNotObject, s) := by
  simp only [Build.profile, Build.plain, hc, hfull, if_true]
  cases c.configObject? <;> rfl

/-- A build merges the override of the profile into what it is without one. -/
theorem plain_of_run {request : Request} {root : Profile} {o : Output}
    (hr : Build.run (Build.profile setup request root) s = (.ok o, s')) :
    ∃ plain, Build.run (Build.plain setup request root) s = (.ok plain, s') ∧
      o = { plain with
        document := plain.document.merge (.object root.customConfig.tree.override) } := by
  simp only [Build.profile, Build.run_bind_eq_ok] at hr
  obtain ⟨plain, s₁, hplain, hpure⟩ := hr
  cases hpure
  exact ⟨plain, hplain, rfl⟩

/-- The steps of a successful build: the hops are compiled on the state that it starts from, then the
counters of a chain are bound, and the routing comes last. -/
theorem steps_of_plain {request : Request} {root : Profile} {plain : Output}
    (hroot : root.isFullDocument = false)
    (hr : Build.run (Build.plain setup request root) s = (.ok plain, s')) :
    ∃ ps hops r s₁ s₂, setup.store.hops root (!request.test) = .ok ps ∧
      Build.run (Hop.compileAll setup.settings request.seq ps) s = (.ok hops, s₁) ∧
      s₂ = (if 1 < hops.length then
        { s₁ with ledger := s₁.ledger.bind root.id root.id (Hop.entryTag hops) } else s₁) ∧
      Build.run (Routing.compile setup request.seq (Document.traffic root hops [])) s₂ =
        (.ok r, s') ∧
      plain = Document.assemble setup.settings request root hops r := by
  rw [Build.plain_eq_generate hroot] at hr
  simp only [Build.generate, Build.run_bind_eq_ok, Build.run_ofExcept_eq_ok] at hr
  obtain ⟨ps, s₀, ⟨hps, rfl⟩, hops, s₁, hhops, hr⟩ := hr
  split at hr
  · rename_i hchain
    obtain ⟨⟨⟩, s₂, hbind, hr⟩ := Build.run_bind_eq_ok.1 hr
    obtain ⟨r, s₃, hrouting, hpure⟩ := Build.run_bind_eq_ok.1 hr
    cases hbind
    cases hpure
    exact ⟨ps, hops, r, s₁, _, hps, hhops, (if_pos hchain).symm, hrouting, rfl⟩
  · rename_i hchain
    obtain ⟨r, s₃, hrouting, hpure⟩ := Build.run_bind_eq_ok.1 hr
    cases hpure
    exact ⟨ps, hops, r, s₁, _, hps, hhops, (if_neg hchain).symm, hrouting, rfl⟩

theorem steps_of_run {request : Request} {root : Profile} {o : Output}
    (hroot : root.isFullDocument = false)
    (hr : Build.run (Build.profile setup request root) s = (.ok o, s')) :
    ∃ ps hops r s₁ s₂, setup.store.hops root (!request.test) = .ok ps ∧
      Build.run (Hop.compileAll setup.settings request.seq ps) s = (.ok hops, s₁) ∧
      s₂ = (if 1 < hops.length then
        { s₁ with ledger := s₁.ledger.bind root.id root.id (Hop.entryTag hops) } else s₁) ∧
      Build.run (Routing.compile setup request.seq (Document.traffic root hops [])) s₂ =
        (.ok r, s') ∧
      o = { Document.assemble setup.settings request root hops r with
        document := (Tree.ofFields (Document.sections setup.settings request hops r)).merge
          (.object root.customConfig.tree.override) } := by
  obtain ⟨plain, hplain, rfl⟩ := plain_of_run hr
  obtain ⟨ps, hops, r, s₁, s₂, hps, hhops, hs₂, hrouting, rfl⟩ := steps_of_plain hroot hplain
  exact ⟨ps, hops, r, s₁, s₂, hps, hhops, hs₂, hrouting, rfl⟩

/-- **What a successful build was put together from.** The hops were compiled first, on the state
that the build started from. -/
theorem built_with_hops_of_run {request : Request} {root : Profile} {o : Output}
    (hroot : root.isFullDocument = false)
    (hr : Build.run (Build.profile setup request root) s = (.ok o, s')) :
    ∃ ps hops r s₁, Built setup request root ps hops r o ∧
      Build.run (Hop.compileAll setup.settings request.seq ps) s = (.ok hops, s₁) := by
  obtain ⟨ps, hops, r, s₁, s₂, hps, hhops, -, hrouting, ho⟩ := steps_of_run hroot hr
  exact ⟨ps, hops, r, s₁,
    ⟨hps, Hop.compiledChain_of_run hhops, Routing.compiled_of_run hrouting, ho⟩, hhops⟩

theorem built_of_run {request : Request} {root : Profile} {o : Output}
    (hroot : root.isFullDocument = false)
    (hr : Build.run (Build.profile setup request root) s = (.ok o, s')) :
    ∃ ps hops r, Built setup request root ps hops r o := by
  obtain ⟨ps, hops, r, -, hb, -⟩ := built_with_hops_of_run hroot hr
  exact ⟨ps, hops, r, hb⟩

/-- The hops are those that the store resolves the profile to. -/
theorem built_of_hops {request : Request} {root : Profile} {ps : List Profile} {o : Output}
    (hroot : root.isFullDocument = false)
    (hr : Build.run (Build.profile setup request root) s = (.ok o, s'))
    (hps : setup.store.hops root (!request.test) = .ok ps) :
    ∃ hops r, Built setup request root ps hops r o := by
  obtain ⟨ps', hops, r, hb⟩ := built_of_run hroot hr
  obtain rfl := hb.resolved_eq hps
  exact ⟨hops, r, hb⟩

end Runs

/-! ## A setting

Two servers, of which one speaks to a helper, and a chain that passes that one twice. With the VPN on
both of its passes go through redirects. -/

namespace Setting

/-- A server that only an external core can speak to. -/
def bridged : Profile :=
  { id := 1
    protocol := .custom {
      server := "far.example", serverPort := 443, core := "naive",
      command := ["--listen=%socks_port%"] } }

/-- A server that the core speaks to by itself. -/
def native : Profile :=
  { id := 2, protocol := .socks { server := "near.example", serverPort := 1080 } }

/-- Through the bridged server, the native one, and the bridged one again. -/
def chain : Profile :=
  { id := 3, protocol := .chain [1, 2, 1] }

/-- Rules that select a resolver, a profile, the way out and the chain. -/
def rules : RuleChain :=
  { rules := [RuleChain.dnsRule, { domainSuffix := ["example"], outboundId := 2 },
      { ruleSet := ["geosite-ir"] }, { network := "udp", outboundId := sentinelProxy }] }

/-- The setting. -/
def setup : Setup where
  store := {
    profiles := [bridged, native, chain]
    groups := [{}]
    chains := [rules]
    defaultChain := rules }
  settings := {
    extraCores := .ofList [("naive", "/usr/bin/naive")]
    vpn := { enabled := true } }

/-- The state that builds start from. -/
def start : BuildState MemoryRuleSets :=
  { ports := ⟨20000⟩, ruleSets := {} }

theorem hops_chain : setup.store.hops chain true = .ok [bridged, native, bridged] := rfl

end Setting

end Detour
