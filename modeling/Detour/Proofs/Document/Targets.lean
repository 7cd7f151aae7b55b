import Detour.Proofs.Document.Routed
import Detour.Proofs.Document.Twins
import Detour.Proofs.Hop.Native
import Detour.Proofs.Tree.Paths
/-!
# Hops and targets

A profile stands in a document of its own as the only hop, and in the documents of other profiles as
a target of routing rules. Both are compiled natively, but the override of the profile is merged into
the hop alone. `merged_target_of_runs` says how the two outbounds differ: by their tags, and by what
the override has that the target does not.
-/

namespace Detour

section Compiled

variable {settings : Settings} {p : Profile} {tag : String} {fields : Fields}

/-- What is compiled natively is no configuration of a core that the document would have to leave to
a helper or to the user. -/
theorem native_of_compileNative (h : compileNative settings p tag = .ok fields)
    (nearest vpn : Bool) :
    p.protocol.bridging nearest vpn = .native ∧ p.isFullDocument = false := by
  obtain ⟨own, hown, hne, -⟩ := eq_setAll_of_compileNative h
  rw [Profile.isFullDocument]
  cases hp : p.protocol with
  | custom c =>
    rw [hp] at hown
    have hcore : c.core = Custom.internalCore := by
      by_contra hcore
      rw [Protocol.nativeOutbound, if_neg hcore] at hown
      cases hown
      exact hne rfl
    exact ⟨by simp [Protocol.bridging, Custom.isInternal, hcore], Custom.not_isInternalFull hcore⟩
  | chain ids =>
    rw [hp] at hown
    cases hown
    exact absurd rfl hne
  | _ => exact ⟨rfl, rfl⟩

/-- A hop is the target with another tag and the override merged in. -/
theorem ofNative_eq_merge {tag' : String} {own : Fields}
    (h : compileNative settings p tag = .ok fields) (h' : compileNative settings p tag' = .ok own) :
    (Hop.ofNative p tag' own).outbound =
      Fields.merge p.customOutbound.tree.override (fields.set "tag" (.str tag')) := by
  rw [← eq_set_of_compileNative h h']
  rfl

end Compiled

section Runs

variable {σ : Type} [RuleSetService σ] {setup : Setup} {request : Request} {p root : Profile}
  {o plain : Output} {s s' : BuildState σ}

theorem outbounds_of_plain (hroot : root.isFullDocument = false)
    (hr : Build.run (Build.plain setup request root) s = (.ok plain, s')) :
    ∃ ps hops r, setup.store.hops root (!request.test) = .ok ps ∧
      Hop.CompiledChain setup.settings request.seq ps hops ∧
      Routing.Compiled setup request.seq r ∧
      plain.outbounds = Document.outbounds hops r.targets := by
  obtain ⟨ps, hops, r, s₁, s₂, hps, hhops, -, hrouting, rfl⟩ := steps_of_plain hroot hr
  refine ⟨ps, hops, r, hps, Hop.compiledChain_of_run hhops, Routing.compiled_of_run hrouting, ?_⟩
  simp [Output.outbounds, Document.assemble, Document.sections, Fields.get?_set, Tree.items?]

/-- The only hop of a document stands first, as it was compiled. -/
theorem exists_hop_of_plain (hp : p.isFullDocument = false)
    (hhops : setup.store.hops p (!request.test) = .ok [p])
    (hr : Build.run (Build.plain setup request p) s = (.ok plain, s')) :
    ∃ h, plain.outbounds[0]? = some (.object h.outbound) ∧
      Hop.Compiled setup.settings p (Tag.hop request.seq p.id 0 1) true h := by
  obtain ⟨ps, hops, r, hps, hchain, -, hout⟩ := outbounds_of_plain hp hr
  rw [hhops] at hps
  cases hps
  obtain ⟨h, hh, hc⟩ := hchain.exists_hop (i := 0) rfl
  have hlast : hops[1]? = none :=
    List.getElem?_eq_none (by rw [hchain.length_eq]; exact Nat.le_refl 1)
  refine ⟨h, ?_, hc⟩
  rw [hout, Document.getElem?_outbounds _ hh, hlast]
  rfl

/-- Behind the hops and the reserved outbounds stand the targets, each at its rank. -/
theorem exists_target_of_plain {chain : RuleChain} {k : Nat} {id : Int64}
    (hroot : root.isFullDocument = false)
    (hr : Build.run (Build.plain setup request root) s = (.ok plain, s'))
    (hchain : setup.store.chain? setup.settings.routing.currentRouteId = some chain)
    (hk : chain.selected[k]? = some id) :
    ∃ ps q fields, setup.store.hops root (!request.test) = .ok ps ∧
      setup.store.profile? id = some q ∧
      compileNative setup.settings q (Tag.routeTarget request.seq k) = .ok fields ∧
      plain.outbounds[ps.length + reservedOutbounds.length + k]? = some (.object fields) := by
  obtain ⟨ps, hops, r, hps, hcompiled, hrouting, hout⟩ := outbounds_of_plain hroot hr
  have hactive := hrouting.chain
  rw [hchain] at hactive
  cases hactive
  obtain ⟨q, fields, hq, hown, hget⟩ := exists_target_of_selected hrouting hk
  refine ⟨ps, q, fields, hps, hq, hown, ?_⟩
  have hlen : ((Hop.linkedOutbounds hops).map Tree.object ++ reservedOutbounds).length =
      ps.length + reservedOutbounds.length := by
    simp [hcompiled.length_eq]
  rw [hout, Document.outbounds, List.getElem?_append_right (by omega), hlen,
    Nat.add_sub_cancel_left, hget]

end Runs

/-- **What tells a hop from a target.** A profile that is the only hop of its own document, and a
target in the document of another profile, is compiled to the same outbound in both but for the tag;
then its override is merged into the hop, and not into the target. So the two agree apart from their
tags exactly where the target has all that the override would put into it. -/
theorem merged_target_of_runs {σ : Type} [RuleSetService σ] {setup : Setup}
    {request request' : Request} {p root : Profile} {o o' : Output} {s s' t t' : BuildState σ}
    {chain : RuleChain} {k : Nat} (hp : setup.store.profile? p.id = some p)
    (hhops : setup.store.hops p (!request.test) = .ok [p])
    (hr : Build.run (Build.profile setup request p) s = (.ok o, s'))
    (hroot : root.isFullDocument = false)
    (hr' : Build.run (Build.profile setup request' root) t = (.ok o', t'))
    (hchain : setup.store.chain? setup.settings.routing.currentRouteId = some chain)
    (hk : chain.selected[k]? = some p.id) :
    ∃ (ps : List Profile) (plain plain' : Output) (hop target : Fields),
      setup.store.hops root (!request'.test) = .ok ps ∧
      Build.run (Build.plain setup request p) s = (.ok plain, s') ∧ o = plain.overriddenBy p ∧
      Build.run (Build.plain setup request' root) t = (.ok plain', t') ∧
      o' = plain'.overriddenBy root ∧
      plain.outbounds[0]? = some (.object hop) ∧
      plain'.outbounds[ps.length + reservedOutbounds.length + k]? = some (.object target) ∧
      target.get? "tag" = some (.str (Tag.routeTarget request'.seq k)) ∧
      hop = Fields.merge p.customOutbound.tree.override
        (target.set "tag" (.str (Tag.hop request.seq p.id 0 1))) ∧
      (Fields.AgreeOff "tag" hop target ↔
        (Tree.object target).Includes (.object (p.customOutbound.tree.override.erase "tag"))) := by
  obtain ⟨plain, hplain, rfl⟩ := plain_of_run hr
  obtain ⟨plain', hplain', rfl⟩ := plain_of_run hr'
  obtain ⟨ps, q, target, hps, hq, htarget, hget'⟩ := exists_target_of_plain hroot hplain' hchain hk
  rw [hp] at hq
  cases hq
  -- what was compiled as a target is native as a hop, too
  obtain ⟨hmode, hfull⟩ := native_of_compileNative htarget true setup.settings.vpn.enabled
  obtain ⟨h, hget, hc⟩ := exists_hop_of_plain hfull hhops hplain
  cases hc with
  | bridged hmode' hbridged _ =>
    rw [← hmode', hmode] at hbridged
    cases hbridged
  | native _ hown =>
    have hhop := ofNative_eq_merge htarget hown
    refine ⟨ps, plain, plain', _, target, hps, hplain, rfl, hplain', rfl, hget, hget',
      (get?_compileNative htarget).1, hhop, ?_⟩
    rw [hhop]
    exact Tree.agreeOff_merge_set_iff (ordered_of_compileNative htarget)
      p.customOutbound.ordered_override "tag" _

/-- The native server with an override of its own. -/
def Setting.tuned : Profile :=
  { Setting.native with
    customOutbound := ⟨.object [("tcp_fast_open", .bool true)],
      by simp [Tree.Ordered, Tree.OrderedFields]⟩ }

/-- The setting with this server in the place of the plain one. -/
def Setting.tunedSetup : Setup :=
  { Setting.setup with store := Setting.setup.store.insert Setting.tuned }

/-- As a target of rules the server lacks what its override puts into its hop. -/
theorem merged_target_of_runs_tuned :
    ∃ (o o' : Output) (s' t' : BuildState MemoryRuleSets) (plain plain' : Output)
      (hop target : Fields),
      Build.run (Build.profile Setting.tunedSetup {} Setting.tuned) Setting.start = (.ok o, s') ∧
      Build.run (Build.profile Setting.tunedSetup {} Setting.bridged) Setting.start =
        (.ok o', t') ∧
      o = plain.overriddenBy Setting.tuned ∧ o' = plain'.overriddenBy Setting.bridged ∧
      plain.outbounds[0]? = some (.object hop) ∧ plain'.outbounds[4]? = some (.object target) ∧
      ¬ Fields.AgreeOff "tag" hop target := by
  obtain ⟨o, s', hr⟩ := Build.exists_run_eq_ok
    (b := Build.profile Setting.tunedSetup {} Setting.tuned) (s := Setting.start) (by decide)
  obtain ⟨o', t', hr'⟩ := Build.exists_run_eq_ok
    (b := Build.profile Setting.tunedSetup {} Setting.bridged) (s := Setting.start) (by decide)
  have hchain : Setting.tunedSetup.store.chain?
      Setting.tunedSetup.settings.routing.currentRouteId = some Setting.rules := rfl
  obtain ⟨ps, plain, plain', hop, target, hps, -, ho, hplain', ho', hget, hget', -, -, hiff⟩ :=
    merged_target_of_runs (k := 0) rfl rfl hr rfl hr' hchain rfl
  cases hps
  refine ⟨o, o', s', t', plain, plain', hop, target, hr, hr', ho, ho', hget, hget', ?_⟩
  have hlacks : (Build.run (Build.plain Setting.tunedSetup {} Setting.bridged)
      Setting.start).1.map (fun q => q.outbounds[4]?.bind (Tree.get? "tcp_fast_open")) = .ok none :=
    rfl
  have hout : plain'.outbounds[4]? = some (.object target) := hget'
  rw [hplain'] at hlacks
  have hnone : plain'.outbounds[4]?.bind (Tree.get? "tcp_fast_open") = none := Except.ok.inj hlacks
  rw [hout] at hnone
  rw [hiff]
  intro hincludes
  have hsome := hincludes.scalar ["tcp_fast_open"] (.bool true) (by simp) rfl rfl
  cases hnone.symm.trans hsome

end Detour
