import Detour.Proofs.Document.Renaming
import Detour.Proofs.Document.Twins
/-!
# Sequences are namespaces

The sequence of a build sets its tags apart from those of other builds and does nothing else.
`renamed_of_run` compares two builds of one profile: they fail with the same error, or they result
in the same, once the tags that the first one made are replaced by their counterparts.
-/

namespace Detour

/-! ## Counterparts -/

namespace Tag

/-- The tags that a build makes in one sequence beside those that it makes in another one: the tags
of hops, of their redirects, and of targets of rules up to a rank. -/
def counterparts (s t : Nat) (ps : List Profile) (ranks : Nat) : List (String × String) :=
  (Hop.tags s ps).zip (Hop.tags t ps) ++
    ((List.range ranks).map fun k => (routeTarget s k, routeTarget t k)) ++
    ((Hop.tags s ps).zip (Hop.tags t ps)).map fun c => (mapping c.1, mapping c.2)

/-- The counterpart of a tag; what is not among the tags of the build has none and is kept. -/
def counterpart (s t : Nat) (ps : List Profile) (ranks : Nat) (tag : String) : String :=
  (((counterparts s t ps ranks).find? fun c => c.1 = tag).map Prod.snd).getD tag

end Tag

/-- Nothing of the user's own comes between a build and the tags that it makes. -/
structure Setup.KeepsTags (setup : Setup) (root : Profile) (ps : List Profile) (chain : RuleChain) :
    Prop where
  hops : ∀ p ∈ ps, p.LeavesLinks
  targets : ∀ rule ∈ chain.rules, 0 ≤ rule.outboundId → ∀ p,
    setup.store.profile? rule.outboundId = some p → Fields.Lacks "detour" p.protocol.ownOutbound
  document : root.customConfig.tree.override = []
  defOutbound : setup.settings.routing.defOutbound = Tag.proxy ∨
    Tag.isReserved setup.settings.routing.defOutbound = true
  resolvers : setup.settings.routing.useDnsObject = false

/-- What a renaming has to do to the tags of the hops of a chain, from a position on, and to those of
their redirects. -/
structure Hop.RenamesFrom (s t length index : Nat) (ps : List Profile) (ρ : String → String) :
    Prop where
  hop : ∀ (i : Nat) (p : Profile), ps[i]? = some p →
    ρ (Tag.hop s p.id (index + i) length) = Tag.hop t p.id (index + i) length
  mapping : ∀ (i : Nat) (p : Profile), ps[i]? = some p →
    ρ (Tag.mapping (Tag.hop s p.id (index + i) length)) =
      Tag.mapping (Tag.hop t p.id (index + i) length)

/-- What a renaming has to do to the tags of a build. -/
structure Renames (s t : Nat) (ps : List Profile) (ranks : Nat) (ρ : String → String) : Prop
    extends Tag.KeepsFixed ρ where
  hops : Hop.RenamesFrom s t ps.length 0 ps ρ
  target : ∀ k < ranks, ρ (Tag.routeTarget s k) = Tag.routeTarget t k

/-! ## The counterparts of the tags of a build -/

namespace Tag

variable {s t : Nat} {ps : List Profile} {ranks : Nat} {tag : String}

/-- The tags with counterparts, by family. -/
theorem map_fst_counterparts (s t : Nat) (ps : List Profile) (ranks : Nat) :
    (counterparts s t ps ranks).map Prod.fst =
      [Hop.tags s ps, [], (List.range ranks).map (routeTarget s), [],
        (Hop.tags s ps).map mapping].flatten := by
  have hhops : ((Hop.tags s ps).zip (Hop.tags t ps)).map Prod.fst = Hop.tags s ps := by
    rw [List.map_fst_zip]
    simp [Hop.tags]
  have hmappings : (((Hop.tags s ps).zip (Hop.tags t ps)).map
      fun c => (mapping c.1, mapping c.2)).map Prod.fst = (Hop.tags s ps).map mapping := by
    conv_rhs => rw [← hhops]
    rw [List.map_map, List.map_map]
    rfl
  rw [counterparts, List.map_append, List.map_append, hhops, hmappings, List.map_map]
  simp [Function.comp_def]

theorem nodup_counterparts (s t : Nat) (ps : List Profile) (ranks : Nat) :
    ((counterparts s t ps ranks).map Prod.fst).Nodup := by
  rw [map_fst_counterparts]
  refine nodup_flatten_of_family ?_ ?_
  · simp only [List.forall_mem_cons]
    refine ⟨Hop.nodup_tags s ps, List.nodup_nil, ?_, List.nodup_nil, ?_, by simp⟩
    · exact List.pairwise_map.2
        (List.nodup_range.imp fun hne he => hne (routeTarget_injective he).2)
    · exact List.pairwise_map.2
        ((Hop.nodup_tags s ps).imp fun hne he => hne (mapping_injective he))
  · intro k l hl tag hmem
    match k, hl with
    | 0, rfl =>
      obtain ⟨i, p, -, rfl⟩ := Hop.mem_tags.1 hmem
      exact family_hop _ _ _ _
    | 2, rfl =>
      obtain ⟨rank, -, rfl⟩ := List.mem_map.1 hmem
      exact family_routeTarget s rank
    | 4, rfl =>
      obtain ⟨hop, -, rfl⟩ := List.mem_map.1 hmem
      exact family_mapping hop

theorem counterpart_of_mem {c : String × String} (hc : c ∈ counterparts s t ps ranks) :
    counterpart s t ps ranks c.1 = c.2 := by
  have hkeys := nodup_counterparts s t ps ranks
  rw [counterpart, ← List.head?_filter, filter_key_eq_singleton hkeys hc]
  rfl

/-- Tags of no chain and of no target are kept. -/
theorem counterpart_eq_self (hhop : tag ∉ Hop.tags s ps) (htarget : family tag ≠ 2)
    (hmapping : family tag ≠ 4) : counterpart s t ps ranks tag = tag := by
  have hnone : (counterparts s t ps ranks).find? (fun c => c.1 = tag) = none := by
    refine List.find?_eq_none.2 fun c hc he => ?_
    have hkey : tag ∈ (counterparts s t ps ranks).map Prod.fst :=
      List.mem_map.2 ⟨c, hc, of_decide_eq_true he⟩
    rw [map_fst_counterparts] at hkey
    simp only [List.flatten_cons, List.flatten_nil, List.nil_append, List.append_nil,
      List.mem_append] at hkey
    rcases hkey with hkey | hkey | hkey
    · exact hhop hkey
    · obtain ⟨rank, -, rfl⟩ := List.mem_map.1 hkey
      exact htarget (family_routeTarget s rank)
    · obtain ⟨hop, -, rfl⟩ := List.mem_map.1 hkey
      exact hmapping (family_mapping hop)
  rw [counterpart, hnone]
  rfl

/-- The counterpart of a tag is a renaming of all tags of a build. -/
theorem renames_counterpart (s t : Nat) (ps : List Profile) (ranks : Nat) :
    Renames s t ps ranks (counterpart s t ps ranks) := by
  have hpair : ∀ (i : Nat) (p : Profile), ps[i]? = some p →
      (hop s p.id (0 + i) ps.length, hop t p.id (0 + i) ps.length) ∈
        (Hop.tags s ps).zip (Hop.tags t ps) := by
    intro i p hp
    rw [Nat.zero_add]
    refine List.mem_iff_getElem?.2 ⟨i, List.getElem?_zip_eq_some.2 ⟨?_, ?_⟩⟩ <;>
      rw [Hop.getElem?_tags, hp] <;> rfl
  -- reserved tags and those of local inbounds are of families that no key is of
  have hother : ∀ tag, family tag = 1 ∨ family tag = 3 → counterpart s t ps ranks tag = tag := by
    intro tag hfamily
    refine counterpart_eq_self (fun hmem => ?_) (by omega) (by omega)
    obtain ⟨i, p, -, rfl⟩ := Hop.mem_tags.1 hmem
    rw [family_hop] at hfamily
    omega
  exact {
    reserved := fun tag htag =>
      hother tag (.inl (family_of_mem_reserved (List.contains_iff_mem.1 htag)))
    localInbounds := fun tag htag => hother tag (.inr (family_of_mem_localInbounds htag))
    empty := by
      refine counterpart_eq_self (fun hmem => ?_) (by decide) (by decide)
      obtain ⟨i, p, -, he⟩ := Hop.mem_tags.1 hmem
      exact hop_ne_empty _ _ _ _ he.symm
    hops := {
      hop := fun i p hp => counterpart_of_mem
        (List.mem_append_left _ (List.mem_append_left _ (hpair i p hp)))
      mapping := fun i p hp => counterpart_of_mem
        (List.mem_append_right _ (List.mem_map.2 ⟨_, hpair i p hp, rfl⟩)) }
    target := fun k hk => counterpart_of_mem (List.mem_append_left _ (List.mem_append_right _
      (List.mem_map.2 ⟨k, List.mem_range.2 hk, rfl⟩))) }

end Tag

/-! ## Hops and targets -/

section Twins

variable {settings : Settings} {setup : Setup} {s t rank index length : Nat} {p : Profile}
  {tag tag' : String} {nearest : Bool} {ps : List Profile} {ρ : String → String}

/-- Two native outbounds of a profile differ in their tags alone. -/
theorem eq_edit_of_compileNative {own own' : Fields} (hown : compileNative settings p tag = .ok own)
    (hown' : compileNative settings p tag' = .ok own') (hρ : ρ tag = tag') :
    own' = Fields.edit "tag" (Tree.mapText ρ) own := by
  obtain ⟨raw, hraw, -, rfl⟩ := eq_setAll_of_compileNative hown
  obtain ⟨raw', hraw', -, rfl⟩ := eq_setAll_of_compileNative hown'
  rw [hraw] at hraw'
  cases hraw'
  rw [Fields.setAll_append, Fields.setAll_append, Fields.edit_setAll_of_lacks (by simp)]
  simp [Fields.edit_set_of_ne, hρ]

namespace Hop

/-- A hop's twin is the hop with its tags renamed, unless an override names the tag. -/
theorem Twin.eq_renamed {h h' : Hop} (ht : Twin settings p tag tag' nearest h h')
    (hlacks : Fields.Lacks "tag" p.customOutbound.tree.override) (hρ : ρ tag = tag')
    (hmapping : ρ (Tag.mapping tag) = Tag.mapping tag') : h' = h.renamed ρ := by
  cases ht with
  | @native own own' _ hown hown' =>
    rw [eq_edit_of_compileNative hown hown' hρ]
    simp [ofNative, overridden, renamed, Fields.edit_merge_of_lacks hlacks, hρ]
  | @bridged mode ports helper _ _ _ =>
    have hbridge : bridgeOutbound tag' ports.socks =
        Fields.edit "tag" (Tree.mapText ρ) (bridgeOutbound tag ports.socks) := by
      simp [bridgeOutbound, Fields.ofList, hρ]
    have hredirect : redirectInbound tag' ports.mapping p.protocol.endpoint =
        Tree.edit "tag" (Tree.mapText ρ)
          (redirectInbound tag ports.mapping p.protocol.endpoint) := by
      simp [redirectInbound, Fields.edit_set_of_ne, Fields.ofList, Tree.ofFields, hmapping]
    by_cases hm : mode = .mapping
    · simp [ofBridge, overridden, renamed, Fields.edit_merge_of_lacks hlacks, hρ, hbridge, hm,
        hredirect, Descriptor.renamed]
    · simp [ofBridge, overridden, renamed, Fields.edit_merge_of_lacks hlacks, hρ, hbridge, hm,
        Descriptor.renamed]

theorem RenamesFrom.tail (hρ : RenamesFrom s t length index (p :: ps) ρ) :
    RenamesFrom s t length (index + 1) ps ρ where
  hop i q hq := by
    have := hρ.hop (i + 1) q hq
    rwa [← Nat.add_assoc, Nat.add_right_comm] at this
  mapping i q hq := by
    have := hρ.mapping (i + 1) q hq
    rwa [← Nat.add_assoc, Nat.add_right_comm] at this

/-- The twins of hops are the hops with their tags renamed. -/
theorem Twins.eq_map {hops hops' : List Hop} (ht : Twins settings s t length index ps hops hops')
    (hlacks : ∀ p ∈ ps, Fields.Lacks "tag" p.customOutbound.tree.override)
    (hρ : RenamesFrom s t length index ps ρ) : hops' = hops.map (renamed ρ) := by
  induction ht with
  | nil => rfl
  | @cons index p rest h h' hops hops' hhead _ ih =>
    obtain ⟨hp, hrest⟩ := List.forall_mem_cons.1 hlacks
    rw [List.map_cons, hhead.eq_renamed hp (hρ.hop 0 p rfl) (hρ.mapping 0 p rfl),
      ih hrest hρ.tail]

/-- The redirect of a renamed hop is renamed along with it. -/
theorem Twins.mapping_tag {hops hops' : List Hop} {h : Hop}
    (ht : Twins settings s t length index ps hops hops') (hρ : RenamesFrom s t length index ps ρ)
    (hh : h ∈ hops) : ρ (Tag.mapping h.tag) = Tag.mapping (ρ h.tag) := by
  obtain ⟨i, hi⟩ := List.mem_iff_getElem?.1 hh
  obtain ⟨p, hp, htag⟩ := ht.exists_tag hi
  rw [htag, hρ.hop i p hp, hρ.mapping i p hp]

/-- A hop has no detour before it is linked. -/
theorem Twins.lacks_detour {hops hops' : List Hop}
    (ht : Twins settings s t length index ps hops hops') (hown : ∀ p ∈ ps, p.LeavesLinks) :
    ∀ h ∈ hops, Fields.Lacks "detour" h.outbound := by
  induction ht with
  | nil => simp
  | cons hhead _ ih =>
    obtain ⟨hp, hrest⟩ := List.forall_mem_cons.1 hown
    refine List.forall_mem_cons.2 ⟨Fields.get?_eq_none_iff.1 ?_, ih hrest⟩
    exact hhead.compiled.get?_detour hp.detour hp.own

end Hop

/-- The twins of targets are the targets with their tags renamed. -/
theorem Target.Twins.eq_map {ids : List Int64} {targets targets' : List Target}
    (ht : Target.Twins setup s t rank ids targets targets')
    (hρ : ∀ k < ids.length, ρ (Tag.routeTarget s (rank + k)) = Tag.routeTarget t (rank + k)) :
    targets' = targets.map (Target.renamed ρ) := by
  induction ht with
  | nil => rfl
  | @cons rank id rest p own own' targets targets' _ hown hown' _ ih =>
    have hhead := hρ 0 (by simp)
    rw [Nat.add_zero] at hhead
    rw [List.map_cons, eq_edit_of_compileNative hown hown' hhead, ih fun k hk => ?_]
    · simp [Target.renamed, hhead]
    · have := hρ (k + 1) (by simpa using hk)
      rwa [← Nat.add_assoc, Nat.add_right_comm] at this

/-- The outbound of a target has no detour, unless the user put one in. -/
theorem Target.Twins.lacks_detour {ids : List Int64} {targets targets' : List Target}
    (ht : Target.Twins setup s t rank ids targets targets')
    (hown : ∀ id ∈ ids, ∀ p, setup.store.profile? id = some p →
      Fields.Lacks "detour" p.protocol.ownOutbound) :
    ∀ target ∈ targets, Fields.Lacks "detour" target.outbound := by
  induction ht with
  | nil => simp
  | cons hp hcompile _ _ ih =>
    obtain ⟨hid, hrest⟩ := List.forall_mem_cons.1 hown
    refine List.forall_mem_cons.2 ⟨Fields.get?_eq_none_iff.1 ?_, ih hrest⟩
    rw [(get?_compileNative hcompile).2]
    exact Fields.get?_eq_none_iff.2 (hid _ hp)

end Twins

/-! ## Builds in two sequences -/

section Builds

variable {σ : Type} [RuleSetService σ] {setup : Setup} {request : Request} {root : Profile}
  {s t : Nat} {ps : List Profile} {ρ : String → String}

/-- Where nothing of the user's own comes between, what twins are put together to differs in the
tags alone. -/
theorem Document.Twins.assemble_eq {hops hops' : List Hop} {r r' : Routing}
    (ht : Document.Twins setup request root s t ps hops hops' r r')
    (hkeeps : setup.KeepsTags root ps r.chain)
    (hρ : Renames s t ps (Routing.targetIds r.chain).length ρ) :
    Document.assemble setup.settings request root hops' r' =
      (Document.assemble setup.settings request root hops r).renamed ρ
        (Document.extraInbounds setup.settings request).length := by
  have htarget : ∀ k < (Routing.targetIds r.chain).length,
      ρ (Tag.routeTarget s (0 + k)) = Tag.routeTarget t (0 + k) := by
    simpa using hρ.target
  have hhops := ht.hops.eq_map (fun p hp => (hkeeps.hops p hp).tag) hρ.hops
  have hrouting : r' = r.renamed ρ := by
    obtain ⟨chain, targets, ruleSets⟩ := r'
    obtain ⟨-, rfl, rfl, htargets⟩ := ht.routing
    rw [Routing.renamed, ← htargets.eq_map htarget]
  have hredirects : ∀ d ∈ Hop.redirects hops, ρ (Tag.mapping d.hop) = Tag.mapping (ρ d.hop) := by
    intro d hd
    obtain ⟨i, h, hi, hd⟩ := Hop.mem_redirects.1 hd
    rw [Hop.hop_of_redirectTo hd]
    exact ht.hops.mapping_tag hρ.hops (List.mem_of_getElem? hi)
  have htargets := ht.routing.targets.lacks_detour fun id hid p hp => by
    obtain ⟨hle, rule, hrule, rfl⟩ := RuleChain.mem_targetIds.1 hid
    exact hkeeps.targets rule hrule hle p hp
  rw [hhops, hrouting]
  exact Document.assemble_renamed hρ.toKeepsFixed hredirects (ht.hops.lacks_detour hkeeps.hops)
    htargets hkeeps.defOutbound hkeeps.resolvers

/-- **The sequence of a build is a namespace.** From one state, a profile fails to build in two
sequences with the same errors, and ports and rule sets are left the same. Where it succeeds, a whole
document of the user's own is the same, and any other output is the first one with the tags of the
build replaced by their counterparts. -/
theorem renamed_of_run (request : Request) (s t : Nat) {st s₁ s₂ : BuildState σ}
    {first second : Except BuildError Output}
    (hfirst : Build.run (Build.profile setup { request with seq := s } root) st = (first, s₁))
    (hsecond : Build.run (Build.profile setup { request with seq := t } root) st = (second, s₂)) :
    (∀ e, first = .error e ↔ second = .error e) ∧ s₁.AgreeOffLedger s₂ ∧
      ∀ o, first = .ok o → ∃ o', second = .ok o' ∧ (root.isFullDocument = true → o' = o) ∧
        (root.isFullDocument = false → ∃ ps chain,
          setup.store.hops root (!request.test) = .ok ps ∧
          setup.store.chain? setup.settings.routing.currentRouteId = some chain ∧
          (setup.KeepsTags root ps chain →
            o' = o.renamed (Tag.counterpart s t ps (Routing.targetIds chain).length)
              (Document.extraInbounds setup.settings request).length)) := by
  have hst : st.AgreeOffLedger st := ⟨rfl, rfl⟩
  cases hroot : root.isFullDocument with
  | true =>
    obtain ⟨hend, hstate⟩ := Build.alike_profile_of_full setup request s t hroot st st hst
    rw [hfirst, hsecond] at hend hstate
    refine ⟨hend.error_iff, hstate, fun o ho => ?_⟩
    subst ho
    cases hend with
    | ok heq => exact ⟨_, rfl, fun _ => heq.symm, nofun⟩
  | false =>
    obtain ⟨hend, hstate⟩ := Build.alike_profile setup request s t hroot st st hst
    rw [hfirst, hsecond] at hend hstate
    refine ⟨hend.error_iff, hstate, fun o ho => ?_⟩
    subst ho
    cases hend with
    | @ok _ o' htwins =>
      obtain ⟨_, _, ⟨ps, hops, hops', r, r', ht, rfl, rfl⟩, rfl, rfl⟩ := htwins
      refine ⟨_, rfl, nofun, fun _ =>
        ⟨ps, r.chain, ht.resolved, ht.routing.active, fun hkeeps => ?_⟩⟩
      rw [Output.overriddenBy_eq_self hkeeps.document, Output.overriddenBy_eq_self hkeeps.document]
      exact ht.assemble_eq hkeeps (Tag.renames_counterpart s t ps _)

end Builds

/-- A chain in the primary sequence and in another one. -/
theorem renamed_of_run_primary :
    ∃ o, (Build.run (Build.profile Setting.setup {} Setting.chain) Setting.start).1 = .ok o ∧
      (Build.run (Build.profile Setting.setup { seq := 2 } Setting.chain) Setting.start).1 =
        .ok (o.renamed (Tag.counterpart 0 2 [Setting.bridged, Setting.native, Setting.bridged] 1)
          0) := by
  obtain ⟨o, s', hr⟩ := Build.exists_run_eq_ok
    (b := Build.profile Setting.setup {} Setting.chain) (s := Setting.start) (by decide)
  obtain ⟨-, -, hok⟩ := renamed_of_run {} 0 2 hr rfl
  obtain ⟨o', ho', -, hplain⟩ := hok o rfl
  obtain ⟨ps, chain, hps, hchain, heq⟩ := hplain rfl
  cases hps
  cases hchain
  refine ⟨o, congrArg Prod.fst hr, ho'.trans (congrArg _ (heq ?_))⟩
  exact {
    hops := Setting.leavesLinks
    targets := by
      have hselected : ∀ rule ∈ Setting.rules.rules, 0 ≤ rule.outboundId → rule.outboundId = 2 := by
        decide
      intro rule hrule hle p hp
      rw [hselected rule hrule hle] at hp
      cases hp
      decide
    document := rfl
    defOutbound := .inl rfl
    resolvers := rfl }

end Detour
