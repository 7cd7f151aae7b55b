import Detour.Proofs.Document.Counters
import Detour.Proofs.Document.References
import Detour.Proofs.Tree.Ordered
/-!
# Overridden tags

The override of a profile is merged into the outbound of its hop after the outbound has its tag, so
an override that names the tag puts another one there. All that refers to the hop goes by the tag
that its place in the chain gives it: the hop in front of it, the rules behind redirects, the final
outbound, the resolver behind the proxy, the counters and the helper. `Output.Wired` lists both sides;
they come together exactly where the override leaves the tag alone.
-/

namespace Detour

namespace Profile

/-- What stands under the tag of a hop's outbound once the override of its profile is merged in. -/
def overriddenTag (tag : String) (p : Profile) : Tree :=
  (p.customOutbound.tree.override.get? "tag").getD (.str tag)

/-- The override of a profile names no tag for its hop, or the one that the hop has. -/
def KeepsTag (tag : String) (p : Profile) : Prop :=
  ∀ t, p.customOutbound.tree.override.get? "tag" = some t → t = .str tag

/-- The tag is left alone exactly if the override keeps it. -/
theorem overriddenTag_eq_iff {tag : String} {p : Profile} :
    p.overriddenTag tag = .str tag ↔ p.KeepsTag tag := by
  unfold overriddenTag KeepsTag
  cases p.customOutbound.tree.override.get? "tag" <;> simp

end Profile

/-! ## Both sides -/

/-- A document refers to the hops of its profile by the tags of their places, and has their outbounds
under the tags that the overrides leave. -/
structure Output.Wired (setup : Setup) (request : Request) (root : Profile) (ps : List Profile)
    (l : Ledger) (o : Output) : Prop where
  outbound : ∀ (i : Nat) (p : Profile) (tag : String), ps[i]? = some p →
    (Hop.tags request.seq ps)[i]? = some tag →
      o.outbounds[i]?.bind (Tree.get? "tag") = some (p.overriddenTag tag)
  entry : o.entryTag = (Hop.tags request.seq ps).head?.getD ""
  /-- A hop leads on to the tag of the one behind it, by its detour or by a rule. -/
  onward : ∀ (i : Nat) (p : Profile) (tag next : String), ps[i]? = some p →
    (Hop.tags request.seq ps)[i]? = some tag → (Hop.tags request.seq ps)[i + 1]? = some next →
      if p.protocol.bridging false setup.settings.vpn.enabled = .native then
        o.outbounds[i]?.bind (Tree.textAt? "detour") = some next
      else Hop.Redirect.toTree ⟨tag, next⟩ ∈ o.routeRules
  final : request.test = false → setup.settings.routing.defOutbound = Tag.proxy →
    o.document.at? ["route", "final"] = some (.str o.entryTag)
  resolver : setup.settings.routing.useDnsObject = false →
    ∃ servers, o.document.at? ["dns", "servers"] = some (.list servers) ∧
      Dns.remoteServer setup.settings.routing o.entryTag ∈ servers
  /-- A profile that is not the root of several hops is accounted for at its last place. -/
  counter : ∀ (i : Nat) (p : Profile) (tag : String), ps[i]? = some p →
    (Hop.tags request.seq ps)[i]? = some tag →
    (∀ (j : Nat) (q : Profile), i < j → ps[j]? = some q → q.id ≠ p.id) →
    ¬ (1 < ps.length ∧ p.id = root.id) →
      (l.get p.id).boundTag = tag
  rootCounter : 1 < ps.length → (l.get root.id).boundTag = o.entryTag
  /-- The helper of a bridged hop serves the tag of its place. -/
  helper : ∀ (i : Nat) (p : Profile) (tag : String), ps[i]? = some p →
    (Hop.tags request.seq ps)[i]? = some tag →
    (p.protocol.bridging (i + 1 == ps.length) setup.settings.vpn.enabled).isBridged = true →
      ∃ d ∈ o.externals, d.outbound = tag

namespace Hop

variable {settings : Settings} {p : Profile} {tag : String} {nearest : Bool} {h : Hop}

/-- An outbound has the tag that it was compiled under, or what the override has in its place. -/
theorem Compiled.get?_tag_eq (hc : Compiled settings p tag nearest h) :
    h.outbound.get? "tag" = some (p.overriddenTag tag) := by
  have hmerged : ∀ own : Fields, own.get? "tag" = some (.str tag) →
      (Fields.merge p.customOutbound.tree.override own).get? "tag" =
        some (p.overriddenTag tag) := by
    intro own hown
    rw [Fields.get?_merge_of_sorted p.customOutbound.sorted_override, hown, Profile.overriddenTag]
    cases p.customOutbound.tree.override.get? "tag" with
    | none => rfl
    | some value => cases value <;> rfl
  cases hc with
  | native _ hown => exact hmerged _ (get?_compileNative hown).1
  | bridged _ _ _ => exact hmerged _ (by simp [bridgeOutbound, Fields.ofList])

theorem Compiled.helper_isSome (hc : Compiled settings p tag nearest h)
    (hb : h.bridging.isBridged = true) : ∃ d, h.helper = some d := by
  cases hc with
  | native _ _ => cases hb
  | bridged _ _ _ => exact ⟨_, rfl⟩

end Hop

section Built

variable {setup : Setup} {request : Request} {root : Profile} {ps : List Profile} {hops : List Hop}
  {r : Routing} {o : Output} {i : Nat} {p : Profile} {tag next : String}
variable (hb : Built setup request root ps hops r o)
  (hcfg : root.customConfig.tree.override = [])

namespace Output

include hb in
/-- At the position of each tag is a hop that was compiled under it. -/
theorem exists_hop_of_tag (hp : ps[i]? = some p) (htag : (Hop.tags request.seq ps)[i]? = some tag) :
    ∃ h, hops[i]? = some h ∧
      Hop.Compiled setup.settings p tag (i + 1 == ps.length) h := by
  rw [Hop.getElem?_tags, hp] at htag
  cases htag
  exact hb.compiled.exists_hop hp

include hb hcfg in
/-- An outbound ends up with the tag that the override of its profile gives it. -/
theorem get?_tag_of_built (hp : ps[i]? = some p)
    (htag : (Hop.tags request.seq ps)[i]? = some tag) :
    o.outbounds[i]?.bind (Tree.get? "tag") = some (p.overriddenTag tag) := by
  obtain ⟨h, hh, hc⟩ := exists_hop_of_tag hb hp htag
  rw [getElem?_outbounds hb (by simp [hcfg]) hh, Option.bind_some, Tree.get?_object,
    Hop.get?_tag_linkedTo, hc.get?_tag_eq]

include hb hcfg in
/-- Links name the tags that hops were compiled under. -/
theorem onward_of_built (hp : ps[i]? = some p) (htag : (Hop.tags request.seq ps)[i]? = some tag)
    (hnext : (Hop.tags request.seq ps)[i + 1]? = some next) :
    if p.protocol.bridging false setup.settings.vpn.enabled = .native then
      o.outbounds[i]?.bind (Tree.textAt? "detour") = some next
    else Hop.Redirect.toTree ⟨tag, next⟩ ∈ o.routeRules := by
  obtain ⟨h, hh, hc⟩ := exists_hop_of_tag hb hp htag
  obtain ⟨n, hn, rfl⟩ : ∃ n, hops[i + 1]? = some n ∧ n.tag = next := by
    rw [← hb.compiled.map_tag, List.getElem?_map] at hnext
    exact Option.map_eq_some_iff.1 hnext
  have hfar : (i + 1 == ps.length) = false := by
    have hlt := (List.getElem?_eq_some_iff.1 hn).1
    have hlen := hb.compiled.length_eq
    exact beq_eq_false_iff_ne.2 (by omega)
  obtain ⟨-, rfl, hmode⟩ := hc.place
  rw [hfar] at hmode
  rw [← hmode]
  split
  · rename_i hnat
    rw [getElem?_outbounds hb (by simp [hcfg]) hh, hn]
    simp [Hop.linkedTo, hnat, Tree.textAt?, Tree.text?]
  · rename_i hnat
    rw [routeRules_of_built hb (by simp [hcfg]), chainRules, redirects_of_built hb]
    refine List.mem_append_left _ (List.mem_map_of_mem (Hop.mem_redirects.2 ⟨i, h, hh, ?_⟩))
    rw [hn, Hop.redirectTo, if_neg hnat]

include hb in
theorem entryTag_eq_of_built : o.entryTag = (Hop.tags request.seq ps).head?.getD "" := by
  rw [entryTag_of_built hb, ← hb.compiled.map_tag, List.head?_map]
  rfl

include hb hcfg in
/-- And the outbound for what no rule matches, if that is to go through the chain. -/
theorem final_of_built (htest : request.test = false)
    (hdef : setup.settings.routing.defOutbound = Tag.proxy) :
    o.document.at? ["route", "final"] = some (.str o.entryTag) := by
  rw [document_of_built hb hcfg, entryTag_of_built hb]
  simp [Tree.at?, Document.sections, Routing.toTree, Routing.finalTag, htest, hdef,
    Fields.get?_set]

include hb hcfg in
/-- And the server for names, which is asked through the chain. -/
theorem resolver_of_built (hdns : setup.settings.routing.useDnsObject = false) :
    ∃ servers, o.document.at? ["dns", "servers"] = some (.list servers) ∧
      Dns.remoteServer setup.settings.routing o.entryTag ∈ servers := by
  refine ⟨_, (hasParts_of_built hb hcfg hdns).servers, ?_⟩
  rw [entryTag_of_built hb]
  exact Dns.mem_servers.2 (.inl rfl)

include hb in
theorem helper_of_built (hp : ps[i]? = some p) (htag : (Hop.tags request.seq ps)[i]? = some tag)
    (hbridged : (p.protocol.bridging (i + 1 == ps.length)
      setup.settings.vpn.enabled).isBridged = true) :
    ∃ d ∈ o.externals, d.outbound = tag := by
  obtain ⟨h, hh, hc⟩ := exists_hop_of_tag hb hp htag
  obtain ⟨-, rfl, hmode⟩ := hc.place
  obtain ⟨d, hd⟩ := hc.helper_isSome (hmode ▸ hbridged)
  refine ⟨d, ?_, hc.outbound_helper hd⟩
  rw [hb.output]
  exact List.mem_filterMap.2 ⟨h, List.mem_of_getElem? hh, hd⟩

end Output

end Built

/-- What a run writes is wired by the tags of the places. -/
theorem Output.wired_of_steps {σ : Type} [RuleSetService σ] {setup : Setup} {request : Request}
    {root : Profile} {ps : List Profile} {o : Output} {s s' : BuildState σ}
    (hroot : root.isFullDocument = false) (hcfg : root.customConfig.tree.override = [])
    (hps : setup.store.hops root (!request.test) = .ok ps)
    (hr : Build.run (Build.profile setup request root) s = (.ok o, s')) :
    o.Wired setup request root ps s'.ledger := by
  obtain ⟨ps', hops, r, s₁, s₂, hps', hhops, hs₂, hrouting, ho⟩ := steps_of_run hroot hr
  have hb : Built setup request root ps' hops r o :=
    ⟨hps', Hop.compiledChain_of_run hhops, Routing.compiled_of_run hrouting, ho⟩
  obtain rfl := hb.resolved_eq hps
  have hbound : ∀ id tag, TagMap.get? id (Document.bindings root hops r.targets) = some tag →
      (s'.ledger.get id).boundTag = tag := by
    intro id tag hget
    rw [binds_of_steps hhops hs₂ hrouting, Ledger.get_bindAll, hget]
    rfl
  refine {
    outbound := fun i p tag hp htag => get?_tag_of_built hb hcfg hp htag
    entry := entryTag_eq_of_built hb
    onward := fun i p tag next hp htag hnext => onward_of_built hb hcfg hp htag hnext
    final := final_of_built hb hcfg
    resolver := resolver_of_built hb hcfg
    counter := fun i p tag hp htag hlast hne => ?_
    rootCounter := fun hn => hbound _ _ (get?_bindings_root hb hn)
    helper := fun i p tag hp htag hbridged => helper_of_built hb hp htag hbridged }
  rw [Hop.getElem?_tags, hp] at htag
  cases htag
  exact hbound _ _ (get?_bindings_hop hb hp hlast hne)

end Detour
