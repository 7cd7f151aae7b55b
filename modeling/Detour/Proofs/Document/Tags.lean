import Detour.Proofs.Document.Chain
import Detour.Proofs.Route.Rules
/-!
# Tags of documents

Outbounds and inbounds of a document are found by their tags, so no two of them may share one. The
tags are of different families (`Tag.family`), and within a family the numbers tell them apart.
`laidOut_of_run` says what the outbounds of a document are, each at its place, and that the tags of
all entries differ.
-/

namespace Detour

/-! ## What stands where -/

/-- What stands in a document for a hop: the outbound that the hop has by itself, under its tag. A
hop with another one behind it may name that one as its detour. -/
def Hop.StandsFor (settings : Settings) (p : Profile) (tag : String) (nearest : Bool) (t : Tree) :
    Prop :=
  t.textAt? "tag" = some tag ∧
    ∃ own, OwnOutbound settings p tag (p.protocol.bridging nearest settings.vpn.enabled) own ∧
      (t = .object own ∨ nearest = false ∧ ∃ next, t = .object (own.set "detour" (.str next)))

/-- The entries of a document with tags, by what they are there for. -/
structure Output.Entries where
  hops : List Tree
  targets : List Tree
  inbounds : List Tree

/-- The outbounds: the hops first, then the reserved ones, then the targets of rules. -/
def Output.Entries.outbounds (d : Output.Entries) : List Tree :=
  d.hops ++ reservedOutbounds ++ d.targets

/-- How the entries of a document are laid out. -/
structure Output.LaidOut (setup : Setup) (seq : Nat) (ps : List Profile) (chain : RuleChain)
    (o : Output) (d : Output.Entries) : Prop where
  outbounds : o.document.get? "outbounds" = some (.list d.outbounds)
  inbounds : o.document.get? "inbounds" = some (.list d.inbounds)
  length_hops : d.hops.length = ps.length
  /-- At the position of each hop stands its outbound. -/
  hop : ∀ i p t, ps[i]? = some p → d.hops[i]? = some t →
    Hop.StandsFor setup.settings p (Tag.hop seq p.id i ps.length) (i + 1 == ps.length) t
  /-- Each profile that the rules select has one outbound. -/
  target : ∃ ids : List Int64, ids.Nodup ∧
    (∀ id, id ∈ ids ↔ 0 ≤ id ∧ ∃ rule ∈ chain.rules, rule.outboundId = id) ∧
    d.targets.length = ids.length ∧
    ∀ k id t, ids[k]? = some id → d.targets[k]? = some t → ∃ p fields,
      setup.store.profile? id = some p ∧
      compileNative setup.settings p (Tag.routeTarget seq k) = .ok fields ∧ t = .object fields
  /-- All entries have tags, and no two of them the same. -/
  nodup : ∃ tags : List String,
    (d.outbounds ++ d.inbounds).map (Tree.textAt? "tag") = tags.map some ∧ tags.Nodup

/-! ## The tags of a document -/

namespace RuleChain

theorem mem_targetIds {c : RuleChain} {id : Int64} :
    id ∈ Routing.targetIds c ↔ 0 ≤ id ∧ ∃ rule ∈ c.rules, rule.outboundId = id := by
  rw [Routing.targetIds, List.mem_filter, usedOutbounds, mem_firstOccurrences, List.mem_map,
    decide_eq_true_eq, and_comm]

theorem nodup_targetIds (c : RuleChain) : (Routing.targetIds c).Nodup :=
  (nodup_firstOccurrences _).sublist List.filter_sublist

end RuleChain

/-- Where all that is made of elements has a tag of its element, the tags are those of the elements
of which something is made. -/
theorem map_filterMap_eq_map_filter {α β γ : Type} {f : α → Option β} {g : β → γ} {key : α → γ}
    {xs : List α} (h : ∀ x ∈ xs, ∀ b, f x = some b → g b = key x) :
    (xs.filterMap f).map g = (xs.filter fun x => (f x).isSome).map key := by
  induction xs with
  | nil => rfl
  | cons x rest ih =>
    obtain ⟨hx, hrest⟩ := List.forall_mem_cons.1 h
    cases hf : f x with
    | none => simpa [hf] using ih hrest
    | some b => simpa [hf, hx b hf] using ih hrest

section Built

variable {setup : Setup} {request : Request} {root : Profile} {ps : List Profile} {hops : List Hop}
  {r : Routing} {o : Output} {settings : Settings}

/-! ### Local inbounds -/

theorem Document.lacks_tag_sniffing (settings : Settings) :
    Fields.Lacks "tag" (sniffing settings) := by
  unfold sniffing
  split <;> simp

/-- The local inbounds have fixed tags. -/
theorem Document.tags_localInbounds (settings : Settings) (request : Request) :
    ∃ tags : List String, (localInbounds settings request).map (Tree.textAt? "tag") =
      tags.map some ∧ tags.Sublist ["mixed-in", "tun-in"] := by
  have hsniffing := lacks_tag_sniffing settings
  have hmixed : Tree.textAt? "tag" (mixedInbound settings) = some "mixed-in" := by
    simp [mixedInbound, Tree.textAt?, Fields.get?_setAll_of_lacks hsniffing, Fields.get?_set,
      Tree.text?]
  have htun : Tree.textAt? "tag" (tunInbound settings) = some "tun-in" := by
    simp [tunInbound, Tree.textAt?, Fields.get?_setAll_of_lacks hsniffing, Fields.get?_set,
      Tree.text?]
  unfold localInbounds
  split
  · exact ⟨[], rfl, by simp⟩
  · split <;> split
    · exact ⟨["mixed-in", "tun-in"], by simp [hmixed, htun], by simp⟩
    · exact ⟨["mixed-in"], by simp [hmixed], by simp⟩
    · exact ⟨["tun-in"], by simp [htun], by simp⟩
    · exact ⟨[], rfl, by simp⟩

/-! ### Targets of rules -/

theorem Target.Compiled.tags {seq : Nat} {ids : List Int64} {targets : List Target}
    (hc : Target.Compiled setup seq ids targets) :
    (targets.map fun t => Tree.object t.outbound).map (Tree.textAt? "tag") =
      (targets.map Target.tag).map some := by
  rw [List.map_map, List.map_map]
  refine List.map_congr_left fun t ht => ?_
  obtain ⟨-, -, -, -, -, hown⟩ := hc.exists_id ht
  exact textAt?_tag_of_compileNative hown

theorem Target.Compiled.nodup {seq : Nat} {ids : List Int64} {targets : List Target}
    (hc : Target.Compiled setup seq ids targets) : (targets.map Target.tag).Nodup := by
  refine List.pairwise_map.2 (List.pairwise_iff_getElem.2 fun i j hi hj hij he => ?_)
  have htag : ∀ k (hk : k < targets.length), targets[k].tag = Tag.routeTarget seq k := by
    intro k hk
    have hid : k < ids.length := hc.length_eq ▸ hk
    exact (hc.compiled k _ _ (List.getElem?_eq_getElem hid) (List.getElem?_eq_getElem hk)).2.1
  rw [htag i hi, htag j hj] at he
  have := (Tag.routeTarget_injective he).2
  omega

/-- At the position of an id stands the outbound of its profile. -/
theorem Target.Compiled.stands {seq k : Nat} {ids : List Int64} {targets : List Target} {id : Int64}
    {t : Tree} (hc : Target.Compiled setup seq ids targets) (hid : ids[k]? = some id)
    (ht : (targets.map fun t => Tree.object t.outbound)[k]? = some t) :
    ∃ p fields, setup.store.profile? id = some p ∧
      compileNative setup.settings p (Tag.routeTarget seq k) = .ok fields ∧ t = .object fields := by
  rw [List.getElem?_map] at ht
  obtain ⟨target, htarget, rfl⟩ := Option.map_eq_some_iff.1 ht
  obtain ⟨hp, htag, hown⟩ := hc.compiled k id target hid htarget
  exact ⟨target.profile, target.outbound, hp, htag ▸ hown, rfl⟩

theorem Target.Compiled.family_tag {seq : Nat} {ids : List Int64} {targets : List Target}
    (hc : Target.Compiled setup seq ids targets) : ∀ tag ∈ targets.map Target.tag,
      Tag.family tag = 2 := by
  intro tag htag
  obtain ⟨t, ht, rfl⟩ := List.mem_map.1 htag
  obtain ⟨k, -, -, -, htag, -⟩ := hc.exists_id ht
  rw [htag, Tag.family_routeTarget]

/-! ### Hops and their redirects -/

namespace Hop

variable {seq i : Nat} {h : Hop} (hc : CompiledChain settings seq ps hops)
  (htag : ∀ p ∈ ps, Fields.Lacks "tag" p.customOutbound.tree.override)

include hc htag in
/-- The linked outbounds have the tags of the hops. -/
theorem CompiledChain.tags_linkedOutbounds :
    ((linkedOutbounds hops).map Tree.object).map (Tree.textAt? "tag") = (tags seq ps).map some := by
  refine List.ext_getElem? fun i => ?_
  rw [← hc.map_tag, List.getElem?_map, List.getElem?_map, getElem?_linkedOutbounds,
    List.getElem?_map, List.getElem?_map]
  cases hi : hops[i]? with
  | none => rfl
  | some h =>
    rw [Option.map_some, Option.map_some, Option.map_some, hc.textAt?_tag htag hi]
    rfl

include hc htag in
/-- At the position of a profile stands its outbound. -/
theorem CompiledChain.standsFor {p : Profile} {t : Tree} (hp : ps[i]? = some p)
    (ht : ((linkedOutbounds hops).map Tree.object)[i]? = some t) :
    StandsFor settings p (Tag.hop seq p.id i ps.length) (i + 1 == ps.length) t := by
  obtain ⟨h, hh, hcompiled⟩ := hc.exists_hop hp
  rw [List.getElem?_map, getElem?_linkedOutbounds, hh] at ht
  cases ht
  obtain ⟨-, heq, hmode⟩ := hcompiled.place
  refine ⟨heq ▸ hc.textAt?_tag htag hh _, h.outbound, hmode ▸ hcompiled.ownOutbound, ?_⟩
  cases hn : hops[i + 1]? with
  | none => exact .inl rfl
  | some n =>
    have hlt := (List.getElem?_eq_some_iff.1 hn).1
    have hlen := hc.length_eq
    rw [linkedTo]
    split
    · exact .inr ⟨beq_eq_false_iff_ne.2 (by omega), n.tag, rfl⟩
    · exact .inl rfl

/-- A redirect inbound has the tag of the hop that it feeds. -/
theorem CompiledChain.textAt?_redirect {t : Tree} (hc : CompiledChain settings seq ps hops)
    (hh : h ∈ hops) (ht : h.redirect = some t) :
    t.textAt? "tag" = some (Tag.mapping h.tag) := by
  obtain ⟨i, hi⟩ := List.mem_iff_getElem?.1 hh
  obtain ⟨p, -, hcompiled⟩ := hc.exists_profile hi
  rw [Tree.textAt?, (hcompiled.get?_redirect ht).2, ← hcompiled.place.2.1]
  rfl

theorem CompiledChain.tags_redirects (hc : CompiledChain settings seq ps hops) :
    (hops.filterMap redirect).map (Tree.textAt? "tag") =
      (((hops.filter fun h => h.redirect.isSome).map tag).map Tag.mapping).map some := by
  rw [List.map_map, List.map_map]
  exact map_filterMap_eq_map_filter fun h hh t ht => hc.textAt?_redirect hh ht

theorem CompiledChain.nodup_redirects (hc : CompiledChain settings seq ps hops) :
    (((hops.filter fun h => h.redirect.isSome).map tag).map Tag.mapping).Nodup :=
  List.pairwise_map.2 <| (hc.nodup.sublist (List.filter_sublist.map tag)).imp fun hne he =>
    hne (Tag.mapping_injective he)

end Hop

/-! ### Whole documents -/

namespace Output

/-- The entries that a build puts into its document. -/
def Entries.ofParts (settings : Settings) (request : Request) (hops : List Hop) (r : Routing) :
    Entries where
  hops := (Hop.linkedOutbounds hops).map .object
  targets := r.targets.map fun t => .object t.outbound
  inbounds := Document.localInbounds settings request ++ hops.filterMap Hop.redirect

/-- The tags of the entries are of different families, and within each family they differ. -/
theorem nodup_of_built (hb : Built setup request root ps hops r o)
    (htag : ∀ p ∈ ps, Fields.Lacks "tag" p.customOutbound.tree.override) :
    ∃ tags : List String,
      ((Entries.ofParts setup.settings request hops r).outbounds ++
        (Entries.ofParts setup.settings request hops r).inbounds).map (Tree.textAt? "tag") =
          tags.map some ∧ tags.Nodup := by
  obtain ⟨own, hown, hsub⟩ := Document.tags_localInbounds setup.settings request
  have hreserved : reservedOutbounds.map (Tree.textAt? "tag") = Tag.reserved.map some := rfl
  refine ⟨[Hop.tags request.seq ps, Tag.reserved, r.targets.map Target.tag, own,
    ((hops.filter fun h => h.redirect.isSome).map Hop.tag).map Tag.mapping].flatten, ?_,
    Tag.nodup_flatten_of_family ?_ ?_⟩
  · simp only [Entries.outbounds, Entries.ofParts, List.map_append, hreserved, hown,
      hb.compiled.tags_linkedOutbounds htag, hb.routing.targets.tags, hb.compiled.tags_redirects,
      List.flatten_cons, List.flatten_nil, List.append_nil, List.append_assoc]
  · simp only [List.forall_mem_cons]
    exact ⟨Hop.nodup_tags request.seq ps, by decide, hb.routing.targets.nodup,
      List.Nodup.sublist hsub (by decide), hb.compiled.nodup_redirects, by simp⟩
  · intro k l hl tag hmem
    match k, hl with
    | 0, rfl =>
      obtain ⟨i, p, -, rfl⟩ := Hop.mem_tags.1 hmem
      exact Tag.family_hop _ _ _ _
    | 1, rfl => exact Tag.family_of_mem_reserved hmem
    | 2, rfl => exact hb.routing.targets.family_tag tag hmem
    | 3, rfl => exact Tag.family_of_mem_localInbounds (hsub.subset hmem)
    | 4, rfl =>
      obtain ⟨hop, -, rfl⟩ := List.mem_map.1 hmem
      exact Tag.family_mapping hop

theorem get?_inbounds_of_built (hb : Built setup request root ps hops r o)
    (hdoc : Fields.Lacks "inbounds" root.customConfig.tree.override) :
    o.document.get? "inbounds" =
      some (.list (Document.inbounds setup.settings request hops)) := by
  have hsection : (Tree.ofFields (Document.sections setup.settings request hops r)).get?
      "inbounds" = some (.list (Document.inbounds setup.settings request hops)) := by
    simp [Document.sections, Fields.get?_set]
  rw [hb.output, Tree.get?_merge_of_lacks hdoc, hsection]

end Output

end Built

/-- **The tags of a document are told apart.** Of whatever length the chain is, with repeated members
and ids below zero, and whatever the rules select: the outbounds are those of the hops, the reserved
ones and one for each selected profile, and no tag of an outbound or inbound is used twice. -/
theorem laidOut_of_run {σ : Type} [RuleSetService σ] {setup : Setup} {request : Request}
    {root : Profile} {ps : List Profile} {o : Output} {s s' : BuildState σ}
    (hroot : root.isFullDocument = false)
    (hr : Build.run (Build.profile setup request root) s = (.ok o, s'))
    (hps : setup.store.hops root (!request.test) = .ok ps)
    (htag : ∀ p ∈ ps, Fields.Lacks "tag" p.customOutbound.tree.override)
    (hout : Fields.Lacks "outbounds" root.customConfig.tree.override)
    (hin : Fields.Lacks "inbounds" root.customConfig.tree.override)
    (hextra : Document.extraInbounds setup.settings request = []) :
    ∃ chain d, setup.store.chain? setup.settings.routing.currentRouteId = some chain ∧
      o.LaidOut setup request.seq ps chain d := by
  obtain ⟨hops, r, hb⟩ := built_of_hops hroot hr hps
  refine ⟨r.chain, .ofParts setup.settings request hops r, hb.routing.chain, ?_⟩
  exact {
    outbounds := Output.get?_outbounds_of_built hb hout
    inbounds := by
      rw [Output.get?_inbounds_of_built hb hin, Document.inbounds, hextra, List.append_nil]
      rfl
    length_hops := by
      rw [Output.Entries.ofParts, List.length_map, Hop.length_linkedOutbounds,
        hb.compiled.length_eq]
    hop := fun i p t hp ht => hb.compiled.standsFor htag hp ht
    target := ⟨Routing.targetIds r.chain, RuleChain.nodup_targetIds _,
      fun _ => RuleChain.mem_targetIds, hb.routing.targets.length_eq ▸ List.length_map _,
      fun k id t hid ht => Target.Compiled.stands hb.routing.targets hid ht⟩
    nodup := Output.nodup_of_built hb htag }

/-- A chain that passes a server twice, with a rule that selects another server. -/
theorem laidOut_of_run_twice_bridged :
    ∃ o s', Build.run (Build.profile Setting.setup {} Setting.chain) Setting.start = (.ok o, s') ∧
      ∃ d, o.LaidOut Setting.setup 0 [Setting.bridged, Setting.native, Setting.bridged]
        Setting.rules d := by
  obtain ⟨o, s', hr⟩ := Build.exists_run_eq_ok
    (b := Build.profile Setting.setup {} Setting.chain) (s := Setting.start) (by decide)
  obtain ⟨chain, d, hchain, hlaid⟩ :=
    laidOut_of_run rfl hr Setting.hops_chain (fun p hp => (Setting.leavesLinks p hp).tag) (by decide)
      (by decide) rfl
  cases hchain
  exact ⟨o, s', hr, d, hlaid⟩

end Detour
