import Detour.Proofs.Batch.Part
/-!
# Bridges of batches

A hop that several parts of a batch share is compiled once for each of them, each time with ports of
its own, and kept once. `bridged_of_run` says that what is kept belongs together: each helper of a
batch dials the ports that the shared document listens on, and every bridged hop has one helper.
-/

namespace Detour

namespace Batch

/-- The profiles of a batch are stored, and nothing is merged into what is compiled from them. -/
structure Plain (setup : Setup) (profiles : List Profile) : Prop where
  stored : ∀ p ∈ profiles, setup.store.profile? p.id = some p
  document : ∀ p ∈ profiles, p.customConfig.tree.override = []
  outbound : ∀ root ∈ profiles, ∀ ps, setup.store.hops root false = .ok ps →
    ∀ p ∈ ps, p.customOutbound.tree.override = []

/-- The lists of a shared document, with the redirects that its rules start with. -/
structure Shared where
  outbounds : List Tree
  inbounds : List Tree
  redirects : List Hop.Redirect

/-- The lists stand where the core looks for them, and behind the redirects are the rules of the
chain for batches. -/
structure Output.HasShared (setup : Setup) (out : Output) (d : Shared) : Prop where
  outbounds : out.document.at? ["outbounds"] = some (.list d.outbounds)
  inbounds : out.document.at? ["inbounds"] = some (.list d.inbounds)
  rules : out.document.at? ["route", "rules"] = some (.list
    (d.redirects.map Hop.Redirect.toTree ++ setup.store.defaultChain.routeRules Tag.sentinels))

/-- A profile that some compiled profile of a batch passes as a bridged hop, under a tag. -/
def IsBridgedHop (setup : Setup) (profiles : List Profile) (tag : String) (p : Profile)
    (mode : Bridging) : Prop :=
  ∃ root n ps i, (root, n) ∈ numbered 1 profiles ∧ root.isFullDocument = false ∧
    setup.store.hops root false = .ok ps ∧ ps[i]? = some p ∧ tag = Tag.hop n p.id i ps.length ∧
    mode = p.protocol.bridging (i + 1 == ps.length) setup.settings.vpn.enabled ∧
    mode.isBridged = true

/-- A helper serves a bridged hop: it was launched with the ports that the document has for it. -/
structure Shared.Serves (settings : Settings) (tag : String) (p : Profile) (mode : Bridging)
    (ports : Bridge.Ports) (helper : Descriptor) (d : Shared) : Prop where
  helper : ∃ raw, Bridge.descriptor settings ports mode p.protocol = .ok raw ∧
    helper = { raw with outbound := tag }
  /-- The only outbound with the tag leads to the helper. -/
  outbound : d.outbounds.filter (fun t => tagOf t = tag) =
    [.object (Hop.bridgeOutbound tag ports.socks)]
  /-- The only inbound with the tag that belongs to it is where the helper dials. -/
  inbound : mode = .mapping → d.inbounds.filter (fun t => tagOf t = Tag.mapping tag) =
    [Hop.redirectInbound tag ports.mapping p.protocol.endpoint]
  /-- And one redirect leads on from there. -/
  redirect : mode = .mapping → ∃ next, d.redirects.filter (fun r => r.hop = tag) = [⟨tag, next⟩]

/-- The helpers of a batch and its document belong together. -/
structure Shared.Bridged (setup : Setup) (profiles : List Profile) (externals : List Descriptor)
    (d : Shared) : Prop where
  nodup : (externals.map Descriptor.outbound).Nodup
  /-- Every helper serves a bridged hop. -/
  served : ∀ x ∈ externals, ∃ p mode ports, IsBridgedHop setup profiles x.outbound p mode ∧
    d.Serves setup.settings x.outbound p mode ports x
  /-- Every inbound is the one of exactly one helper. -/
  inbound : ∀ t ∈ d.inbounds, ∃ x p ports,
    externals.filter (fun y => Tag.mapping y.outbound = tagOf t) = [x] ∧
    d.Serves setup.settings x.outbound p .mapping ports x ∧
    t = Hop.redirectInbound x.outbound ports.mapping p.protocol.endpoint
  /-- Every bridged hop is served by exactly one helper. -/
  complete : ∀ tag p mode, IsBridgedHop setup profiles tag p mode → ∃ x ports,
    externals.filter (fun y => y.outbound = tag) = [x] ∧
    d.Serves setup.settings tag p mode ports x

/-! ## The shared document -/

/-- The lists that some parts are merged to. -/
def shared (parts : List Part) : Shared :=
  ⟨outbounds parts, inbounds parts, redirects parts⟩

theorem hasShared_assemble (setup : Setup) (items : List Item) (ruleSets : List Tree) :
    (assemble setup.store.defaultChain items ruleSets).HasShared setup
      (shared (items.filterMap Item.part?)) := by
  refine ⟨?_, ?_, ?_⟩ <;>
    simp [assemble, document, shared, route, Tree.at?, Fields.get?_set]

section Parts

variable {σ : Type} [RuleSetService σ] {setup : Setup} {profiles : List Profile}
  {items : List Item} {part : Part}

theorem items_of_run {out : Output} {s s' : BuildState σ} (hplain : Plain setup profiles)
    (hr : Build.run (Build.batch setup profiles) s = (.ok out, s')) :
    ∃ items ruleSets, Item.BuiltFrom setup 1 profiles items ∧
      out = assemble setup.store.defaultChain items ruleSets := by
  simp only [Build.batch, Build.run_bind_eq_ok] at hr
  obtain ⟨items, s₁, hitems, ruleSets, s₂, -, hpure⟩ := hr
  cases hpure
  exact ⟨items, ruleSets, Item.builtFrom_of_run hplain.document hitems, rfl⟩

end Parts

variable {setup : Setup} {profiles : List Profile} {items : List Item} {part : Part}

/-- A part of a plain batch is plain. -/
theorem Plain.plainPart {root : Profile} {n : Nat} {ps : List Profile} {hops : List Hop}
    {targets : List Target} (hplain : Plain setup profiles)
    (hroot : (root, n) ∈ numbered 1 profiles)
    (hc : part.Compiled setup n root ps hops targets) :
    part.Plain setup n root ps hops targets := by
  obtain ⟨hmem, hn⟩ := mem_of_mem_numbered hroot
  refine { hc with seq_ne := by omega, stored := ?_, outbound := ?_ }
  · exact Store.stored_of_expand (hplain.stored root hmem) (Store.expand_of_hops hc.resolved)
  · exact hplain.outbound root hmem ps hc.resolved

theorem Plain.exists_plain (hplain : Plain setup profiles)
    (hbuilt : Item.BuiltFrom setup 1 profiles items) (hp : part ∈ items.filterMap Item.part?) :
    ∃ root n ps hops targets, (root, n) ∈ numbered 1 profiles ∧ root.isFullDocument = false ∧
      part.Plain setup n root ps hops targets := by
  obtain ⟨root, n, ps, hops, targets, hroot, hfull, hc⟩ := hbuilt.exists_root hp
  exact ⟨root, n, ps, hops, targets, hroot, hfull, hplain.plainPart hroot hc⟩

/-! ## The owners of bridged hops -/

section Owners

variable (hplain : Plain setup profiles) (hbuilt : Item.BuiltFrom setup 1 profiles items)

include hplain hbuilt in
/-- The parts with an inbound for a redirected hop are the parts with the hop: whether a hop is
redirected depends on its profile and its place alone. -/
theorem find?_inbounds_eq_owner? {p : Profile} {n i len : Nat}
    (hstored : setup.store.profile? p.id = some p)
    (hmode : p.protocol.bridging (i + 1 == len) setup.settings.vpn.enabled = .mapping) :
    (items.filterMap Item.part?).find? (fun q => q.inbounds.any fun t =>
        tagOf t = Tag.mapping (Tag.hop n p.id i len)) =
      owner? (Tag.hop n p.id i len) (items.filterMap Item.part?) := by
  have hiff : ∀ q ∈ items.filterMap Item.part?,
      (q.inbounds.any fun t => tagOf t = Tag.mapping (Tag.hop n p.id i len)) =
        q.owns (Tag.hop n p.id i len) := by
    intro q hq
    obtain ⟨root, n', ps, hops, targets, -, -, hqp⟩ := hplain.exists_plain hbuilt hq
    rw [Bool.eq_iff_iff, List.any_eq_true]
    constructor
    · rintro ⟨t, ht, he⟩
      rw [hqp.inbounds] at ht
      obtain ⟨h, hh, hred⟩ := List.mem_filterMap.1 ht
      obtain ⟨j, hj⟩ := List.mem_iff_getElem?.1 hh
      have htag : h.tag = Tag.hop n p.id i len := by
        refine Tag.mapping_injective ?_
        rw [← hqp.tagOf_redirect hj hred]
        exact of_decide_eq_true he
      rw [Part.owns_iff, hqp.mem_tags, ← hqp.chain.map_tag, ← htag]
      exact .inl (List.mem_map_of_mem hh)
    · -- the hop is redirected here as well, since the profile and the place are the same
      intro hown
      obtain ⟨j, h, hh, hc⟩ := hqp.exists_hop_of_owns hstored hown
      obtain ⟨t, ht⟩ := hc.redirect_isSome (hc.place.2.2.trans hmode)
      refine ⟨t, ?_, ?_⟩
      · rw [hqp.inbounds]
        exact List.mem_filterMap.2 ⟨h, List.mem_of_getElem? hh, ht⟩
      · rw [decide_eq_true_eq, hqp.tagOf_redirect hh ht, hc.place.2.1]
  rw [owner?, ← List.head?_filter, ← List.head?_filter, List.filter_congr hiff]

include hplain hbuilt in
/-- A bridged hop is served by the helper of its owner, with the ports of that compilation in all
three places. -/
theorem exists_serving {tag : String} {p : Profile} {mode : Bridging}
    (hhop : IsBridgedHop setup profiles tag p mode) :
    ∃ x ports, (externals (items.filterMap Item.part?)).filter (fun y => y.outbound = tag) = [x] ∧
      (shared (items.filterMap Item.part?)).Serves setup.settings tag p mode ports x := by
  -- the hop in the part of its own profile
  obtain ⟨root, n, ps, i, hroot, hfull, hps, hi, rfl, rfl, hb⟩ := hhop
  obtain ⟨part, hpart, ps', hops, targets, hc⟩ := hbuilt.exists_part hroot hfull
  obtain rfl : ps' = ps := by
    have := hc.resolved
    rw [hps] at this
    exact (Except.ok.inj this).symm
  have hpp := hplain.plainPart hroot hc
  have hstored := hpp.stored p (List.mem_of_getElem? hi)
  have hmem : Tag.hop n p.id i ps'.length ∈ part.outbounds.map tagOf :=
    hpp.mem_tags.2 (.inl (Hop.mem_tags.2 ⟨i, p, hi, rfl⟩))
  -- and in the part that owns its tag, whose ports are the ones that are kept
  obtain ⟨q, hq, hown, howner⟩ := exists_owner hpart hmem
  obtain ⟨root', n', qs, hops', targets', -, -, hqp⟩ := hplain.exists_plain hbuilt hq
  obtain ⟨j, h, hh, hch⟩ := hqp.exists_hop_of_owns hstored hown
  obtain ⟨-, htag, hmode⟩ := hch.place
  rw [← hmode] at hb ⊢
  obtain ⟨ports, raw, hdesc, hhelper, hout, hred⟩ :=
    hch.bridge hb (hpp.outbound p (List.mem_of_getElem? hi))
  have hlinked : h.linkedTo hops'[j + 1]? = h.outbound := by
    have hnat : h.bridging ≠ .native := by
      intro he
      rw [he] at hb
      cases hb
    unfold Hop.linkedTo
    split
    · rw [if_neg hnat]
    · rfl
  refine ⟨{ raw with outbound := Tag.hop n p.id i ps'.length }, ports, ?_,
    ⟨⟨raw, hdesc, rfl⟩, ?_, fun hm => ?_, fun hm => ?_⟩⟩
  · rw [Batch.filter_externals howner, ← htag, hqp.filter_externals hh, hhelper, htag]
    rfl
  · rw [shared, filter_outbounds (Tag.isReserved_hop _ _ _ _) howner, ← htag,
      hqp.find?_outbounds hh, hlinked, hout, htag]
    rfl
  · have hfind := find?_inbounds_eq_owner? hplain hbuilt (n := n) hstored (hmode.symm.trans hm)
    rw [howner] at hfind
    rw [shared, inbounds, filter_freshTags, if_neg List.not_mem_nil, find?_flatMap_of_find? hfind,
      ← List.head?_filter, ← htag, hqp.filter_inbounds hh, hred, if_pos hm, htag]
    rfl
  · have hto : ∃ next, h.redirectTo hops'[j + 1]? = some ⟨h.tag, next⟩ := by
      unfold Hop.redirectTo
      split
      · rw [if_neg (by simp [hm])]
        exact ⟨_, rfl⟩
      · rw [if_pos hm]
        exact ⟨_, rfl⟩
    obtain ⟨next, hnext⟩ := hto
    refine ⟨next, ?_⟩
    rw [shared, Batch.filter_redirects howner, ← htag, hqp.filter_redirects hh, hnext]
    rfl

/-- What is bridged in a part is a bridged hop of the batch. -/
theorem isBridgedHop_of_hop {root : Profile} {n i : Nat} {ps : List Profile} {hops : List Hop}
    {targets : List Target} {h : Hop} (hroot : (root, n) ∈ numbered 1 profiles)
    (hfull : root.isFullDocument = false) (hp : part.Plain setup n root ps hops targets)
    (hh : hops[i]? = some h) (hb : h.bridging.isBridged = true) :
    ∃ p, IsBridgedHop setup profiles h.tag p h.bridging := by
  obtain ⟨p, hpi, hc⟩ := hp.chain.exists_profile hh
  exact ⟨p, root, n, ps, i, hroot, hfull, hp.resolved, hpi, hc.place.2.1, hc.place.2.2, hb⟩

include hplain hbuilt in
theorem isBridgedHop_of_external {x : Descriptor}
    (hx : x ∈ externals (items.filterMap Item.part?)) :
    ∃ p mode, IsBridgedHop setup profiles x.outbound p mode := by
  obtain ⟨part, hpart, hx⟩ := exists_part_of_external hx
  obtain ⟨root, n, ps, hops, targets, hroot, hfull, hp⟩ := hplain.exists_plain hbuilt hpart
  rw [hp.externals] at hx
  obtain ⟨h, hh, hhelper⟩ := List.mem_filterMap.1 hx
  obtain ⟨j, hj⟩ := List.mem_iff_getElem?.1 hh
  obtain ⟨_, -, hc⟩ := hp.chain.exists_profile hj
  obtain ⟨p, hhop⟩ := isBridgedHop_of_hop hroot hfull hp hj (hc.isBridged_of_helper hhelper)
  rw [hc.outbound_helper hhelper]
  exact ⟨p, h.bridging, hhop⟩

include hplain hbuilt in
theorem isBridgedHop_of_inbound {t : Tree} (ht : t ∈ inbounds (items.filterMap Item.part?)) :
    ∃ tag p, tagOf t = Tag.mapping tag ∧ IsBridgedHop setup profiles tag p .mapping := by
  obtain ⟨part, hpart, ht⟩ := exists_part_of_inbound ht
  obtain ⟨root, n, ps, hops, targets, hroot, hfull, hp⟩ := hplain.exists_plain hbuilt hpart
  rw [hp.inbounds] at ht
  obtain ⟨h, hh, hred⟩ := List.mem_filterMap.1 ht
  obtain ⟨j, hj⟩ := List.mem_iff_getElem?.1 hh
  obtain ⟨_, -, hc⟩ := hp.chain.exists_profile hj
  have hmode := (hc.get?_redirect hred).1
  obtain ⟨p, hhop⟩ := isBridgedHop_of_hop hroot hfull hp hj (by rw [hmode]; rfl)
  rw [hmode] at hhop
  exact ⟨h.tag, p, hp.tagOf_redirect hj hred, hhop⟩

end Owners

/-- A list in which each element is the only one with its key has no key twice. -/
theorem nodup_map_of_filter {α κ : Type} [DecidableEq κ] {key : α → κ} {xs : List α}
    (h : ∀ x ∈ xs, ∃ y, xs.filter (fun z => key z = key x) = [y]) : (xs.map key).Nodup := by
  induction xs with
  | nil => exact List.Pairwise.nil
  | cons a rest ih =>
    have hne : ∀ x ∈ rest, key a ≠ key x := by
      intro x hx he
      obtain ⟨y, hy⟩ := h a List.mem_cons_self
      rw [List.filter_cons_of_pos (by simp), List.cons.injEq, List.filter_eq_nil_iff] at hy
      exact hy.2 x hx (by simp [he])
    refine List.nodup_cons.2 ⟨?_, ih fun x hx => ?_⟩
    · rw [List.mem_map]
      rintro ⟨x, hx, he⟩
      exact hne x hx he.symm
    · obtain ⟨y, hy⟩ := h x (List.mem_cons_of_mem _ hx)
      rw [List.filter_cons_of_neg (by simpa using hne x hx)] at hy
      exact ⟨y, hy⟩

/-- **Helpers, ports and redirects of a batch belong together.** -/
theorem bridged_of_run {σ : Type} [RuleSetService σ] {setup : Setup} {profiles : List Profile}
    {out : Output} {s s' : BuildState σ} (hplain : Plain setup profiles)
    (hr : Build.run (Build.batch setup profiles) s = (.ok out, s')) :
    ∃ d, out.HasShared setup d ∧ d.Bridged setup profiles out.externals := by
  obtain ⟨items, ruleSets, hbuilt, rfl⟩ := items_of_run hplain hr
  refine ⟨shared (items.filterMap Item.part?), hasShared_assemble setup items ruleSets, ?_⟩
  have houtbound : ∀ {tag p mode ports x},
      (shared (items.filterMap Item.part?)).Serves setup.settings tag p mode ports x →
        x.outbound = tag := by
    rintro tag p mode ports x ⟨⟨raw, -, rfl⟩, -, -, -⟩
    rfl
  refine {
    nodup := nodup_map_of_filter fun x hx => ?_
    served := fun x hx => ?_
    inbound := fun t ht => ?_
    complete := fun tag p mode hhop => exists_serving hplain hbuilt hhop }
  · -- every helper serves a hop, and for that hop the filter leaves one helper
    obtain ⟨p, mode, hhop⟩ := isBridgedHop_of_external hplain hbuilt hx
    obtain ⟨y, -, hy, -⟩ := exists_serving hplain hbuilt hhop
    exact ⟨y, hy⟩
  · obtain ⟨p, mode, hhop⟩ := isBridgedHop_of_external hplain hbuilt hx
    obtain ⟨y, ports, hy, hserves⟩ := exists_serving hplain hbuilt hhop
    -- so the helper that was found is the one that was asked about
    have hxy : x = y := by
      have hmem : x ∈ (externals (items.filterMap Item.part?)).filter
          (fun z => z.outbound = x.outbound) := List.mem_filter.2 ⟨hx, by simp⟩
      rw [hy] at hmem
      exact List.mem_singleton.1 hmem
    rw [← hxy] at hserves
    exact ⟨p, mode, ports, hhop, hserves⟩
  · -- an inbound names the hop that it leads to, and through it the helper
    obtain ⟨tag, p, htag, hhop⟩ := isBridgedHop_of_inbound hplain hbuilt ht
    obtain ⟨x, ports, hx, hserves⟩ := exists_serving hplain hbuilt hhop
    have hxtag := houtbound hserves
    refine ⟨x, p, ports, ?_, by rwa [hxtag], ?_⟩
    · have hcongr : ∀ y ∈ externals (items.filterMap Item.part?),
          decide (Tag.mapping y.outbound = tagOf t) = decide (y.outbound = tag) := by
        intro y _
        rw [htag]
        exact decide_eq_decide.2 ⟨Tag.mapping_injective, fun he => he ▸ rfl⟩
      exact (List.filter_congr hcongr).trans hx
    · have hmem : t ∈ (shared (items.filterMap Item.part?)).inbounds.filter
          (fun u => tagOf u = Tag.mapping tag) := List.mem_filter.2 ⟨ht, by simp [htag]⟩
      rw [hserves.inbound rfl] at hmem
      rw [hxtag]
      exact List.mem_singleton.1 hmem

/-! ## A batch of the setting -/

/-- The chain twice and between them the server at both of its ends, which all three share. -/
def Setting.batch : List Profile :=
  [Setting.chain, Setting.bridged, Setting.chain]

theorem Setting.plain : Plain Setting.setup Setting.batch := by
  have hall : ∀ root ∈ Setting.batch, Setting.setup.store.profile? root.id = some root ∧
      root.customConfig.tree.override = [] ∧
      ∀ ps, Setting.setup.store.hops root false = .ok ps →
        ∀ p ∈ ps, p.customOutbound.tree.override = [] := by
    have hchain : ∀ ps, Setting.setup.store.hops Setting.chain false = .ok ps →
        ∀ p ∈ ps, p.customOutbound.tree.override = [] := by
      rintro ps ⟨⟩
      decide
    have hbridged : ∀ ps, Setting.setup.store.hops Setting.bridged false = .ok ps →
        ∀ p ∈ ps, p.customOutbound.tree.override = [] := by
      rintro ps ⟨⟩
      decide
    simp only [Setting.batch, List.forall_mem_cons]
    exact ⟨⟨rfl, rfl, hchain⟩, ⟨rfl, rfl, hbridged⟩, ⟨rfl, rfl, hchain⟩, by simp⟩
  exact ⟨fun p hp => (hall p hp).1, fun p hp => (hall p hp).2.1, fun p hp => (hall p hp).2.2⟩

/-- Where hops are shared, each helper has the ports of the compilation that was kept. -/
theorem bridged_of_run_shared_server :
    ∃ out s' d, Build.run (Build.batch Setting.setup Setting.batch) Setting.start = (.ok out, s') ∧
      out.HasShared Setting.setup d ∧ d.Bridged Setting.setup Setting.batch out.externals := by
  obtain ⟨out, s', hr⟩ := Build.exists_run_eq_ok
    (b := Build.batch Setting.setup Setting.batch) (s := Setting.start) (by decide +kernel)
  obtain ⟨d, hshared, hbridged⟩ := bridged_of_run Setting.plain hr
  exact ⟨out, s', d, hr, hshared, hbridged⟩

end Batch

end Detour
