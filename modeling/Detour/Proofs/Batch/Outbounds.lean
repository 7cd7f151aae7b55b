import Detour.Proofs.Batch.Bridges
import Detour.Proofs.Batch.Outcome
import Detour.Proofs.Document.Tags
/-!
# Outbounds of batches

The shared document has the outbounds of all tests, and of each tag the first one. The hop nearest to
the client has one tag in all tests, so outbounds do collide. `merged_of_run` says that this is no
loss: unless overrides change tags, an outbound that is dropped is the one that was kept, but for the
port of a bridge.
-/

namespace Detour

/-- Two objects have the same values under all keys but one. -/
def Tree.AgreeOff (except : String) (t u : Tree) : Prop :=
  ∃ fields other, t = .object fields ∧ u = .object other ∧ Fields.AgreeOff except fields other

namespace Batch

/-- Of the elements with one tag the first, in order; a missing tag counts as empty. -/
def firstOfTags (xs : List Tree) : List Tree :=
  xs.eraseDupsBy fun t u => tagOf t == tagOf u

/-- The outbounds of a test that are not reserved. -/
def Test.contributed (t : Test) : List Tree :=
  t.outbounds.filter fun v => !Tag.isReserved (tagOf v)

/-- An outbound of a test is that of a bridged hop. -/
def Test.OfBridge (setup : Setup) (v : Tree) (t : Test) : Prop :=
  ∃ (ps : List Profile) (i : Nat) (p : Profile), setup.store.hops t.root false = .ok ps ∧
    ps[i]? = some p ∧ t.outbounds[i]? = some v ∧
    (p.protocol.bridging (i + 1 == ps.length) setup.settings.vpn.enabled).isBridged = true

/-- No override of a stored profile names the tag of an outbound or the outbounds of a document. -/
structure KeepsOutbounds (store : Store) : Prop where
  tag : ∀ p ∈ store.profiles, Fields.Lacks "tag" p.customOutbound.tree.override
  outbounds : ∀ p ∈ store.profiles, Fields.Lacks "outbounds" p.customConfig.tree.override

/-- Nothing that some tests contribute is lost in what is kept. -/
structure Lossless (setup : Setup) (tests : List Test) (kept : List Tree) : Prop where
  /-- Under the tag of each outbound that very outbound is kept, but for the port of a bridge. -/
  kept : ∀ t ∈ tests, ∀ v ∈ t.contributed, ∃ u, kept.filter (fun w => tagOf w = tagOf v) = [u] ∧
    (u = v ∨ t.OfBridge setup v ∧ Tree.AgreeOff "server_port" u v)
  /-- Each hop of each profile has such an outbound. -/
  hops : ∀ t ∈ tests, ∀ ps i p, setup.store.hops t.root false = .ok ps → ps[i]? = some p →
    ∃ v ∈ t.contributed, t.outbounds[i]? = some v ∧ tagOf v = Tag.hop t.seq p.id i ps.length

/-! ## First elements -/

theorem freshTags_eq (seen : List String) (xs : List Tree) :
    freshTags seen xs = firstOfTags (xs.filter fun t => tagOf t ∉ seen) := by
  induction xs generalizing seen with
  | nil => rfl
  | cons x rest ih =>
    rw [freshTags]
    by_cases hx : tagOf x ∈ seen
    · rw [if_pos hx, ih, List.filter_cons_of_neg (by simpa using hx)]
    · rw [if_neg hx, ih, List.filter_cons_of_pos (by simpa using hx), firstOfTags, firstOfTags,
        List.eraseDupsBy_cons, List.filter_filter]
      congr 3
      funext t
      simp [not_or]

theorem nodup_freshTags (seen : List String) (xs : List Tree) :
    ((freshTags seen xs).map tagOf).Nodup := by
  induction xs generalizing seen with
  | nil => exact List.Pairwise.nil
  | cons x rest ih =>
    rw [freshTags]
    split
    · exact ih seen
    · refine List.nodup_cons.2 ⟨fun hmem => ?_, ih _⟩
      exact (mem_tags_freshTags.1 hmem).1 List.mem_cons_self

section Runs

variable {σ : Type} [RuleSetService σ] {setup : Setup} {profiles ps ps' : List Profile}
  {items : List Item} {s : BuildState σ} {t t' : Test} {u v : Tree} {hops hops' : List Hop}
  {r r' : Routing}

/-- The parts of a batch contribute what its tests do. -/
theorem Item.Tested.outbounds_eq {tests : List Test} (h : Item.Tested profiles tests items) :
    (items.filterMap part?).flatMap Part.outbounds =
      (tests.filter fun t => !t.root.isFullDocument).flatMap Test.contributed := by
  induction h with
  | nil => rfl
  | skipped _ _ ih => exact ih
  | built _ hitem _ ih =>
    rcases cases_of_ofOutput hitem with ⟨hfull, document, rfl, -⟩ | ⟨hfull, part, rfl, hout⟩
    · rw [List.filter_cons_of_neg (by simp [hfull])]
      exact ih
    · rw [List.filter_cons_of_pos (by simp [hfull]), List.flatMap_cons, ← ih]
      simp [part?, Part.outbounds, Test.contributed, Test.outbounds, hout]

/-- The tests of a batch are known by their numbers. -/
theorem eq_of_seq_eq (ht : t ∈ Batch.tests setup profiles s)
    (ht' : t' ∈ Batch.tests setup profiles s) (he : t.seq = t'.seq) : t = t' := by
  obtain ⟨i, hi⟩ := List.mem_iff_getElem?.1 ht
  obtain ⟨j, hj⟩ := List.mem_iff_getElem?.1 ht'
  have hseq : ∀ {k : Nat} {t : Test}, (Batch.tests setup profiles s)[k]? = some t →
      t.seq = 1 + k := by
    intro k t hk
    have hmap : ((Batch.tests setup profiles s).map fun t => (t.root, t.seq))[k]? =
        some (t.root, t.seq) := by
      rw [List.getElem?_map, hk]
      rfl
    rw [Batch.tests, map_root_testsFrom, List.getElem?_zipIdx] at hmap
    obtain ⟨p, -, hp⟩ := Option.map_eq_some_iff.1 hmap
    exact (Prod.mk.inj hp).2.symm
  have hij : i = j := by
    have := hseq hi
    have := hseq hj
    omega
  subst hij
  rw [hi] at hj
  exact Option.some.inj hj

/-! ## What a test contributes -/

/-- What the document of a test was put together from. -/
structure Test.Compiled (setup : Setup) (ps : List Profile) (hops : List Hop) (r : Routing)
    (t : Test) : Prop where
  resolved : setup.store.hops t.root false = .ok ps
  chain : Hop.CompiledChain setup.settings t.seq ps hops
  routing : Routing.Compiled setup t.seq r
  outbounds : t.outbounds = Document.outbounds hops r.targets
  stored : ∀ p ∈ ps, setup.store.profile? p.id = some p
  tag : ∀ p ∈ ps, Fields.Lacks "tag" p.customOutbound.tree.override
  seq_ne : t.seq ≠ 0

theorem Test.exists_compiled
    (hout : ∀ p ∈ profiles, Fields.Lacks "outbounds" p.customConfig.tree.override)
    (htag : ∀ root ∈ profiles, ∀ ps, setup.store.hops root false = .ok ps →
      ∀ p ∈ ps, Fields.Lacks "tag" p.customOutbound.tree.override)
    (hstored : ∀ p ∈ profiles, setup.store.profile? p.id = some p)
    (hok : ∀ t ∈ Batch.tests setup profiles s, t.failure? = none)
    (ht : t ∈ sharedTests setup profiles s) : ∃ ps hops r, t.Compiled setup ps hops r := by
  obtain ⟨htest, hfull⟩ := List.mem_filter.1 ht
  obtain ⟨s₁, s₂, hr⟩ := exists_run_of_mem_testsFrom htest
  obtain ⟨hmem, hseq⟩ := mem_of_mem_numbered (mem_numbered_of_test htest)
  cases hresult : t.result with
  | error e =>
    have := hok t htest
    rw [failure?, hresult] at this
    cases this
  | ok o =>
    rw [hresult] at hr
    obtain ⟨ps, hops, r, hb⟩ := built_of_run (by simpa using hfull) hr
    refine ⟨ps, hops, r, hb.resolved, hb.compiled, hb.routing, ?_, ?_, ?_, by omega⟩
    · rw [Test.outbounds, hresult]
      exact Output.outbounds_of_built hb (hout t.root hmem)
    · exact Store.stored_of_expand (hstored t.root hmem) (Store.expand_of_hops hb.resolved)
    · exact htag t.root hmem ps hb.resolved

theorem KeepsOutbounds.exists_compiled (hkeeps : KeepsOutbounds setup.store)
    (hstored : ∀ p ∈ profiles, setup.store.profile? p.id = some p)
    (hok : ∀ t ∈ Batch.tests setup profiles s, t.failure? = none)
    (ht : t ∈ sharedTests setup profiles s) : ∃ ps hops r, t.Compiled setup ps hops r := by
  refine Test.exists_compiled (fun p hp => ?_) (fun root hroot ps hps p hp => ?_) hstored hok ht
  · exact hkeeps.outbounds p (Store.mem_of_profile? (hstored p hp))
  · have hown := Store.stored_of_expand (hstored root hroot) (Store.expand_of_hops hps)
    exact hkeeps.tag p (Store.mem_of_profile? (hown p hp))

namespace Test.Compiled

variable (hc : t.Compiled setup ps hops r)

include hc in
/-- At the position of a hop stands its outbound, under its tag. -/
theorem hop {i : Nat} {p : Profile} (hp : ps[i]? = some p) :
    ∃ h, hops[i]? = some h ∧
      Hop.Compiled setup.settings p (Tag.hop t.seq p.id i ps.length) (i + 1 == ps.length) h ∧
      t.outbounds[i]? = some (.object (h.linkedTo hops[i + 1]?)) ∧
      tagOf (.object (h.linkedTo hops[i + 1]?)) = Tag.hop t.seq p.id i ps.length := by
  obtain ⟨h, hh, hcompiled⟩ := hc.chain.exists_hop hp
  have htag := hc.chain.textAt?_tag hc.tag hh hops[i + 1]?
  rw [hcompiled.place.2.1] at htag
  refine ⟨h, hh, hcompiled, ?_, tagOf_of_textAt? htag⟩
  rw [hc.outbounds, Document.getElem?_outbounds r.targets hh]

include hc in
/-- What a test contributes are its hops and the targets of rules. -/
theorem cases (hv : v ∈ t.contributed) :
    (∃ i p, ps[i]? = some p ∧ t.outbounds[i]? = some v ∧
      tagOf v = Tag.hop t.seq p.id i ps.length) ∨
    (∃ k id p fields, (Routing.targetIds r.chain)[k]? = some id ∧
      setup.store.profile? id = some p ∧
      compileNative setup.settings p (Tag.routeTarget t.seq k) = .ok fields ∧ v = .object fields ∧
      tagOf v = Tag.routeTarget t.seq k) := by
  obtain ⟨hmem, hreserved⟩ := List.mem_filter.1 hv
  rw [hc.outbounds, Document.outbounds, List.mem_append, List.mem_append] at hmem
  rcases hmem with (hhop | hres) | htarget
  · obtain ⟨fields, hf, rfl⟩ := List.mem_map.1 hhop
    obtain ⟨i, h, hh, rfl⟩ := Hop.mem_linkedOutbounds.1 hf
    obtain ⟨p, hp, -⟩ := hc.chain.exists_profile hh
    obtain ⟨h', hh', -, hget, htag⟩ := hc.hop hp
    rw [hh] at hh'
    cases hh'
    exact .inl ⟨i, p, hp, hget, htag⟩
  · rw [isReserved_of_mem_reservedOutbounds v hres] at hreserved
    cases hreserved
  · obtain ⟨target, hmem, rfl⟩ := List.mem_map.1 htarget
    obtain ⟨k, id, hid, hp, htag, hown⟩ := hc.routing.targets.exists_id hmem
    rw [htag] at hown
    exact .inr ⟨k, id, target.profile, target.outbound, hid, hp, hown, rfl,
      tagOf_of_textAt? (textAt?_tag_of_compileNative hown)⟩

include hc in
/-- Every hop contributes its outbound. -/
theorem mem_contributed {i : Nat} {p : Profile} (hp : ps[i]? = some p) :
    ∃ v ∈ t.contributed, t.outbounds[i]? = some v ∧
      tagOf v = Tag.hop t.seq p.id i ps.length := by
  obtain ⟨h, -, -, hget, htag⟩ := hc.hop hp
  refine ⟨_, List.mem_filter.2 ⟨List.mem_of_getElem? hget, ?_⟩, hget, htag⟩
  rw [htag, Tag.isReserved_hop]
  rfl

include hc in
/-- Nothing is behind the hop nearest to the client, so its outbound comes from its profile
alone. -/
theorem agree_nearest (hc' : t'.Compiled setup ps' hops' r') {i : Nat} {p q : Profile}
    (hp : ps[i]? = some p) (hq : ps'[i]? = some q) (hi : i + 1 = ps.length)
    (hi' : i + 1 = ps'.length) (hids : p.id = q.id)
    (htag : Tag.hop t'.seq q.id i ps'.length = Tag.hop t.seq p.id i ps.length)
    (hu : t'.outbounds[i]? = some u) (hv : t.outbounds[i]? = some v) :
    u = v ∨ t.OfBridge setup v ∧ Tree.AgreeOff "server_port" u v := by
  obtain rfl : p = q := by
    have hstored := hc.stored p (List.mem_of_getElem? hp)
    rw [hids, hc'.stored q (List.mem_of_getElem? hq)] at hstored
    exact (Option.some.inj hstored).symm
  obtain ⟨h, -, hcompiled, hget, -⟩ := hc.hop hp
  obtain ⟨g, -, hcompiled', hget', -⟩ := hc'.hop hq
  have hnone : hops[i + 1]? = none :=
    List.getElem?_eq_none (by rw [hc.chain.length_eq]; omega)
  have hnone' : hops'[i + 1]? = none :=
    List.getElem?_eq_none (by rw [hc'.chain.length_eq]; omega)
  rw [hget, hnone] at hv
  rw [hget', hnone'] at hu
  cases hv
  cases hu
  rw [beq_iff_eq.2 hi, ← htag] at hcompiled
  rw [beq_iff_eq.2 hi'] at hcompiled'
  rcases hcompiled'.agree hcompiled with heq | ⟨hbridged, hagree⟩
  · exact .inl (congrArg Tree.object heq)
  · refine .inr ⟨⟨ps, i, p, hc.resolved, hp, ?_, ?_⟩, _, _, rfl, rfl, hagree⟩
    · rw [hget, hnone]
    · rwa [beq_iff_eq.2 hi, ← hcompiled'.place.2.2]

/-- **What two tests contribute under one tag agrees.** -/
theorem agree (hc : t.Compiled setup ps hops r) (hc' : t'.Compiled setup ps' hops' r')
    (ht : t ∈ Batch.tests setup profiles s) (ht' : t' ∈ Batch.tests setup profiles s)
    (hv : v ∈ t.contributed) (hu : u ∈ t'.contributed) (he : tagOf u = tagOf v) :
    u = v ∨ t.OfBridge setup v ∧ Tree.AgreeOff "server_port" u v := by
  rcases hc.cases hv with ⟨i, p, hp, hget, htag⟩ | ⟨k, id, p, fields, hid, hp, hown, rfl, htag⟩ <;>
    rcases hc'.cases hu with
      ⟨j, q, hq, hget', htag'⟩ | ⟨l, id', q, fields', hid', hq, hown', rfl, htag'⟩ <;>
    rw [htag, htag'] at he
  · -- two hops: nearest to the client, or at one place of one test
    rcases Tag.hop_eq_hop he with ⟨⟨hzero, -⟩, -⟩ | ⟨hj, hi, hids, rfl⟩ | ⟨-, -, hseq, -, rfl⟩
    · exact absurd hzero hc'.seq_ne
    · exact hc.agree_nearest hc' hp hq hi hj hids.symm he hget' hget
    · have := eq_of_seq_eq ht' ht hseq
      subst this
      rw [hget] at hget'
      exact .inl (Option.some.inj hget').symm
  · exact absurd he.symm Tag.hop_ne_routeTarget
  · exact absurd he Tag.hop_ne_routeTarget
  · obtain ⟨hseq, rfl⟩ := Tag.routeTarget_injective he
    -- two targets: of one rank in one chain, and so of one profile
    have hchain : r'.chain = r.chain := by
      have := hc'.routing.chain
      rw [hc.routing.chain] at this
      exact (Option.some.inj this).symm
    rw [hchain, hid] at hid'
    cases hid'
    rw [hp] at hq
    cases hq
    rw [hseq, hown] at hown'
    cases hown'
    exact .inl rfl

end Test.Compiled

/-! ## Whole batches -/

theorem nodup_merged {xs : List Tree} (hxs : ∀ v ∈ xs, Tag.isReserved (tagOf v) = false) :
    ((reservedOutbounds ++ freshTags [] xs).map tagOf).Nodup := by
  rw [List.map_append]
  refine List.nodup_append.2 ⟨by decide, nodup_freshTags [] xs, ?_⟩
  rintro tag hres _ hfresh rfl
  obtain ⟨t, ht, rfl⟩ := List.mem_map.1 hres
  obtain ⟨v, hv, he⟩ := List.mem_map.1 hfresh
  have hreserved := isReserved_of_mem_reservedOutbounds t ht
  rw [← he, hxs v (mem_of_mem_freshTags hv)] at hreserved
  cases hreserved

theorem isReserved_of_contributed {ts : List Test} (hv : v ∈ ts.flatMap Test.contributed) :
    Tag.isReserved (tagOf v) = false := by
  obtain ⟨t, -, ht⟩ := List.mem_flatMap.1 hv
  simpa using (List.mem_filter.1 ht).2

theorem lossless_of_tests (hkeeps : KeepsOutbounds setup.store)
    (hstored : ∀ p ∈ profiles, setup.store.profile? p.id = some p)
    (hok : ∀ t ∈ Batch.tests setup profiles s, t.failure? = none) :
    Lossless setup (sharedTests setup profiles s) (reservedOutbounds ++
      freshTags [] ((sharedTests setup profiles s).flatMap Test.contributed)) := by
  have hcompiled := fun t (ht : t ∈ sharedTests setup profiles s) =>
    hkeeps.exists_compiled hstored hok ht
  refine { kept := fun t ht v hv => ?_, hops := fun t ht ps i p hps hp => ?_ }
  · have hall : v ∈ (sharedTests setup profiles s).flatMap Test.contributed :=
      List.mem_flatMap.2 ⟨t, ht, hv⟩
    rw [filter_merged (isReserved_of_contributed hall)]
    -- the first outbound with the tag is kept, and it agrees with all others
    cases hfind : ((sharedTests setup profiles s).flatMap Test.contributed).find?
        (fun w => tagOf w = tagOf v) with
    | none => exact absurd (by simp) (List.find?_eq_none.1 hfind v hall)
    | some u =>
      have he : tagOf u = tagOf v := by
        have := List.find?_some hfind
        exact of_decide_eq_true this
      obtain ⟨t', ht', hu⟩ := List.mem_flatMap.1 (List.mem_of_find?_eq_some hfind)
      obtain ⟨ps, hops, r, hc⟩ := hcompiled t ht
      obtain ⟨ps', hops', r', hc'⟩ := hcompiled t' ht'
      exact ⟨u, rfl, hc.agree hc' (List.mem_filter.1 ht).1 (List.mem_filter.1 ht').1 hv hu he⟩
  · obtain ⟨ps', hops, r, hc⟩ := hcompiled t ht
    have hsame := hc.resolved
    rw [hps] at hsame
    cases hsame
    exact hc.mem_contributed hp

end Runs

/-- **Merging keeps one outbound of each tag, and loses nothing else.** The shared outbounds are the
reserved ones and the first of each tag that the tests contribute. If no override of a stored profile
interferes, what is dropped under a tag is what is kept under it, but for the port of a bridge. -/
theorem merged_of_run {σ : Type} [RuleSetService σ] {setup : Setup} {profiles : List Profile}
    {out : Output} {s s' : BuildState σ}
    (hr : Build.run (Build.batch setup profiles) s = (.ok out, s')) :
    ∃ kept, out.document.get? "outbounds" = some (.list kept) ∧
      kept = reservedOutbounds ++
        firstOfTags ((sharedTests setup profiles s).flatMap Test.contributed) ∧
      (kept.map tagOf).Nodup ∧
      ((∀ p ∈ profiles, setup.store.profile? p.id = some p) → KeepsOutbounds setup.store →
        Lossless setup (sharedTests setup profiles s) kept) := by
  simp only [Build.batch, Build.run_bind_eq_ok] at hr
  obtain ⟨items, s₁, hitems, ruleSets, s₂, -, hpure⟩ := hr
  cases hpure
  obtain ⟨htested, -, -⟩ := tested_of_run hitems
  have hlist := (hasShared_assemble setup items ruleSets).outbounds
  have hout : outbounds (items.filterMap Item.part?) = reservedOutbounds ++
      freshTags [] ((sharedTests setup profiles s).flatMap Test.contributed) := by
    rw [outbounds, htested.outbounds_eq]
    rfl
  refine ⟨_, hlist, ?_, ?_, fun hstored hkeeps => ?_⟩
  · rw [shared, hout, freshTags_eq, List.filter_eq_self.2 (by simp)]
  · rw [shared, hout]
    exact nodup_merged fun v hv => isReserved_of_contributed hv
  · rw [shared, hout]
    exact lossless_of_tests hkeeps hstored htested.failure?_eq_none

/-- Three profiles that share the server nearest to the client. -/
theorem merged_of_run_shared_server :
    ∃ out s' kept, Build.run (Build.batch Setting.setup Setting.batch) Setting.start =
        (.ok out, s') ∧
      out.document.get? "outbounds" = some (.list kept) ∧
      Lossless Setting.setup (sharedTests Setting.setup Setting.batch Setting.start) kept := by
  obtain ⟨out, s', hr⟩ := Build.exists_run_eq_ok
    (b := Build.batch Setting.setup Setting.batch) (s := Setting.start) (by decide +kernel)
  obtain ⟨kept, hout, -, -, hlossless⟩ := merged_of_run hr
  have hkeeps : KeepsOutbounds Setting.setup.store := ⟨by decide, by decide⟩
  exact ⟨out, s', kept, hr, hout, hlossless Setting.plain.stored hkeeps⟩

end Batch

end Detour
