import Detour.Proofs.Batch.Bridges
import Detour.Proofs.Document.References
/-!
# Rules of batches

The rules of a shared document are the redirects of its parts and the rules of the chain for batches.
The redirects lead to outbounds that are there. The rules of the chain are written with the fixed
names of targets, and in a batch no outbound has the fixed name of the chain: no sequence of a batch
is the primary one. `rules_closed_iff_of_run` says which chains can be used for batches.
-/

namespace Detour

namespace Batch

variable {setup : Setup} {profiles : List Profile} {items : List Item} {part : Part} {tag : String}

theorem get?_tag_of_tagOf {t : Tree} (h : tagOf t = tag) (hne : tag ≠ "") :
    t.get? "tag" = some (.str tag) := by
  unfold tagOf at h
  cases ht : t.get? "tag" with
  | none =>
    rw [ht] at h
    exact absurd h.symm hne
  | some v =>
    rw [ht] at h
    cases v with
    | str s =>
      have hs : s = tag := h
      rw [hs]
    | _ => exact absurd h.symm hne

/-- Whatever a part contributes is in the shared document, by name. -/
theorem isTagIn_outbounds {parts : List Part} (hp : part ∈ parts)
    (htag : tag ∈ part.outbounds.map tagOf) (hne : tag ≠ "") :
    (Tree.str tag).IsTagIn (outbounds parts) := by
  have hmem : tag ∈ (freshTags [] (parts.flatMap Part.outbounds)).map tagOf := by
    refine mem_tags_freshTags.2 ⟨List.not_mem_nil, ?_⟩
    obtain ⟨t, ht, he⟩ := List.mem_map.1 htag
    exact List.mem_map.2 ⟨t, List.mem_flatMap.2 ⟨part, hp, ht⟩, he⟩
  obtain ⟨t, ht, he⟩ := List.mem_map.1 hmem
  exact ⟨tag, rfl, t, List.mem_append_right _ ht, get?_tag_of_tagOf he hne⟩

theorem isTagIn_outbounds_of_reserved {parts : List Part} (h : Tag.isReserved tag = true) :
    (Tree.str tag).IsTagIn (outbounds parts) :=
  (isTagIn_reservedOutbounds h).mono fun _ ht => List.mem_append_left _ ht

section Items

variable (hplain : Plain setup profiles) (hbuilt : Item.BuiltFrom setup 1 profiles items)

include hplain hbuilt in
/-- No outbound of a batch is called `proxy`. -/
theorem not_isTagIn_proxy :
    ¬ (Tree.str Tag.proxy).IsTagIn (outbounds (items.filterMap Item.part?)) := by
  rintro ⟨tag, he, t, ht, htag⟩
  cases he
  rcases List.mem_append.1 ht with ht | ht
  · simp only [reservedOutbounds, List.mem_cons, List.not_mem_nil, or_false] at ht
    rcases ht with rfl | rfl | rfl <;> simp [Tag.direct, Tag.block, Tag.dnsOut, Tag.proxy] at htag
  · obtain ⟨part, hpart, ht⟩ := List.mem_flatMap.1 (mem_of_mem_freshTags ht)
    obtain ⟨root, n, ps, hops, targets, -, -, hp⟩ := hplain.exists_plain hbuilt hpart
    have hmem : Tag.proxy ∈ part.outbounds.map tagOf := by
      refine List.mem_map.2 ⟨t, ht, ?_⟩
      rw [tagOf, htag]
      rfl
    -- the tags of a part are those of its hops and targets, and it is not in the primary sequence
    rcases hp.mem_tags.1 hmem with hmem | ⟨target, htarget, he⟩
    · obtain ⟨i, p, -, he⟩ := Hop.mem_tags.1 hmem
      exact Tag.hop_ne_proxy hp.seq_ne _ _ _ he.symm
    · obtain ⟨-, rank, hrank⟩ := hp.tagOf_target htarget
      exact Tag.routeTarget_ne_proxy (hrank.symm.trans he.symm)

include hplain hbuilt in
/-- A redirect leads to a hop of its own part, or out. -/
theorem isTagIn_of_redirect {r : Hop.Redirect}
    (hr : r ∈ redirects (items.filterMap Item.part?)) :
    (Tree.str r.outbound).IsTagIn (outbounds (items.filterMap Item.part?)) := by
  obtain ⟨part, hpart, hr⟩ := exists_part_of_redirect hr
  obtain ⟨root, n, ps, hops, targets, -, -, hp⟩ := hplain.exists_plain hbuilt hpart
  rw [hp.redirects] at hr
  obtain ⟨i, h, -, hto⟩ := Hop.mem_redirects.1 hr
  rcases Hop.outbound_of_redirectTo hto with ⟨next, hnext, he⟩ | he
  · rw [he]
    have hmem : next.tag ∈ Hop.tags n ps := by
      rw [← hp.chain.map_tag]
      exact List.mem_map_of_mem (List.mem_of_getElem? hnext)
    obtain ⟨q, -, hc⟩ := hp.chain.exists_profile hnext
    refine isTagIn_outbounds hpart (hp.mem_tags.2 (.inl hmem)) ?_
    rw [hc.place.2.1]
    exact Tag.hop_ne_empty _ _ _ _
  · rw [he]
    exact isTagIn_outbounds_of_reserved (by decide)

include hplain hbuilt in
/-- Every rule selects an outbound, which is there unless it is called `proxy`. -/
theorem exists_outbound_of_shared_rule {t : Tree}
    (ht : t ∈ (redirects (items.filterMap Item.part?)).map Hop.Redirect.toTree ++
      setup.store.defaultChain.routeRules Tag.sentinels) :
    ∃ v, t.get? "outbound" = some v ∧
      (v.IsTagIn (outbounds (items.filterMap Item.part?)) ↔ v ≠ .str Tag.proxy) := by
  have hnot := not_isTagIn_proxy hplain hbuilt
  have hforward : ∀ v : Tree, v.IsTagIn (outbounds (items.filterMap Item.part?)) →
      v ≠ .str Tag.proxy := by
    rintro v hv rfl
    exact hnot hv
  rcases List.mem_append.1 ht with ht | ht
  · obtain ⟨r, hr, rfl⟩ := List.mem_map.1 ht
    exact ⟨.str r.outbound, by simp [Hop.Redirect.toTree],
      hforward _, fun _ => isTagIn_of_redirect hplain hbuilt hr⟩
  · obtain ⟨r, -, -, tag, htag, rfl⟩ := RuleChain.mem_routeRules.1 ht
    refine ⟨.str tag, r.get?_outbound_toTree tag, hforward _, fun hne => ?_⟩
    rcases TagMap.get?_sentinels htag with ⟨-, rfl⟩ | hreserved
    · exact absurd rfl hne
    · exact isTagIn_outbounds_of_reserved hreserved

end Items

/-- **Which rules of a batch lead nowhere.** A rule leads nowhere exactly if it names `proxy`, so
all rules of a batch lead somewhere exactly if its chain sends nothing to the chain of hops. -/
theorem rules_closed_iff_of_run {σ : Type} [RuleSetService σ] {setup : Setup}
    {profiles : List Profile} {out : Output} {s s' : BuildState σ} (hplain : Plain setup profiles)
    (hr : Build.run (Build.batch setup profiles) s = (.ok out, s')) :
    ∃ outs rules, out.document.at? ["outbounds"] = some (.list outs) ∧
      out.document.at? ["route", "rules"] = some (.list rules) ∧
      (∀ t ∈ rules, ∃ v, t.get? "outbound" = some v ∧ (v.IsTagIn outs ↔ v ≠ .str Tag.proxy)) ∧
      ((∀ t ∈ rules, ∃ v, t.get? "outbound" = some v ∧ v.IsTagIn outs) ↔
        ∀ r ∈ setup.store.defaultChain.rules, r.outboundId = sentinelProxy → r.isEmpty = true) := by
  obtain ⟨items, ruleSets, hbuilt, rfl⟩ := items_of_run hplain hr
  have hshared := hasShared_assemble setup items ruleSets
  refine ⟨_, _, hshared.outbounds, hshared.rules,
    fun t ht => exists_outbound_of_shared_rule hplain hbuilt ht, ?_⟩
  constructor
  · intro hclosed r hr hid
    cases hempty : r.isEmpty with
    | true => rfl
    | false =>
      -- a rule that sends traffic to the chain would be written with `proxy`
      have hget : TagMap.get? r.outboundId Tag.sentinels = some Tag.proxy := by
        rw [hid]
        rfl
      have hmem := RuleChain.mem_routeRules.2 ⟨r, hr, hempty, Tag.proxy, hget, rfl⟩
      obtain ⟨v, hv, htag⟩ := hclosed _ (List.mem_append_right _ hmem)
      rw [r.get?_outbound_toTree] at hv
      cases hv
      exact absurd htag (not_isTagIn_proxy hplain hbuilt)
  · intro hnone t ht
    obtain ⟨v, hv, hiff⟩ := exists_outbound_of_shared_rule hplain hbuilt ht
    refine ⟨v, hv, hiff.2 ?_⟩
    rintro rfl
    rcases List.mem_append.1 ht with ht | ht
    · -- the rules of redirects name hops, which are there
      obtain ⟨r, hr, rfl⟩ := List.mem_map.1 ht
      have hout : r.outbound = Tag.proxy := by simpa [Hop.Redirect.toTree] using hv
      have htag := isTagIn_of_redirect hplain hbuilt hr
      rw [hout] at htag
      exact not_isTagIn_proxy hplain hbuilt htag
    · -- those of the chain name what an id below zero stands for
      obtain ⟨r, hr, hempty, tag, htag, rfl⟩ := RuleChain.mem_routeRules.1 ht
      rw [r.get?_outbound_toTree] at hv
      cases hv
      rcases TagMap.get?_sentinels htag with ⟨hid, -⟩ | hreserved
      · rw [hnone r hr hid] at hempty
        cases hempty
      · exact absurd hreserved (by decide)

/-- A chain that sends datagrams through the hops: in a batch they are sent nowhere. -/
theorem rules_closed_iff_of_run_datagrams :
    ∃ out s' outs rules,
      Build.run (Build.batch Setting.setup Setting.batch) Setting.start = (.ok out, s') ∧
        out.document.at? ["outbounds"] = some (.list outs) ∧
        out.document.at? ["route", "rules"] = some (.list rules) ∧
        ¬ ∀ t ∈ rules, ∃ v, t.get? "outbound" = some v ∧ v.IsTagIn outs := by
  obtain ⟨out, s', hr⟩ := Build.exists_run_eq_ok
    (b := Build.batch Setting.setup Setting.batch) (s := Setting.start) (by decide +kernel)
  obtain ⟨outs, rules, houts, hrules, -, hiff⟩ := rules_closed_iff_of_run Setting.plain hr
  refine ⟨out, s', outs, rules, hr, houts, hrules, fun hclosed => ?_⟩
  have hempty := hiff.1 hclosed { network := "udp", outboundId := sentinelProxy } (by decide) rfl
  exact absurd hempty (by decide)

end Batch

end Detour
