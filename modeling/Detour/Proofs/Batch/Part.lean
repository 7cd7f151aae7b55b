import Detour.Proofs.Batch.Built
import Detour.Proofs.Batch.Merge
import Detour.Proofs.Document.Chain
import Detour.Proofs.Store
/-!
# Parts without overrides

The part of a stored profile that merges nothing into documents has its hops and targets under their
own tags. A hop's tag stands for one outbound of the part, and what the hop brings along, its helper,
its redirect inbound and its redirect, is found by that tag again.
-/

namespace Detour

namespace Batch

theorem tagOf_of_textAt? {w : Tree} {tag : String} (h : w.textAt? "tag" = some tag) :
    tagOf w = tag := by
  change (w.textAt? "tag").getD "" = tag
  rw [h]
  rfl

/-- A part whose hops are stored and have no overrides, in a sequence after the primary one. -/
structure Part.Plain (setup : Setup) (seq : Nat) (root : Profile) (ps : List Profile)
    (hops : List Hop) (targets : List Target) (part : Part) : Prop
    extends Part.Compiled setup seq root ps hops targets part where
  seq_ne : seq ≠ 0
  stored : ∀ p ∈ ps, setup.store.profile? p.id = some p
  outbound : ∀ p ∈ ps, p.customOutbound.tree.override = []

namespace Part.Plain

variable {setup : Setup} {seq i : Nat} {root : Profile} {ps : List Profile} {hops : List Hop}
  {targets : List Target} {part : Part} {h : Hop} {tag : String}

theorem tagOf_hop (hp : part.Plain setup seq root ps hops targets) (hi : hops[i]? = some h)
    (next : Option Hop) : tagOf (.object (h.linkedTo next)) = h.tag :=
  tagOf_of_textAt? (hp.chain.textAt?_tag (fun p hmem => by simp [hp.outbound p hmem]) hi next)

theorem tags_linkedOutbounds (hp : part.Plain setup seq root ps hops targets) :
    ((Hop.linkedOutbounds hops).map Tree.object).map tagOf = Hop.tags seq ps := by
  rw [← hp.chain.map_tag]
  refine List.ext_getElem? fun i => ?_
  rw [List.getElem?_map, List.getElem?_map, List.getElem?_map, Hop.getElem?_linkedOutbounds]
  cases hi : hops[i]? with
  | none => rfl
  | some h => simp [hp.tagOf_hop hi]

theorem tagOf_target (hp : part.Plain setup seq root ps hops targets) {t : Target}
    (ht : t ∈ targets) :
    tagOf (.object t.outbound) = t.tag ∧ ∃ rank, t.tag = Tag.routeTarget seq rank := by
  obtain ⟨ids, hids⟩ := hp.compiledTargets
  obtain ⟨rank, -, -, -, htag, hcompile⟩ := hids.exists_id ht
  exact ⟨tagOf_of_textAt? (textAt?_tag_of_compileNative hcompile), rank, htag⟩

/-- The outbounds that a part contributes are its hops and targets. -/
theorem outbounds_eq (hp : part.Plain setup seq root ps hops targets) :
    part.outbounds = (Hop.linkedOutbounds hops).map Tree.object ++
      targets.map fun t => .object t.outbound := by
  have hhops : ∀ t ∈ (Hop.linkedOutbounds hops).map Tree.object,
      (!Tag.isReserved (tagOf t)) = true := by
    intro t ht
    have hmem : tagOf t ∈ Hop.tags seq ps := by
      rw [← hp.tags_linkedOutbounds]
      exact List.mem_map_of_mem ht
    obtain ⟨i, p, -, he⟩ := Hop.mem_tags.1 hmem
    rw [he, Tag.isReserved_hop]
    rfl
  have htargets : ∀ t ∈ targets.map fun t => Tree.object t.outbound,
      (!Tag.isReserved (tagOf t)) = true := by
    intro t ht
    obtain ⟨target, ht', rfl⟩ := List.mem_map.1 ht
    obtain ⟨htag, rank, he⟩ := hp.tagOf_target ht'
    rw [htag, he, Tag.isReserved_routeTarget]
    rfl
  have hreserved : reservedOutbounds.filter (fun t => !Tag.isReserved (tagOf t)) = [] := by
    refine List.filter_eq_nil_iff.2 fun t ht => ?_
    simp [isReserved_of_mem_reservedOutbounds t ht]
  rw [Part.outbounds, hp.all, Document.outbounds, List.filter_append, List.filter_append,
    List.filter_eq_self.2 hhops, List.filter_eq_self.2 htargets, hreserved, List.append_nil]

/-- The tags that a part contributes are those of its hops and of its targets. -/
theorem mem_tags (hp : part.Plain setup seq root ps hops targets) :
    tag ∈ part.outbounds.map tagOf ↔
      tag ∈ Hop.tags seq ps ∨ ∃ t ∈ targets, tag = t.tag := by
  rw [hp.outbounds_eq, List.map_append, List.mem_append, hp.tags_linkedOutbounds]
  refine or_congr_right ?_
  simp only [List.map_map, List.mem_map, Function.comp]
  constructor
  · rintro ⟨t, ht, rfl⟩
    exact ⟨t, ht, (hp.tagOf_target ht).1⟩
  · rintro ⟨t, ht, rfl⟩
    exact ⟨t, ht, (hp.tagOf_target ht).1⟩

/-- Under the tag of a hop a part has the hop's own outbound. -/
theorem find?_outbounds (hp : part.Plain setup seq root ps hops targets)
    (hi : hops[i]? = some h) :
    part.outbounds.find? (fun t => tagOf t = h.tag) =
      some (.object (h.linkedTo hops[i + 1]?)) := by
  have hfilter : ((Hop.linkedOutbounds hops).map Tree.object).filter (fun t => tagOf t = h.tag) =
      [.object (h.linkedTo hops[i + 1]?)] := by
    have hmem : Tree.object (h.linkedTo hops[i + 1]?) ∈
        (Hop.linkedOutbounds hops).map Tree.object :=
      List.mem_map_of_mem (Hop.mem_linkedOutbounds.2 ⟨i, h, hi, rfl⟩)
    have hnodup : (((Hop.linkedOutbounds hops).map Tree.object).map tagOf).Nodup := by
      rw [hp.tags_linkedOutbounds]
      exact Hop.nodup_tags seq ps
    have := filter_key_eq_singleton hnodup hmem
    rwa [hp.tagOf_hop hi] at this
  rw [hp.outbounds_eq, List.find?_append, ← List.head?_filter, hfilter]
  rfl

/-- The helpers of a tag are that of its hop. -/
theorem filter_externals (hp : part.Plain setup seq root ps hops targets)
    (hi : hops[i]? = some h) :
    part.externals.filter (fun d => d.outbound = h.tag) = h.helper.toList := by
  rw [hp.externals, hp.chain.filter_helpers hi]

theorem tagOf_redirect (hp : part.Plain setup seq root ps hops targets) (hi : hops[i]? = some h)
    {t : Tree} (ht : h.redirect = some t) : tagOf t = Tag.mapping h.tag := by
  obtain ⟨p, -, hc⟩ := hp.chain.exists_profile hi
  rw [tagOf, (hc.get?_redirect ht).2, hc.place.2.1]
  rfl

/-- And its inbounds are the redirect of the hop. -/
theorem filter_inbounds (hp : part.Plain setup seq root ps hops targets)
    (hi : hops[i]? = some h) :
    part.inbounds.filter (fun t => tagOf t = Tag.mapping h.tag) = h.redirect.toList := by
  have hnodup : (hops.map fun h => Tag.mapping h.tag).Nodup := by
    have : hops.map (fun h => Tag.mapping h.tag) = (hops.map Hop.tag).map Tag.mapping := by
      rw [List.map_map]
      rfl
    rw [this]
    exact List.pairwise_map.2 (hp.chain.nodup.imp fun hne he => hne (Tag.mapping_injective he))
  rw [hp.inbounds]
  refine filter_filterMap_eq (f := fun h => Tag.mapping h.tag) hnodup (fun y hy t ht => ?_)
    (List.mem_of_getElem? hi)
  obtain ⟨j, hj⟩ := List.mem_iff_getElem?.1 hy
  exact hp.tagOf_redirect hj ht

/-- And its redirects are the one that the place of the hop asks for. -/
theorem filter_redirects (hp : part.Plain setup seq root ps hops targets)
    (hi : hops[i]? = some h) :
    part.redirects.filter (fun r => r.hop = h.tag) = (h.redirectTo hops[i + 1]?).toList := by
  rw [hp.redirects]
  exact Hop.filter_redirects hp.chain.nodup hi

/-- An outbound under the tag of a hop of any part is a hop of the same profile at the same place:
the tag says which profile that is, and the store says what it is. -/
theorem exists_hop_of_owns (hp : part.Plain setup seq root ps hops targets) {p : Profile}
    {n len : Nat} (hstored : setup.store.profile? p.id = some p)
    (hown : part.owns (Tag.hop n p.id i len) = true) :
    ∃ (j : Nat) (h : Hop), hops[j]? = some h ∧
      Hop.Compiled setup.settings p (Tag.hop n p.id i len) (i + 1 == len) h := by
  rcases hp.mem_tags.1 (Part.owns_iff.1 hown) with hmem | ⟨t, ht, he⟩
  · obtain ⟨j, q, hq, he⟩ := Hop.mem_tags.1 hmem
    obtain ⟨hid, hplace⟩ := Tag.same_place_of_hop_eq hp.seq_ne he.symm
    have hqp : q = p := by
      have hqs := hp.stored q (List.mem_of_getElem? hq)
      rw [hid, hstored] at hqs
      exact (Option.some.inj hqs).symm
    obtain ⟨h, hh, hc⟩ := hp.chain.exists_hop hq
    rw [← he, hplace, hqp] at hc
    exact ⟨j, h, hh, hc⟩
  · obtain ⟨-, rank, htag⟩ := hp.tagOf_target ht
    exact absurd (he.trans htag) Tag.hop_ne_routeTarget

end Part.Plain

end Batch

end Detour
