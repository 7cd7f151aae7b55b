import Mathlib.Data.List.Basic
import Detour.Proofs.Document.Tags
/-!
# Routes of documents

The rules of a document are written in one pass over the chain of rules, and the profiles that they
select are compiled in another one, over the ids without repetitions. Between the two passes a map
from ids to tags is all that is kept. `routed_of_run` says that this comes to what the chain means
by itself: every rule leads to the outbound of its own target, which `RuleChain.targetTag?` reads
off the chain alone.
-/

namespace Detour

/-! ## What a chain means -/

namespace RuleChain

/-- The profiles that the rules of a chain select, each once and in the order of first use. A rule
without a predicate selects its target all the same. -/
def selected (c : RuleChain) : List Int64 :=
  ((c.rules.map Rule.outboundId).filter fun id => 0 ≤ id).eraseDups

/-- The tag of a target in a document with an entry: a profile has the tag of its rank, and the ids
below zero have fixed meanings, if any. -/
def targetTag? (c : RuleChain) (seq : Nat) (entry : String) (id : Int64) : Option String :=
  if 0 ≤ id then some (Tag.routeTarget seq (c.selected.idxOf id))
  else if id = sentinelProxy then some entry
  else if id = sentinelDirect then some Tag.direct
  else if id = sentinelBlock then some Tag.block
  else if id = sentinelDnsOut then some Tag.dnsOut
  else none

/-- The rules of a chain as a document has them. -/
def written (c : RuleChain) (seq : Nat) (entry : String) : List Tree :=
  c.rules.filterMap fun r =>
    if r.isEmpty then none else (c.targetTag? seq entry r.outboundId).map r.toTree

end RuleChain

/-- A document routes as a chain of rules says. -/
structure Output.Routed (setup : Setup) (seq : Nat) (ps : List Profile) (chain : RuleChain)
    (o : Output) : Prop where
  /-- Behind the rules of the hops stand those of the chain. -/
  rules : o.document.at? ["route", "rules"] =
    some (.list (o.chainRules ++ chain.written seq o.entryTag))
  /-- Behind the hops and the reserved outbounds stand the selected profiles in their order. -/
  outbounds : ∃ hops targets, o.document.at? ["outbounds"] =
      some (.list (hops ++ reservedOutbounds ++ targets)) ∧
    hops.length = ps.length ∧ targets.length = chain.selected.length ∧
    ∀ (k : Nat) (id : Int64), chain.selected[k]? = some id → ∃ p fields,
      setup.store.profile? id = some p ∧
      compileNative setup.settings p (Tag.routeTarget seq k) = .ok fields ∧
      targets[k]? = some (.object fields)
  /-- No rule selects a profile that is not stored. -/
  stored : ∀ rule ∈ chain.rules, 0 ≤ rule.outboundId →
    (setup.store.profile? rule.outboundId).isSome = true

/-! ## First uses -/

/-- What remains of the first occurrences are the first occurrences of what remains. -/
theorem filter_eraseDups {α : Type} [DecidableEq α] (p : α → Bool) (xs : List α) :
    xs.eraseDups.filter p = (xs.filter p).eraseDups := by
  induction h : xs.length using Nat.strongRecOn generalizing xs with
  | ind n ih =>
    cases xs with
    | nil => rfl
    | cons x rest =>
      have hlt : (rest.filter fun y => !y == x).length < n := by
        have := List.length_filter_le (fun y => !y == x) rest
        simp only [List.length_cons] at h
        omega
      rw [List.eraseDups_cons, List.filter_cons, ih _ hlt _ rfl, List.filter_filter,
        List.filter_cons]
      have hcomm : rest.filter (fun y => p y && !y == x) =
          (rest.filter p).filter fun y => !y == x := by
        rw [List.filter_filter]
        exact List.filter_congr fun y _ => Bool.and_comm _ _
      cases hx : p x with
      | true => rw [if_pos rfl, if_pos rfl, List.eraseDups_cons, hcomm]
      | false =>
        rw [if_neg (by simp), if_neg (by simp)]
        congr 1
        refine List.filter_congr fun y _ => ?_
        by_cases hy : y = x
        · simp [hy, hx]
        · simp [hy]

namespace Routing

/-- The compiled targets are the selected profiles. -/
theorem targetIds_eq_selected (c : RuleChain) : targetIds c = c.selected := by
  rw [targetIds, RuleChain.usedOutbounds, firstOccurrences_eq_eraseDups, filter_eraseDups]
  rfl

end Routing

/-! ## The map between the passes -/

section Built

variable {setup : Setup} {request : Request} {root : Profile} {ps : List Profile} {hops : List Hop}
  {r : Routing} {o : Output} {seq : Nat} {ids : List Int64} {targets : List Target} {id : Int64}

/-- The targets are the stored profiles of their ids, so an id that is one of them has the tag of its
rank, and no other id has a tag from them. -/
theorem Target.Compiled.get?_tag (hc : Target.Compiled setup seq ids targets) (hnodup : ids.Nodup)
    (id : Int64) :
    TagMap.get? id (targets.map fun t => (t.profile.id, t.tag)) =
      if id ∈ ids then some (Tag.routeTarget seq (ids.idxOf id)) else none := by
  cases hget : TagMap.get? id (targets.map fun t => (t.profile.id, t.tag)) with
  | some tag =>
    obtain ⟨t, ht, he⟩ := List.mem_map.1 (TagMap.mem_of_get? hget)
    obtain ⟨hid, rfl⟩ := Prod.mk.inj he
    obtain ⟨k, id', hk, hp, htag, -⟩ := hc.exists_id ht
    rw [Store.id_of_profile? hp] at hid
    subst hid
    obtain ⟨hlt, hk⟩ := List.getElem?_eq_some_iff.1 hk
    have hrank : ids.idxOf id' = k := by rw [← hk, hnodup.idxOf_getElem]
    rw [if_pos (hk ▸ List.getElem_mem hlt), hrank, htag]
  | none =>
    by_cases hid : id ∈ ids
    · obtain ⟨k, hk⟩ := List.mem_iff_getElem?.1 hid
      have hlt : k < targets.length := by
        rw [hc.length_eq]
        exact (List.getElem?_eq_some_iff.1 hk).1
      obtain ⟨hp, -, -⟩ := hc.compiled k id _ hk (List.getElem?_eq_getElem hlt)
      have hmem : (id, targets[k].tag) ∈ (targets.map fun t => (t.profile.id, t.tag)).reverse := by
        rw [List.mem_reverse, ← Store.id_of_profile? hp]
        exact List.mem_map_of_mem (f := fun t : Target => (t.profile.id, t.tag))
          (List.getElem_mem hlt)
      have hnone := List.find?_eq_none.1 (Option.map_eq_none_iff.1 hget) _ hmem
      simp at hnone
    · rw [if_neg hid]

/-- The fixed ids have fixed meanings, and the entry takes the place of the fixed name of the
chain. -/
theorem TagMap.get?_fixed (entry : String) :
    (TagMap.get? id [(sentinelProxy, entry)]).or (TagMap.get? id Tag.sentinels) =
      if id = sentinelProxy then some entry
      else if id = sentinelDirect then some Tag.direct
      else if id = sentinelBlock then some Tag.block
      else if id = sentinelDnsOut then some Tag.dnsOut
      else none := by
  by_cases hproxy : id = sentinelProxy
  · subst hproxy
    rfl
  by_cases hdirect : id = sentinelDirect
  · subst hdirect
    rfl
  by_cases hblock : id = sentinelBlock
  · subst hblock
    rfl
  by_cases hdns : id = sentinelDnsOut
  · subst hdns
    rfl
  rw [if_neg hproxy, if_neg hdirect, if_neg hblock, if_neg hdns]
  simp [TagMap.get?, Tag.sentinels, Ne.symm hproxy, Ne.symm hdirect, Ne.symm hblock, Ne.symm hdns]

/-- **The map gives every id what the chain means by it.** For a profile this holds if a rule of the
chain selects it. -/
theorem Routing.Compiled.get?_tagMap (hc : Routing.Compiled setup seq r) (entry : String)
    (hid : 0 ≤ id → id ∈ r.chain.selected) :
    TagMap.get? id (Routing.tagMap entry r.targets) = r.chain.targetTag? seq entry id := by
  have htargets := hc.targets.get?_tag (RuleChain.nodup_targetIds r.chain) id
  rw [Routing.targetIds_eq_selected] at htargets
  -- what stands last counts: first the targets, then the entry, then the fixed meanings
  rw [Routing.tagMap, TagMap.get?_append, TagMap.get?_append, htargets, RuleChain.targetTag?]
  by_cases hpos : 0 ≤ id
  · rw [if_pos (hid hpos), if_pos hpos, Option.some_or]
  · have hnot : id ∉ r.chain.selected := by
      intro hmem
      rw [← Routing.targetIds_eq_selected, RuleChain.mem_targetIds] at hmem
      exact hpos hmem.1
    rw [if_neg hnot, if_neg hpos, Option.none_or, TagMap.get?_fixed]

/-- Every target of a rule has its outbound. -/
theorem exists_target_of_selected (hc : Routing.Compiled setup seq r) {k : Nat}
    (hk : r.chain.selected[k]? = some id) : ∃ p fields,
      setup.store.profile? id = some p ∧
      compileNative setup.settings p (Tag.routeTarget seq k) = .ok fields ∧
      (r.targets.map fun t => Tree.object t.outbound)[k]? = some (.object fields) := by
  rw [← Routing.targetIds_eq_selected] at hk
  have hlt : k < r.targets.length := by
    rw [hc.targets.length_eq]
    exact (List.getElem?_eq_some_iff.1 hk).1
  have ht := List.getElem?_eq_getElem hlt
  obtain ⟨hp, htag, hown⟩ := hc.targets.compiled k id _ hk ht
  rw [htag] at hown
  exact ⟨_, _, hp, hown, by rw [List.getElem?_map, ht]; rfl⟩

theorem mem_selected_of_rule {c : RuleChain} {rule : Rule} (h : rule ∈ c.rules)
    (hid : 0 ≤ rule.outboundId) : rule.outboundId ∈ c.selected := by
  rw [← Routing.targetIds_eq_selected, RuleChain.mem_targetIds]
  exact ⟨hid, rule, h, rfl⟩

/-- The rules are written as the chain means them. -/
theorem Routing.Compiled.routeRules_eq (hc : Routing.Compiled setup seq r) (entry : String) :
    r.chain.routeRules (Routing.tagMap entry r.targets) = r.chain.written seq entry := by
  refine List.filterMap_congr fun rule hrule => ?_
  rw [hc.get?_tagMap entry (mem_selected_of_rule hrule)]

end Built

/-- **The route of a document is what the active chain means.** The rules of the chain stand behind
those of the hops, in their order, and each of them leads to its own target: to the entry, to a
reserved outbound, or to the outbound of a stored profile, which is there once for all rules that
select it. -/
theorem routed_of_run {σ : Type} [RuleSetService σ] {setup : Setup} {request : Request}
    {root : Profile} {o : Output} {s s' : BuildState σ} (hroot : root.isFullDocument = false)
    (hr : Build.run (Build.profile setup request root) s = (.ok o, s'))
    (hroute : Fields.Lacks "route" root.customConfig.tree.override)
    (hdoc : Fields.Lacks "outbounds" root.customConfig.tree.override) :
    ∃ ps chain, setup.store.hops root (!request.test) = .ok ps ∧
      setup.store.chain? setup.settings.routing.currentRouteId = some chain ∧
      o.Routed setup request.seq ps chain := by
  obtain ⟨ps, hops, r, hb⟩ := built_of_run hroot hr
  refine ⟨ps, r.chain, hb.resolved, hb.routing.chain, ?_, ?_, fun rule hrule hid => ?_⟩
  · rw [Output.entryTag_of_built hb, ← hb.routing.routeRules_eq]
    exact Output.at?_rules_of_built hb hroute
  · refine ⟨(Hop.linkedOutbounds hops).map .object, r.targets.map fun t => .object t.outbound,
      ?_, ?_, ?_, fun k id hk => exists_target_of_selected hb.routing hk⟩
    · exact Output.get?_outbounds_of_built hb hdoc
    · rw [List.length_map, Hop.length_linkedOutbounds, hb.compiled.length_eq]
    · rw [List.length_map, hb.routing.targets.length_eq, Routing.targetIds_eq_selected]
  · obtain ⟨k, hk⟩ := List.mem_iff_getElem?.1 (mem_selected_of_rule hrule hid)
    obtain ⟨p, -, hp, -⟩ := exists_target_of_selected hb.routing hk
    rw [hp]
    rfl

/-- A chain of hops in a later sequence, and rules for a profile, for the hops and for names. -/
theorem routed_of_run_sequence_two :
    ∃ o s' ps chain,
      Build.run (Build.profile Setting.setup { seq := 2 } Setting.chain) Setting.start =
        (.ok o, s') ∧ o.Routed Setting.setup 2 ps chain := by
  obtain ⟨o, s', hr⟩ := Build.exists_run_eq_ok
    (b := Build.profile Setting.setup { seq := 2 } Setting.chain) (s := Setting.start) (by decide)
  obtain ⟨ps, chain, -, -, hrouted⟩ := routed_of_run rfl hr (by decide) (by decide)
  exact ⟨o, s', ps, chain, hr, hrouted⟩

end Detour
