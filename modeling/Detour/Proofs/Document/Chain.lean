import Detour.Proofs.Document.Built
import Detour.Proofs.Hop.Linked
/-!
# Chains of documents

Traffic leaves through the entry outbound and goes on along the links: the detour of an outbound, or
the rule behind the redirect inbound of a bridged one. `realises_of_run` says that these links are
the resolved hops in their order, whatever the hops are: each outbound is the one that its hop has by
itself, linked to the next and to nothing else, so `Output.path` passes every hop once.
-/

namespace Detour

namespace Tree

/-- The text under a key. -/
def textAt? (key : String) (t : Tree) : Option String :=
  (t.get? key).bind text?

/-- Whether a rule is about an inbound. -/
def namesInbound (tag : String) (rule : Tree) : Bool :=
  (((rule.get? "inbound").bind items?).getD []).any fun t => t.text? == some tag

end Tree

/-- The steps from a start on, as far as some fuel lasts. -/
def follow {α : Type} (next? : α → Option α) : Nat → α → List α
  | 0, _ => []
  | fuel + 1, x =>
    x :: match next? x with
      | some y => follow next? fuel y
      | none => []

/-- A list in which each step leads to the next element, and the last one nowhere, is what following
the steps passes. Any fuel that lasts for the list is enough. -/
theorem follow_eq {α : Type} {next? : α → Option α} {xs : List α} {fuel : Nat} {x : α}
    (hx : xs.head? = some x) (hfuel : xs.length ≤ fuel)
    (hnext : ∀ (i : Nat) (y : α), xs[i]? = some y → next? y = xs[i + 1]?) :
    follow next? fuel x = xs := by
  induction xs generalizing fuel x with
  | nil => cases hx
  | cons y rest ih =>
    cases hx
    obtain ⟨fuel, rfl⟩ : ∃ n, fuel = n + 1 := by
      refine ⟨fuel - 1, ?_⟩
      simp only [List.length_cons] at hfuel
      omega
    have hstep : next? y = rest.head? := by
      rw [hnext 0 y rfl]
      simp [List.head?_eq_getElem?]
    rw [follow, hstep]
    cases hr : rest.head? with
    | none => simp [List.head?_eq_none_iff.1 hr]
    | some z =>
      have htail : follow next? fuel z = rest := by
        refine ih hr (by simpa using hfuel) fun i w hw => ?_
        have := hnext (i + 1) w (by simpa using hw)
        simpa using this
      simp [htail]

namespace Output

/-- The outbounds of the document. -/
def outbounds (o : Output) : List Tree :=
  ((o.document.get? "outbounds").bind Tree.items?).getD []

/-- The rules of the document's routing. -/
def routeRules (o : Output) : List Tree :=
  (((o.document.get? "route").bind (Tree.get? "rules")).bind Tree.items?).getD []

/-- The chain rules behind the redirect inbound of an outbound. -/
def rulesBehind (tag : String) (o : Output) : List Tree :=
  o.chainRules.filter (Tree.namesInbound (Tag.mapping tag))

/-- Where an outbound sends its traffic: along its detour, or else along the rule behind its redirect
inbound. -/
def next? (o : Output) (tag : String) : Option String :=
  let outbound? := o.outbounds.find? fun t => t.textAt? "tag" == some tag
  (outbound?.bind (Tree.textAt? "detour")).or
    ((o.rulesBehind tag).head?.bind (Tree.textAt? "outbound"))

/-- The outbounds that traffic passes from the entry on, as far as some fuel lasts. -/
def path (fuel : Nat) (o : Output) : List String :=
  follow o.next? fuel o.entryTag

end Output

/-- What a profile leaves to the linker: neither its override nor a configuration of its own names
the tag or the detour of the outbound. -/
structure Profile.LeavesLinks (p : Profile) : Prop where
  tag : Fields.Lacks "tag" p.customOutbound.tree.override
  detour : Fields.Lacks "detour" p.customOutbound.tree.override
  own : Fields.Lacks "detour" p.protocol.ownOutbound

namespace Hop

/-- The outbound that a hop has by itself, before it is linked: the native one of its profile or the
local end of a bridge, with the override of the profile. -/
inductive OwnOutbound (settings : Settings) (p : Profile) (tag : String) : Bridging → Fields → Prop
  | native {own : Fields} : compileNative settings p tag = .ok own →
      OwnOutbound settings p tag .native (Fields.merge p.customOutbound.tree.override own)
  | bridged {mode : Bridging} (port : Nat) : mode.isBridged = true →
      OwnOutbound settings p tag mode
        (Fields.merge p.customOutbound.tree.override (bridgeOutbound tag port))

end Hop

/-- How a hop with another one behind it stands in a document. It is linked to that one: by its
detour if the core realises it, and otherwise by the only rule behind its redirect. -/
def Output.LinkedAt (settings : Settings) (i : Nat) (p : Profile) (tag next : String) (o : Output) :
    Prop :=
  ∃ own, Hop.OwnOutbound settings p tag (p.protocol.bridging false settings.vpn.enabled) own ∧
    own.get? "tag" = some (.str tag) ∧ own.get? "detour" = none ∧
    ((p.protocol.bridging false settings.vpn.enabled = .native ∧
        o.outbounds[i]? = some (.object (own.set "detour" (.str next))) ∧
        o.rulesBehind tag = []) ∨
      (p.protocol.bridging false settings.vpn.enabled = .mapping ∧
        o.outbounds[i]? = some (.object own) ∧
        o.rulesBehind tag = [Hop.Redirect.toTree ⟨tag, next⟩]))

/-- How the hop nearest to the client stands in a document. It is linked to nothing, and what its
helper sends through a redirect goes out. -/
def Output.EndsAt (settings : Settings) (i : Nat) (p : Profile) (tag : String) (o : Output) : Prop :=
  ∃ own, Hop.OwnOutbound settings p tag (p.protocol.bridging true settings.vpn.enabled) own ∧
    own.get? "tag" = some (.str tag) ∧ own.get? "detour" = none ∧
    o.outbounds[i]? = some (.object own) ∧
    o.rulesBehind tag =
      if p.protocol.bridging true settings.vpn.enabled = .mapping then
        [Hop.Redirect.toTree ⟨tag, Tag.direct⟩]
      else []

/-- A document realises a list of hops. -/
structure Output.Realises (settings : Settings) (seq : Nat) (ps : List Profile) (o : Output) :
    Prop where
  /-- The entry is the first hop. -/
  entry : (Hop.tags seq ps).head? = some o.entryTag
  inner : ∀ (i : Nat) (p : Profile) (tag next : String), ps[i]? = some p →
    (Hop.tags seq ps)[i]? = some tag → (Hop.tags seq ps)[i + 1]? = some next →
    o.LinkedAt settings i p tag next
  last : ∀ (i : Nat) (p : Profile) (tag : String), ps[i]? = some p →
    (Hop.tags seq ps)[i]? = some tag → i + 1 = ps.length → o.EndsAt settings i p tag
  /-- Following the links passes the hops in their order, and then at most the way out. -/
  path : ∀ fuel, ps.length < fuel → ∃ exit, (exit = [] ∨ exit = [Tag.direct]) ∧
    o.path fuel = Hop.tags seq ps ++ exit
  /-- No tag is passed twice. -/
  nodup : (Hop.tags seq ps ++ [Tag.direct]).Nodup

/-! ## What a build writes -/

section Built

variable {setup : Setup} {request : Request} {root : Profile} {ps : List Profile} {hops : List Hop}
  {r : Routing} {o : Output} {i : Nat} {p : Profile} {h : Hop}

namespace Tree

/-- The rule of a redirect names the inbound of its hop, and no other one. -/
theorem namesInbound_redirect (tag : String) (d : Hop.Redirect) :
    namesInbound (Tag.mapping tag) d.toTree = decide (d.hop = tag) := by
  have hinbound : d.toTree.get? "inbound" = some (.ofStrings [Tag.mapping d.hop]) := by
    simp [Hop.Redirect.toTree, Fields.get?_set]
  rw [namesInbound, hinbound, Bool.eq_iff_iff]
  simp only [ofStrings, List.map_cons, List.map_nil, Option.bind_some, items?, Option.getD_some,
    List.any_cons, List.any_nil, Bool.or_false, text?, beq_iff_eq, Option.some.injEq,
    decide_eq_true_eq]
  exact ⟨Tag.mapping_injective, fun he => he ▸ rfl⟩

end Tree

/-- A native outbound has the tag that it was compiled under. -/
theorem textAt?_tag_of_compileNative {settings : Settings} {tag : String} {fields : Fields}
    (hown : compileNative settings p tag = .ok fields) :
    Tree.textAt? "tag" (.object fields) = some tag := by
  rw [Tree.textAt?, Tree.get?_object, (get?_compileNative hown).1]
  rfl

namespace Hop

/-- Compiling a hop writes the outbound that its mode asks for. -/
theorem Compiled.ownOutbound {settings : Settings} {tag : String} {nearest : Bool}
    (hc : Compiled settings p tag nearest h) : OwnOutbound settings p tag h.bridging h.outbound := by
  cases hc with
  | native _ hown => exact .native hown
  | @bridged mode ports _ _ hmode _ => exact .bridged ports.socks hmode

/-- Linking changes nothing of an outbound but its detour. -/
theorem get?_linkedTo_of_ne {key : String} {next : Option Hop} (hkey : key ≠ "detour") :
    (h.linkedTo next).get? key = h.outbound.get? key := by
  unfold linkedTo
  split
  · split
    · rw [Fields.get?_set_of_ne hkey]
    · rfl
  · rfl

theorem get?_tag_linkedTo (next : Option Hop) (h : Hop) :
    (h.linkedTo next).get? "tag" = h.outbound.get? "tag" :=
  get?_linkedTo_of_ne (by decide)

/-- A hop stands under its tag, unless the override of its profile says otherwise. -/
theorem CompiledChain.textAt?_tag {settings : Settings} {seq : Nat}
    (hc : CompiledChain settings seq ps hops)
    (htag : ∀ p ∈ ps, Fields.Lacks "tag" p.customOutbound.tree.override) (hi : hops[i]? = some h)
    (next : Option Hop) : Tree.textAt? "tag" (.object (h.linkedTo next)) = some h.tag := by
  obtain ⟨p, hp, hcompiled⟩ := hc.exists_profile hi
  rw [Tree.textAt?, Tree.get?_object, get?_tag_linkedTo, hcompiled.place.2.1,
    hcompiled.get?_tag (htag p (List.mem_of_getElem? hp))]
  rfl

end Hop

/-- The hops stand at their positions, in front of all other outbounds. -/
theorem Document.getElem?_outbounds (targets : List Target) (hi : hops[i]? = some h) :
    (outbounds hops targets)[i]? = some (.object (h.linkedTo hops[i + 1]?)) := by
  have hlt : i < (Hop.linkedOutbounds hops).length := by
    rw [Hop.length_linkedOutbounds]
    exact (List.getElem?_eq_some_iff.1 hi).1
  rw [outbounds, List.append_assoc, List.getElem?_append_left (by simpa using hlt),
    List.getElem?_map, Hop.getElem?_linkedOutbounds, hi]
  rfl

namespace Output

/-- An override that lacks the outbounds leaves those of the document. -/
theorem get?_outbounds_of_built (hb : Built setup request root ps hops r o)
    (hdoc : Fields.Lacks "outbounds" root.customConfig.tree.override) :
    o.document.get? "outbounds" = some (.list (Document.outbounds hops r.targets)) := by
  have hsection : (Tree.ofFields (Document.sections setup.settings request hops r)).get?
      "outbounds" = some (.list (Document.outbounds hops r.targets)) := by
    simp [Document.sections, Fields.get?_set]
  rw [hb.output, Tree.get?_merge_of_lacks hdoc, hsection]

/-- They are those of the hops, of the targets, and the reserved ones. -/
theorem outbounds_of_built (hb : Built setup request root ps hops r o)
    (hdoc : Fields.Lacks "outbounds" root.customConfig.tree.override) :
    o.outbounds = Document.outbounds hops r.targets := by
  rw [outbounds, get?_outbounds_of_built hb hdoc]
  rfl

/-- The redirects of the document are those of its hops. -/
theorem redirects_of_built (hb : Built setup request root ps hops r o) :
    o.redirects = Hop.redirects hops := by
  rw [hb.output]
  rfl

/-- Traffic enters the document by the entry of its hops. -/
theorem entryTag_of_built (hb : Built setup request root ps hops r o) :
    o.entryTag = Hop.entryTag hops := by
  rw [hb.output]
  rfl

/-- The rules of a document are those of its hops and of the chain. -/
theorem at?_rules_of_built (hb : Built setup request root ps hops r o)
    (hroute : Fields.Lacks "route" root.customConfig.tree.override) :
    o.document.at? ["route", "rules"] = some (.list (o.chainRules ++
      r.chain.routeRules (Routing.tagMap (Hop.entryTag hops) r.targets))) := by
  have hat : o.document.at? ["route", "rules"] =
      (o.document.get? "route").bind (Tree.get? "rules") := rfl
  rw [hat, chainRules, redirects_of_built hb, hb.output, Tree.get?_merge_of_lacks hroute]
  simp [Document.sections, Routing.toTree, Fields.get?_set]

/-- The rules of redirects come first, and behind them those of the chain. -/
theorem routeRules_of_built (hb : Built setup request root ps hops r o)
    (hroute : Fields.Lacks "route" root.customConfig.tree.override) :
    o.routeRules = o.chainRules ++
      r.chain.routeRules (Routing.tagMap (Hop.entryTag hops) r.targets) := by
  have hat : (o.document.get? "route").bind (Tree.get? "rules") = _ := at?_rules_of_built hb hroute
  rw [routeRules, hat]
  rfl

/-- The rules behind a redirect are those of the redirects of its hop. -/
theorem rulesBehind_of_built (hb : Built setup request root ps hops r o) (tag : String) :
    o.rulesBehind tag =
      ((Hop.redirects hops).filter fun d => d.hop = tag).map Hop.Redirect.toTree := by
  rw [rulesBehind, chainRules, redirects_of_built hb, List.filter_map]
  congr 2
  funext d
  exact Tree.namesInbound_redirect tag d

/-- Behind a hop there is the rule of its redirect, if the next hop needs one. -/
theorem rulesBehind_hop (hb : Built setup request root ps hops r o) (hi : hops[i]? = some h) :
    o.rulesBehind h.tag = (h.redirectTo hops[i + 1]?).toList.map Hop.Redirect.toTree := by
  rw [rulesBehind_of_built hb, Hop.filter_redirects hb.compiled.nodup hi]

/-- The first outbounds are those of the hops, linked, in their order. -/
theorem getElem?_outbounds (hb : Built setup request root ps hops r o)
    (hdoc : Fields.Lacks "outbounds" root.customConfig.tree.override) (hi : hops[i]? = some h) :
    o.outbounds[i]? = some (.object (h.linkedTo hops[i + 1]?)) := by
  rw [outbounds_of_built hb hdoc, Document.getElem?_outbounds r.targets hi]

/-! ## The way through a document -/

variable (hb : Built setup request root ps hops r o)
  (hdoc : Fields.Lacks "outbounds" root.customConfig.tree.override)
  (hown : ∀ p ∈ ps, p.LeavesLinks)

include hb hown in
theorem textAt?_tag_of_hop (hi : hops[i]? = some h) (next : Option Hop) :
    Tree.textAt? "tag" (.object (h.linkedTo next)) = some h.tag :=
  hb.compiled.textAt?_tag (fun p hp => (hown p hp).tag) hi next

include hb hown in
/-- A hop without an outbound of its own has no detour unless it is linked. -/
theorem get?_detour_of_hop (hi : hops[i]? = some h) : h.outbound.get? "detour" = none := by
  obtain ⟨p, hp, hc⟩ := hb.compiled.exists_profile hi
  have hp' := hown p (List.mem_of_getElem? hp)
  exact hc.get?_detour hp'.detour hp'.own

include hb hdoc hown in
/-- The outbound of a hop is the first one with its tag. -/
theorem find?_outbounds_hop (hi : hops[i]? = some h) :
    o.outbounds.find? (fun t => t.textAt? "tag" == some h.tag) =
      some (.object (h.linkedTo hops[i + 1]?)) := by
  refine List.find?_eq_some_iff_getElem.2 ⟨?_, ?_⟩
  · rw [textAt?_tag_of_hop hb hown hi]
    simp
  · obtain ⟨hlt, hget⟩ := List.getElem?_eq_some_iff.1 (getElem?_outbounds hb hdoc hi)
    refine ⟨i, hlt, hget, fun j hj => ?_⟩
    have hih : i < hops.length := (List.getElem?_eq_some_iff.1 hi).1
    have hjh : hops[j]? = some hops[j] := List.getElem?_eq_getElem (by omega)
    have hjo := (List.getElem?_eq_some_iff.1 (getElem?_outbounds hb hdoc hjh)).2
    rw [hjo, textAt?_tag_of_hop hb hown hjh]
    -- an earlier outbound with the tag would be another hop with it
    have hne : hops[j].tag ≠ h.tag := by
      intro he
      have hji : j = i := by
        have hlen : j < (hops.map Hop.tag).length := by
          rw [List.length_map]
          omega
        exact (List.getElem?_inj hlen hb.compiled.nodup).1 (by simp [hi, hjh, he])
      omega
    simp [hne]

include hb hdoc hown in
/-- A hop sends its traffic to the one behind it, and the last one may send it out. -/
theorem next?_hop (hi : hops[i]? = some h) :
    o.next? h.tag = (hops[i + 1]?.map Hop.tag).or
      (if h.bridging = .mapping then some Tag.direct else none) := by
  obtain ⟨p, hp, hc⟩ := hb.compiled.exists_profile hi
  have hdetour := get?_detour_of_hop hb hown hi
  have hredirect : ∀ d : Hop.Redirect,
      Tree.textAt? "outbound" d.toTree = some d.outbound := by
    intro d
    simp [Tree.textAt?, Hop.Redirect.toTree, Tree.text?]
  simp only [next?, find?_outbounds_hop hb hdoc hown hi, rulesBehind_hop hb hi, Option.bind_some]
  cases hn : hops[i + 1]? with
  | none =>
    have hnone : Tree.textAt? "detour" (.object (h.linkedTo none)) = none := by
      simp [Tree.textAt?, Hop.linkedTo, hdetour]
    rw [hnone]
    by_cases hm : h.bridging = .mapping
    · simp [Hop.redirectTo, hm, hredirect]
    · simp [Hop.redirectTo, hm]
  | some n =>
    by_cases hnat : h.bridging = .native
    · simp [Hop.linkedTo, Tree.textAt?, hnat, Tree.text?]
    · have hnone : Tree.textAt? "detour" (.object (h.linkedTo (some n))) = none := by
        simp [Tree.textAt?, Hop.linkedTo, hnat, hdetour]
      rw [hnone]
      simp [Hop.redirectTo, hnat, hredirect]

include hb hdoc hown in
/-- The way out leads nowhere else. -/
theorem next?_direct : o.next? Tag.direct = none := by
  have hne : ∀ h ∈ hops, h.tag ≠ Tag.direct := by
    intro h hmem he
    have htag : Tag.direct ∈ Hop.tags request.seq ps := by
      rw [← hb.compiled.map_tag, ← he]
      exact List.mem_map_of_mem hmem
    exact Hop.direct_notMem_tags _ _ htag
  have hrules : o.rulesBehind Tag.direct = [] := by
    rw [rulesBehind_of_built hb, List.map_eq_nil_iff, List.filter_eq_nil_iff]
    intro d hd he
    obtain ⟨j, h, hj, hr⟩ := Hop.mem_redirects.1 hd
    exact hne h (List.mem_of_getElem? hj) (Hop.hop_of_redirectTo hr ▸ of_decide_eq_true he)
  have hhops : ((Hop.linkedOutbounds hops).map Tree.object).find?
      (fun t => t.textAt? "tag" == some Tag.direct) = none := by
    refine List.find?_eq_none.2 fun t ht => ?_
    obtain ⟨fields, hf, rfl⟩ := List.mem_map.1 ht
    obtain ⟨j, h, hh, rfl⟩ := Hop.mem_linkedOutbounds.1 hf
    rw [textAt?_tag_of_hop hb hown hh]
    simpa using hne h (List.mem_of_getElem? hh)
  have hdirect : reservedOutbounds.find? (fun t => t.textAt? "tag" == some Tag.direct) =
      some (.ofFields [("type", .str "direct"), ("tag", .str Tag.direct)]) := by
    rfl
  simp only [next?, hrules, outbounds_of_built hb hdoc, Document.outbounds, List.append_assoc,
    List.find?_append, hhops, hdirect]
  rfl

/-- Where the traffic of a last hop goes on to. -/
def exit (h : Hop) : List String :=
  if h.bridging = .mapping then [Tag.direct] else []

include hb hdoc hown in
/-- Each tag on the way leads to the one behind it. -/
theorem next?_getElem? (hlast : hops[hops.length - 1]? = some h) {tag : String}
    (htag : (hops.map Hop.tag ++ exit h)[i]? = some tag) :
    o.next? tag = (hops.map Hop.tag ++ exit h)[i + 1]? := by
  rcases Nat.lt_or_ge i hops.length with hi | hi
  · rw [List.getElem?_append_left (by simpa using hi), List.getElem?_map] at htag
    obtain ⟨g, hg, rfl⟩ := Option.map_eq_some_iff.1 htag
    rw [next?_hop hb hdoc hown hg]
    rcases Nat.lt_or_ge (i + 1) hops.length with hi' | hi'
    · rw [List.getElem?_append_left (by simpa using hi'), List.getElem?_map,
        List.getElem?_eq_getElem hi']
      rfl
    · -- the last hop, behind which only the way out is left
      have hi'' : i = hops.length - 1 := by omega
      rw [hi'', hlast] at hg
      cases hg
      have hzero : i + 1 - (hops.map Hop.tag).length = 0 := by
        rw [List.length_map]
        omega
      rw [List.getElem?_eq_none hi', List.getElem?_append_right (by simpa using hi'), hzero, exit]
      split <;> rfl
  · -- the way out itself
    rw [List.getElem?_append_right (by simpa using hi), List.length_map, exit] at htag
    split at htag
    · rename_i hm
      have hi' : i = hops.length := by
        have := (List.getElem?_eq_some_iff.1 htag).1
        rw [List.length_singleton] at this
        omega
      subst hi'
      rw [Nat.sub_self] at htag
      cases htag
      rw [next?_direct hb hdoc hown, exit, if_pos hm]
      simp
    · cases htag

include hb in
/-- The entry is the first of the tags that traffic passes. -/
theorem entry_of_built (hne : ps ≠ []) :
    (Hop.tags request.seq ps).head? = some o.entryTag := by
  have hlen := hb.compiled.length_eq
  have hpos : 0 < ps.length := List.length_pos_iff.2 hne
  have hhead : hops.head? = some hops[0] := by
    rw [List.head?_eq_getElem?]
    exact List.getElem?_eq_getElem (by omega)
  rw [entryTag_of_built hb, ← hb.compiled.map_tag, Hop.entryTag, List.head?_map, hhead]
  rfl

include hb hdoc hown in
/-- Following links from the entry passes the hops in turn, and leaves directly or not at all. -/
theorem path_of_built (hne : ps ≠ []) {fuel : Nat} (hfuel : ps.length < fuel) :
    ∃ exit, (exit = [] ∨ exit = [Tag.direct]) ∧
      o.path fuel = Hop.tags request.seq ps ++ exit := by
  have hlen := hb.compiled.length_eq
  have hpos : 0 < ps.length := List.length_pos_iff.2 hne
  have hlast : hops[hops.length - 1]? = some hops[hops.length - 1] :=
    List.getElem?_eq_getElem (by omega)
  have hexit : exit hops[hops.length - 1] = [] ∨ exit hops[hops.length - 1] = [Tag.direct] := by
    unfold exit
    split
    · exact .inr rfl
    · exact .inl rfl
  refine ⟨exit hops[hops.length - 1], hexit, follow_eq ?_ ?_ fun i tag htag => ?_⟩
  · rw [List.head?_append, entry_of_built hb hne]
    rfl
  · have hle : (exit hops[hops.length - 1]).length ≤ 1 := by
      rcases hexit with he | he <;> simp [he]
    rw [← hb.compiled.map_tag, List.length_append, List.length_map]
    omega
  · rw [← hb.compiled.map_tag] at htag ⊢
    exact next?_getElem? hb hdoc hown hlast htag

/-! ## Hops as they stand in a document -/

include hb hown in
/-- At the position of a profile stands a hop with its tag, which has no detour of its own. -/
theorem exists_hop_of_built {tag : String} (hp : ps[i]? = some p)
    (htag : (Hop.tags request.seq ps)[i]? = some tag) :
    ∃ h, hops[i]? = some h ∧ h.tag = tag ∧
      Hop.Compiled setup.settings p tag (i + 1 == ps.length) h ∧
      h.outbound.get? "tag" = some (.str tag) ∧ h.outbound.get? "detour" = none := by
  rw [Hop.getElem?_tags, hp] at htag
  cases htag
  obtain ⟨h, hh, hc⟩ := hb.compiled.exists_hop hp
  have hp' := hown p (List.mem_of_getElem? hp)
  exact ⟨h, hh, hc.place.2.1, hc, hc.get?_tag hp'.tag, hc.get?_detour hp'.detour hp'.own⟩

include hb hdoc hown in
/-- At each hop but the last, traffic goes on to the next one. -/
theorem linkedAt_of_built {tag next : String} (hp : ps[i]? = some p)
    (htag : (Hop.tags request.seq ps)[i]? = some tag)
    (hnext : (Hop.tags request.seq ps)[i + 1]? = some next) :
    o.LinkedAt setup.settings i p tag next := by
  obtain ⟨h, hh, rfl, hc, htag', hdetour⟩ := exists_hop_of_built hb hown hp htag
  obtain ⟨n, hn, rfl⟩ : ∃ n, hops[i + 1]? = some n ∧ n.tag = next := by
    rw [← hb.compiled.map_tag, List.getElem?_map] at hnext
    exact Option.map_eq_some_iff.1 hnext
  have hfar : (i + 1 == ps.length) = false := by
    have hlt := (List.getElem?_eq_some_iff.1 hn).1
    have hlen := hb.compiled.length_eq
    exact beq_eq_false_iff_ne.2 (by omega)
  rw [hfar] at hc
  rw [LinkedAt, ← hc.place.2.2]
  refine ⟨h.outbound, hc.ownOutbound, htag', hdetour, ?_⟩
  rw [getElem?_outbounds hb hdoc hh, rulesBehind_hop hb hh, hn]
  by_cases hnat : h.bridging = .native
  · left
    simp [Hop.linkedTo, Hop.redirectTo, hnat]
  · right
    simp [Hop.linkedTo, Hop.redirectTo, hc.eq_mapping_of_far hnat]

include hb hdoc hown in
theorem endsAt_of_built {tag : String} (hp : ps[i]? = some p)
    (htag : (Hop.tags request.seq ps)[i]? = some tag) (hi : i + 1 = ps.length) :
    o.EndsAt setup.settings i p tag := by
  obtain ⟨h, hh, rfl, hc, htag', hdetour⟩ := exists_hop_of_built hb hown hp htag
  have hlen := hb.compiled.length_eq
  have hn : hops[i + 1]? = none := List.getElem?_eq_none (by omega)
  rw [beq_iff_eq.2 hi] at hc
  rw [EndsAt, ← hc.place.2.2]
  refine ⟨h.outbound, hc.ownOutbound, htag', hdetour, ?_⟩
  rw [getElem?_outbounds hb hdoc hh, rulesBehind_hop hb hh, hn]
  refine ⟨rfl, ?_⟩
  by_cases hm : h.bridging = .mapping
  · simp [Hop.redirectTo, hm]
  · simp [Hop.redirectTo, hm]

end Output

end Built

/-- **The links of a document are the resolved hops.** Whatever hops a profile resolves to, the
document of a build that succeeds realises them in their order. Its routing starts with the chain
rules, unless the override of the document names it. -/
theorem realises_of_run {σ : Type} [RuleSetService σ] {setup : Setup} {request : Request}
    {root : Profile} {ps : List Profile} {o : Output} {s s' : BuildState σ}
    (hroot : root.isFullDocument = false)
    (hr : Build.run (Build.profile setup request root) s = (.ok o, s'))
    (hps : setup.store.hops root (!request.test) = .ok ps) (hne : ps ≠ [])
    (hown : ∀ p ∈ ps, p.LeavesLinks)
    (hdoc : Fields.Lacks "outbounds" root.customConfig.tree.override) :
    o.Realises setup.settings request.seq ps ∧
      (Fields.Lacks "route" root.customConfig.tree.override →
        ∃ rest, o.routeRules = o.chainRules ++ rest) := by
  obtain ⟨hops, r, hb⟩ := built_of_hops hroot hr hps
  have hreal : o.Realises setup.settings request.seq ps := {
    entry := Output.entry_of_built hb hne
    inner := fun i p tag next hp htag hnext => Output.linkedAt_of_built hb hdoc hown hp htag hnext
    last := fun i p tag hp htag hi => Output.endsAt_of_built hb hdoc hown hp htag hi
    path := fun fuel hfuel => Output.path_of_built hb hdoc hown hne hfuel
    nodup := Hop.nodup_tags_append request.seq ps }
  refine ⟨hreal, fun hroute => ?_⟩
  rw [Output.routeRules_of_built hb hroute]
  exact ⟨_, rfl⟩

/-- No profile of the setting writes links of its own. -/
theorem Setting.leavesLinks :
    ∀ p ∈ [Setting.bridged, Setting.native, Setting.bridged], p.LeavesLinks := by
  simp only [List.forall_mem_cons]
  exact ⟨⟨by decide, by decide, by decide⟩, ⟨by decide, by decide, by decide⟩,
    ⟨by decide, by decide, by decide⟩, by simp⟩

/-- A chain with both kinds of hops, in which a server is passed twice. -/
theorem realises_of_run_twice_bridged :
    ∃ o s', Build.run (Build.profile Setting.setup {} Setting.chain) Setting.start = (.ok o, s') ∧
      o.Realises Setting.setup.settings 0 [Setting.bridged, Setting.native, Setting.bridged] ∧
      ∃ rest, o.routeRules = o.chainRules ++ rest := by
  obtain ⟨o, s', hr⟩ := Build.exists_run_eq_ok
    (b := Build.profile Setting.setup {} Setting.chain) (s := Setting.start) (by decide)
  obtain ⟨hreal, hroute⟩ :=
    realises_of_run rfl hr Setting.hops_chain (by simp) Setting.leavesLinks (by decide)
  exact ⟨o, s', hr, hreal, hroute (by decide)⟩

end Detour
