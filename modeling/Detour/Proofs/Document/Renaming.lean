import Detour.Proofs.Document.Routed
import Detour.Proofs.Document.Tags
import Detour.Proofs.Tree.Edit
/-!
# Renamed documents

A renaming of tags acts on an output in the places where a build puts tags, and nowhere else: names
of the user's own are kept, even where they look like a tag. It acts on hops and targets before they
are put together, too, and `assemble_renamed` says that it makes no difference which comes first.
-/

namespace Detour

section Renamings

variable (ρ : String → String)

namespace Document

/-- Rename the tag of an outbound and the one of its detour. -/
def renameOutbound (t : Tree) : Tree :=
  (t.edit "tag" (Tree.mapText ρ)).edit "detour" (Tree.mapText ρ)

/-- Rename the tags of inbounds, of which the last ones are the user's own. -/
def renameInbounds (own : Nat) : Tree → Tree
  | .list items =>
    let made := items.length - own
    .list ((items.take made).map (Tree.edit "tag" (Tree.mapText ρ)) ++ items.drop made)
  | t => t

/-- Rename the outbounds that rules select, and the inbounds that the first ones are about. -/
def renameRules (linked : Nat) : Tree → Tree
  | .list items =>
    .list ((items.take linked).map (fun t =>
        (t.edit "inbound" (Tree.mapItems (Tree.mapText ρ))).edit "outbound" (Tree.mapText ρ)) ++
      (items.drop linked).map (Tree.edit "outbound" (Tree.mapText ρ)))
  | t => t

/-- Rename the tags of a document with some inbounds of the user's own and some rules of hops. -/
def renamed (own linked : Nat) (t : Tree) : Tree :=
  let servers := Tree.edit "servers" (Tree.mapItems (Tree.edit "detour" (Tree.mapText ρ)))
  let route := fun u => (Tree.edit "final" (Tree.mapText ρ) u).edit "rules" (renameRules ρ linked)
  (((t.edit "dns" servers).edit "inbounds" (renameInbounds ρ own)).edit "outbounds"
    (Tree.mapItems (renameOutbound ρ))).edit "route" route

end Document

/-- Rename the tags of a redirect. -/
def Hop.Redirect.renamed (r : Hop.Redirect) : Hop.Redirect :=
  ⟨ρ r.hop, ρ r.outbound⟩

/-- Rename the tag of a helper. -/
def Descriptor.renamed (d : Descriptor) : Descriptor :=
  { d with outbound := ρ d.outbound }

/-- Rename the tags of an output with some inbounds of the user's own. -/
def Output.renamed (own : Nat) (o : Output) : Output :=
  { o with
    document := Document.renamed ρ own o.redirects.length o.document
    externals := o.externals.map (Descriptor.renamed ρ)
    entryTag := ρ o.entryTag
    ignoreConnTags := o.ignoreConnTags.map ρ
    redirects := o.redirects.map (Hop.Redirect.renamed ρ) }

/-- Rename the tags of a hop before it is linked. -/
def Hop.renamed (h : Hop) : Hop :=
  { h with
    tag := ρ h.tag
    outbound := Fields.edit "tag" (Tree.mapText ρ) h.outbound
    redirect := h.redirect.map (Tree.edit "tag" (Tree.mapText ρ))
    helper := h.helper.map (Descriptor.renamed ρ) }

/-- Rename the tags of a target. -/
def Target.renamed (t : Target) : Target :=
  { t with tag := ρ t.tag, outbound := Fields.edit "tag" (Tree.mapText ρ) t.outbound }

/-- Rename the tags of a routing. -/
def Routing.renamed (r : Routing) : Routing :=
  { r with targets := r.targets.map (Target.renamed ρ) }

end Renamings

/-- A renaming keeps the tags that are the same in every document, and the absence of one. -/
structure Tag.KeepsFixed (ρ : String → String) : Prop where
  reserved : ∀ tag, isReserved tag = true → ρ tag = tag
  localInbounds : ∀ tag ∈ ["mixed-in", "tun-in"], ρ tag = tag
  empty : ρ "" = ""

theorem Tag.KeepsFixed.direct {ρ : String → String} (hρ : KeepsFixed ρ) :
    ρ Tag.direct = Tag.direct :=
  hρ.reserved _ (by decide)

/-! ## Parts of documents -/

section Parts

variable {settings : Settings} {hops : List Hop} {targets : List Target} {entry : String}
  {ρ : String → String}

namespace Hop

theorem entryTag_renamed (hρ : Tag.KeepsFixed ρ) :
    entryTag (hops.map (renamed ρ)) = ρ (entryTag hops) := by
  cases hops with
  | nil => exact hρ.empty.symm
  | cons h rest => rfl

/-- Renamed hops are linked to renamed hops. -/
theorem linkedOutbounds_renamed (hlacks : ∀ h ∈ hops, Fields.Lacks "detour" h.outbound) :
    (linkedOutbounds (hops.map (renamed ρ))).map Tree.object =
      ((linkedOutbounds hops).map Tree.object).map (Document.renameOutbound ρ) := by
  have hfields : linkedOutbounds (hops.map (renamed ρ)) = (linkedOutbounds hops).map fun fields =>
      Fields.edit "detour" (Tree.mapText ρ) (Fields.edit "tag" (Tree.mapText ρ) fields) := by
    -- a detour is renamed only where linking has put one
    have hown : ∀ h ∈ hops, Fields.edit "detour" (Tree.mapText ρ)
        (Fields.edit "tag" (Tree.mapText ρ) h.outbound) =
          Fields.edit "tag" (Tree.mapText ρ) h.outbound :=
      fun h hh => Fields.edit_of_lacks (Fields.lacks_edit.2 (hlacks h hh))
    clear hlacks
    fun_induction linkedOutbounds hops with
    | case1 => rfl
    | case2 h => simp [linkedOutbounds, renamed, hown h]
    | case3 h next rest ih =>
      obtain ⟨hhead, hrest⟩ := List.forall_mem_cons.1 hown
      refine congrArg₂ List.cons ?_ (ih hrest)
      by_cases hn : h.bridging = .native
      · simp [renamed, hn, Fields.edit_set_of_ne]
      · simp [renamed, hn, hhead]
  rw [hfields, List.map_map, List.map_map]
  rfl

/-- And their redirects lead to renamed hops. -/
theorem redirects_renamed (hρ : Tag.KeepsFixed ρ) (hops : List Hop) :
    redirects (hops.map (renamed ρ)) = (redirects hops).map (Redirect.renamed ρ) := by
  fun_induction redirects hops with
  | case1 => rfl
  | case2 h hm => simp [redirects, renamed, hm, Redirect.renamed, hρ.direct]
  | case3 h hm => simp [redirects, renamed, hm]
  | case4 h next rest hn ih => simpa [redirects, renamed, hn] using ih
  | case5 h next rest hn ih =>
    have hstep : redirects ((h :: next :: rest).map (renamed ρ)) =
        ⟨ρ h.tag, ρ next.tag⟩ :: redirects ((next :: rest).map (renamed ρ)) := by
      simp [redirects, renamed, hn]
    rw [hstep, ih]
    rfl

end Hop

/-- A map with renamed tags gives every id its renamed tag. -/
theorem TagMap.get?_map (id : Int64) (m : TagMap) :
    TagMap.get? id (m.map fun e => (e.1, ρ e.2)) = (TagMap.get? id m).map ρ := by
  rw [TagMap.get?, TagMap.get?, ← List.map_reverse, List.find?_map, Option.map_map, Option.map_map]
  rfl

namespace Routing

/-- The fixed meanings of ids stay, but for that of the entry. -/
theorem get?_tagMap_renamed (hρ : Tag.KeepsFixed ρ) (id : Int64) :
    TagMap.get? id (tagMap (ρ entry) (targets.map (Target.renamed ρ))) =
      (TagMap.get? id (tagMap entry targets)).map ρ := by
  have htargets : (targets.map (Target.renamed ρ)).map (fun t => (t.profile.id, t.tag)) =
      (targets.map fun t => (t.profile.id, t.tag)).map fun e => (e.1, ρ e.2) := by
    rw [List.map_map, List.map_map]
    rfl
  rw [tagMap, tagMap, TagMap.get?_append, TagMap.get?_append, TagMap.get?_append,
    TagMap.get?_append, TagMap.get?_fixed, TagMap.get?_fixed, htargets, TagMap.get?_map]
  cases TagMap.get? id (targets.map fun t => (t.profile.id, t.tag)) with
  | some tag => rfl
  | none =>
    rw [Option.map_none, Option.none_or, Option.none_or]
    split
    · rfl
    · split
      · rw [Option.map_some, hρ.reserved _ (by decide)]
      · split
        · rw [Option.map_some, hρ.reserved _ (by decide)]
        · split
          · rw [Option.map_some, hρ.reserved _ (by decide)]
          · rfl

/-- The rules of a chain select the renamed outbounds. -/
theorem routeRules_renamed (hρ : Tag.KeepsFixed ρ) (c : RuleChain) :
    c.routeRules (tagMap (ρ entry) (targets.map (Target.renamed ρ))) =
      (c.routeRules (tagMap entry targets)).map (Tree.edit "outbound" (Tree.mapText ρ)) := by
  have hrule : ∀ (r : Rule) (tag : String),
      Tree.edit "outbound" (Tree.mapText ρ) (r.toTree tag) = r.toTree (ρ tag) := by
    intro r tag
    simp [Rule.toTree, Tree.ofFields, Fields.ofList]
  rw [RuleChain.routeRules, RuleChain.routeRules, List.map_filterMap]
  refine List.filterMap_congr fun r _ => ?_
  split
  · rfl
  · rw [get?_tagMap_renamed hρ, Option.map_map, Option.map_map]
    refine congrArg (fun f => Option.map f _) (funext fun tag => ?_)
    exact (hrule r tag).symm

/-- What no rule selects goes to the renamed entry or stays where it goes. -/
theorem finalTag_renamed (hρ : Tag.KeepsFixed ρ)
    (hdef : settings.routing.defOutbound = Tag.proxy ∨
      Tag.isReserved settings.routing.defOutbound = true) :
    finalTag settings (ρ entry) = ρ (finalTag settings entry) := by
  unfold finalTag
  split
  · rfl
  · rename_i hne
    rcases hdef with hdef | hdef
    · exact absurd hdef hne
    · exact (hρ.reserved _ hdef).symm

/-- The route section with its tags renamed. -/
theorem toTree_renamed (request : Request) (entry : String) (r : Routing)
    {redirects : List Hop.Redirect} (hρ : Tag.KeepsFixed ρ)
    (hmapping : ∀ d ∈ redirects, ρ (Tag.mapping d.hop) = Tag.mapping (ρ d.hop))
    (hdef : settings.routing.defOutbound = Tag.proxy ∨
      Tag.isReserved settings.routing.defOutbound = true) :
    toTree settings request (ρ entry) (redirects.map (Hop.Redirect.renamed ρ)) (r.renamed ρ) =
      ((toTree settings request entry redirects r).edit "final" (Tree.mapText ρ)).edit "rules"
        (Document.renameRules ρ redirects.length) := by
  have hredirects : (redirects.map (Hop.Redirect.renamed ρ)).map Hop.Redirect.toTree =
      (redirects.map Hop.Redirect.toTree).map fun t =>
        (t.edit "inbound" (Tree.mapItems (Tree.mapText ρ))).edit "outbound" (Tree.mapText ρ) := by
    rw [List.map_map, List.map_map]
    refine List.map_congr_left fun d hd => ?_
    simp [Hop.Redirect.toTree, Hop.Redirect.renamed, Tree.ofFields, Fields.ofList,
      Fields.edit_set_of_ne, hmapping d hd]
  have hrules : Document.renameRules ρ redirects.length (.list (redirects.map Hop.Redirect.toTree ++
      r.chain.routeRules (tagMap entry r.targets))) =
        .list ((redirects.map (Hop.Redirect.renamed ρ)).map Hop.Redirect.toTree ++
          r.chain.routeRules (tagMap (ρ entry) (r.targets.map (Target.renamed ρ)))) := by
    rw [Document.renameRules, List.take_left' (by simp), List.drop_left' (by simp), ← hredirects,
      routeRules_renamed hρ]
  rw [toTree, toTree, renamed, ← hrules, finalTag_renamed hρ hdef]
  cases settings.vpn.enabled <;> cases request.test <;>
    simp [Entry.onlyIf, Fields.edit, Fields.edit_set_of_ne, Tree.ofFields, Fields.ofList]

end Routing

namespace Dns

theorem servers_renamed (hρ : Tag.KeepsFixed ρ) :
    servers settings (ρ entry) =
      (servers settings entry).map (Tree.edit "detour" (Tree.mapText ρ)) := by
  have hserver : ∀ tag address strategy detour : String,
      Tree.edit "detour" (Tree.mapText ρ) (server tag address strategy detour) =
        server tag address strategy (ρ detour) := by
    intro tag address strategy detour
    simp [server, Tree.ofFields, Fields.ofList]
  have hlocal : Tree.edit "detour" (Tree.mapText ρ) (.ofFields [("tag", .str «local»),
      ("address", .str "local"), ("detour", .str Tag.direct)]) =
        .ofFields [("tag", .str «local»), ("address", .str "local"),
          ("detour", .str Tag.direct)] := by
    simp [Tree.ofFields, Fields.ofList, hρ.direct]
  have hwithout : ∀ tag address : String,
      Tree.edit "detour" (Tree.mapText ρ) (.ofFields [("tag", .str tag),
        ("address", .str address)]) = .ofFields [("tag", .str tag), ("address", .str address)] := by
    intro tag address
    simp [Tree.ofFields, Fields.ofList, Fields.edit, Fields.edit_set_of_ne]
  have hremote : Tree.edit "detour" (Tree.mapText ρ) (remoteServer settings.routing entry) =
      remoteServer settings.routing (ρ entry) := hserver _ _ _ _
  have hdirectServer : Tree.edit "detour" (Tree.mapText ρ) (directServer settings.routing) =
      directServer settings.routing := by
    rw [directServer, hserver, hρ.direct]
  unfold servers
  dsimp only
  split <;> split <;>
    simp only [List.map_append, List.map_cons, List.map_nil, hremote, hdirectServer, hwithout,
      hlocal]

/-- The resolver behind the proxy is reached through the renamed entry. -/
theorem build_renamed (entry : String) (sites : DirectSites) (hρ : Tag.KeepsFixed ρ)
    (hgenerated : settings.routing.useDnsObject = false) :
    build settings (ρ entry) sites =
      (build settings entry sites).edit "servers"
        (Tree.mapItems (Tree.edit "detour" (Tree.mapText ρ))) := by
  rw [build, build, hgenerated, servers_renamed hρ]
  cases settings.vpn.fakeDns <;>
    simp [Entry.onlyIf, Fields.edit_set_of_ne, Tree.ofFields, Fields.ofList]

end Dns

namespace Document

/-- The outbounds with their tags and detours renamed. -/
theorem outbounds_renamed (hρ : Tag.KeepsFixed ρ)
    (hhops : ∀ h ∈ hops, Fields.Lacks "detour" h.outbound)
    (htargets : ∀ t ∈ targets, Fields.Lacks "detour" t.outbound) :
    outbounds (hops.map (Hop.renamed ρ)) (targets.map (Target.renamed ρ)) =
      (outbounds hops targets).map (renameOutbound ρ) := by
  have hfixed : reservedOutbounds.map (renameOutbound ρ) = reservedOutbounds := by
    simp [reservedOutbounds, renameOutbound, Tree.ofFields, Fields.ofList, Fields.edit,
      Fields.edit_set_of_ne, hρ.direct, hρ.reserved Tag.block (by decide),
      hρ.reserved Tag.dnsOut (by decide)]
  have htarget : (targets.map (Target.renamed ρ)).map (fun t => Tree.object t.outbound) =
      (targets.map fun t => Tree.object t.outbound).map (renameOutbound ρ) := by
    rw [List.map_map, List.map_map]
    refine List.map_congr_left fun t ht => ?_
    have hlacks : Fields.Lacks "detour" (Fields.edit "tag" (Tree.mapText ρ) t.outbound) :=
      Fields.lacks_edit.2 (htargets t ht)
    simp [renameOutbound, Target.renamed, Fields.edit_of_lacks hlacks]
  rw [outbounds, outbounds, List.map_append, List.map_append, hfixed, ← htarget,
    Hop.linkedOutbounds_renamed hhops]

/-- The inbounds with their tags renamed, apart from those of the user's own. -/
theorem inbounds_renamed (settings : Settings) (request : Request) (hops : List Hop)
    (hρ : Tag.KeepsFixed ρ) :
    Tree.list (inbounds settings request (hops.map (Hop.renamed ρ))) =
      renameInbounds ρ (extraInbounds settings request).length
        (.list (inbounds settings request hops)) := by
  have hsniffing := lacks_tag_sniffing settings
  have hfixed : (localInbounds settings request).map (Tree.edit "tag" (Tree.mapText ρ)) =
      localInbounds settings request := by
    have hmixed : (mixedInbound settings).edit "tag" (Tree.mapText ρ) = mixedInbound settings := by
      simp [mixedInbound, Tree.ofFields, Fields.ofList, Fields.edit_setAll_of_lacks hsniffing,
        Fields.edit_set_of_ne, hρ.localInbounds]
    have htun : (tunInbound settings).edit "tag" (Tree.mapText ρ) = tunInbound settings := by
      simp [tunInbound, Tree.ofFields, Fields.ofList, Fields.edit_setAll_of_lacks hsniffing,
        Fields.edit_set_of_ne, hρ.localInbounds]
    unfold localInbounds
    split
    · rfl
    · split <;> split <;> simp [hmixed, htun]
  have hredirects : (hops.map (Hop.renamed ρ)).filterMap Hop.redirect =
      (hops.filterMap Hop.redirect).map (Tree.edit "tag" (Tree.mapText ρ)) := by
    rw [List.filterMap_map, List.map_filterMap]
    rfl
  rw [renameInbounds, inbounds, inbounds, List.length_append, Nat.add_sub_cancel,
    List.take_left' rfl, List.drop_left' rfl, List.map_append, hfixed, hredirects]

/-- **A document of renamed hops and targets is the document renamed**, as is all else that a build
results in. -/
theorem assemble_renamed {request : Request} {root : Profile} {r : Routing}
    (hρ : Tag.KeepsFixed ρ)
    (hmapping : ∀ d ∈ Hop.redirects hops, ρ (Tag.mapping d.hop) = Tag.mapping (ρ d.hop))
    (hhops : ∀ h ∈ hops, Fields.Lacks "detour" h.outbound)
    (htargets : ∀ t ∈ r.targets, Fields.Lacks "detour" t.outbound)
    (hdef : settings.routing.defOutbound = Tag.proxy ∨
      Tag.isReserved settings.routing.defOutbound = true)
    (hgenerated : settings.routing.useDnsObject = false) :
    assemble settings request root (hops.map (Hop.renamed ρ)) (r.renamed ρ) =
      (assemble settings request root hops r).renamed ρ (extraInbounds settings request).length := by
  have hredirects := Hop.redirects_renamed hρ hops
  -- what is read off the profiles of hops and targets does not see their tags
  have hsites : directSites (hops.map (Hop.renamed ρ)) (r.renamed ρ) = directSites hops r := by
    rw [directSites, directSites, Routing.renamed, List.map_map, List.map_map]
    rfl
  have hdocument : Tree.ofFields (sections settings request (hops.map (Hop.renamed ρ))
      (r.renamed ρ)) = renamed ρ (extraInbounds settings request).length
        (Hop.redirects hops).length (.ofFields (sections settings request hops r)) := by
    have hroute := Routing.toTree_renamed request (Hop.entryTag hops) r hρ hmapping hdef
    have hdns := Dns.build_renamed (Hop.entryTag hops) (directSites hops r) hρ hgenerated
    have houtbounds := outbounds_renamed hρ hhops htargets
    have hinbounds := inbounds_renamed settings request hops hρ
    rw [sections, sections, renamed, Hop.entryTag_renamed hρ, hsites, hredirects, hroute, hdns,
      hinbounds, Routing.renamed, houtbounds]
    cases settings.ntp.enabled <;> cases experimental? settings request <;>
      simp [Entry.onlyIf, Entry.present, Fields.edit_set_of_ne, Tree.ofFields, Fields.ofList]
  have htraffic : traffic root (hops.map (Hop.renamed ρ)) (r.renamed ρ).targets =
      traffic root hops r.targets := by
    rw [traffic, traffic, Routing.renamed, List.map_map, List.map_map, List.length_map]
    rfl
  have hexternals : (hops.map (Hop.renamed ρ)).filterMap Hop.helper =
      (hops.filterMap Hop.helper).map (Descriptor.renamed ρ) := by
    rw [List.filterMap_map, List.map_filterMap]
    rfl
  have hignore : (hops.map (Hop.renamed ρ)).tail.map Hop.tag = (hops.tail.map Hop.tag).map ρ := by
    rw [← List.map_tail, List.map_map, List.map_map]
    rfl
  have hvpn : (hops.map (Hop.renamed ρ)).any (fun h => h.bridging == .full) =
      hops.any fun h => h.bridging == .full := by
    rw [List.any_map]
    rfl
  rw [assemble, assemble, Output.renamed, hdocument, htraffic, hexternals, hignore, hvpn, hredirects,
    Hop.entryTag_renamed hρ, List.head?_map, Option.map_map]
  rfl

end Document

end Parts

end Detour
