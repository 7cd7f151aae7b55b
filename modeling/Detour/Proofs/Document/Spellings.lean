import Detour.Build.Batch
import Detour.Build.Probe
import Detour.Proofs.Document.Built
import Detour.Proofs.Hop.Spellings
/-!
# Documents of spellings

A build looks at what a user wrote for the objects that it spells, and for nothing else. So builds of
respelled profiles, with respelled stores and settings, are one and the same build
(`Setup.Respelled.profile_eq`), and so are batches and probes.
-/

namespace Detour

variable {σ : Type} {settings settings' : Settings} {setup setup' : Setup}

/-- Two setups that differ in the spelling of trees at most. -/
structure Setup.Respelled (a b : Setup) : Prop where
  store : a.store.Respelled b.store
  settings : a.settings.Respelled b.settings

/-- What reads related elements equally makes equal lists of them. -/
theorem map_eq_of_forall₂ {α β γ : Type} {R : α → β → Prop} {f : α → γ} {g : β → γ}
    (hfg : ∀ a b, R a b → g b = f a) {xs : List α} {ys : List β} (h : List.Forall₂ R xs ys) :
    ys.map g = xs.map f := by
  induction h with
  | nil => rfl
  | cons hab _ ih => rw [List.map_cons, List.map_cons, hfg _ _ hab, ih]

/-! ## Hops -/

namespace Hop

variable {hops hops' : List Hop}

/-- Linking looks at outbounds and redirects, which are the same. -/
theorem linkedOutbounds_eq (h : List.Forall₂ Respelled hops hops') :
    linkedOutbounds hops' = linkedOutbounds hops := by
  induction h with
  | nil => rfl
  | @cons a b _ _ hab hrest ih =>
    cases hrest with
    | nil => rw [linkedOutbounds, linkedOutbounds, hab.rest]
    | cons hnext _ => rw [linkedOutbounds, linkedOutbounds, ih, hab.rest, hnext.rest]

/-- The redirects of a chain are those of its hops. -/
theorem redirects_eq (h : List.Forall₂ Respelled hops hops') : redirects hops' = redirects hops := by
  induction h with
  | nil => rfl
  | @cons a b _ _ hab hrest ih =>
    cases hrest with
    | nil => rw [redirects, redirects, hab.rest]
    | cons hnext _ => rw [redirects, redirects, ih, hab.rest, hnext.rest]

/-- What does not look at the profiles of hops makes no difference between spellings. -/
theorem map_eq {α : Type} (f : Hop → α)
    (hf : ∀ (h : Hop) (p : Profile), f { h with profile := p } = f h)
    (h : List.Forall₂ Respelled hops hops') : hops'.map f = hops.map f :=
  map_eq_of_forall₂ (fun a b hab => by rw [hab.rest, hf]) h

/-- Nor does what is picked of the hops without such a look. -/
theorem filterMap_eq {α : Type} (f : Hop → Option α)
    (hf : ∀ (h : Hop) (p : Profile), f { h with profile := p } = f h)
    (h : List.Forall₂ Respelled hops hops') : hops'.filterMap f = hops.filterMap f := by
  have hmap := congrArg (List.filterMap id) (map_eq f hf h)
  rwa [List.filterMap_map, List.filterMap_map, Function.id_comp] at hmap

theorem any_eq (f : Hop → Bool) (hf : ∀ (h : Hop) (p : Profile), f { h with profile := p } = f h)
    (h : List.Forall₂ Respelled hops hops') : hops'.any f = hops.any f := by
  have hmap := congrArg (List.any · id) (map_eq f hf h)
  rwa [List.any_map, List.any_map, Function.id_comp] at hmap

/-- Traffic enters both chains by one tag. -/
theorem entryTag_eq (h : List.Forall₂ Respelled hops hops') : entryTag hops' = entryTag hops := by
  rw [entryTag, entryTag, ← List.head?_map, ← List.head?_map, map_eq tag (fun _ _ => rfl) h]

/-- The profiles of hops have the same ids. -/
theorem map_profile_id_eq (h : List.Forall₂ Respelled hops hops') :
    hops'.map (fun k => k.profile.id) = hops.map fun k => k.profile.id :=
  map_eq_of_forall₂ (fun _ _ hab => hab.profile.id_eq) h

/-- And they dial the same addresses. -/
theorem map_dialAddress_eq (h : List.Forall₂ Respelled hops hops') :
    hops'.map (fun k => k.profile.protocol.dialAddress) =
      hops.map fun k => k.profile.protocol.dialAddress :=
  map_eq_of_forall₂ (fun _ _ hab => hab.profile.protocol.dialAddress_eq) h

end Hop

/-! ## Routing -/

/-- Two targets that differ in the spelling of their profile at most. -/
structure Target.Respelled (t u : Target) : Prop where
  profile : t.profile.Respelled u.profile
  rest : u = { t with profile := u.profile }

/-- Targets of rules are selected by their ids, and compiled alike. -/
theorem Target.related_compileFrom (hset : setup.Respelled setup') (seq : Nat)
    (bound : List Int64) (rank : Nat) (ids : List Int64) :
    Build.Related Eq (List.Forall₂ Respelled)
      (compileFrom setup seq bound rank ids : Build σ (List Target))
      (compileFrom setup' seq bound rank ids) := by
  induction ids generalizing rank with
  | nil => exact .pure .nil
  | cons id rest ih =>
    have hfound := hset.store.profile? id
    simp only [compileFrom]
    generalize setup.store.profile? id = x, setup'.store.profile? id = y at hfound ⊢
    cases hfound with
    | none => exact .throw _
    | @some p q hpq =>
      dsimp only
      rw [hpq.compileNative_eq hset.settings, hpq.id_eq]
      refine Build.Related.bind_self fun own => ?_
      have hrest := (ih (rank + 1)).bind (S := List.Forall₂ Respelled) fun ts us htail =>
        .pure (List.Forall₂.cons (a := ⟨p, Tag.routeTarget seq rank, own⟩)
          (b := ⟨q, Tag.routeTarget seq rank, own⟩) ⟨hpq, rfl⟩ htail)
      split
      · exact hrest
      · exact Build.Related.bind_self fun _ => hrest

/-- Two routings that differ in the spelling of the profiles of their targets at most. -/
structure Routing.Respelled (r q : Routing) : Prop where
  targets : List.Forall₂ Target.Respelled r.targets q.targets
  rest : q = { r with targets := q.targets }

variable [RuleSetService σ]

/-- The chain of rules is the same in both setups, so routing comes to the same. -/
theorem Routing.related_compile (hset : setup.Respelled setup') (seq : Nat) (bound : List Int64) :
    Build.Related Eq Respelled (Routing.compile setup seq bound : Build σ Routing)
      (Routing.compile setup' seq bound) := by
  have hactive : setup'.store.chain? setup'.settings.routing.currentRouteId =
      setup.store.chain? setup.settings.routing.currentRouteId := by
    rw [hset.store.rest, hset.settings.rest]
    rfl
  unfold Routing.compile
  rw [hactive]
  refine Build.Related.bind_self fun s => ?_
  dsimp only
  split
  · exact (Build.Related.throw (R := fun _ _ => False) _).bind fun _ _ h => h.elim
  split
  · exact .throw _
  · exact (Target.related_compileFrom hset _ _ _ _).bind fun _ _ htargets =>
      Build.Related.bind_self fun _ => .pure ⟨htargets, rfl⟩

/-- What is written of a routing leaves the profiles of its targets out. -/
theorem Routing.toTree_eq {r r' : Routing} (hs : settings.Respelled settings')
    (hr : r.Respelled r') (request : Request) (entryTag : String) (redirects : List Hop.Redirect) :
    r'.toTree settings' request entryTag redirects =
      r.toTree settings request entryTag redirects := by
  have hchain : r'.chain = r.chain := by rw [hr.rest]
  have hsets : r'.ruleSets = r.ruleSets := by rw [hr.rest]
  have htags : r'.targets.map (fun t => (t.profile.id, t.tag)) =
      r.targets.map fun t => (t.profile.id, t.tag) :=
    map_eq_of_forall₂ (fun _ _ htu => by rw [htu.profile.id_eq, htu.rest]) hr.targets
  rw [Routing.toTree, Routing.toTree, tagMap, tagMap, hchain, hsets, htags, hs.rest]
  rfl

/-! ## Documents -/

/-- The resolver is written from settings that are not respelled, but for its own object. -/
theorem Dns.build_eq (hs : settings.Respelled settings') (entryTag : String)
    (sites : DirectSites) :
    Dns.build settings' entryTag sites = Dns.build settings entryTag sites := by
  unfold Dns.build
  rw [Tree.sameOverride_iff.1 hs.dnsObject, hs.rest]
  rfl

namespace Document

variable {hops hops' : List Hop} {r r' : Routing} {root root' : Profile}

/-- Inbounds are the local ones and those of the redirects. -/
theorem inbounds_eq (hs : settings.Respelled settings') (request : Request)
    (hhops : List.Forall₂ Hop.Respelled hops hops') :
    inbounds settings' request hops' = inbounds settings request hops := by
  rw [inbounds, inbounds, Hop.filterMap_eq Hop.redirect (fun _ _ => rfl) hhops, hs.rest]
  rfl

/-- Outbounds are those of the hops and of the targets. -/
theorem outbounds_eq {targets targets' : List Target}
    (hhops : List.Forall₂ Hop.Respelled hops hops')
    (htargets : List.Forall₂ Target.Respelled targets targets') :
    outbounds hops' targets' = outbounds hops targets := by
  have hown : targets'.map (fun t => Tree.object t.outbound) =
      targets.map fun t => Tree.object t.outbound :=
    map_eq_of_forall₂ (fun _ _ htu => by rw [htu.rest]) htargets
  rw [outbounds, outbounds, Hop.linkedOutbounds_eq hhops, hown]

/-- The sites that are looked up directly are what hops dial and what rules name. -/
theorem directSites_eq (hhops : List.Forall₂ Hop.Respelled hops hops') (hr : r.Respelled r') :
    directSites hops' r' = directSites hops r := by
  have hchain : r'.chain = r.chain := by rw [hr.rest]
  have htargets : r'.targets.map (fun t => t.profile.protocol.dialAddress) =
      r.targets.map fun t => t.profile.protocol.dialAddress :=
    map_eq_of_forall₂ (fun _ _ htu => htu.profile.protocol.dialAddress_eq) hr.targets
  rw [directSites, directSites, Hop.map_dialAddress_eq hhops, htargets, hchain]

/-- The sections of a document are the same. -/
theorem sections_eq (hs : settings.Respelled settings') (request : Request)
    (hhops : List.Forall₂ Hop.Respelled hops hops') (hr : r.Respelled r') :
    sections settings' request hops' r' = sections settings request hops r := by
  rw [sections, sections, Hop.entryTag_eq hhops, Hop.redirects_eq hhops, Dns.build_eq hs,
    directSites_eq hhops hr, inbounds_eq hs request hhops, outbounds_eq hhops hr.targets,
    Routing.toTree_eq hs hr, hs.rest]
  rfl

/-- Traffic is counted for the same profiles. -/
theorem traffic_eq {targets targets' : List Target} (hroot : root.Respelled root')
    (hhops : List.Forall₂ Hop.Respelled hops hops')
    (htargets : List.Forall₂ Target.Respelled targets targets') :
    traffic root' hops' targets' = traffic root hops targets := by
  have hids : targets'.map (fun t => t.profile.id) = targets.map fun t => t.profile.id :=
    map_eq_of_forall₂ (fun _ _ htu => htu.profile.id_eq) htargets
  rw [traffic, traffic, Hop.map_profile_id_eq hhops, ← hhops.length_eq, hroot.id_eq, hids]

/-- What hops and routing are put together to does not depend on spellings. -/
theorem assemble_eq (hs : settings.Respelled settings') (request : Request)
    (hroot : root.Respelled root') (hhops : List.Forall₂ Hop.Respelled hops hops')
    (hr : r.Respelled r') :
    assemble settings' request root' hops' r' = assemble settings request root hops r := by
  have hhead : hops'.head?.map (fun h => h.profile.id) = hops.head?.map fun h => h.profile.id := by
    rw [← List.head?_map, ← List.head?_map, Hop.map_profile_id_eq hhops]
  have htail : hops'.tail.map Hop.tag = hops.tail.map Hop.tag := by
    rw [List.map_tail, List.map_tail, Hop.map_eq Hop.tag (fun _ _ => rfl) hhops]
  rw [assemble, assemble, sections_eq hs request hhops hr, traffic_eq hroot hhops hr.targets,
    Hop.entryTag_eq hhops, Hop.redirects_eq hhops, hhead, htail,
    Hop.filterMap_eq Hop.helper (fun _ _ => rfl) hhops,
    Hop.any_eq (fun h => h.bridging == .full) (fun _ _ => rfl) hhops]

end Document

/-! ## Builds -/

namespace Setup.Respelled

variable {root root' : Profile} {ps qs : List Profile}

/-- Hops, routing and what is put together of them come to the same. -/
theorem generate_eq (hset : setup.Respelled setup') (request : Request)
    (hroot : root.Respelled root') :
    (Build.generate setup' request root' : Build σ Output) =
      Build.generate setup request root := by
  refine (Build.Related.eq_iff.1 ?_).symm
  refine (Build.Related.ofExcept (hset.store.hops hroot _)).bind fun ps qs hpqs => ?_
  unfold Hop.compileAll
  rw [← hpqs.length_eq]
  refine (Hop.related_compileFrom hset.settings hpqs _ _ _).bind fun hops hops' hhops => ?_
  have hrest := (Routing.related_compile (σ := σ) hset request.seq
    (Document.traffic root hops [])).bind (S := Eq) fun _ _ hr =>
      .pure (Document.assemble_eq hset.settings request hroot hhops hr).symm
  rw [Document.traffic_eq hroot hhops .nil, Hop.entryTag_eq hhops, ← hhops.length_eq,
    hroot.id_eq]
  split
  · exact Build.Related.bind_self fun _ => hrest
  · exact hrest

/-- A document of the user's own is taken over for the object that it holds. -/
theorem plain_eq (hset : setup.Respelled setup') (request : Request)
    (hroot : root.Respelled root') :
    (Build.plain setup' request root' : Build σ Output) = Build.plain setup request root := by
  cases hfull : root.isFullDocument with
  | false =>
    rw [Build.plain_eq_generate hfull, Build.plain_eq_generate (hroot.isFullDocument_eq.trans hfull),
      hset.generate_eq request hroot]
  | true =>
    obtain ⟨c, hc, hinternal⟩ := Profile.exists_custom_of_full hfull
    obtain ⟨config, hc', hheld⟩ := (hc ▸ hroot.protocol).exists_custom
    have hinternal' : ({ c with config := config } : Custom).isInternalFull = true := hinternal
    simp only [Build.plain, hc, hc', hheld, hinternal, hinternal', if_true]

/-- **The build of a respelled profile is the build of the profile.** -/
theorem profile_eq (hset : setup.Respelled setup') (request : Request)
    (hroot : root.Respelled root') :
    (Build.profile setup' request root' : Build σ Output) =
      Build.profile setup request root := by
  unfold Build.profile
  rw [hset.plain_eq request hroot, Tree.sameOverride_iff.1 hroot.customConfig]

/-! ## Batches and probes -/

/-- A batch visits the profiles in turn, and each of them comes to the same. -/
theorem buildFrom_eq (hset : setup.Respelled setup') (hps : List.Forall₂ Profile.Respelled ps qs)
    (seq : Nat) :
    (Batch.Item.buildFrom setup' seq qs : Build σ (List Batch.Item)) =
      Batch.Item.buildFrom setup seq ps := by
  induction hps generalizing seq with
  | nil => rfl
  | @cons p q _ _ hpq _ ih =>
    have hitem : Batch.Item.ofOutput q = Batch.Item.ofOutput p := by
      funext o
      rw [Batch.Item.ofOutput, Batch.Item.ofOutput, hpq.isFullDocument_eq, hpq.id_eq,
        hpq.displayName_eq]
    rw [Batch.Item.buildFrom, Batch.Item.buildFrom, hpq.protocol.isValid_eq, hpq.id_eq, hitem,
      hset.profile_eq _ hpq, ih (seq + 1), ih seq]

/-- What a batch puts together are these items. -/
theorem batch_eq (hset : setup.Respelled setup') (hps : List.Forall₂ Profile.Respelled ps qs) :
    (Build.batch setup' qs : Build σ Batch.Output) = Build.batch setup ps := by
  have hchain : setup'.store.defaultChain = setup.store.defaultChain := by
    rw [hset.store.rest]
  rw [Build.batch, Build.batch, hset.buildFrom_eq hps, hchain]

/-- A report says whether the build of a profile has ended well. -/
theorem one_eq (hset : setup.Respelled setup') (seq : Nat) {p q : Profile}
    (hpq : p.Respelled q) :
    (Probe.one setup' seq q : StateM (BuildState σ) Report) = Probe.one setup seq p := by
  have hblank : Report.blank q = Report.blank p := by
    rw [Report.blank, Report.blank, hpq.id_eq, hpq.displayName_eq]
  simp only [Probe.one, Report.ofOutput, Report.ofError, Report.invalid, hblank, hpq.id_eq,
    hpq.protocol.isValid_eq, hset.profile_eq _ hpq]

/-- A probe is one such report after the other. -/
theorem allFrom_eq (hset : setup.Respelled setup') (hps : List.Forall₂ Profile.Respelled ps qs)
    (seq : Nat) :
    (Probe.allFrom setup' seq qs : StateM (BuildState σ) (List Report)) =
      Probe.allFrom setup seq ps := by
  induction hps generalizing seq with
  | nil => rfl
  | cons hpq _ ih => rw [Probe.allFrom, Probe.allFrom, hset.one_eq seq hpq, ih (seq + 1)]

end Setup.Respelled

end Detour
