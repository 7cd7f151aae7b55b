import Detour.Proofs.Document.Resolution
import Detour.Proofs.Document.Routed
/-!
# Counters of documents

A build binds the counters of each profile of the document to its outbound: those of the hops in their
order, those of the root of several hops to the entry, and those of the selected profiles that are
neither. One profile may be all of these, and several hops as well, so its counters are bound again
and again. `accounted_of_run` says where they end up. A run lemma for each step says which bindings
it makes (`BuildState.Binds`), and the last one of a profile is what counts.
-/

namespace Detour

/-! ## Bindings -/

/-- The account with its counters bound to the outbound of a profile. -/
def Account.boundTo (id : Int64) (tag : String) (a : Account) : Account :=
  { a with boundId := id, boundTag := tag }

namespace TagMap

variable {id : Int64} {tag : String} {m : TagMap} {i : Nat}

/-- An id that is not among the keys has no tag. -/
theorem get?_eq_none (h : ∀ e ∈ m, e.1 ≠ id) : get? id m = none := by
  cases hget : get? id m with
  | none => rfl
  | some tag => exact absurd rfl (h _ (mem_of_get? hget))

@[simp] theorem get?_singleton (id other : Int64) (tag : String) :
    get? id [(other, tag)] = if other = id then some tag else none := by
  by_cases h : other = id <;> simp [get?, h]

/-- The last entry of an id gives it its tag. -/
theorem get?_of_last (hi : m[i]? = some (id, tag))
    (hlast : ∀ j e, i < j → m[j]? = some e → e.1 ≠ id) : get? id m = some tag := by
  obtain ⟨hlt, hi⟩ := List.getElem?_eq_some_iff.1 hi
  have hbehind : get? id (m.drop (i + 1)) = none := by
    refine get?_eq_none fun e he => ?_
    obtain ⟨j, hj⟩ := List.mem_iff_getElem?.1 he
    rw [List.getElem?_drop] at hj
    exact hlast _ e (by omega) hj
  have hsplit : m = m.take i ++ ([(id, tag)] ++ m.drop (i + 1)) := by
    rw [List.singleton_append, ← hi, ← List.drop_eq_getElem_cons hlt, List.take_append_drop]
  rw [hsplit, get?_append, get?_append, hbehind, get?_singleton, if_pos rfl]
  rfl

/-- Entries of other ids do not matter. -/
theorem get?_filter {p : Int64 → Bool} (hp : p id = true) :
    get? id (m.filter fun e => p e.1) = get? id m := by
  rw [get?, get?, ← List.filter_reverse, List.find?_filter]
  congr 2
  funext e
  by_cases he : e.1 = id <;> simp [he, hp]

end TagMap

namespace Ledger

/-- Bind the counters of some profiles to outbounds, one after the other. -/
def bindAll (bindings : TagMap) (l : Ledger) : Ledger :=
  bindings.foldl (fun l b => l.bind b.1 b.1 b.2) l

@[simp] theorem bindAll_nil (l : Ledger) : l.bindAll [] = l := rfl

@[simp] theorem bindAll_cons (id : Int64) (tag : String) (bindings : TagMap) (l : Ledger) :
    l.bindAll ((id, tag) :: bindings) = (l.bind id id tag).bindAll bindings := rfl

/-- Two series of bindings are made one after the other. -/
theorem bindAll_append (bindings more : TagMap) (l : Ledger) :
    l.bindAll (bindings ++ more) = (l.bindAll bindings).bindAll more :=
  List.foldl_append

/-- Counters are bound to the last of their bindings, and where there is none they are left alone. -/
theorem get_bindAll (id : Int64) (bindings : TagMap) (l : Ledger) :
    (l.bindAll bindings).get id = match TagMap.get? id bindings with
      | some tag => (l.get id).boundTo id tag
      | none => l.get id := by
  induction bindings generalizing l with
  | nil => rfl
  | cons b rest ih =>
    obtain ⟨other, tag⟩ := b
    rw [bindAll_cons, ih, ← List.singleton_append, TagMap.get?_append, TagMap.get?_singleton]
    by_cases h : other = id
    · subst h
      cases TagMap.get? other rest <;> simp [Ledger.bind, Account.boundTo]
    · rw [Ledger.bind, get_update_of_ne (Ne.symm h), if_neg h, Option.or_none]

end Ledger

/-! ## What the steps bind -/

section Steps

variable {σ : Type} {setup : Setup} {settings : Settings} {seq : Nat} {s s' : BuildState σ}

/-- Between two states some bindings were made in the ledger, and nothing else was done to it. -/
def BuildState.Binds (bindings : TagMap) (s s' : BuildState σ) : Prop :=
  s'.ledger = s.ledger.bindAll bindings

namespace BuildState.Binds

variable {s₁ : BuildState σ} {bindings more : TagMap}

theorem trans (h : Binds bindings s s₁) (h' : Binds more s₁ s') :
    Binds (bindings ++ more) s s' := by
  unfold Binds at *
  rw [Ledger.bindAll_append, ← h, h']

end BuildState.Binds

open BuildState

theorem binds_of_pickPort {fixed : Int64} {port : Nat}
    (hr : Build.run (Build.pickPort fixed) s = (.ok port, s')) : Binds [] s s' := by
  unfold Build.pickPort at hr
  split at hr
  · cases hr
    rfl
  · rw [Build.run_requestPort, Prod.mk.injEq] at hr
    rw [← hr.2]
    rfl

namespace Hop

variable {p : Profile} {tag : String} {nearest : Bool} {h : Hop} {ps : List Profile}
  {hops : List Hop}

theorem binds_of_run (hr : Build.run (compile settings p tag nearest) s = (.ok h, s')) :
    Binds [(h.profile.id, h.tag)] s s' := by
  unfold compile at hr
  split at hr
  · cases hr
  · obtain ⟨h₀, hdirect, rfl⟩ := Build.run_map_eq_ok.1 hr
    simp only [compileDirect, Build.run_bind_eq_ok, Build.run_ofExcept_eq_ok] at hdirect
    obtain ⟨own, s₁, ⟨-, rfl⟩, ⟨⟩, s₂, hbind, hpure⟩ := hdirect
    cases hbind
    cases hpure
    rfl
  · obtain ⟨h₀, hbridged, rfl⟩ := Build.run_map_eq_ok.1 hr
    simp only [compileBridged, Build.run_bind_eq_ok, Build.run_ofExcept_eq_ok] at hbridged
    obtain ⟨mapping, s₁, hmapping, socks, s₂, hsocks, helper, s₃, ⟨-, rfl⟩, ⟨⟩, s₄, hbind,
      hpure⟩ := hbridged
    have hports := (binds_of_pickPort hmapping).trans (binds_of_pickPort hsocks)
    cases hbind
    cases hpure
    exact hports.trans rfl

theorem binds_of_runFrom {length index : Nat}
    (hr : Build.run (compileFrom settings seq length index ps) s = (.ok hops, s')) :
    Binds (hops.map fun h => (h.profile.id, h.tag)) s s' := by
  induction ps generalizing index hops s with
  | nil =>
    cases hr
    rfl
  | cons q rest ih =>
    simp only [compileFrom, Build.run_bind_eq_ok] at hr
    obtain ⟨h₀, s₁, hhead, hs, s₂, hrest, hpure⟩ := hr
    cases hpure
    exact (binds_of_run hhead).trans (ih hrest)

end Hop

/-- Of the targets, those are bound whose counters are not in use. -/
theorem Target.binds_of_runFrom {rank : Nat} {bound ids : List Int64} {targets : List Target}
    (hr : Build.run (compileFrom setup seq bound rank ids) s = (.ok targets, s')) :
    Binds ((targets.map fun t => (t.profile.id, t.tag)).filter fun b => b.1 ∉ bound) s s' := by
  induction ids generalizing rank targets s with
  | nil =>
    cases hr
    rfl
  | cons id rest ih =>
    simp only [compileFrom] at hr
    split at hr
    · cases hr
    · rename_i p hp
      obtain ⟨outbound, s₁, hown, hr⟩ := Build.run_bind_eq_ok.1 hr
      obtain ⟨-, rfl⟩ := Build.run_ofExcept_eq_ok.1 hown
      obtain rfl := Store.id_of_profile? hp
      split at hr
      · -- the counter is in use, and stays bound as it is
        rename_i hbound
        obtain ⟨ts, s₂, hrest, hpure⟩ := Build.run_bind_eq_ok.1 hr
        cases hpure
        rw [List.map_cons, List.filter_cons_of_neg (by simpa using hbound)]
        exact ih hrest
      · rename_i hfree
        obtain ⟨⟨⟩, s₂, hbind, hr⟩ := Build.run_bind_eq_ok.1 hr
        obtain ⟨ts, s₃, hrest, hpure⟩ := Build.run_bind_eq_ok.1 hr
        cases hbind
        cases hpure
        rw [List.map_cons, List.filter_cons_of_pos (by simpa using hfree)]
        have hfirst : Binds [(p.id, Tag.routeTarget seq rank)] s { s with
            ledger := s.ledger.bind p.id p.id (Tag.routeTarget seq rank) } := rfl
        exact hfirst.trans (ih hrest)

variable [RuleSetService σ]

/-- Rule sets have no counters. -/
theorem binds_of_ruleSetEntries {names : List String} {entries : List Tree}
    (hr : Build.run (Build.ruleSetEntries names) s = (.ok entries, s')) : Binds [] s s' := by
  induction names generalizing entries s with
  | nil =>
    cases hr
    rfl
  | cons name rest ih =>
    simp only [Build.ruleSetEntries, Build.run_bind_eq_ok] at hr
    obtain ⟨⟨⟩, s₁, hensure, s₂, s₃, hread, es, s₄, hrest, hpure⟩ := hr
    -- compiling a rule set changes the service and nothing else
    have hmade : Binds [] s s₁ := by
      rw [Build.run_ensureRuleSet] at hensure
      split at hensure
      · cases hensure
        rfl
      · rw [Prod.mk.injEq] at hensure
        rw [← hensure.2]
        rfl
    cases hread
    cases hpure
    exact hmade.trans (ih hrest)

/-- Routing binds its targets, but for those that are bound already. -/
theorem Routing.binds_of_run {bound : List Int64} {r : Routing}
    (hr : Build.run (Routing.compile setup seq bound) s = (.ok r, s')) :
    Binds ((r.targets.map fun t => (t.profile.id, t.tag)).filter fun b => b.1 ∉ bound) s s' := by
  simp only [Routing.compile, Build.run_bind_eq_ok] at hr
  obtain ⟨s₁, s₂, hread, hr⟩ := hr
  cases hread
  split at hr
  · obtain ⟨_, _, hthrow, _⟩ := Build.run_bind_eq_ok.1 hr
    cases hthrow
  · split at hr
    · cases hr
    · simp only [Build.run_bind_eq_ok] at hr
      obtain ⟨targets, s₄, htargets, ruleSets, s₅, hsets, hpure⟩ := hr
      cases hpure
      have hbinds := (Target.binds_of_runFrom htargets).trans (binds_of_ruleSetEntries hsets)
      rwa [List.append_nil] at hbinds

end Steps

/-! ## Where the counters end up -/

/-- The profiles whose counters the hops use: those of the hops, and the root of several hops. -/
def hopCounters (root : Profile) (ps : List Profile) : List Int64 :=
  ps.map Profile.id ++ if 1 < ps.length then [root.id] else []

/-- What the build of a document with some hops and rules makes of a ledger: each counter is at the
outbound of its profile, and those of other profiles are as they were. -/
structure Output.Accounted (seq : Nat) (root : Profile) (ps : List Profile) (chain : RuleChain)
    (l l' : Ledger) (o : Output) : Prop where
  /-- Behind the counters of the hops are listed those of the selected profiles which are not among
  them, in the order of the rules. -/
  traffic : o.traffic =
    hopCounters root ps ++ chain.selected.filter fun id => id ∉ hopCounters root ps
  primary : o.primaryTraffic = ps.head?.map Profile.id
  /-- The root of several hops is accounted for at the entry, even where it is a hop itself. -/
  entry : 1 < ps.length → l'.get root.id = (l.get root.id).boundTo root.id o.entryTag
  /-- Any other hop is accounted for at its last place, whatever rules select it. -/
  hop : ∀ i p, ps[i]? = some p → (∀ j q, i < j → ps[j]? = some q → q.id ≠ p.id) →
    ¬ (1 < ps.length ∧ p.id = root.id) →
      l'.get p.id = (l.get p.id).boundTo p.id (Tag.hop seq p.id i ps.length)
  /-- A selected profile that is neither is accounted for at its own outbound. -/
  target : ∀ k id, chain.selected[k]? = some id → id ∉ hopCounters root ps →
    l'.get id = (l.get id).boundTo id (Tag.routeTarget seq k)
  untouched : ∀ id, id ∉ o.traffic → l'.get id = l.get id

namespace Document

/-- The bindings that the build of a document makes. -/
def bindings (root : Profile) (hops : List Hop) (targets : List Target) : TagMap :=
  hops.map (fun h => (h.profile.id, h.tag)) ++
    (if 1 < hops.length then [(root.id, Hop.entryTag hops)] else []) ++
    (targets.map fun t => (t.profile.id, t.tag)).filter fun b => b.1 ∉ traffic root hops []

/-- The counters that a document lists are those that its build binds. -/
theorem map_fst_bindings (root : Profile) (hops : List Hop) (targets : List Target) :
    (bindings root hops targets).map Prod.fst = traffic root hops targets := by
  have hown : traffic root hops [] =
      hops.map (fun h => h.profile.id) ++ if 1 < hops.length then [root.id] else [] := by
    simp [traffic]
  rw [bindings, hown, traffic, List.map_append, List.map_append, List.map_map]
  congr 1
  · congr 1
    split <;> rfl
  · rw [List.filter_map, List.map_map, List.filter_map]
    rfl

end Document

section Runs

variable {σ : Type} [RuleSetService σ] {setup : Setup} {request : Request} {root : Profile}
  {ps : List Profile} {hops : List Hop} {r : Routing} {o : Output} {s s' : BuildState σ}
  {id : Int64} {i k : Nat} {p : Profile}

/-- A successful build makes the bindings of its document. -/
theorem binds_of_steps {s₁ s₂ : BuildState σ}
    (hhops : Build.run (Hop.compileAll setup.settings request.seq ps) s = (.ok hops, s₁))
    (hroot : s₂ = if 1 < hops.length then
      { s₁ with ledger := s₁.ledger.bind root.id root.id (Hop.entryTag hops) } else s₁)
    (hrouting : Build.run (Routing.compile setup request.seq (Document.traffic root hops [])) s₂ =
      (.ok r, s')) :
    s.Binds (Document.bindings root hops r.targets) s' := by
  have hentry : s₁.Binds (if 1 < hops.length then [(root.id, Hop.entryTag hops)] else []) s₂ := by
    rw [hroot]
    split <;> rfl
  exact ((Hop.binds_of_runFrom hhops).trans hentry).trans (Routing.binds_of_run hrouting)

section Built

variable (hb : Built setup request root ps hops r o)
include hb

/-- What the hops of a document count for are the profiles that they were compiled from. -/
theorem hopCounters_of_built : Document.traffic root hops [] = hopCounters root ps := by
  rw [hopCounters, ← hb.compiled.length_eq, ← hb.compiled.map_profile, List.map_map]
  simp [Document.traffic]

theorem Output.traffic_of_built : o.traffic =
    hopCounters root ps ++ r.chain.selected.filter fun id => id ∉ hopCounters root ps := by
  have htargets : r.targets.map (fun t => t.profile.id) = r.chain.selected := by
    rw [hb.routing.targets.map_id, Routing.targetIds_eq_selected]
  have hown : hops.map (fun h => h.profile.id) ++ (if 1 < hops.length then [root.id] else []) =
      hopCounters root ps := by
    rw [← hopCounters_of_built hb]
    simp [Document.traffic]
  rw [hb.output]
  change Document.traffic root hops r.targets = _
  rw [Document.traffic, htargets, hown]

/-- What is bound for the selected profiles is not bound for the hops. -/
theorem get?_bindings_of_mem (hid : id ∈ hopCounters root ps) :
    TagMap.get? id (Document.bindings root hops r.targets) =
      TagMap.get? id (hops.map (fun h => (h.profile.id, h.tag)) ++
        if 1 < hops.length then [(root.id, Hop.entryTag hops)] else []) := by
  have hnone : TagMap.get? id ((r.targets.map fun t => (t.profile.id, t.tag)).filter
      fun b => b.1 ∉ Document.traffic root hops []) = none := by
    refine TagMap.get?_eq_none fun e he heq => ?_
    have hfree : e.1 ∉ Document.traffic root hops [] := by
      simpa using (List.mem_filter.1 he).2
    rw [hopCounters_of_built hb, heq] at hfree
    exact hfree hid
  rw [Document.bindings, TagMap.get?_append, hnone, Option.none_or]

/-- Where there are several hops, the profile itself counts what enters. -/
theorem get?_bindings_root (hn : 1 < ps.length) :
    TagMap.get? root.id (Document.bindings root hops r.targets) = some o.entryTag := by
  have hmem : root.id ∈ hopCounters root ps := by simp [hopCounters, hn]
  rw [get?_bindings_of_mem hb hmem, if_pos (hb.compiled.length_eq ▸ hn), TagMap.get?_append,
    TagMap.get?_singleton, if_pos rfl, Output.entryTag_of_built hb]
  rfl

/-- The last hop of a profile is the one that counts for it. -/
theorem get?_bindings_hop (hp : ps[i]? = some p)
    (hlast : ∀ j q, i < j → ps[j]? = some q → q.id ≠ p.id)
    (hroot : ¬ (1 < ps.length ∧ p.id = root.id)) :
    TagMap.get? p.id (Document.bindings root hops r.targets) =
      some (Tag.hop request.seq p.id i ps.length) := by
  have hmem : p.id ∈ hopCounters root ps :=
    List.mem_append_left _ (List.mem_map_of_mem (List.mem_of_getElem? hp))
  have hentry : TagMap.get? p.id
      (if 1 < hops.length then [(root.id, Hop.entryTag hops)] else []) = none := by
    split
    · rename_i hn
      rw [TagMap.get?_singleton, if_neg]
      exact fun he => hroot ⟨hb.compiled.length_eq ▸ hn, he.symm⟩
    · rfl
  rw [get?_bindings_of_mem hb hmem, TagMap.get?_append, hentry, Option.none_or]
  obtain ⟨h, hh, hcompiled⟩ := hb.compiled.exists_hop hp
  refine TagMap.get?_of_last (i := i) ?_ fun j e hij he => ?_
  · rw [List.getElem?_map, hh, Option.map_some, hcompiled.place.1, hcompiled.place.2.1]
  · rw [List.getElem?_map, Option.map_eq_some_iff] at he
    obtain ⟨h', hh', rfl⟩ := he
    refine hlast j h'.profile hij ?_
    rw [← hb.compiled.map_profile, List.getElem?_map, hh']
    rfl

/-- A target counts for its profile unless a hop does. -/
theorem get?_bindings_target (hk : r.chain.selected[k]? = some id)
    (hfree : id ∉ hopCounters root ps) :
    TagMap.get? id (Document.bindings root hops r.targets) =
      some (Tag.routeTarget request.seq k) := by
  have hnodup := RuleChain.nodup_targetIds r.chain
  have hfilter := TagMap.get?_filter (m := r.targets.map fun t => (t.profile.id, t.tag))
    (p := fun id => decide (id ∉ hopCounters root ps)) (by simpa using hfree)
  obtain ⟨hlt, hk⟩ := List.getElem?_eq_some_iff.1 hk
  rw [Routing.targetIds_eq_selected] at hnodup
  rw [Document.bindings, hopCounters_of_built hb, TagMap.get?_append, hfilter,
    hb.routing.targets.get?_tag (RuleChain.nodup_targetIds r.chain),
    Routing.targetIds_eq_selected, if_pos (hk ▸ List.getElem_mem hlt), Option.some_or]
  rw [← hk, hnodup.idxOf_getElem]

end Built

/-- **The counters end up at the outbounds of their profiles.** -/
theorem accounted_of_run (hroot : root.isFullDocument = false)
    (hr : Build.run (Build.profile setup request root) s = (.ok o, s')) :
    ∃ ps chain, setup.store.hops root (!request.test) = .ok ps ∧
      setup.store.chain? setup.settings.routing.currentRouteId = some chain ∧
      o.Accounted request.seq root ps chain s.ledger s'.ledger := by
  obtain ⟨ps, hops, r, s₁, s₂, hps, hhops, hs₂, hrouting, ho⟩ := steps_of_run hroot hr
  have hb : Built setup request root ps hops r o :=
    ⟨hps, Hop.compiledChain_of_run hhops, Routing.compiled_of_run hrouting, ho⟩
  have hbound : ∀ id tag, TagMap.get? id (Document.bindings root hops r.targets) = some tag →
      s'.ledger.get id = (s.ledger.get id).boundTo id tag := by
    intro id tag hget
    rw [binds_of_steps hhops hs₂ hrouting, Ledger.get_bindAll, hget]
  refine ⟨ps, r.chain, hps, hb.routing.chain, {
    traffic := Output.traffic_of_built hb
    primary := Output.primaryTraffic_of_built hb
    entry := fun hn => hbound _ _ (get?_bindings_root hb hn)
    hop := fun i p hp hlast hne => hbound _ _ (get?_bindings_hop hb hp hlast hne)
    target := fun k id hk hfree => hbound _ _ (get?_bindings_target hb hk hfree)
    untouched := fun id hid => ?_ }⟩
  have hnone : TagMap.get? id (Document.bindings root hops r.targets) = none := by
    refine TagMap.get?_eq_none fun e he heq => hid ?_
    have hlisted : o.traffic = Document.traffic root hops r.targets := by
      rw [hb.output]
      rfl
    rw [hlisted, ← Document.map_fst_bindings, ← heq]
    exact List.mem_map_of_mem he
  rw [binds_of_steps hhops hs₂ hrouting, Ledger.get_bindAll, hnone]

end Runs

/-- In the chain, the bridged server is the first and the last of three hops, and the native one
between them is selected by a rule as well. On its own, the bridged server is the only hop, and the
native one has an outbound for the rule. -/
theorem accounted_of_run_twice_bridged :
    (∃ o s', Build.run (Build.profile Setting.setup {} Setting.chain) Setting.start = (.ok o, s') ∧
      o.traffic = [1, 2, 1, 3] ∧ o.primaryTraffic = some 1 ∧
      (s'.ledger.get 1).boundTag = "g-1-2" ∧ (s'.ledger.get 2).boundTag = "c-0-2-1" ∧
      (s'.ledger.get 3).boundTag = o.entryTag) ∧
    (∃ o s', Build.run (Build.profile Setting.setup {} Setting.bridged) Setting.start =
        (.ok o, s') ∧ o.traffic = [1, 2] ∧ (s'.ledger.get 2).boundTag = "rout-0") := by
  constructor
  · obtain ⟨o, s', hr⟩ := Build.exists_run_eq_ok
      (b := Build.profile Setting.setup {} Setting.chain) (s := Setting.start) (by decide)
    obtain ⟨ps, chain, hps, hchain, hacc⟩ := accounted_of_run rfl hr
    obtain rfl : ps = [Setting.bridged, Setting.native, Setting.bridged] :=
      Except.ok.inj (hps.symm.trans Setting.hops_chain)
    obtain rfl : chain = Setting.rules := Option.some.inj hchain.symm
    have hlast := hacc.hop 2 Setting.bridged rfl (fun j q hj hq => by
      have hlt : j < 3 := (List.getElem?_eq_some_iff.1 hq).1
      omega) (by decide)
    have hmiddle := hacc.hop 1 Setting.native rfl (fun j q hj hq => by
      have hlt : j < 3 := (List.getElem?_eq_some_iff.1 hq).1
      obtain rfl : j = 2 := by omega
      cases hq
      decide) (by decide)
    refine ⟨o, s', hr, hacc.traffic, hacc.primary, ?_, ?_, ?_⟩
    · exact congrArg Account.boundTag hlast
    · exact congrArg Account.boundTag hmiddle
    · exact congrArg Account.boundTag (hacc.entry (by decide))
  · obtain ⟨o, s', hr⟩ := Build.exists_run_eq_ok
      (b := Build.profile Setting.setup {} Setting.bridged) (s := Setting.start) (by decide)
    obtain ⟨ps, chain, hps, hchain, hacc⟩ := accounted_of_run rfl hr
    obtain rfl : ps = [Setting.bridged] := Except.ok.inj hps.symm
    obtain rfl : chain = Setting.rules := Option.some.inj hchain.symm
    have htarget := hacc.target 0 2 rfl (by decide)
    exact ⟨o, s', hr, hacc.traffic, congrArg Account.boundTag htarget⟩

end Detour
