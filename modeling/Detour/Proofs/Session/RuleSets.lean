import Detour.Proofs.Session.Accounts
/-!
# Rule sets of sessions

The builds of a session share one service of rule sets, and whoever needs a rule set looks first
whether it is there. `Grows` is what this comes to for the service: rule sets that were missing have
been compiled, each once, and nothing else has changed. Every step of a build grows the service, so
every session does, also where steps fail, and `supplied_of_session` reads off that the log of the
service has no repetitions. What a document lists is there when its build ends (`Supplies`).
-/

namespace Detour

/-! ## Services that grow -/

namespace MemoryRuleSets

variable {r r₁ r₂ : MemoryRuleSets} {name : String} {names more : List String}

/-- What the log says of a compilation. -/
def logged (e : RuleSetKind × String) : String :=
  e.1.word ++ ":" ++ e.2

/-- The compilations of some rule sets. -/
def compilations (names : List String) : List (RuleSetKind × String) :=
  names.map fun name => (RuleSetKind.ofName name, name)

/-- Some rule sets that were missing have been compiled, one after the other. -/
structure GrowsBy (r : MemoryRuleSets) (names : List String) (r' : MemoryRuleSets) : Prop where
  eq : r' = { r with
    present := r.present ++ names
    compiled := r.compiled ++ (compilations names).map logged }
  nodup : names.Nodup
  missing : ∀ name ∈ names, name ∉ r.present

theorem GrowsBy.nil (r : MemoryRuleSets) : r.GrowsBy [] r where
  eq := by simp [compilations]
  nodup := List.nodup_nil
  missing := by simp

/-- A service that grows twice grows by both lists. -/
theorem GrowsBy.append (h : r.GrowsBy names r₁) (h' : r₁.GrowsBy more r₂) :
    r.GrowsBy (names ++ more) r₂ := by
  obtain ⟨rfl, hnodup, hmissing⟩ := h
  obtain ⟨rfl, hnodup', hmissing'⟩ := h'
  -- what is compiled later was missing still, so it is none of what was compiled before
  have hlater : ∀ name ∈ more, name ∉ r.present ∧ name ∉ names := by
    intro name hname
    have hnot := hmissing' name hname
    rw [List.mem_append, not_or] at hnot
    exact hnot
  refine ⟨by simp [compilations], ?_, fun name hname => ?_⟩
  · refine List.nodup_append.2 ⟨hnodup, hnodup', fun name hname name' hname' heq => ?_⟩
    exact (hlater name' hname').2 (heq ▸ hname)
  · rcases List.mem_append.1 hname with hname | hname
    · exact hmissing name hname
    · exact (hlater name hname).1

/-- A service compiles nothing but what is missing, and forgets nothing. -/
def Grows (r r' : MemoryRuleSets) : Prop :=
  ∃ names, r.GrowsBy names r'

/-- A service that stays as it is has grown by nothing. -/
theorem Grows.refl (r : MemoryRuleSets) : r.Grows r := ⟨[], .nil r⟩

theorem Grows.trans (h : r.Grows r₁) (h' : r₁.Grows r₂) : r.Grows r₂ := by
  obtain ⟨names, hnames⟩ := h
  obtain ⟨more, hmore⟩ := h'
  exact ⟨names ++ more, hnames.append hmore⟩

/-- Compiling a rule set lets a service grow, so all that builds do lets it. -/
theorem preorder_grows : RuleSetService.Preorder Grows where
  refl := .refl
  trans := .trans
  compile {r name} hname := by
    have hmissing : name ∉ r.present := by
      intro hmem
      exact absurd (hname.symm.trans (List.contains_iff_mem.2 hmem)) (by simp)
    change r.Grows (compile name (RuleSetKind.ofName name) r).2
    unfold compile
    split
    · exact .refl r
    · exact ⟨[name], rfl, List.pairwise_singleton _ name, by simpa using hmissing⟩

/-- What is present stays present, in its order. -/
theorem Grows.present_extends (h : r.Grows r₁) : r.present <+: r₁.present := by
  obtain ⟨names, rfl, -, -⟩ := h
  exact List.prefix_append _ _

/-- A rule set stays where it is. -/
theorem Grows.path_eq (h : r.Grows r₁) (name : String) :
    RuleSetService.path r₁ name = RuleSetService.path r name := by
  obtain ⟨names, rfl, -, -⟩ := h
  rfl

/-- The entry of a rule set in a document. -/
def entry (r : MemoryRuleSets) (name : String) : Tree :=
  .ofFields [("type", .str "local"), ("tag", .str name), ("format", .str "binary"),
    ("path", .str (RuleSetService.path r name))]

end MemoryRuleSets

/-- The rule sets that the rules of a chain refer to, each once and in the order of first use. A rule
that is not written refers to its rule sets all the same. -/
def RuleChain.ruleSetNames (c : RuleChain) : List String :=
  (c.rules.flatMap Rule.ruleSet).eraseDups

/-- A document lists the rule sets of a chain, with their paths, and the service has them all. -/
structure MemoryRuleSets.Supplies (r : MemoryRuleSets) (c : RuleChain) (document : Tree) :
    Prop where
  listed : document.at? ["route", "rule_set"] = some (.list (c.ruleSetNames.map r.entry))
  present : ∀ name ∈ c.ruleSetNames, name ∈ r.present

/-! ## Builds -/

namespace Build

variable {α : Type} {b : Build MemoryRuleSets α} {s s' : BuildState MemoryRuleSets}
  {name : String} {names : List String} {entries : List Tree}

/-- **Every step of a build grows the service**, also one that fails. -/
theorem Composed.grows (hb : Composed b) (s : BuildState MemoryRuleSets) :
    s.ruleSets.Grows (run b s).2.ruleSets :=
  hb.services MemoryRuleSets.preorder_grows s

/-- What was asked for is there if there was no failure. -/
theorem present_of_ensureRuleSet (hr : run (ensureRuleSet name) s = (.ok (), s')) :
    name ∈ s'.ruleSets.present := by
  rw [run_ensureRuleSet] at hr
  split at hr
  · rename_i hpresent
    cases hr
    exact List.contains_iff_mem.1 hpresent
  · simp only [RuleSetService.compile, MemoryRuleSets.compile] at hr
    split at hr
    · cases hr
    · cases hr
      exact List.mem_append_right _ (List.mem_singleton_self name)

/-- Entries are those of the names, and stand for rule sets that are there. -/
theorem entries_of_run (hr : run (ruleSetEntries names) s = (.ok entries, s')) :
    entries = names.map s'.ruleSets.entry ∧ ∀ name ∈ names, name ∈ s'.ruleSets.present := by
  induction names generalizing entries s with
  | nil =>
    cases hr
    simp
  | cons name rest ih =>
    simp only [ruleSetEntries, run_bind_eq_ok] at hr
    obtain ⟨⟨⟩, s₁, hensure, s₂, s₃, hget, es, s₄, hrest, hpure⟩ := hr
    cases hget
    cases hpure
    obtain ⟨rfl, hpresent⟩ := ih hrest
    -- the other names are seen to behind this one, which stays where it is
    have hgrows := (composed_ruleSetEntries rest).grows s₁
    rw [hrest] at hgrows
    refine ⟨?_, List.forall_mem_cons.2 ⟨?_, hpresent⟩⟩
    · rw [List.map_cons, MemoryRuleSets.entry, hgrows.path_eq]
    · exact hgrows.present_extends.subset (present_of_ensureRuleSet hensure)

end Build

section Runs

variable {setup : Setup} {seq : Nat} {bound : List Int64} {r : Routing}
  {s s' : BuildState MemoryRuleSets}

/-- The rule sets of a chain are the names in its rules that something is written for. -/
theorem RuleChain.usedRuleSets_eq (c : RuleChain) : c.usedRuleSets = c.ruleSetNames :=
  firstOccurrences_eq_eraseDups _

/-- The routing of a document has the entries of its chain. -/
theorem Routing.ruleSets_of_run
    (hr : Build.run (compile setup seq bound : Build MemoryRuleSets Routing) s = (.ok r, s')) :
    setup.store.chain? setup.settings.routing.currentRouteId = some r.chain ∧
      r.ruleSets = r.chain.ruleSetNames.map s'.ruleSets.entry ∧
      ∀ name ∈ r.chain.ruleSetNames, name ∈ s'.ruleSets.present := by
  have hchain := (Routing.compiled_of_run hr).chain
  simp only [compile, Build.run_bind_eq_ok] at hr
  obtain ⟨s₁, s₂, -, hr⟩ := hr
  split at hr
  · obtain ⟨_, _, hthrow, _⟩ := Build.run_bind_eq_ok.1 hr
    cases hthrow
  · split at hr
    · cases hr
    · simp only [Build.run_bind_eq_ok] at hr
      obtain ⟨targets, s₄, -, ruleSets, s₅, hsets, hpure⟩ := hr
      cases hpure
      rw [RuleChain.usedRuleSets_eq] at hsets
      exact ⟨hchain, Build.entries_of_run hsets⟩

/-- **A build supplies its document** with the rule sets of the active chain. -/
theorem supplies_of_profile {request : Request} {root : Profile} {o : Output}
    (hroot : root.isFullDocument = false)
    (hroute : Fields.Lacks "route" root.customConfig.tree.override)
    (hr : Build.run (Build.profile setup request root) s = (.ok o, s')) :
    ∃ chain, setup.store.chain? setup.settings.routing.currentRouteId = some chain ∧
      s'.ruleSets.Supplies chain o.document := by
  obtain ⟨ps, hops, r, s₁, s₂, -, -, -, hrouting, rfl⟩ := steps_of_run hroot hr
  obtain ⟨hchain, hsets, hpresent⟩ := Routing.ruleSets_of_run hrouting
  refine ⟨r.chain, hchain, ?_, hpresent⟩
  have hat : ∀ t : Tree, t.at? ["route", "rule_set"] =
      (t.get? "route").bind (Tree.get? "rule_set") := fun _ => rfl
  rw [hat, Tree.get?_merge_of_lacks hroute, ← hsets]
  simp [Document.sections, Routing.toTree]

/-- **A batch supplies its document** with the rule sets of the chain for batches. -/
theorem Batch.supplies_of_batch {profiles : List Profile} {out : Batch.Output}
    (hr : Build.run (Build.batch setup profiles) s = (.ok out, s')) :
    s'.ruleSets.Supplies setup.store.defaultChain out.document := by
  simp only [Build.batch, Build.run_bind_eq_ok] at hr
  obtain ⟨items, s₁, -, ruleSets, s₂, hsets, hpure⟩ := hr
  cases hpure
  rw [RuleChain.usedRuleSets_eq] at hsets
  obtain ⟨hentries, hpresent⟩ := Build.entries_of_run hsets
  refine ⟨?_, hpresent⟩
  rw [← hentries]
  simp [Tree.at?, assemble, document, route, Fields.get?_set]

end Runs

/-! ## Steps -/

/-- Rules that refer to a rule set twice, the second time where nothing is written for them. -/
def Setting.listing : RuleChain :=
  { rules := [{ ruleSet := ["geosite-ir", "geoip-ir_IP"] },
      { ruleSet := ["geoip-ir_IP"], outboundId := -9 }] }

/-- A directory of one profile whose only rule chain is `Setting.listing`. -/
def Setting.listed : Database :=
  { profiles := [Setting.native], groups := [{}], chains := [Setting.listing] }

namespace World

variable {w : World} {step : Step} {steps : List Step}

/-- A step grows the service, unless it puts another one in its place. -/
theorem grows_step (w : World) (hone : ∀ r, step ≠ .ruleSets r) :
    w.state.ruleSets.Grows (w.step step).2.state.ruleSets := by
  cases step with
  | build id request =>
    rw [snd_step_build]
    cases w.profile id with
    | ok p => exact (Build.composed_profile w.setup request p).grows w.state
    | error e => exact .refl _
  | batch ids =>
    rw [snd_step_batch]
    cases w.select ids with
    | ok ps => exact Batch.services_batch MemoryRuleSets.preorder_grows w.setup ps w.state
    | error e => exact .refl _
  | probe ids =>
    rw [snd_step_probe]
    cases w.select ids with
    | ok ps => exact (Probe.path_allFrom w.setup 1 ps w.state).services MemoryRuleSets.preorder_grows
    | error e => exact .refl _
  | resolve id wrappers =>
    rw [snd_step_resolve]
    exact .refl _
  | allocPort =>
    rw [World.step, state_run, Build.run_requestPort]
    exact .refl _
  | setLatency id ms | addTraffic id up down | bindTraffic id tag bound =>
    rw [World.step, snd_withLedger]
    cases w.profile id <;> exact .refl _
  | insert p | settings s => exact .refl _
  | ruleSets r => exact absurd rfl (hone r)

theorem grows_steps (w : World) (hone : ∀ r, Step.ruleSets r ∉ steps) :
    w.state.ruleSets.Grows (w.steps steps).2.state.ruleSets := by
  induction steps generalizing w with
  | nil => exact .refl _
  | cons step rest ih =>
    have hstep : ∀ r, step ≠ .ruleSets r := fun r he => hone r (he ▸ List.mem_cons_self)
    have hrest : ∀ r, Step.ruleSets r ∉ rest := fun r hmem =>
      hone r (List.mem_cons_of_mem _ hmem)
    rw [steps_cons]
    exact (w.grows_step hstep).trans (ih _ hrest)

theorem steps_append (w : World) (before after : List Step) :
    (w.steps (before ++ after)).2 = ((w.steps before).2.steps after).2 := by
  induction before generalizing w with
  | nil => rfl
  | cons step rest ih => rw [List.cons_append, steps_cons, steps_cons, ih]

/-- A step that results in a document was a run of the build. -/
theorem run_of_build {id : Int64} {request : Request} {o : Output} {p : Profile}
    (h : (w.step (.build id request)).1 = .ok (.built o))
    (hp : w.setup.store.profile? id = some p) :
    Build.run (Build.profile w.setup request p) w.state =
      (.ok o, (w.step (.build id request)).2.state) := by
  have hprofile : w.profile id = .ok p := by rw [profile, hp]
  rw [snd_step_build, hprofile]
  rw [World.step, withProfile, hprofile] at h
  dsimp only at h ⊢
  rw [fst_run] at h
  rcases hr : Build.run (Build.profile w.setup request p) w.state with ⟨e | o', s'⟩
  · rw [hr] at h
    cases h
  · rw [hr] at h
    cases h
    rfl

/-- A batch that succeeds in a session is one that succeeds from its state. -/
theorem run_of_batch {ids : Option (List Int64)} {out : Batch.Output}
    (h : (w.step (.batch ids)).1 = .ok (.batched out)) :
    ∃ ps, w.select ids = .ok ps ∧ Build.run (Build.batch w.setup ps) w.state =
      (.ok out, (w.step (.batch ids)).2.state) := by
  rw [snd_step_batch]
  rw [World.step, withProfiles] at h
  cases hps : w.select ids with
  | error e =>
    rw [hps] at h
    cases h
  | ok ps =>
    rw [hps] at h
    dsimp only at h ⊢
    rw [fst_run] at h
    refine ⟨ps, rfl, ?_⟩
    rcases hr : Build.run (Build.batch w.setup ps) w.state with ⟨e | out', s'⟩
    · rw [hr] at h
      cases h
    · rw [hr] at h
      cases h
      rfl

/-- **Rule sets are complete, and compiled at most once.** Over a session with one service the log
names no rule set twice, none that was there at the start, and each with the kind that its name asks
for, and the service forgets nothing. A document that is built lists the rule sets of the active
chain, and that of a batch those of the chain for batches, each once and with its path; the service
has them all when the build ends. This goes for the documents of steps, and for those that batches
and probes build on their way. -/
theorem supplied_of_session (db : Database) (settings : Settings) (base : UInt16)
    (ruleSets : MemoryRuleSets) (steps : List Step) (hone : ∀ r, Step.ruleSets r ∉ steps) :
    (∃ log : List (RuleSetKind × String),
      ((start db settings base ruleSets).steps steps).2.state.ruleSets.compiled =
        ruleSets.compiled ++ log.map MemoryRuleSets.logged ∧
      (log.map Prod.snd).Nodup ∧
      ∀ e ∈ log, e.2 ∉ ruleSets.present ∧ (e.1 = .ip ↔ "_IP".toList <:+: e.2.toList)) ∧
    (∀ before after, steps = before ++ after →
      ((start db settings base ruleSets).steps before).2.state.ruleSets.present <+:
        ((start db settings base ruleSets).steps steps).2.state.ruleSets.present) ∧
    (∀ (w : World) (id : Int64) (request : Request) (p : Profile) (o : Output),
      (w.step (.build id request)).1 = .ok (.built o) → w.setup.store.profile? id = some p →
      p.isFullDocument = false → Fields.Lacks "route" p.customConfig.tree.override →
        ∃ chain, w.setup.store.chain? w.setup.settings.routing.currentRouteId = some chain ∧
          (w.step (.build id request)).2.state.ruleSets.Supplies chain o.document) ∧
    (∀ (w : World) (ids : Option (List Int64)) (out : Batch.Output),
      (w.step (.batch ids)).1 = .ok (.batched out) →
        (w.step (.batch ids)).2.state.ruleSets.Supplies w.setup.store.defaultChain
          out.document) ∧
    ∀ v ∈ (start db settings base ruleSets).visitsAlong steps, ∀ o, v.output? = some o →
      v.root.isFullDocument = false → Fields.Lacks "route" v.root.customConfig.tree.override →
        ∃ chain, v.setup.store.chain? v.setup.settings.routing.currentRouteId = some chain ∧
          v.after.ruleSets.Supplies chain o.document := by
  refine ⟨?_, ?_, ?_, ?_, ?_⟩
  · obtain ⟨names, hgrown, hnodup, hmissing⟩ := (start db settings base ruleSets).grows_steps hone
    refine ⟨MemoryRuleSets.compilations names, by rw [hgrown]; rfl, ?_, fun e he => ?_⟩
    · simpa [MemoryRuleSets.compilations, Function.comp_def] using hnodup
    · obtain ⟨name, hname, rfl⟩ := List.mem_map.1 he
      exact ⟨hmissing name hname, RuleSetKind.ofName_eq_ip_iff⟩
  · rintro before after rfl
    rw [steps_append]
    refine (grows_steps _ fun r hr => hone r ?_).present_extends
    exact List.mem_append_right _ hr
  · intro w id request p o h hp hfull hroute
    exact supplies_of_profile hfull hroute (run_of_build h hp)
  · intro w ids out h
    obtain ⟨ps, -, hr⟩ := run_of_batch h
    exact Batch.supplies_of_batch hr
  · intro v _ o ho hfull hroute
    exact supplies_of_profile hfull hroute (Visit.run_of_output? ho)

/-- One rule set is there from the start and the other one is not, and a batch follows the build. -/
theorem supplied_of_session_listing :
    ∃ (w : World) (o : Output) (log : List (RuleSetKind × String)),
      w = start Setting.listed {} 20000 { present := ["geosite-ir"] } ∧
      (w.step (.build 2 {})).1 = .ok (.built o) ∧
      (w.step (.build 2 {})).2.state.ruleSets.Supplies Setting.listing o.document ∧
      (w.steps [.build 2 {}, .batch none]).2.state.ruleSets.compiled =
        log.map MemoryRuleSets.logged ∧
      (log.map Prod.snd).Nodup ∧ "geosite-ir" ∉ log.map Prod.snd := by
  obtain ⟨⟨log, hlog, hnodup, hmissing⟩, -, hbuild, -⟩ := supplied_of_session
    Setting.listed {} 20000 { present := ["geosite-ir"] } [.build 2 {}, .batch none] (by simp)
  generalize hw : start Setting.listed {} 20000 { present := ["geosite-ir"] } = w at hlog
  obtain ⟨o, s', hr⟩ := Build.exists_run_eq_ok
    (b := Build.profile w.setup {} Setting.native) (s := w.state) (by subst hw; decide)
  have hstep : (w.step (.build 2 {})).1 = .ok (.built o) := by
    have hprofile : w.profile 2 = .ok Setting.native := by subst hw; rfl
    rw [World.step, withProfile, hprofile]
    dsimp only
    rw [fst_run, hr]
    rfl
  obtain ⟨chain, hchain, hsupplies⟩ := hbuild w 2 {} Setting.native o hstep
    (by subst hw; rfl) rfl (by decide)
  have hactive : chain = Setting.listing := by
    subst hw
    exact (Option.some.inj hchain).symm
  refine ⟨w, o, log, rfl, hstep, hactive ▸ hsupplies, hlog, hnodup, fun hmem => ?_⟩
  obtain ⟨e, he, hname⟩ := List.mem_map.1 hmem
  exact (hmissing e he).1 (by simp [hname])

end World

end Detour
