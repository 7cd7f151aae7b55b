import Detour.Proofs.Batch.Tests
/-!
# Outcomes of batches

An invalid profile is left out of a batch and marked, and any other failure ends the batch where it
happens. `outcome_of_batch` says how a batch may end: at the first test that fails, with its error;
with a document in which every profile has the one place that its kind asks for; or, after all
profiles, at a rule set of the chain for batches. In each case the profiles that were left out so far
are marked, and no others.
-/

namespace Detour

/-- The document of a build that has one of its own is an object. -/
theorem Build.exists_fields_of_full {σ : Type} [RuleSetService σ] {setup : Setup}
    {request : Request} {root : Profile} {o : Output} {s s' : BuildState σ}
    (hroot : root.isFullDocument = true)
    (hr : run (profile setup request root) s = (.ok o, s')) :
    ∃ fields, o.document = .object fields := by
  obtain ⟨c, hc, hfull⟩ := Profile.exists_custom_of_full hroot
  rw [run_profile_of_full hc hfull] at hr
  cases hdoc : c.configObject? with
  | none =>
    rw [hdoc] at hr
    cases hr
  | some fields =>
    rw [hdoc] at hr
    cases hr
    cases root.customConfig.tree.override with
    | nil => exact ⟨fields, rfl⟩
    | cons kv rest => exact ⟨_, rfl⟩

/-- Where the entries of rule sets cannot be had, one of them is neither there nor can it be compiled
when its turn comes, and the service says why. -/
theorem Build.exists_missing_of_run {σ : Type} [RuleSetService σ] {names : List String}
    {e : BuildError} {s s' : BuildState σ}
    (hr : run (ruleSetEntries names) s = (.error e, s')) :
    ∃ before name after entries s₁ message, names = before ++ name :: after ∧
      run (ruleSetEntries before) s = (.ok entries, s₁) ∧
      RuleSetService.isPresent s₁.ruleSets name = false ∧
      (RuleSetService.compile name (RuleSetKind.ofName name) s₁.ruleSets).1 = .error message ∧
      e = .ruleSet message := by
  induction names generalizing s with
  | nil => cases hr
  | cons name rest ih =>
    simp only [ruleSetEntries, run_bind_eq_error] at hr
    rcases hr with hensure | ⟨u, s₁, hensure, hget | ⟨s₂, s₃, hget, hrest | ⟨es, s₄, -, hpure⟩⟩⟩
    · -- the first one is missing itself
      rw [run_ensureRuleSet] at hensure
      split at hensure
      · cases hensure
      · rename_i habsent
        obtain ⟨hresult, -⟩ := Prod.mk.inj hensure
        refine ⟨[], name, rest, [], s, ?_⟩
        cases hmade : (RuleSetService.compile name (RuleSetKind.ofName name) s.ruleSets).1 with
        | ok u =>
          rw [hmade] at hresult
          cases hresult
        | error message =>
          rw [hmade] at hresult
          cases hresult
          exact ⟨message, rfl, rfl, by simpa using habsent, rfl, rfl⟩
    · cases hget
    · -- a later one is, and the first goes in front of those that were there
      obtain ⟨before, other, after, entries, s₄, message, rfl, hbefore, hmissing⟩ := ih hrest
      have hhead : ∃ es, run (ruleSetEntries (name :: before)) s = (.ok es, s₄) := by
        simp only [ruleSetEntries, run_bind_eq_ok]
        exact ⟨_, u, s₁, hensure, s₂, s₃, hget, entries, s₄, hbefore, rfl⟩
      obtain ⟨es, hes⟩ := hhead
      exact ⟨name :: before, other, after, es, s₄, message, rfl, hes, hmissing⟩
    · cases hpure

namespace Batch

/-- What a profile contributes: a whole document without inbounds, or its outbounds. -/
theorem Item.cases_of_ofOutput {p : Profile} {o : Detour.Output} {item : Item}
    (h : ofOutput p o = .ok item) :
    (p.isFullDocument = true ∧ ∃ document, item = .whole p.id document ∧
      ∀ fields, o.document = .object fields → document.get? "inbounds" = some (.list [])) ∨
    (p.isFullDocument = false ∧ ∃ part, item = .part part ∧
      o.outbounds = part.first :: part.others) := by
  unfold ofOutput at h
  split at h
  · rename_i hfull
    cases h
    refine .inl ⟨hfull, _, rfl, fun fields hdoc => ?_⟩
    simp [hdoc]
  · rename_i hfull
    split at h
    · rename_i fields hdoc
      split at h
      · rename_i first others hout
        cases h
        refine .inr ⟨by simpa using hfull, _, rfl, ?_⟩
        rw [Output.outbounds, hdoc, Tree.get?_object, hout]
        rfl
      · cases h
    · cases h

section Runs

variable {σ : Type} [RuleSetService σ] {setup : Setup} {profiles : List Profile}
  {tests : List Test} {items : List Item} {s : BuildState σ}

/-! ## Classes of profiles -/

/-- The tests of the profiles that contribute to the shared document. -/
def sharedTests (setup : Setup) (profiles : List Profile) (s : BuildState σ) : List Test :=
  (Batch.tests setup profiles s).filter fun t => !t.root.isFullDocument

theorem map_root_sharedTests (setup : Setup) (profiles : List Profile) (s : BuildState σ) :
    (sharedTests setup profiles s).map Test.root =
      profiles.filter fun p => p.protocol.isValid && !p.isFullDocument := by
  have hroots : (Batch.tests setup profiles s).map Test.root =
      profiles.filter fun p => p.protocol.isValid := by
    have hnumbered := congrArg (List.map Prod.fst)
      (map_root_testsFrom setup 1 (profiles.filter fun p => p.protocol.isValid) s)
    rwa [List.map_map, List.zipIdx_map_fst] at hnumbered
  have hfilter : ((Batch.tests setup profiles s).filter fun t => !t.root.isFullDocument).map
      Test.root = ((Batch.tests setup profiles s).map Test.root).filter fun p =>
        !p.isFullDocument := by
    rw [List.filter_map]
    rfl
  rw [sharedTests, hfilter, hroots, List.filter_filter]
  exact List.filter_congr fun p _ => Bool.and_comm _ _

/-- A batch has a document, and each of its profiles has one place in it or beside it. -/
structure Completed (setup : Setup) (profiles : List Profile) (s : BuildState σ) (out : Output) :
    Prop where
  /-- The invalid profiles are left out. -/
  skipped : out.skipped = invalidIds profiles
  /-- The valid ones that are whole documents stay apart. -/
  fullConfigs : out.fullConfigs.map Prod.fst =
    (profiles.filter fun p => p.protocol.isValid && p.isFullDocument).map Profile.id
  cleared : ∀ entry ∈ out.fullConfigs, entry.2.get? "inbounds" = some (.list [])
  /-- All others are reached under a tag each. -/
  contributors : (sharedTests setup profiles s).map Test.root =
    profiles.filter fun p => p.protocol.isValid && !p.isFullDocument
  outboundTags : out.outboundTags = (sharedTests setup profiles s).map Test.entryTag
  /-- No profile is in two of these classes, and none in no class. -/
  classes : out.skipped.length + out.fullConfigs.length + out.outboundTags.length = profiles.length

namespace Item.Tested

theorem failure?_eq_none (h : Tested profiles tests items) : ∀ t ∈ tests, t.failure? = none := by
  induction h with
  | nil => simp
  | skipped _ _ ih => exact ih
  | @built p seq o item rest tests items _ hitem _ ih =>
    have hfailure := Test.failure?_ofOutput p seq o
    rw [hitem] at hfailure
    exact List.forall_mem_cons.2 ⟨hfailure, ih⟩

theorem skipped_eq (h : Tested profiles tests items) :
    items.filterMap skipped? = invalidIds profiles := by
  induction h with
  | nil => rfl
  | skipped hvalid _ ih =>
    rw [invalidIds_cons, if_neg (by simp [hvalid]), List.filterMap_cons, ih]
    rfl
  | built hvalid hitem _ ih =>
    rw [invalidIds_cons, if_pos hvalid, List.filterMap_cons, ih]
    rcases cases_of_ofOutput hitem with ⟨-, document, rfl, -⟩ | ⟨-, part, rfl, -⟩ <;> rfl

theorem whole_eq (h : Tested profiles tests items) :
    (items.filterMap whole?).map Prod.fst =
      (profiles.filter fun p => p.protocol.isValid && p.isFullDocument).map Profile.id := by
  induction h with
  | nil => rfl
  | skipped hvalid _ ih =>
    rw [List.filter_cons_of_neg (by simp [hvalid])]
    exact ih
  | built hvalid hitem _ ih =>
    rcases cases_of_ofOutput hitem with ⟨hfull, document, rfl, -⟩ | ⟨hfull, part, rfl, -⟩
    · rw [List.filter_cons_of_pos (by simp [hvalid, hfull]), List.map_cons, ← ih]
      rfl
    · rw [List.filter_cons_of_neg (by simp [hfull])]
      exact ih

theorem entryTags_eq (h : Tested profiles tests items) :
    (items.filterMap part?).map Part.entryTag =
      (tests.filter fun t => !t.root.isFullDocument).map Test.entryTag := by
  induction h with
  | nil => rfl
  | skipped _ _ ih => exact ih
  | built _ hitem _ ih =>
    rcases cases_of_ofOutput hitem with ⟨hfull, document, rfl, -⟩ | ⟨hfull, part, rfl, hout⟩
    · rw [List.filter_cons_of_neg (by simp [hfull])]
      exact ih
    · rw [List.filter_cons_of_pos (by simp [hfull]), List.map_cons, ← ih]
      simp [part?, Part.entryTag, Test.entryTag, Test.outbounds, hout]

/-- Whole documents that are objects are stripped of their inbounds. -/
theorem cleared (h : Tested profiles tests items)
    (hdoc : ∀ t ∈ tests, t.root.isFullDocument = true → ∀ o, t.result = .ok o →
      ∃ fields, o.document = .object fields) :
    ∀ entry ∈ items.filterMap whole?, entry.2.get? "inbounds" = some (.list []) := by
  induction h with
  | nil => simp
  | skipped _ _ ih => exact ih hdoc
  | built _ hitem _ ih =>
    obtain ⟨hhead, htail⟩ := List.forall_mem_cons.1 hdoc
    rcases cases_of_ofOutput hitem with ⟨hfull, document, rfl, hclear⟩ | ⟨hfull, part, rfl, -⟩
    · obtain ⟨fields, hfields⟩ := hhead hfull _ rfl
      exact List.forall_mem_cons.2 ⟨hclear fields hfields, ih htail⟩
    · exact ih htail

/-- Every profile has one item, and every item is of one kind. -/
theorem length_eq (h : Tested profiles tests items) :
    (items.filterMap skipped?).length + (items.filterMap whole?).length +
      (items.filterMap part?).length = profiles.length := by
  induction h with
  | nil => rfl
  | skipped _ _ ih =>
    simp only [List.filterMap_cons, skipped?, whole?, part?, List.length_cons]
    omega
  | built _ hitem _ ih =>
    rcases cases_of_ofOutput hitem with ⟨-, document, rfl, -⟩ | ⟨-, part, rfl, -⟩ <;>
      simp only [List.filterMap_cons, skipped?, whole?, part?, List.length_cons] <;> omega

end Item.Tested

theorem completed_of_tested {ruleSets : List Tree}
    (h : Item.Tested profiles (Batch.tests setup profiles s) items) :
    Completed setup profiles s (assemble setup.store.defaultChain items ruleSets) where
  skipped := h.skipped_eq
  fullConfigs := h.whole_eq
  cleared := by
    refine h.cleared fun t ht hfull o ho => ?_
    obtain ⟨s₁, s₂, hr⟩ := exists_run_of_mem_testsFrom ht
    exact Build.exists_fields_of_full hfull (ho ▸ hr)
  contributors := map_root_sharedTests setup profiles s
  outboundTags := h.entryTags_eq
  classes := by
    have hlen := h.length_eq
    rw [← hlen, assemble, List.length_map]

/-! ## Whole batches -/

/-- How a batch may end. -/
inductive Outcome (setup : Setup) (profiles : List Profile) (s : BuildState σ) :
    Except BuildError Output → BuildState σ → Prop
  /-- At the first test that fails, with the error of that test. -/
  | aborted {before : List Profile} {t : Test} {e : BuildError} {s' : BuildState σ} :
      StoppedAt 1 profiles (Batch.tests setup profiles s) before t → t.failure? = some e →
      Marked (invalidIds before) s s' → Outcome setup profiles s (.error e) s'
  /-- With a document, where no test fails. -/
  | completed {out : Output} {s' : BuildState σ} :
      (∀ t ∈ Batch.tests setup profiles s, t.failure? = none) → Completed setup profiles s out →
      Marked (invalidIds profiles) s s' → Outcome setup profiles s (.ok out) s'
  /-- At a rule set of the chain for batches, which is neither there nor can it be compiled after the
  tests and the rule sets before it. -/
  | ruleSetMissing {before after : List String} {name message : String} {entries : List Tree}
      {s₁ s' : BuildState σ} :
      (∀ t ∈ Batch.tests setup profiles s, t.failure? = none) →
      setup.store.defaultChain.usedRuleSets = before ++ name :: after →
      Build.run (Build.ruleSetEntries before) (stateAfterTests setup profiles s) =
        (.ok entries, s₁) →
      RuleSetService.isPresent s₁.ruleSets name = false →
      (RuleSetService.compile name (RuleSetKind.ofName name) s₁.ruleSets).1 = .error message →
      Marked (invalidIds profiles) s s' → Outcome setup profiles s (.error (.ruleSet message)) s'

end Runs

/-- **Every batch ends in one of three ways.** It stops at the first profile whose build as a test
fails or has no outbounds, and with that error. If there is none, each profile has one place in what
it results in, unless a rule set of the chain for batches is missing. Of all latencies, those of the
invalid profiles that were left out on the way are changed. -/
theorem outcome_of_batch {σ : Type} [RuleSetService σ] (setup : Setup) (profiles : List Profile)
    (s : BuildState σ) :
    Outcome setup profiles s (Build.run (Build.batch setup profiles) s).1
      (Build.run (Build.batch setup profiles) s).2 := by
  have hcomposed := Build.composed_ruleSetEntries (σ := σ) setup.store.defaultChain.usedRuleSets
  -- having rule sets compiled changes no latency
  have hmarks : ∀ {s₁ s₂ : BuildState σ} {result},
      Build.run (Build.ruleSetEntries setup.store.defaultChain.usedRuleSets) s₁ = (result, s₂) →
      Marked (invalidIds profiles) s s₁ → Marked (invalidIds profiles) s s₂ := by
    intro s₁ s₂ result hsets hmarked
    simpa using hmarked.trans (Marked.of_run hcomposed hsets)
  rcases hr : Build.run (Build.batch setup profiles) s with ⟨e | out, s'⟩
  · simp only [Build.batch, Build.run_bind_eq_error] at hr
    rcases hr with hitems | ⟨items, s₁, hitems, hsets | ⟨ruleSets, s₂, -, hpure⟩⟩
    · obtain ⟨before, t, hstopped, hfail, hmarked⟩ := failure_of_run hitems
      exact .aborted hstopped hfail hmarked
    · obtain ⟨htested, hstate, hmarked⟩ := tested_of_run hitems
      have hresult : (Build.run (Build.ruleSetEntries setup.store.defaultChain.usedRuleSets)
          (stateAfterTests setup profiles s)).1 = .error e := by
        rw [stateAfterTests, ← (hcomposed.congr hstate).1, hsets]
      obtain ⟨before, name, after, entries, s₂, message, hnames, hbefore, habsent, hmade, rfl⟩ :=
        Build.exists_missing_of_run (Prod.ext hresult rfl)
      exact .ruleSetMissing htested.failure?_eq_none hnames hbefore habsent hmade
        (hmarks hsets hmarked)
    · cases hpure
  · simp only [Build.batch, Build.run_bind_eq_ok] at hr
    obtain ⟨items, s₁, hitems, ruleSets, s₂, hsets, hpure⟩ := hr
    cases hpure
    obtain ⟨htested, -, hmarked⟩ := tested_of_run hitems
    exact .completed htested.failure?_eq_none (completed_of_tested htested) (hmarks hsets hmarked)

end Batch

end Detour
