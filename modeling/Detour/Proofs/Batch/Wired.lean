import Detour.Proofs.Batch.Resolvers
import Detour.Proofs.Document.Wired
/-!
# Helpers of batches and overridden tags

A batch keeps the helpers of a test by the tags of the outbounds that the test is the first to
contribute. The helpers go by the tags of their places, and the outbounds by those that the overrides
leave: `mem_externals_iff_of_run` says for every batch which helpers are returned. Where an override
puts another tag on a bridged hop, its outbound may be kept and its helper is not.
-/

namespace Detour

namespace Batch

namespace Test

/-- The helpers that a test asks for. -/
def helpers (t : Test) : List Descriptor :=
  match t.result with
  | .ok o => o.externals
  | .error _ => []

/-- A test contributes an outbound under a tag. -/
def contributes (tag : String) (t : Test) : Bool :=
  t.contributed.any fun v => tagOf v = tag

end Test

/-- Of all parts, a helper is kept in the one that owns its tag. -/
theorem mem_externals_iff {d : Descriptor} {parts : List Part} :
    d ∈ externals parts ↔ ∃ p, owner? d.outbound parts = some p ∧ d ∈ p.externals := by
  have hself : d ∈ externals parts ↔
      d ∈ (externals parts).filter fun x => x.outbound = d.outbound := by
    simp
  have hkept : (externals parts).filter (fun x => x.outbound = d.outbound) =
      ((owner? d.outbound parts).map fun p =>
        p.externals.filter fun x => x.outbound = d.outbound).getD [] := by
    have := filter_keptTags Part.externals Descriptor.outbound [] parts d.outbound
    rwa [if_neg List.not_mem_nil] at this
  rw [hself, hkept]
  cases owner? d.outbound parts <;> simp

/-- The part that owns a tag is that of the first test that contributes it. -/
theorem Item.Tested.owner?_eq {profiles : List Profile} {tests : List Test} {items : List Item}
    (h : Item.Tested profiles tests items) (tag : String) :
    (owner? tag (items.filterMap part?)).map Part.externals =
      ((tests.filter fun t => !t.root.isFullDocument).find? (Test.contributes tag)).map
        Test.helpers := by
  induction h with
  | nil => rfl
  | skipped _ _ ih => exact ih
  | @built p seq o item rest tests items _ hitem _ ih =>
    rcases cases_of_ofOutput hitem with ⟨hfull, document, rfl, -⟩ | ⟨hfull, part, rfl, -⟩
    · rw [List.filter_cons_of_neg (by simp [hfull])]
      exact ih
    · have hof := Part.of_ofOutput hitem
      have howns : part.owns tag = Test.contributes tag ⟨p, seq, .ok o⟩ := by
        simp [Part.owns, Part.outbounds, Test.contributes, Test.contributed, Test.outbounds,
          hof.outbounds]
      rw [List.filter_cons_of_pos (by simp [hfull]), List.find?_cons, ← howns]
      change (owner? tag (part :: items.filterMap part?)).map _ = _
      rw [owner?_cons]
      cases part.owns tag with
      | true => exact congrArg some hof.externals.symm
      | false => exact ih

section Runs

variable {σ : Type} [RuleSetService σ] {setup : Setup} {profiles : List Profile} {out : Output}
  {s s' : BuildState σ}

/-- A batch returns a helper if it is one of the first test with an outbound under its tag. -/
theorem mem_externals_iff_of_run (hr : Build.run (Build.batch setup profiles) s = (.ok out, s'))
    (d : Descriptor) :
    d ∈ out.externals ↔ ∃ t, (sharedTests setup profiles s).find?
      (Test.contributes d.outbound) = some t ∧ d ∈ t.helpers := by
  simp only [Build.batch, Build.run_bind_eq_ok] at hr
  obtain ⟨items, s₁, hitems, ruleSets, s₂, -, hpure⟩ := hr
  cases hpure
  have howner := (tested_of_run hitems).1.owner?_eq d.outbound
  change d ∈ externals (items.filterMap Item.part?) ↔ _
  rw [mem_externals_iff]
  have hmap : ∀ {α : Type} {x? : Option α} {f : α → List Descriptor},
      (∃ x, x? = some x ∧ d ∈ f x) ↔ ∃ ds, x?.map f = some ds ∧ d ∈ ds := by
    intro α x? f
    cases x? <;> simp
  rw [hmap, howner, ← hmap]
  rfl

end Runs

/-- **Which overrides detach a hop.** Everything that refers to a hop goes by the tag of its place in
the chain. The outbound of the hop stands under that tag exactly if the override of the profile names
no other one, and a batch returns the helpers that belong to the tags under which a test is the first
to contribute an outbound. -/
theorem attached_iff_of_runs {σ : Type} [RuleSetService σ] (setup : Setup) :
    (∀ (request : Request) (root : Profile) (ps : List Profile) (o : Detour.Output)
      (s s' : BuildState σ), root.isFullDocument = false → root.customConfig.tree.override = [] →
      setup.store.hops root (!request.test) = .ok ps →
      Build.run (Build.profile setup request root) s = (.ok o, s') →
        o.Wired setup request root ps s'.ledger ∧
        ∀ (i : Nat) (p : Profile) (tag : String), ps[i]? = some p →
          (Hop.tags request.seq ps)[i]? = some tag →
            (o.outbounds[i]?.bind (Tree.get? "tag") = some (.str tag) ↔ p.KeepsTag tag)) ∧
    ∀ (profiles : List Profile) (out : Output) (s s' : BuildState σ),
      Build.run (Build.batch setup profiles) s = (.ok out, s') → ∀ d,
        d ∈ out.externals ↔ ∃ t, (sharedTests setup profiles s).find?
          (Test.contributes d.outbound) = some t ∧ d ∈ t.helpers := by
  refine ⟨fun request root ps o s s' hroot hcfg hps hr => ?_, fun profiles out s s' hr d =>
    mem_externals_iff_of_run hr d⟩
  have hwired := Output.wired_of_steps hroot hcfg hps hr
  refine ⟨hwired, fun i p tag hp htag => ?_⟩
  rw [hwired.outbound i p tag hp htag, Option.some.injEq, Profile.overriddenTag_eq_iff]

/-- The bridged server with a tag of the user's own. -/
def Setting.detached : Profile :=
  { Setting.bridged with
    customOutbound := ⟨.object [("tag", .str "mine")], by simp [Tree.Ordered, Tree.OrderedFields]⟩ }

/-- Its outbound is under that tag and everything else goes by the other one; a batch has its
outbound and not its helper. -/
theorem attached_iff_of_runs_detached :
    (∃ o s', Build.run (Build.profile Setting.setup {} Setting.detached) Setting.start =
        (.ok o, s') ∧
      o.outbounds[0]?.bind (Tree.get? "tag") = some (.str "mine") ∧ o.entryTag = "proxy" ∧
      ∃ d ∈ o.externals, d.outbound = "proxy") ∧
    ∃ out s', Build.run (Build.batch Setting.setup [Setting.detached]) Setting.start =
        (.ok out, s') ∧ out.externals = [] := by
  obtain ⟨hbuild, hbatch⟩ := attached_iff_of_runs (σ := MemoryRuleSets) Setting.setup
  constructor
  · obtain ⟨o, s', hr⟩ := Build.exists_run_eq_ok
      (b := Build.profile Setting.setup {} Setting.detached) (s := Setting.start) (by decide)
    obtain ⟨hwired, -⟩ := hbuild {} Setting.detached [Setting.detached] o _ _ rfl rfl rfl hr
    exact ⟨o, s', hr, hwired.outbound 0 _ "proxy" rfl rfl, hwired.entry,
      hwired.helper 0 _ "proxy" rfl rfl rfl⟩
  · obtain ⟨out, s', hr⟩ := Build.exists_run_eq_ok
      (b := Build.batch Setting.setup [Setting.detached]) (s := Setting.start)
      (by decide +kernel)
    refine ⟨out, s', hr, List.eq_nil_iff_forall_not_mem.2 fun d hd => ?_⟩
    obtain ⟨t, hfirst, hd⟩ := (hbatch _ out _ _ hr d).1 hd
    have hnone : ∀ t ∈ sharedTests Setting.setup [Setting.detached] Setting.start,
        ∀ d ∈ t.helpers, t.contributes d.outbound = false := by
      decide +kernel
    have hcontributes := List.find?_some hfirst
    rw [hnone t (List.mem_of_find?_eq_some hfirst) d hd] at hcontributes
    cases hcontributes

end Batch

end Detour
