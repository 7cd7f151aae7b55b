import Detour.Build.Batch
import Detour.Proofs.Document.Built
import Detour.Proofs.Hop.Linked
/-!
# What a batch is built from

A batch that succeeds has built each of its valid profiles, with sequence numbers from 1 on. The run
is read once (`items_of_run`), as the derivation `Item.BuiltFrom`; what its parts are is
`Part.Compiled`, and `exists_root` and `exists_part` go from parts to profiles and back.
-/

namespace Detour

namespace Batch

variable {σ : Type} [RuleSetService σ] {setup : Setup} {seq n : Nat} {root : Profile}
  {profiles ps : List Profile} {hops : List Hop} {targets : List Target}
  {items : List Item}

/-- A part that was compiled under a sequence number for a profile: the sections are those of its
hops and the targets of rules, and nothing else goes in. -/
structure Part.Compiled (setup : Setup) (seq : Nat) (root : Profile) (ps : List Profile)
    (hops : List Hop) (targets : List Target) (part : Part) : Prop where
  resolved : setup.store.hops root false = .ok ps
  chain : Hop.CompiledChain setup.settings seq ps hops
  compiledTargets : ∃ ids, Target.Compiled setup seq ids targets
  all : part.first :: part.others = Document.outbounds hops targets
  inbounds : part.inbounds = hops.filterMap Hop.redirect
  redirects : part.redirects = Hop.redirects hops
  externals : part.externals = hops.filterMap Hop.helper

/-- The local inbounds and those of the user's own are left out of tests. -/
theorem inbounds_of_test (seq : Nat) (settings : Settings) (hops : List Hop) :
    Document.inbounds settings { test := true, seq := seq } hops = hops.filterMap Hop.redirect := by
  simp [Document.inbounds, Document.localInbounds, Document.extraInbounds]

/-- The part of a profile whose document nothing was merged into. -/
theorem part_of_built {r : Routing} {o : Detour.Output} {item : Item}
    (hb : Built setup { test := true, seq := seq } root ps hops r o)
    (hroot : root.isFullDocument = false) (hcfg : root.customConfig.tree.override = [])
    (hi : Item.ofOutput root o = .ok item) :
    ∃ part, item = .part part ∧ part.Compiled setup seq root ps hops r.targets := by
  have hdoc : o.document = .object (Fields.ofList
      (Document.sections setup.settings { test := true, seq := seq } hops r)) := by
    rw [hb.output, hcfg]
    rfl
  -- a part is read off the document, whose sections are known
  have hout : (Fields.get? "outbounds" (Fields.ofList
      (Document.sections setup.settings { test := true, seq := seq } hops r))).bind Tree.items? =
        some (Document.outbounds hops r.targets) := by
    simp [Fields.ofList, Document.sections, Fields.get?_set, Tree.items?]
  have hin : (Fields.get? "inbounds" (Fields.ofList
      (Document.sections setup.settings { test := true, seq := seq } hops r))).bind Tree.items? =
        some (hops.filterMap Hop.redirect) := by
    rw [← inbounds_of_test seq setup.settings]
    simp [Fields.ofList, Document.sections, Fields.get?_set, Tree.items?]
  obtain ⟨first, others, hall⟩ : ∃ first others,
      Document.outbounds hops r.targets = first :: others := by
    refine List.exists_cons_of_ne_nil ?_
    simp [Document.outbounds, reservedOutbounds]
  rw [Item.ofOutput, if_neg (by simp [hroot]), hdoc] at hi
  simp only [hout, hall] at hi
  cases hi
  refine ⟨_, rfl, ⟨hb.resolved, hb.compiled, ⟨_, hb.routing.targets⟩, hall.symm, ?_, ?_, ?_⟩⟩
  · rw [Part.inbounds, hin, Option.getD_some]
  · rw [hb.output]
    rfl
  · rw [hb.output]
    rfl

/-! ## The run of a batch -/

namespace Item

/-- What the profiles of a batch may become, from a sequence number on. Only the profiles that are
built take a number. -/
inductive BuiltFrom (setup : Setup) : Nat → List Profile → List Item → Prop
  | nil {seq : Nat} : BuiltFrom setup seq [] []
  | skipped {seq : Nat} {p : Profile} {rest : List Profile} {items : List Item} :
      p.protocol.isValid = false → BuiltFrom setup seq rest items →
      BuiltFrom setup seq (p :: rest) (skipped p.id :: items)
  | whole {seq : Nat} {p : Profile} {rest : List Profile} {items : List Item} {document : Tree} :
      p.protocol.isValid = true → p.isFullDocument = true → BuiltFrom setup (seq + 1) rest items →
      BuiltFrom setup seq (p :: rest) (whole p.id document :: items)
  | part {seq : Nat} {p : Profile} {rest : List Profile} {items : List Item} {ps : List Profile}
      {hops : List Hop} {targets : List Target} {q : Part} :
      p.protocol.isValid = true → p.isFullDocument = false →
      q.Compiled setup seq p ps hops targets → BuiltFrom setup (seq + 1) rest items →
      BuiltFrom setup seq (p :: rest) (.part q :: items)

/-- The derivation is what a run leaves behind. -/
theorem builtFrom_of_run {s s' : BuildState σ}
    (hcfg : ∀ p ∈ profiles, p.customConfig.tree.override = [])
    (hr : Build.run (buildFrom setup seq profiles) s = (.ok items, s')) :
    BuiltFrom setup seq profiles items := by
  induction profiles generalizing seq items s with
  | nil =>
    cases hr
    exact .nil
  | cons p rest ih =>
    obtain ⟨hp, hrest⟩ := List.forall_mem_cons.1 hcfg
    rw [buildFrom] at hr
    split at hr
    · rename_i hvalid
      simp only [Build.run_bind_eq_ok, Build.run_ofExcept_eq_ok] at hr
      obtain ⟨o, s₁, hbuild, item, s₂, ⟨hitem, -⟩, items, s₃, hitems, hpure⟩ := hr
      cases hpure
      cases hfull : p.isFullDocument with
      | true =>
        rw [ofOutput, if_pos hfull] at hitem
        cases hitem
        exact .whole hvalid hfull (ih hrest hitems)
      | false =>
        obtain ⟨ps, hops, r, hb⟩ := built_of_run hfull hbuild
        obtain ⟨q, rfl, hq⟩ := part_of_built hb hfull hp hitem
        exact .part hvalid hfull hq (ih hrest hitems)
    · rename_i hvalid
      simp only [Build.run_bind_eq_ok] at hr
      obtain ⟨-, s₁, -, items, s₂, hitems, hpure⟩ := hr
      cases hpure
      exact .skipped (by simpa using hvalid) (ih hrest hitems)

end Item

/-- The valid profiles of a batch, with their sequence numbers. -/
def numbered (seq : Nat) (profiles : List Profile) : List (Profile × Nat) :=
  (profiles.filter fun p => p.protocol.isValid).zipIdx seq

theorem numbered_cons {p : Profile} {rest : List Profile} :
    numbered seq (p :: rest) =
      if p.protocol.isValid then (p, seq) :: numbered (seq + 1) rest else numbered seq rest := by
  unfold numbered
  cases hp : p.protocol.isValid with
  | true => rw [List.filter_cons_of_pos (by simpa using hp), List.zipIdx_cons, if_pos rfl]
  | false => rw [List.filter_cons_of_neg (by simp [hp]), if_neg (by simp)]

theorem mem_of_mem_numbered (h : (root, n) ∈ numbered seq profiles) :
    root ∈ profiles ∧ seq ≤ n := by
  refine ⟨?_, List.le_snd_of_mem_zipIdx h⟩
  have := List.fst_mem_of_mem_zipIdx h
  exact (List.mem_filter.1 this).1

namespace Item.BuiltFrom

/-- Every part is that of a profile and its number. -/
theorem exists_root {part : Part} (h : BuiltFrom setup seq profiles items)
    (hp : part ∈ items.filterMap part?) :
    ∃ root n ps hops targets, (root, n) ∈ numbered seq profiles ∧ root.isFullDocument = false ∧
      part.Compiled setup n root ps hops targets := by
  induction h with
  | nil => cases hp
  | skipped hvalid _ ih =>
    rw [numbered_cons, if_neg (by simp [hvalid])]
    exact ih hp
  | whole hvalid _ _ ih =>
    obtain ⟨root, n, ps, hops, targets, hmem, hfull, hc⟩ := ih hp
    rw [numbered_cons, if_pos hvalid]
    exact ⟨root, n, ps, hops, targets, List.mem_cons_of_mem _ hmem, hfull, hc⟩
  | part hvalid hfull hq _ ih =>
    rw [numbered_cons, if_pos hvalid]
    rcases List.mem_cons.1 hp with rfl | hp
    · exact ⟨_, _, _, _, _, List.mem_cons_self, hfull, hq⟩
    · obtain ⟨root, n, ps, hops, targets, hmem, hfull, hc⟩ := ih hp
      exact ⟨root, n, ps, hops, targets, List.mem_cons_of_mem _ hmem, hfull, hc⟩

/-- And every numbered profile that is no whole document has its part. -/
theorem exists_part (h : BuiltFrom setup seq profiles items)
    (hroot : (root, n) ∈ numbered seq profiles) (hfull : root.isFullDocument = false) :
    ∃ part ∈ items.filterMap part?, ∃ ps hops targets,
      part.Compiled setup n root ps hops targets := by
  induction h with
  | nil => cases hroot
  | skipped hvalid _ ih =>
    rw [numbered_cons, if_neg (by simp [hvalid])] at hroot
    exact ih hroot
  | whole hvalid hfull' _ ih =>
    rw [numbered_cons, if_pos hvalid] at hroot
    rcases List.mem_cons.1 hroot with he | hroot
    · cases he
      rw [hfull] at hfull'
      cases hfull'
    · exact ih hroot
  | part hvalid _ hq _ ih =>
    rw [numbered_cons, if_pos hvalid] at hroot
    rcases List.mem_cons.1 hroot with he | hroot
    · cases he
      exact ⟨_, List.mem_cons_self, _, _, _, hq⟩
    · obtain ⟨part, hmem, hc⟩ := ih hroot
      exact ⟨part, List.mem_cons_of_mem _ hmem, hc⟩

end Item.BuiltFrom

end Batch

end Detour
