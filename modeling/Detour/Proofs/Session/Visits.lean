import Detour.Proofs.Batch.Resolvers
import Detour.Proofs.Session.Requests
import Mathlib.Data.List.Forall2
/-!
# Visits of sessions

A build comes to one profile, a batch and a probe come to several, one after the other. A `Visit` is a
profile that a step comes to, with the state that it finds: it is built, or marked as unavailable if
it is invalid and the step looks at that first. The state behind one visit is what the next one finds
(`Visit.Path`), so what a step does to its world is what its visits do, one by one.
-/

namespace Detour

/-- A profile that a step comes to. -/
structure Visit (σ : Type) where
  setup : Setup
  request : Request
  root : Profile
  /-- An invalid profile is marked, and not built. -/
  checked : Bool
  /-- The state that is found. -/
  state : BuildState σ

namespace Visit

variable {σ : Type}

/-- Whether the profile is marked, and not built. -/
def isMarked (v : Visit σ) : Bool :=
  v.checked && !v.root.protocol.isValid

/-- The visit of a profile that is built as a test. -/
def asTest (setup : Setup) (seq : Nat) (p : Profile) (s : BuildState σ) : Visit σ :=
  ⟨setup, { test := true, seq := seq }, p, true, s⟩

/-- In a batch, the profiles that are marked are the invalid ones. -/
theorem isMarked_asTest (setup : Setup) (seq : Nat) (p : Profile) (s : BuildState σ) :
    (asTest setup seq p s).isMarked = !p.protocol.isValid := rfl

variable [RuleSetService σ]

/-- What the build of the profile results in, and the state that it leaves. -/
def made (v : Visit σ) : Except BuildError Output × BuildState σ :=
  Build.run (Build.profile v.setup v.request v.root) v.state

/-- The state behind the visit. -/
def after (v : Visit σ) : BuildState σ :=
  if v.isMarked then
    { v.state with ledger := v.state.ledger.setLatency v.root.id Account.unavailable }
  else v.made.2

/-- The document of the profile, if it comes to one. -/
def output? (v : Visit σ) : Option Output :=
  if v.isMarked then none else v.made.1.toOption

theorem after_of_valid {setup : Setup} {seq : Nat} {p : Profile} (s : BuildState σ)
    (hvalid : p.protocol.isValid = true) :
    (asTest setup seq p s).after =
      (Build.run (Build.profile setup { test := true, seq := seq } p) s).2 := by
  rw [after, isMarked_asTest, hvalid]
  rfl

/-- An invalid one only has its latency set. -/
theorem after_of_invalid {setup : Setup} {seq : Nat} {p : Profile} (s : BuildState σ)
    (hvalid : p.protocol.isValid = false) :
    (asTest setup seq p s).after =
      { s with ledger := s.ledger.setLatency p.id Account.unavailable } := by
  rw [after, isMarked_asTest, hvalid]
  rfl

/-- A document is what the build of a visited profile results in. -/
theorem run_of_output? {v : Visit σ} {o : Output} (h : v.output? = some o) :
    Build.run (Build.profile v.setup v.request v.root) v.state = (.ok o, v.after) := by
  rw [output?] at h
  split at h
  · cases h
  · rename_i hmarked
    rw [after, if_neg hmarked]
    refine Prod.ext ?_ rfl
    change v.made.1 = .ok o
    cases hmade : v.made.1 with
    | error e =>
      rw [hmade] at h
      cases h
    | ok o' =>
      rw [hmade] at h
      cases h
      rfl

/-- Visits one after the other, from a state to the state that the last one leaves. -/
inductive Path : BuildState σ → List (Visit σ) → BuildState σ → Prop
  | nil {s : BuildState σ} : Path s [] s
  | cons {v : Visit σ} {rest : List (Visit σ)} {s' : BuildState σ} :
      Path v.after rest s' → Path v.state (v :: rest) s'

theorem Path.test {setup : Setup} {seq : Nat} {p : Profile} {rest : List (Visit σ)}
    {s s₁ s' : BuildState σ} (hafter : (asTest setup seq p s).after = s₁)
    (hrest : Path s₁ rest s') : Path s (asTest setup seq p s :: rest) s' :=
  .cons (v := asTest setup seq p s) (hafter ▸ hrest)

/-! ### What visits make of a service -/

section Services

variable {R : σ → σ → Prop} (hR : RuleSetService.Preorder R)
include hR

/-- What can be done to a service, a visit does to it. -/
theorem services_after (v : Visit σ) : R v.state.ruleSets v.after.ruleSets := by
  rw [after]
  split
  · exact hR.refl _
  · exact (Build.composed_profile v.setup v.request v.root).services hR v.state

theorem Path.services {vs : List (Visit σ)} {s s' : BuildState σ} (h : Path s vs s') :
    R s.ruleSets s'.ruleSets := by
  induction h with
  | nil => exact hR.refl _
  | cons _ ih => exact hR.trans (services_after hR _) ih

end Services

end Visit

namespace Build

variable {σ α β : Type} {s : BuildState σ}

/-- A change of the ledger comes before whatever is behind it. -/
theorem run_onLedger_bind (f : Ledger → Ledger) (b : Unit → Build σ β) (s : BuildState σ) :
    run (onLedger f >>= b) s = run (b ()) { s with ledger := f s.ledger } := rfl

/-- Putting a result together leaves the state as it is. -/
theorem snd_run_bind_pure (x : Build σ α) (f : α → β) (s : BuildState σ) :
    (run (x >>= fun a => pure (f a)) s).2 = (run x s).2 := by
  rw [run_bind]
  rcases run x s with ⟨_ | a, s₁⟩ <;> rfl

end Build

/-! ## Batches -/

namespace Batch

variable {σ : Type} [RuleSetService σ] {setup : Setup} {profiles : List Profile}
  {items : List Item} {s s' : BuildState σ} {seq : Nat}

/-- The visits of a batch. Only valid profiles take a number, and a test that fails is the last. -/
def visitsFrom (setup : Setup) : Nat → List Profile → BuildState σ → List (Visit σ)
  | _, [], _ => []
  | seq, p :: rest, s =>
    let v := Visit.asTest setup seq p s
    v :: if v.isMarked then visitsFrom setup seq rest v.after
      else if (Test.mk p seq v.made.1).failure?.isSome then []
      else visitsFrom setup (seq + 1) rest v.after

/-- Behind an invalid profile the batch goes on, with the same number. -/
theorem visitsFrom_of_invalid {p : Profile} (rest : List Profile) (s : BuildState σ)
    (hvalid : p.protocol.isValid = false) :
    visitsFrom setup seq (p :: rest) s = .asTest setup seq p s :: visitsFrom setup seq rest
      { s with ledger := s.ledger.setLatency p.id Account.unavailable } := by
  rw [visitsFrom, Visit.after_of_invalid s hvalid]
  simp [Visit.isMarked_asTest, hvalid]

theorem visitsFrom_of_failure {p : Profile} (rest : List Profile) (s : BuildState σ)
    (hvalid : p.protocol.isValid = true) {e : BuildError}
    (hfail : (Test.mk p seq (Build.run
      (Build.profile setup { test := true, seq := seq } p) s).1).failure? = some e) :
    visitsFrom setup seq (p :: rest) s = [.asTest setup seq p s] := by
  have hmade : (Visit.asTest setup seq p s).made.1 =
    (Build.run (Build.profile setup { test := true, seq := seq } p) s).1 := rfl
  rw [visitsFrom]
  simp [Visit.isMarked_asTest, hvalid, hmade, hfail]

/-- Behind a success the number is the next one. -/
theorem visitsFrom_of_success {p : Profile} (rest : List Profile) (s : BuildState σ)
    (hvalid : p.protocol.isValid = true)
    (hok : (Test.mk p seq (Build.run
      (Build.profile setup { test := true, seq := seq } p) s).1).failure? = none) :
    visitsFrom setup seq (p :: rest) s = .asTest setup seq p s :: visitsFrom setup (seq + 1) rest
      (Build.run (Build.profile setup { test := true, seq := seq } p) s).2 := by
  have hmade : (Visit.asTest setup seq p s).made.1 =
    (Build.run (Build.profile setup { test := true, seq := seq } p) s).1 := rfl
  rw [visitsFrom, Visit.after_of_valid s hvalid]
  simp [Visit.isMarked_asTest, hvalid, hmade, hok]

/-- The profiles of a batch are visited one after the other, also in one that fails. -/
theorem path_buildFrom (setup : Setup) (seq : Nat) (profiles : List Profile) (s : BuildState σ) :
    Visit.Path s (visitsFrom setup seq profiles s)
      (Build.run (Item.buildFrom setup seq profiles) s).2 := by
  induction profiles generalizing seq s with
  | nil => exact .nil
  | cons p rest ih =>
    rw [Item.buildFrom]
    cases hvalid : p.protocol.isValid with
    | false =>
      -- the profile is marked, and the next one takes the same number
      rw [visitsFrom_of_invalid rest s hvalid, if_neg (by simp), Build.run_onLedger_bind,
        Build.snd_run_bind_pure]
      exact .test (Visit.after_of_invalid s hvalid) (ih seq _)
    | true =>
      rw [if_pos rfl, Build.run_bind]
      have hafter : (Visit.asTest setup seq p s).after =
          (Build.run (Build.profile setup { test := true, seq := seq } p) s).2 :=
        Visit.after_of_valid s hvalid
      rcases hr : Build.run (Build.profile setup { test := true, seq := seq } p) s with ⟨e | o, s₁⟩
      · rw [hr] at hafter
        rw [visitsFrom_of_failure rest s hvalid (e := e) (by rw [hr]; rfl)]
        exact .test hafter .nil
      · rw [hr] at hafter
        dsimp only at hafter ⊢
        have hfailure := Test.failure?_ofOutput p seq o
        cases hitem : Item.ofOutput p o with
        | error e =>
          -- the document is there and the batch fails all the same, with what was drawn for it
          rw [hitem] at hfailure
          rw [visitsFrom_of_failure rest s hvalid (e := e) (by rw [hr]; exact hfailure)]
          exact .test hafter .nil
        | ok item =>
          rw [hitem] at hfailure
          rw [visitsFrom_of_success rest s hvalid (by rw [hr]; exact hfailure), hr]
          refine .test hafter ?_
          have hrest : (Build.run (do
              let item ← Build.ofExcept (.ok item)
              let items ← Item.buildFrom setup (seq + 1) rest
              pure (item :: items)) s₁).2 =
                (Build.run (Item.buildFrom setup (seq + 1) rest) s₁).2 :=
            Build.snd_run_bind_pure _ _ s₁
          rw [hrest]
          exact ih (seq + 1) s₁

/-- A batch has the rule sets of its own chain compiled behind its visits. -/
theorem services_batch {R : σ → σ → Prop} (hR : RuleSetService.Preorder R) (setup : Setup)
    (profiles : List Profile) (s : BuildState σ) :
    R s.ruleSets (Build.run (Build.batch setup profiles) s).2.ruleSets := by
  have hvisits := (path_buildFrom setup 1 profiles s).services hR
  rw [Build.batch, Build.run_bind]
  generalize Build.run (Item.buildFrom setup 1 profiles) s = u at hvisits ⊢
  obtain ⟨e | items, s₁⟩ := u
  · exact hvisits
  · dsimp only
    rw [Build.snd_run_bind_pure]
    exact hR.trans hvisits ((Build.composed_ruleSetEntries _).services hR s₁)

/-- Having rule sets compiled takes no port and changes no account. -/
theorem agree_ruleSetEntries (names : List String) (s : BuildState σ) :
    (Build.run (Build.ruleSetEntries names) s).2.ports = s.ports ∧
      (Build.run (Build.ruleSetEntries names) s).2.ledger = s.ledger := by
  induction names generalizing s with
  | nil => exact ⟨rfl, rfl⟩
  | cons name rest ih =>
    have hensure : (Build.run (Build.ensureRuleSet name) s).2.ports = s.ports ∧
        (Build.run (Build.ensureRuleSet name) s).2.ledger = s.ledger := by
      rw [Build.run_ensureRuleSet]
      split <;> exact ⟨rfl, rfl⟩
    rw [Build.ruleSetEntries, Build.run_bind]
    rcases hr : Build.run (Build.ensureRuleSet name) s with ⟨e | u, s₁⟩
    · rw [hr] at hensure
      exact hensure
    · rw [hr] at hensure
      have hrest : (Build.run (do
          let s ← get
          let entry := Tree.ofFields [("type", .str "local"), ("tag", .str name),
            ("format", .str "binary"), ("path", .str (RuleSetService.path s.ruleSets name))]
          let entries ← Build.ruleSetEntries rest
          pure (entry :: entries)) s₁).2 = (Build.run (Build.ruleSetEntries rest) s₁).2 :=
        Build.snd_run_bind_pure _ _ s₁
      dsimp only
      rw [hrest]
      exact ⟨(ih s₁).1.trans hensure.1, (ih s₁).2.trans hensure.2⟩

/-- Behind its visits a batch takes no port and changes no account. -/
theorem path_batch (setup : Setup) (profiles : List Profile) (s : BuildState σ) :
    ∃ s₁, Visit.Path s (visitsFrom setup 1 profiles s) s₁ ∧
      s₁.ports = (Build.run (Build.batch setup profiles) s).2.ports ∧
      s₁.ledger = (Build.run (Build.batch setup profiles) s).2.ledger := by
  refine ⟨_, path_buildFrom setup 1 profiles s, ?_⟩
  rw [Build.batch, Build.run_bind]
  rcases Build.run (Item.buildFrom setup 1 profiles) s with ⟨e | items, s₁⟩
  · exact ⟨rfl, rfl⟩
  · dsimp only
    rw [Build.snd_run_bind_pure]
    obtain ⟨hports, hledger⟩ := agree_ruleSetEntries setup.store.defaultChain.usedRuleSets s₁
    exact ⟨hports.symm, hledger.symm⟩

end Batch

/-! ## Documents of batches -/

namespace Batch

/-- What a batch shares comes from the documents of its profiles, each entry at most once from each of
them. Only the reserved outbounds are its own. -/
structure Output.MadeOf (out : Output) (documents : List Detour.Output) : Prop where
  inbounds : (out.document.itemsOf "inbounds").Sublist
    (documents.flatMap fun o => o.document.itemsOf "inbounds")
  outbounds : ∃ own, out.document.itemsOf "outbounds" = reservedOutbounds ++ own ∧
    own.Sublist (documents.flatMap Detour.Output.outbounds)
  externals : out.externals.Sublist (documents.flatMap Detour.Output.externals)

section Merged

variable {parts : List Part} {documents : List Detour.Output}

theorem freshTags_sublist (seen : List String) (xs : List Tree) :
    (freshTags seen xs).Sublist xs := by
  induction xs generalizing seen with
  | nil => exact .slnil
  | cons x rest ih =>
    rw [freshTags]
    split
    · exact (ih seen).cons x
    · exact (ih _).cons_cons x

theorem externals_sublist (parts : List Part) :
    (externals parts).Sublist (parts.flatMap Part.externals) := by
  have hkept : ∀ seen, ((keptTags seen parts).flatMap fun pk =>
      pk.1.externals.filter fun d => d.outbound ∈ pk.2).Sublist (parts.flatMap Part.externals) := by
    induction parts with
    | nil => exact fun _ => .slnil
    | cons p rest ih =>
      intro seen
      rw [keptTags, List.flatMap_cons, List.flatMap_cons]
      exact List.filter_sublist.append (ih _)
  exact hkept []

/-- What is kept of some parts is kept of the documents that they are of. -/
theorem flatMap_sublist_of_parts {α : Type} {f : Part → List α} {g : Detour.Output → List α}
    (hparts : List.SublistForall₂ (fun part o => part.Of o) parts documents)
    (hfg : ∀ part o, part.Of o → (f part).Sublist (g o)) :
    (parts.flatMap f).Sublist (documents.flatMap g) := by
  induction hparts with
  | nil => exact List.nil_sublist _
  | cons hof _ ih =>
    rw [List.flatMap_cons, List.flatMap_cons]
    exact (hfg _ _ hof).append ih
  | cons_right _ ih =>
    rw [List.flatMap_cons]
    exact ih.trans (List.sublist_append_right _ _)

/-- What a batch puts together is taken from the documents of its parts. -/
theorem madeOf_assemble {items : List Item} (chain : RuleChain) (ruleSets : List Tree)
    (hparts : List.SublistForall₂ (fun part o => part.Of o) (items.filterMap Item.part?)
      documents) : (assemble chain items ruleSets).MadeOf documents where
  inbounds := by
    have hshared : (assemble chain items ruleSets).document.itemsOf "inbounds" =
        inbounds (items.filterMap Item.part?) := by
      simp [assemble, document, Tree.itemsOf, Fields.get?_set, Tree.items?]
    rw [hshared]
    refine (freshTags_sublist _ _).trans (flatMap_sublist_of_parts hparts fun part o hof => ?_)
    rw [hof.sections]
    exact .refl _
  outbounds := by
    refine ⟨freshTags [] ((items.filterMap Item.part?).flatMap Part.outbounds), ?_, ?_⟩
    · simp [assemble, document, outbounds, Tree.itemsOf, Fields.get?_set, Tree.items?]
    · refine (freshTags_sublist _ _).trans (flatMap_sublist_of_parts hparts fun part o hof => ?_)
      rw [hof.outbounds]
      exact List.filter_sublist
  externals := by
    refine (externals_sublist _).trans (flatMap_sublist_of_parts hparts fun part o hof => ?_)
    rw [hof.externals]

end Merged

section Runs

variable {σ : Type} [RuleSetService σ] {setup : Setup} {profiles : List Profile}
  {items : List Item} {out : Output} {s s' : BuildState σ} {seq : Nat}

/-- The parts of a batch are of documents that its visits came to. -/
theorem parts_of_run
    (hr : Build.run (Item.buildFrom setup seq profiles) s = (.ok items, s')) :
    List.SublistForall₂ (fun part o => part.Of o) (items.filterMap Item.part?)
      ((visitsFrom setup seq profiles s).filterMap Visit.output?) := by
  induction profiles generalizing seq items s with
  | nil =>
    cases hr
    exact .nil
  | cons p rest ih =>
    rw [Item.buildFrom] at hr
    cases hvalid : p.protocol.isValid with
    | false =>
      rw [if_neg (by simp [hvalid]), Build.run_onLedger_bind] at hr
      obtain ⟨later, s₁, hlater, hpure⟩ := Build.run_bind_eq_ok.1 hr
      cases hpure
      -- an invalid profile is visited, but comes to no document
      have hnone : (Visit.asTest setup seq p s).output? = none := by
        simp [Visit.output?, Visit.isMarked_asTest, hvalid]
      rw [visitsFrom_of_invalid rest s hvalid, List.filterMap_cons_none hnone]
      have hrest := ih hlater
      exact hrest
    | true =>
      rw [if_pos hvalid] at hr
      simp only [Build.run_bind_eq_ok, Build.run_ofExcept_eq_ok] at hr
      obtain ⟨o, s₁, hbuild, item, s₂, ⟨hitem, rfl⟩, later, s₃, hlater, hpure⟩ := hr
      cases hpure
      have hfailure := Test.failure?_ofOutput p seq o
      rw [hitem] at hfailure
      -- a valid one comes to the document that the batch goes on with
      have hsome : (Visit.asTest setup seq p s).output? = some o := by
        have hmade : (Visit.asTest setup seq p s).made.1 = .ok o := congrArg Prod.fst hbuild
        simp [Visit.output?, Visit.isMarked_asTest, hvalid, hmade, Except.toOption]
      rw [visitsFrom_of_success rest s hvalid (by rw [hbuild]; exact hfailure),
        List.filterMap_cons_some hsome, hbuild]
      have hrest := ih hlater
      rcases Item.cases_of_ofOutput hitem with ⟨-, document, rfl, -⟩ | ⟨-, part, rfl, -⟩
      · -- a document of the user's own stands beside the shared one
        exact .cons_right hrest
      · exact .cons (Part.of_ofOutput hitem) hrest

/-- What a batch results in is made of the documents that its visits came to. -/
theorem madeOf_of_run (hr : Build.run (Build.batch setup profiles) s = (.ok out, s')) :
    out.MadeOf ((visitsFrom setup 1 profiles s).filterMap Visit.output?) := by
  simp only [Build.batch, Build.run_bind_eq_ok] at hr
  obtain ⟨items, s₁, hitems, ruleSets, s₂, -, hpure⟩ := hr
  cases hpure
  exact madeOf_assemble _ _ (parts_of_run hitems)

end Runs

end Batch

/-! ## Probes -/

namespace Probe

variable {σ : Type} [RuleSetService σ]

/-- The visits of a probe. Every profile takes a number, and no failure ends a probe. -/
def visitsFrom (setup : Setup) : Nat → List Profile → BuildState σ → List (Visit σ)
  | _, [], _ => []
  | seq, p :: rest, s =>
    .asTest setup seq p s :: visitsFrom setup (seq + 1) rest (Visit.asTest setup seq p s).after

/-- The visits of a probe lead from its first state to its last one. -/
theorem path_allFrom (setup : Setup) (seq : Nat) (profiles : List Profile) (s : BuildState σ) :
    Visit.Path s (visitsFrom setup seq profiles s) (allFrom setup seq profiles s).2 := by
  induction profiles generalizing seq s with
  | nil => exact .nil
  | cons p rest ih =>
    rw [snd_allFrom_cons, visitsFrom]
    cases hvalid : p.protocol.isValid with
    | true =>
      rw [if_pos rfl, Visit.after_of_valid s hvalid]
      exact .test (Visit.after_of_valid s hvalid) (ih (seq + 1) _)
    | false =>
      rw [if_neg (by simp), Visit.after_of_invalid s hvalid]
      exact .test (Visit.after_of_invalid s hvalid) (ih (seq + 1) _)

end Probe

/-! ## Sessions -/

namespace World

/-- The visits of a step. -/
def visits (w : World) : Step → List (Visit MemoryRuleSets)
  | .build id request =>
    match w.profile id with
    | .ok p => [⟨w.setup, request, p, false, w.state⟩]
    | .error _ => []
  | .batch ids =>
    match w.select ids with
    | .ok ps => Batch.visitsFrom w.setup 1 ps w.state
    | .error _ => []
  | .probe ids =>
    match w.select ids with
    | .ok ps => Probe.visitsFrom w.setup 1 ps w.state
    | .error _ => []
  | _ => []

/-- The visits of a session. -/
def visitsAlong (w : World) : List Step → List (Visit MemoryRuleSets)
  | [] => []
  | step :: rest => w.visits step ++ (w.step step).2.visitsAlong rest

end World

/-- Whether a step builds profiles. -/
def Step.builds : Step → Bool
  | .build _ _ | .batch _ | .probe _ => true
  | _ => false

namespace World

variable {w : World} {step : Step}

/-- A step that builds nothing visits no profile. -/
theorem visits_of_quiet (w : World) (h : step.builds = false) : w.visits step = [] := by
  cases step with
  | build id request | batch ids | probe ids => cases h
  | _ => rfl

/-- A step that builds profiles does to ports and accounts what its visits do. -/
theorem path_step (w : World) (h : step.builds = true) :
    ∃ s₁, Visit.Path w.state (w.visits step) s₁ ∧ s₁.ports = (w.step step).2.state.ports ∧
      s₁.ledger = (w.step step).2.state.ledger := by
  cases step with
  | build id request =>
    rw [snd_step_build, visits]
    cases hp : w.profile id with
    | ok p => exact ⟨_, .cons (v := ⟨w.setup, request, p, false, w.state⟩) .nil, rfl, rfl⟩
    | error e => exact ⟨w.state, .nil, rfl, rfl⟩
  | batch ids =>
    rw [snd_step_batch, visits]
    cases hps : w.select ids with
    | ok ps => exact Batch.path_batch w.setup ps w.state
    | error e => exact ⟨w.state, .nil, rfl, rfl⟩
  | probe ids =>
    rw [snd_step_probe, visits]
    cases hps : w.select ids with
    | ok ps => exact ⟨_, Probe.path_allFrom w.setup 1 ps w.state, rfl, rfl⟩
    | error e => exact ⟨w.state, .nil, rfl, rfl⟩
  | _ => cases h

theorem fst_run {α : Type} (w : World) (result : α → StepResult) (b : Build MemoryRuleSets α) :
    (w.run result b).1 = ((Build.run b w.state).1.map result).mapError .build := by
  rw [World.run, Build.run]
  rcases b w.state with ⟨_ | a, s⟩ <;> rfl

section

variable {w : World} {id : Int64} {request : Request} {p : Profile} {o : Output}

/-- What a build of a stored profile results in. -/
theorem fst_step_build (hp : w.profile id = .ok p) :
    (w.step (.build id request)).1 =
      ((Build.run (Build.profile w.setup request p) w.state).1.map .built).mapError .build := by
  rw [World.step, withProfile, hp]
  exact fst_run w _ _

/-- A build of a stored profile is one visit. -/
theorem visits_build (hp : w.profile id = .ok p) :
    w.visits (.build id request) = [⟨w.setup, request, p, false, w.state⟩] := by
  rw [visits, hp]

/-- The visit of a build has the document that the build results in. -/
theorem output?_of_build (hp : w.profile id = .ok p)
    (h : (w.step (.build id request)).1 = .ok (.built o)) :
    (Visit.mk w.setup request p false w.state).output? = some o := by
  rw [fst_step_build hp] at h
  have hmade : (Build.run (Build.profile w.setup request p) w.state).1 = .ok o := by
    cases hr : (Build.run (Build.profile w.setup request p) w.state).1 with
    | error e =>
      rw [hr] at h
      cases h
    | ok o' =>
      rw [hr] at h
      cases h
      rfl
  rw [Visit.output?, Visit.made, hmade]
  rfl

/-- A build results in the document of its visit. -/
theorem document_of_build (h : (w.step (.build id request)).1 = .ok (.built o)) :
    (w.visits (.build id request)).filterMap Visit.output? = [o] := by
  cases hp : w.profile id with
  | error e =>
    rw [World.step, withProfile, hp] at h
    cases h
  | ok p =>
    rw [visits_build hp, List.filterMap_cons_some (output?_of_build hp h)]
    rfl

end

/-- A batch results in one document that is made of those of its visits. -/
theorem document_of_batch {ids : Option (List Int64)} {out : Batch.Output}
    (h : (w.step (.batch ids)).1 = .ok (.batched out)) :
    out.MadeOf ((w.visits (.batch ids)).filterMap Visit.output?) := by
  simp only [World.step, withProfiles, visits] at h ⊢
  cases hps : w.select ids with
  | error e =>
    rw [hps] at h
    cases h
  | ok ps =>
    rw [hps] at h
    simp only [fst_run] at h
    rcases hr : Build.run (Build.batch w.setup ps) w.state with ⟨e | out', s'⟩
    · rw [hr] at h
      cases h
    · rw [hr] at h
      cases h
      exact Batch.madeOf_of_run hr

end World

end Detour
