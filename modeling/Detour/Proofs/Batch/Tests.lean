import Detour.Proofs.Batch.Built
import Detour.Proofs.Document.Chain
import Detour.Proofs.Steps
/-!
# Tests of batches

A batch builds its valid profiles one after the other and does something with each result before it
goes on. `tests` runs the same builds alone. What a batch does in between changes the ledger only, on
which no build depends, so its builds are the tests: `tested_of_run` says what a batch that gets
through all profiles makes of each test, and `failure_of_run` where one that does not has stopped.
-/

namespace Detour

namespace Batch

/-- The build of a profile as a test. -/
structure Test where
  root : Profile
  seq : Nat
  result : Except BuildError Detour.Output

namespace Test

/-- The outbounds of the document, if there is one. -/
def outbounds (t : Test) : List Tree :=
  match t.result with
  | .ok o => o.outbounds
  | .error _ => []

/-- Why a test ends a batch: its build fails, or its document has no outbounds. A whole document may
be without them. -/
def failure? (t : Test) : Option BuildError :=
  match t.result with
  | .error e => some e
  | .ok _ =>
    if t.root.isFullDocument || !t.outbounds.isEmpty then none
    else some (.noOutbounds t.root.displayName)

/-- The tag of the first outbound. -/
def entryTag (t : Test) : String :=
  (t.outbounds.head?.map tagOf).getD ""

end Test

/-! ## Latencies -/

section Latencies

variable {σ : Type} {s s' : BuildState σ}

/-- The profiles with some ids are marked as unavailable, and no other latency changes. -/
def Marked (ids : List Int64) (s s' : BuildState σ) : Prop :=
  ∀ id, (s'.ledger.get id).latency =
    if id ∈ ids then Account.unavailable else (s.ledger.get id).latency

theorem Marked.of_run {α : Type} [RuleSetService σ] {b : Build σ α} (hb : Build.Composed b)
    {result : Except BuildError α} (hr : Build.run b s = (result, s')) : Marked [] s s' := by
  intro id
  have hlatency := hb.latency s id
  rw [hr] at hlatency
  rw [hlatency, if_neg List.not_mem_nil]

/-- Two steps mark what one of them marks. -/
theorem Marked.trans {ids ids' : List Int64} {s₁ : BuildState σ} (h : Marked ids s s₁)
    (h' : Marked ids' s₁ s') : Marked (ids ++ ids') s s' := by
  intro id
  rw [h' id, h id]
  by_cases hid : id ∈ ids <;> by_cases hid' : id ∈ ids' <;> simp [hid, hid']

/-- Marking a profile marks it and no other. -/
theorem marked_setLatency (id : Int64) (s : BuildState σ) :
    Marked [id] s { s with ledger := s.ledger.setLatency id Account.unavailable } := by
  intro other
  by_cases h : other = id
  · subst h
    simp [Ledger.setLatency]
  · rw [Ledger.setLatency, Ledger.get_update_of_ne h, if_neg (by simpa using h)]

/-- The ids of the profiles that are not valid, for which nothing is built. -/
def invalidIds (profiles : List Profile) : List Int64 :=
  (profiles.filter fun p => !p.protocol.isValid).map Profile.id

theorem invalidIds_cons (p : Profile) (rest : List Profile) :
    invalidIds (p :: rest) =
      if p.protocol.isValid = true then invalidIds rest else p.id :: invalidIds rest := by
  unfold invalidIds
  cases hp : p.protocol.isValid with
  | true => rw [List.filter_cons_of_neg (by simp [hp]), if_pos rfl]
  | false => rw [List.filter_cons_of_pos (by simp [hp]), if_neg (by simp), List.map_cons]

theorem invalidIds_append (ps rest : List Profile) :
    invalidIds (ps ++ rest) = invalidIds ps ++ invalidIds rest := by
  rw [invalidIds, List.filter_append, List.map_append]
  rfl

end Latencies

section Runs

variable {σ : Type} [RuleSetService σ] {setup : Setup} {seq : Nat} {ps profiles : List Profile}
  {s s' : BuildState σ} {t : Test} {items : List Item} {e : BuildError}

/-- Build some profiles one after the other, with sequence numbers from one on. -/
def testsFrom (setup : Setup) : Nat → List Profile → BuildState σ → List Test
  | _, [], _ => []
  | seq, p :: rest, s =>
    let made := Build.run (Build.profile setup { test := true, seq := seq } p) s
    ⟨p, seq, made.1⟩ :: testsFrom setup (seq + 1) rest made.2

/-- The state that these builds leave. -/
def stateAfter (setup : Setup) : Nat → List Profile → BuildState σ → BuildState σ
  | _, [], s => s
  | seq, p :: rest, s =>
    stateAfter setup (seq + 1) rest
      (Build.run (Build.profile setup { test := true, seq := seq } p) s).2

/-- The tests of the valid profiles of a batch. -/
def tests (setup : Setup) (profiles : List Profile) (s : BuildState σ) : List Test :=
  testsFrom setup 1 (profiles.filter fun p => p.protocol.isValid) s

/-- The state that they leave. -/
def stateAfterTests (setup : Setup) (profiles : List Profile) (s : BuildState σ) : BuildState σ :=
  stateAfter setup 1 (profiles.filter fun p => p.protocol.isValid) s

/-! ## The tests by themselves -/

/-- Each profile has one test, with its number. -/
theorem map_root_testsFrom (setup : Setup) (seq : Nat) (ps : List Profile) (s : BuildState σ) :
    (testsFrom setup seq ps s).map (fun t => (t.root, t.seq)) = ps.zipIdx seq := by
  induction ps generalizing seq s with
  | nil => rfl
  | cons p rest ih =>
    rw [testsFrom, List.map_cons, ih, List.zipIdx_cons]

/-- Every profile is tested. -/
theorem exists_test_of_mem {q : Profile} (hq : q ∈ ps) :
    ∃ t ∈ testsFrom setup seq ps s, t.root = q := by
  induction ps generalizing seq s with
  | nil => cases hq
  | cons p rest ih =>
    rcases List.mem_cons.1 hq with rfl | hq
    · exact ⟨_, List.mem_cons_self, rfl⟩
    · obtain ⟨t, ht, hroot⟩ := ih hq
      exact ⟨t, List.mem_cons_of_mem _ ht, hroot⟩

/-- Every test is of one of the profiles, under the number that its turn gives it. -/
theorem mem_numbered_of_test (ht : t ∈ tests setup profiles s) :
    (t.root, t.seq) ∈ numbered 1 profiles := by
  rw [numbered, ← map_root_testsFrom setup 1 _ s]
  exact List.mem_map_of_mem (f := fun t : Test => (t.root, t.seq)) ht

/-- And its result is that of a build, from some state. -/
theorem exists_run_of_mem_testsFrom (ht : t ∈ testsFrom setup seq ps s) :
    ∃ s₁ s₂ : BuildState σ, Build.run
      (Build.profile setup { test := true, seq := t.seq } t.root) s₁ = (t.result, s₂) := by
  induction ps generalizing seq s with
  | nil => cases ht
  | cons p rest ih =>
    rcases List.mem_cons.1 ht with rfl | ht
    · exact ⟨s, _, rfl⟩
    · exact ih ht

/-- The tests do not depend on the ledger. -/
theorem testsFrom_congr {s t : BuildState σ} (h : s.AgreeOffLedger t) :
    testsFrom setup seq ps s = testsFrom setup seq ps t := by
  induction ps generalizing seq s t with
  | nil => rfl
  | cons p rest ih =>
    obtain ⟨hresult, hstate⟩ :=
      (Build.composed_profile setup { test := true, seq := seq } p).congr h
    rw [testsFrom, testsFrom, hresult, ih hstate]

/-- Ledgers that differ at the start may differ at the end, and nothing else. -/
theorem stateAfter_congr {s t : BuildState σ} (h : s.AgreeOffLedger t) :
    (stateAfter setup seq ps s).AgreeOffLedger (stateAfter setup seq ps t) := by
  induction ps generalizing seq s t with
  | nil => exact h
  | cons p rest ih =>
    exact ih ((Build.composed_profile setup { test := true, seq := seq } p).congr h).2

/-- Marking a profile does not matter for the tests behind it. -/
theorem testsFrom_setLatency (setup : Setup) (seq : Nat) (ps : List Profile) (id : Int64)
    (s : BuildState σ) :
    testsFrom setup seq ps { s with ledger := s.ledger.setLatency id Account.unavailable } =
      testsFrom setup seq ps s :=
  testsFrom_congr ⟨rfl, rfl⟩

/-! ## What a batch makes of its tests -/

/-- A profile contributes to a batch unless its test fails. -/
theorem Test.failure?_ofOutput (p : Profile) (seq : Nat) (o : Detour.Output) :
    (Test.mk p seq (.ok o)).failure? =
      match Item.ofOutput p o with
      | .ok _ => none
      | .error e => some e := by
  cases hfull : p.isFullDocument with
  | true => simp [failure?, Item.ofOutput, hfull]
  | false =>
    cases hdoc : o.document with
    | object fields =>
      cases hout : (Fields.get? "outbounds" fields).bind Tree.items? with
      | none => simp [failure?, outbounds, Output.outbounds, Item.ofOutput, hfull, hdoc, hout]
      | some list =>
        cases list <;>
          simp [failure?, outbounds, Output.outbounds, Item.ofOutput, hfull, hdoc, hout]
    | _ => simp [failure?, outbounds, Output.outbounds, Item.ofOutput, hfull, hdoc, Tree.get?]

/-- What becomes of some profiles and their tests where no test fails. -/
inductive Item.Tested : List Profile → List Test → List Item → Prop
  | nil : Tested [] [] []
  | skipped {p : Profile} {rest : List Profile} {tests : List Test} {items : List Item} :
      p.protocol.isValid = false → Tested rest tests items →
      Tested (p :: rest) tests (.skipped p.id :: items)
  | built {p : Profile} {seq : Nat} {o : Detour.Output} {item : Item} {rest : List Profile}
      {tests : List Test} {items : List Item} :
      p.protocol.isValid = true → Item.ofOutput p o = .ok item → Tested rest tests items →
      Tested (p :: rest) (⟨p, seq, .ok o⟩ :: tests) (item :: items)

/-- A batch that gets through all profiles has built the tests. It leaves the state that they leave,
but for the marks of the profiles that it left out. -/
theorem tested_of_run (hr : Build.run (Item.buildFrom setup seq profiles) s = (.ok items, s')) :
    Item.Tested profiles
        (testsFrom setup seq (profiles.filter fun p => p.protocol.isValid) s) items ∧
      s'.AgreeOffLedger (stateAfter setup seq (profiles.filter fun p => p.protocol.isValid) s) ∧
      Marked (invalidIds profiles) s s' := by
  induction profiles generalizing seq items s with
  | nil =>
    cases hr
    exact ⟨.nil, ⟨rfl, rfl⟩, fun _ => (if_neg List.not_mem_nil).symm⟩
  | cons p rest ih =>
    rw [Item.buildFrom] at hr
    rw [invalidIds_cons]
    cases hvalid : p.protocol.isValid with
    | true =>
      rw [if_pos hvalid] at hr
      simp only [Build.run_bind_eq_ok, Build.run_ofExcept_eq_ok] at hr
      obtain ⟨o, s₁, hbuild, item, s₂, ⟨hitem, rfl⟩, items, s₃, hitems, hpure⟩ := hr
      cases hpure
      obtain ⟨htested, hstate, hmarked⟩ := ih hitems
      -- a build marks nobody, so all marks are of the rest
      have hfirst := Marked.of_run (Build.composed_profile setup _ p) hbuild
      rw [List.filter_cons_of_pos (by simpa using hvalid), if_pos rfl, testsFrom, stateAfter,
        hbuild]
      exact ⟨.built hvalid hitem htested, hstate, hfirst.trans hmarked⟩
    | false =>
      rw [if_neg (by simp [hvalid])] at hr
      simp only [Build.run_bind_eq_ok] at hr
      obtain ⟨⟨⟩, s₁, hmark, items, s₂, hitems, hpure⟩ := hr
      cases hpure
      cases hmark
      obtain ⟨htested, hstate, hmarked⟩ := ih hitems
      rw [List.filter_cons_of_neg (by simp [hvalid]), if_neg (by simp)]
      -- the mark of this profile is not seen by the tests behind it
      have hsame := testsFrom_setLatency setup seq (rest.filter fun p => p.protocol.isValid) p.id s
      exact ⟨.skipped hvalid (hsame ▸ htested), hstate.trans (stateAfter_congr ⟨rfl, rfl⟩),
        (marked_setLatency p.id s).trans hmarked⟩

/-- The first of some tests that fails is that of the profile behind some others. -/
structure StoppedAt (seq : Nat) (profiles : List Profile) (tests : List Test)
    (before : List Profile) (t : Test) : Prop where
  first : tests.find? (fun t => t.failure?.isSome) = some t
  profiles : ∃ after, profiles = before ++ t.root :: after
  seq : t.seq = seq + (before.filter fun p => p.protocol.isValid).length

namespace StoppedAt

variable {p : Profile} {rest before : List Profile} {tests : List Test}

theorem here {result : Except BuildError Detour.Output}
    (hfail : (Test.mk p seq result).failure? = some e) :
    StoppedAt seq (p :: rest) (⟨p, seq, result⟩ :: tests) [] ⟨p, seq, result⟩ where
  first := List.find?_cons_of_pos (by simp [hfail])
  profiles := ⟨rest, rfl⟩
  seq := rfl

theorem skipped (hvalid : p.protocol.isValid = false) (h : StoppedAt seq rest tests before t) :
    StoppedAt seq (p :: rest) tests (p :: before) t where
  first := h.first
  profiles := by
    obtain ⟨after, rfl⟩ := h.profiles
    exact ⟨after, rfl⟩
  seq := by rw [h.seq, List.filter_cons_of_neg (by simp [hvalid])]

theorem built {head : Test} (hvalid : p.protocol.isValid = true) (hhead : head.failure? = none)
    (h : StoppedAt (seq + 1) rest tests before t) :
    StoppedAt seq (p :: rest) (head :: tests) (p :: before) t where
  first := by rw [List.find?_cons_of_neg (by simp [hhead]), h.first]
  profiles := by
    obtain ⟨after, rfl⟩ := h.profiles
    exact ⟨after, rfl⟩
  seq := by
    rw [h.seq, List.filter_cons_of_pos (by simpa using hvalid), List.length_cons]
    omega

end StoppedAt

/-- A batch that does not get through all profiles has stopped at the first test that fails, with the
error of that test, and marked the profiles that it had left out before. -/
theorem failure_of_run (hr : Build.run (Item.buildFrom setup seq profiles) s = (.error e, s')) :
    ∃ before t, StoppedAt seq profiles
        (testsFrom setup seq (profiles.filter fun p => p.protocol.isValid) s) before t ∧
      t.failure? = some e ∧ Marked (invalidIds before) s s' := by
  induction profiles generalizing seq s with
  | nil => cases hr
  | cons p rest ih =>
    rw [Item.buildFrom] at hr
    cases hvalid : p.protocol.isValid with
    | true =>
      rw [if_pos hvalid, Build.run_bind_eq_error] at hr
      rw [List.filter_cons_of_pos (by simpa using hvalid), testsFrom]
      -- the build fails, or its document has no outbounds, or a later profile ends the batch
      rcases hr with hbuild | ⟨o, s₁, hbuild, hr⟩
      · have hfirst := Marked.of_run (Build.composed_profile setup _ p) hbuild
        rw [hbuild]
        exact ⟨[], _, .here rfl, rfl, hfirst⟩
      · have hfirst := Marked.of_run (Build.composed_profile setup _ p) hbuild
        rw [hbuild]
        simp only [Build.run_bind_eq_error, Build.run_ofExcept_eq_error,
          Build.run_ofExcept_eq_ok] at hr
        have hfailure := Test.failure?_ofOutput p seq o
        rcases hr with ⟨hitem, rfl⟩ | ⟨item, s₂, ⟨hitem, rfl⟩, hr⟩
        · rw [hitem] at hfailure
          exact ⟨[], _, .here hfailure, hfailure, hfirst⟩
        · rw [hitem] at hfailure
          rcases hr with hr | ⟨items, s₃, -, hpure⟩
          · obtain ⟨before, t, hstopped, hfail, hmarked⟩ := ih hr
            refine ⟨p :: before, t, hstopped.built hvalid hfailure, hfail, ?_⟩
            rw [invalidIds_cons, if_pos hvalid]
            exact hfirst.trans hmarked
          · cases hpure
    | false =>
      rw [if_neg (by simp [hvalid])] at hr
      simp only [Build.run_bind_eq_error] at hr
      rcases hr with hmark | ⟨⟨⟩, s₁, hmark, hr⟩
      · cases hmark
      · cases hmark
        rcases hr with hr | ⟨items, s₃, -, hpure⟩
        · obtain ⟨before, t, hstopped, hfail, hmarked⟩ := ih hr
          have hsame :=
            testsFrom_setLatency setup seq (rest.filter fun p => p.protocol.isValid) p.id s
          refine ⟨p :: before, t, ?_, hfail, ?_⟩
          · rw [List.filter_cons_of_neg (by simp [hvalid])]
            exact (hsame ▸ hstopped).skipped hvalid
          · rw [invalidIds_cons, if_neg (by simp [hvalid])]
            exact (marked_setLatency p.id s).trans hmarked
        · cases hpure

end Runs

end Batch

end Detour
