import Detour.Build.Basic
/-!
# Runs of builds

A build is run on a state and ends in a result, with the state that it leaves. What a run of a
composed build did is read off its end: each `run_*_eq_ok` names the steps that a successful run was
made of, so a build with many steps is taken apart from the front and never unfolded at once.
-/

namespace Detour

namespace Build

variable {σ α β : Type} {s s' : BuildState σ}

/-- The result of a build on a state, and the state that it leaves. -/
def run (b : Build σ α) (s : BuildState σ) : Except BuildError α × BuildState σ :=
  b s

@[simp] theorem run_pure (a : α) : run (pure a : Build σ α) s = (.ok a, s) := rfl

@[simp] theorem run_throw (e : BuildError) :
    run (throw e : Build σ α) s = (.error e, s) := rfl

/-- A step followed by another runs the second in the state that the first one left, unless the
first one failed. -/
theorem run_bind (x : Build σ α) (f : α → Build σ β) :
    run (x >>= f) s = match run x s with
      | (.ok a, s₁) => run (f a) s₁
      | (.error e, s₁) => (.error e, s₁) := by
  simp only [run, bind, ExceptT.bind, ExceptT.mk, StateT.bind]
  rcases x s with ⟨_ | a, s₁⟩ <;> rfl

theorem run_bind_of_ok {x : Build σ α} {a : α} (h : (run x s).1 = .ok a) (f : α → Build σ β) :
    run (x >>= f) s = run (f a) (run x s).2 := by
  have hx : run x s = (.ok a, (run x s).2) := Prod.ext h rfl
  rw [run_bind, hx]

theorem run_bind_of_error {x : Build σ α} {e : BuildError} (h : (run x s).1 = .error e)
    (f : α → Build σ β) : run (x >>= f) s = (.error e, (run x s).2) := by
  have hx : run x s = (.error e, (run x s).2) := Prod.ext h rfl
  rw [run_bind, hx]

/-- Two steps succeed exactly when both do. -/
theorem run_bind_eq_ok {x : Build σ α} {f : α → Build σ β} {b : β} :
    run (x >>= f) s = (.ok b, s') ↔
      ∃ a s₁, run x s = (.ok a, s₁) ∧ run (f a) s₁ = (.ok b, s') := by
  rw [run_bind]
  rcases run x s with ⟨_ | a, s₁⟩
  · simp
  · constructor
    · intro h
      exact ⟨a, s₁, rfl, h⟩
    · rintro ⟨_, _, ⟨⟩, h⟩
      exact h

/-- And they fail exactly when the first one does, or it succeeds and the second one fails. -/
theorem run_bind_eq_error {x : Build σ α} {f : α → Build σ β} {e : BuildError} :
    run (x >>= f) s = (.error e, s') ↔
      run x s = (.error e, s') ∨ ∃ a s₁, run x s = (.ok a, s₁) ∧ run (f a) s₁ = (.error e, s') := by
  rw [run_bind]
  rcases run x s with ⟨_ | a, s₁⟩
  · simp
  · constructor
    · intro h
      exact .inr ⟨a, s₁, rfl, h⟩
    · rintro (h | ⟨_, _, ⟨⟩, h⟩)
      · cases h
      · exact h

/-- A computation without effects succeeds with its own result and leaves the state as it is. -/
@[simp] theorem run_ofExcept_eq_ok {x : Except BuildError α} {a : α} :
    run (ofExcept x) s = (.ok a, s') ↔ x = .ok a ∧ s = s' := by
  cases x <;> simp [ofExcept]

/-- And fails with its own error. -/
@[simp] theorem run_ofExcept_eq_error {x : Except BuildError α} {e : BuildError} :
    run (ofExcept x) s = (.error e, s') ↔ x = .error e ∧ s = s' := by
  cases x <;> simp [ofExcept]

/-- What is made of a result changes neither the state nor whether there is a result. -/
theorem run_map (x : Build σ α) (f : α → β) :
    run (f <$> x) s = ((run x s).1.map f, (run x s).2) := by
  rw [← bind_pure_comp, run_bind]
  rcases run x s with ⟨_ | a, s₁⟩ <;> rfl

theorem run_map_eq_ok {x : Build σ α} {f : α → β} {b : β} :
    run (f <$> x) s = (.ok b, s') ↔ ∃ a, run x s = (.ok a, s') ∧ f a = b := by
  rw [← bind_pure_comp, run_bind_eq_ok]
  simp only [run_pure, Prod.mk.injEq, Except.ok.injEq]
  constructor
  · rintro ⟨a, s₁, hx, rfl, rfl⟩
    exact ⟨a, hx, rfl⟩
  · rintro ⟨a, hx, rfl⟩
    exact ⟨a, s', hx, rfl, rfl⟩

/-! ## Single steps -/

/-- A request for a port moves the counter on and nothing else. -/
theorem run_requestPort (s : BuildState σ) :
    run requestPort s = (s.ports.request.1, { s with ports := s.ports.request.2 }) := by
  have hget : run (requestPort : Build σ Nat) s =
      run (ofExcept s.ports.request.1) { s with ports := s.ports.request.2 } := rfl
  rw [hget]
  cases s.ports.request.1 <;> rfl

/-- A rule set that is there is left as it is, and any other one is compiled. -/
theorem run_ensureRuleSet [RuleSetService σ] (name : String) (s : BuildState σ) :
    run (ensureRuleSet name) s =
      if RuleSetService.isPresent s.ruleSets name then (.ok (), s)
      else
        let made := RuleSetService.compile name (RuleSetKind.ofName name) s.ruleSets
        (made.1.mapError .ruleSet, { s with ruleSets := made.2 }) := by
  have hget : run (get : Build σ (BuildState σ)) s = (.ok s, s) := rfl
  rw [ensureRuleSet, run_bind, hget]
  by_cases hpresent : RuleSetService.isPresent s.ruleSets name = true
  · simp only [hpresent, if_true, run_pure]
  · simp only [hpresent]
    rcases RuleSetService.compile name (RuleSetKind.ofName name) s.ruleSets with ⟨_ | _, r⟩ <;> rfl

/-! ## Success -/

/-- A build that results in something leaves a state, too. -/
theorem exists_run_eq_ok {b : Build σ α} (h : (run b s).1.isOk = true) :
    ∃ a s', run b s = (.ok a, s') := by
  rcases hr : run b s with ⟨_ | a, s'⟩
  · rw [hr] at h
    cases h
  · exact ⟨a, s', rfl⟩

end Build

end Detour
