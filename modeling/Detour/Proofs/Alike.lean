import Detour.Proofs.Steps
/-!
# Builds side by side

Two builds come to the same end if both fail with one error, or both succeed with results that a
relation holds of. `Related` says so of two builds that start from states which another relation
holds of, and leave such states. They run alike if the states are equal but for the ledgers, which no
build looks at. Related builds are put together step by step, as the builds are.
-/

namespace Detour

/-- Two builds end in the same way: with one error, or with results that a relation holds of. -/
inductive EndAlike {α β : Type} (R : α → β → Prop) :
    Except BuildError α → Except BuildError β → Prop
  | ok {a : α} {b : β} : R a b → EndAlike R (.ok a) (.ok b)
  | error (e : BuildError) : EndAlike R (.error e) (.error e)

namespace EndAlike

variable {α β γ δ : Type} {R : α → β → Prop} {S : γ → δ → Prop} {x : Except BuildError α}
  {y : Except BuildError β}

/-- Two computations that end alike fail with the same errors. -/
theorem error_iff (h : EndAlike R x y) (e : BuildError) : x = .error e ↔ y = .error e := by
  cases h with
  | ok _ => simp
  | error e' => simp

/-- What ends, ends like itself. -/
theorem refl (x : Except BuildError α) : EndAlike (fun a b => x = .ok a ∧ b = a) x x := by
  cases x with
  | ok a => exact .ok ⟨rfl, rfl⟩
  | error e => exact .error e

/-- If nothing else may differ, they are equal. -/
theorem eq_iff {y : Except BuildError α} : EndAlike Eq x y ↔ x = y := by
  constructor
  · rintro (⟨rfl⟩ | _) <;> rfl
  · rintro rfl
    cases x with
    | ok a => exact .ok rfl
    | error e => exact .error e

/-- What ends alike, step by step, ends alike. -/
theorem bind {f : α → Except BuildError γ} {g : β → Except BuildError δ} (hx : EndAlike R x y)
    (hf : ∀ a b, R a b → EndAlike S (f a) (g b)) : EndAlike S (x >>= f) (y >>= g) := by
  cases hx with
  | ok hab => exact hf _ _ hab
  | error e => exact .error e

theorem map {f : α → γ} {g : β → δ} (hx : EndAlike R x y) (hf : ∀ a b, R a b → S (f a) (g b)) :
    EndAlike S (x.map f) (y.map g) := by
  cases hx with
  | ok hab => exact .ok (hf _ _ hab)
  | error e => exact .error e

end EndAlike

namespace Build

variable {σ α β γ δ : Type} {R : α → β → Prop} {S : γ → δ → Prop}

/-- From states that a relation holds of, two builds end in the same way and leave such states. -/
def Related (T : BuildState σ → BuildState σ → Prop) (R : α → β → Prop) (x : Build σ α)
    (y : Build σ β) : Prop :=
  ∀ s t : BuildState σ, T s t → EndAlike R (run x s).1 (run y t).1 ∧ T (run x s).2 (run y t).2

namespace Related

variable {T : BuildState σ → BuildState σ → Prop} {x : Build σ α} {y : Build σ β}

/-- Two builds that result in related values are related. -/
theorem pure {a : α} {b : β} (h : R a b) : Related T R (pure a : Build σ α) (pure b) :=
  fun _ _ hst => ⟨.ok h, hst⟩

theorem throw (e : BuildError) : Related T R (throw e : Build σ α) (throw e) :=
  fun _ _ hst => ⟨.error e, hst⟩

/-- And two that take related steps, one after the other. -/
theorem bind {f : α → Build σ γ} {g : β → Build σ δ} (hx : Related T R x y)
    (hf : ∀ a b, R a b → Related T S (f a) (g b)) : Related T S (x >>= f) (y >>= g) := by
  intro s t hst
  obtain ⟨hend, hstate⟩ := hx s t hst
  rw [run_bind, run_bind]
  generalize run x s = u, run y t = v at hend hstate
  obtain ⟨r, s₁⟩ := u
  obtain ⟨r', t₁⟩ := v
  cases hend with
  | error e => exact ⟨.error e, hstate⟩
  | ok hab => exact hf _ _ hab s₁ t₁ hstate

/-- What is made of related results is related. -/
theorem map {f : α → γ} {g : β → δ} (hx : Related T R x y) (hf : ∀ a b, R a b → S (f a) (g b)) :
    Related T S (f <$> x) (g <$> y) := by
  rw [← bind_pure_comp, ← bind_pure_comp]
  exact hx.bind fun a b hab => .pure (hf a b hab)

/-- Computations without effects need only end alike. -/
theorem ofExcept {r : Except BuildError α} {r' : Except BuildError β} (h : EndAlike R r r') :
    Related T R (ofExcept r : Build σ α) (ofExcept r') := by
  cases h with
  | ok hab => exact .pure hab
  | error e => exact .throw e

/-- Builds that read the state are given related ones. -/
theorem readState {f : BuildState σ → Build σ α} {g : BuildState σ → Build σ β}
    (h : ∀ s t, T s t → Related T R (f s) (g t)) : Related T R (get >>= f) (get >>= g) :=
  fun s t hst => h s t hst s t hst

/-- Builds that end equally from equal states are the same. -/
theorem eq_iff {y : Build σ α} : Related Eq Eq x y ↔ x = y := by
  constructor
  · intro h
    funext s
    obtain ⟨hend, hstate⟩ := h s s rfl
    exact Prod.ext (EndAlike.eq_iff.1 hend) hstate
  · rintro rfl s _ rfl
    exact ⟨EndAlike.eq_iff.2 rfl, rfl⟩

/-- A step that both builds take with one result. -/
theorem bind_self {f : α → Build σ γ} {g : α → Build σ δ}
    (hfg : ∀ a, Related Eq S (f a) (g a)) : Related Eq S (x >>= f) (x >>= g) := by
  refine (eq_iff.2 rfl).bind fun a b hab => ?_
  rw [← hab]
  exact hfg a

end Related

/-- From states that differ in their ledgers at most, two builds end in the same way and leave such
states. -/
def Alike (R : α → β → Prop) (x : Build σ α) (y : Build σ β) : Prop :=
  ∀ s t : BuildState σ, s.AgreeOffLedger t →
    EndAlike R (run x s).1 (run y t).1 ∧ (run x s).2.AgreeOffLedger (run y t).2

namespace Alike

variable {x : Build σ α} {y : Build σ β}

/-- Results run alike if they are related. -/
theorem pure {a : α} {b : β} (h : R a b) : Alike R (pure a : Build σ α) (pure b) :=
  Related.pure h

theorem throw (e : BuildError) : Alike R (throw e : Build σ α) (throw e) :=
  Related.throw e

/-- Steps that follow each other run alike if each pair of them does. -/
theorem bind {f : α → Build σ γ} {g : β → Build σ δ} (hx : Alike R x y)
    (hf : ∀ a b, R a b → Alike S (f a) (g b)) : Alike S (x >>= f) (y >>= g) :=
  Related.bind hx hf

/-- What is made of their results still runs alike. -/
theorem map {f : α → γ} {g : β → δ} (hx : Alike R x y) (hf : ∀ a b, R a b → S (f a) (g b)) :
    Alike S (f <$> x) (g <$> y) :=
  Related.map hx hf

/-- Computations without effects run alike if they end alike. -/
theorem ofExcept {r : Except BuildError α} {r' : Except BuildError β} (h : EndAlike R r r') :
    Alike R (ofExcept r : Build σ α) (ofExcept r') :=
  Related.ofExcept h

/-- Whatever is done to the ledgers makes no difference. -/
theorem onLedger (f g : Ledger → Ledger) :
    Alike (fun _ _ => True) (onLedger f : Build σ Unit) (Build.onLedger g) :=
  fun _ _ hst => ⟨.ok trivial, hst.ports, hst.ruleSets⟩

/-- A build that reads the state may use all of it but the ledger. -/
theorem readState {f : BuildState σ → Build σ α} {g : BuildState σ → Build σ β}
    (h : ∀ s t, s.AgreeOffLedger t → Alike R (f s) (g t)) : Alike R (get >>= f) (get >>= g) :=
  Related.readState h

/-- A build that is put together from steps runs alike with itself. -/
theorem of_composed [RuleSetService σ] {b : Build σ α} (hb : Composed b) : Alike Eq b b := by
  intro s t hst
  obtain ⟨hresult, hstate⟩ := hb.congr hst
  exact ⟨EndAlike.eq_iff.2 hresult, hstate⟩

end Alike

end Build

end Detour
