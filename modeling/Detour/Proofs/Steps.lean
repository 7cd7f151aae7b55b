import Detour.Build.Document
import Detour.Proofs.Run
/-!
# The steps of builds

A build of a profile touches its state in a few ways only: it requests ports, has rule sets compiled,
reads where they are and binds counters. `Composed` is the closure of these steps, and
`composed_profile` says that every build of a profile lies in it. What such a build reads and what it
leaves alone is then an induction on the steps, in which no build is unfolded again: its result does
not depend on the ledger (`Composed.congr`), and no latency changes (`Composed.latency`).
-/

namespace Detour

/-- Two states that differ in their ledgers at most. -/
structure BuildState.AgreeOffLedger {σ : Type} (s t : BuildState σ) : Prop where
  ports : s.ports = t.ports
  ruleSets : s.ruleSets = t.ruleSets

theorem BuildState.AgreeOffLedger.trans {σ : Type} {s t u : BuildState σ} (h : s.AgreeOffLedger t)
    (h' : t.AgreeOffLedger u) : s.AgreeOffLedger u :=
  ⟨h.ports.trans h'.ports, h.ruleSets.trans h'.ruleSets⟩

/-- Two services that say the same of where rule sets are and of what the sources lack. Which rule sets
are there may differ. -/
structure RuleSetService.SameView {σ : Type} [RuleSetService σ] (r r' : σ) : Prop where
  path : ∀ name, RuleSetService.path r name = RuleSetService.path r' name
  sources : RuleSetService.sourcesError? r = RuleSetService.sourcesError? r'

theorem RuleSetService.SameView.refl {σ : Type} [RuleSetService σ] (r : σ) : SameView r r :=
  ⟨fun _ => rfl, rfl⟩

/-- A relation that holds between a service and itself, and between a service and what it is behind
compilations of missing rule sets. -/
structure RuleSetService.Preorder {σ : Type} [RuleSetService σ] (R : σ → σ → Prop) : Prop where
  refl : ∀ r, R r r
  trans : ∀ {r₁ r₂ r₃}, R r₁ r₂ → R r₂ r₃ → R r₁ r₃
  compile : ∀ {r name}, RuleSetService.isPresent r name = false →
    R r (RuleSetService.compile name (RuleSetKind.ofName name) r).2

/-- Binding a counter leaves everything else of the accounts alone. -/
theorem Ledger.kept_bind {β : Type} (f : Account → β)
    (hf : ∀ (a : Account) (boundId : Int64) (tag : String),
      f { a with boundId := boundId, boundTag := tag } = f a)
    (id boundId other : Int64) (tag : String) (l : Ledger) :
    f ((l.bind id boundId tag).get other) = f (l.get other) := by
  by_cases h : other = id
  · subst h
    rw [Ledger.bind, Ledger.get_update_self, hf]
  · rw [Ledger.bind, Ledger.get_update_of_ne h]

namespace Build

variable {σ α β : Type} [RuleSetService σ]

/-- The builds that are put together from the steps of which the build of a profile consists. -/
inductive Composed : {α : Type} → Build σ α → Prop
  | pure {α : Type} (a : α) : Composed (pure a)
  | throw {α : Type} (e : BuildError) : Composed (throw e : Build σ α)
  | bind {α β : Type} {x : Build σ α} {f : α → Build σ β} :
      Composed x → (∀ a, Composed (f a)) → Composed (x >>= f)
  | requestPort : Composed requestPort
  | ensureRuleSet (name : String) : Composed (ensureRuleSet name)
  /-- Of the state that is read, only the view of the rule sets is used. -/
  | readRuleSets {α : Type} {f : BuildState σ → Build σ α} :
      (∀ s t, RuleSetService.SameView s.ruleSets t.ruleSets → f s = f t) →
      (∀ s, Composed (f s)) → Composed (get >>= f)
  | bindCounter (id : Int64) (tag : String) : Composed (onLedger (Ledger.bind id id tag))

namespace Composed

variable {b : Build σ α}

/-! ## What a composed build reads and leaves alone -/

/-- A composed build results in the same for all states that differ in their ledgers only. -/
theorem congr (hb : Composed b) {s t : BuildState σ} (h : s.AgreeOffLedger t) :
    (run b s).1 = (run b t).1 ∧ (run b s).2.AgreeOffLedger (run b t).2 := by
  induction hb generalizing s t with
  | pure a => exact ⟨rfl, h⟩
  | throw e => exact ⟨rfl, h⟩
  | @bind _ _ x f _ _ ihx ihf =>
    have hx := ihx h
    rw [run_bind, run_bind]
    generalize run x s = u, run x t = v at hx ⊢
    obtain ⟨r, s₁⟩ := u
    obtain ⟨r', t₁⟩ := v
    obtain ⟨hresult, hstate⟩ := hx
    cases hresult
    cases r with
    | error e => exact ⟨rfl, hstate⟩
    | ok a => exact ihf a hstate
  | requestPort =>
    rw [run_requestPort, run_requestPort, h.ports]
    exact ⟨rfl, rfl, h.ruleSets⟩
  | ensureRuleSet name =>
    rw [run_ensureRuleSet, run_ensureRuleSet, h.ruleSets]
    split
    · exact ⟨rfl, h⟩
    · exact ⟨rfl, h.ports, rfl⟩
  | @readRuleSets _ f hread _ ih =>
    have hget : ∀ u : BuildState σ, run (get >>= f) u = run (f u) u := fun _ => rfl
    rw [hget, hget, hread s t (h.ruleSets ▸ .refl s.ruleSets)]
    exact ih t h
  | bindCounter id tag => exact ⟨rfl, h.ports, h.ruleSets⟩

/-- And of an account it changes nothing but what the counters are bound to. -/
theorem kept {β : Type} (f : Account → β)
    (hf : ∀ (a : Account) (boundId : Int64) (tag : String),
      f { a with boundId := boundId, boundTag := tag } = f a)
    (hb : Composed b) (s : BuildState σ) (id : Int64) :
    f ((run b s).2.ledger.get id) = f (s.ledger.get id) := by
  induction hb generalizing s with
  | pure a => rfl
  | throw e => rfl
  | @bind _ _ x g _ _ ihx ihg =>
    have hx := ihx s
    rw [run_bind]
    generalize run x s = u at hx ⊢
    obtain ⟨_ | a, s₁⟩ := u
    · exact hx
    · exact (ihg a s₁).trans hx
  | requestPort => rw [run_requestPort]
  | ensureRuleSet name =>
    rw [run_ensureRuleSet]
    split <;> rfl
  | readRuleSets _ _ ih => exact ih s s
  | bindCounter other tag => exact Ledger.kept_bind f hf other other id tag s.ledger

/-- In particular no latency. -/
theorem latency (hb : Composed b) (s : BuildState σ) (id : Int64) :
    ((run b s).2.ledger.get id).latency = (s.ledger.get id).latency :=
  hb.kept Account.latency (fun _ _ _ => rfl) s id

/-- The service that it leaves is the one that it found, behind some compilations. -/
theorem services {R : σ → σ → Prop} (hR : RuleSetService.Preorder R) (hb : Composed b)
    (s : BuildState σ) : R s.ruleSets (run b s).2.ruleSets := by
  induction hb generalizing s with
  | pure a => exact hR.refl _
  | throw e => exact hR.refl _
  | @bind _ _ x f _ _ ihx ihf =>
    have hx := ihx s
    rw [run_bind]
    generalize run x s = u at hx ⊢
    obtain ⟨_ | a, s₁⟩ := u
    · exact hx
    · exact hR.trans hx (ihf a s₁)
  | requestPort =>
    rw [run_requestPort]
    exact hR.refl _
  | ensureRuleSet name =>
    rw [run_ensureRuleSet]
    by_cases hpresent : RuleSetService.isPresent s.ruleSets name = true
    · rw [if_pos hpresent]
      exact hR.refl _
    · rw [if_neg hpresent]
      exact hR.compile (Bool.not_eq_true _ ▸ hpresent)
  | readRuleSets _ _ ih => exact ih s s
  | bindCounter id tag => exact hR.refl _

end Composed

/-! ## The build of a profile -/

/-- Without effects there are no steps but the end. -/
theorem composed_ofExcept (x : Except BuildError α) : Composed (ofExcept x : Build σ α) := by
  cases x with
  | error e => exact .throw e
  | ok a => exact .pure a

/-- What is made of a result takes no step. -/
theorem Composed.map {x : Build σ α} (f : α → β) (hx : Composed x) : Composed (f <$> x) := by
  rw [← bind_pure_comp]
  exact hx.bind fun a => .pure (f a)

/-- A port is requested unless it is fixed. -/
theorem composed_pickPort (fixed : Int64) : Composed (pickPort fixed : Build σ Nat) := by
  unfold pickPort
  split
  · exact .pure _
  · exact .requestPort

theorem composed_compileDirect (settings : Settings) (p : Profile) (tag : String) :
    Composed (Hop.compileDirect settings p tag : Build σ Hop) :=
  (composed_ofExcept _).bind fun _ => (Composed.bindCounter p.id tag).bind fun _ => .pure _

/-- A bridged hop requests its ports, and then its helper is described and its counter bound. -/
theorem composed_compileBridged (settings : Settings) (p : Profile) (tag : String)
    (mode : Bridging) : Composed (Hop.compileBridged settings p tag mode : Build σ Hop) :=
  (composed_pickPort _).bind fun _ => (composed_pickPort _).bind fun _ =>
    (composed_ofExcept _).bind fun _ => (Composed.bindCounter p.id tag).bind fun _ => .pure _

/-- How a hop is realised says which of these steps it takes. -/
theorem composed_compile (settings : Settings) (p : Profile) (tag : String) (nearest : Bool) :
    Composed (Hop.compile settings p tag nearest : Build σ Hop) := by
  unfold Hop.compile
  split
  · exact .throw _
  · exact (composed_compileDirect settings p tag).map _
  · exact (composed_compileBridged settings p tag _).map _

/-- Hops are compiled one after the other. -/
theorem composed_compileFrom (settings : Settings) (seq length index : Nat) (ps : List Profile) :
    Composed (Hop.compileFrom settings seq length index ps : Build σ (List Hop)) := by
  induction ps generalizing index with
  | nil => exact .pure _
  | cons p rest ih =>
    exact (composed_compile settings p _ _).bind fun _ => (ih (index + 1)).bind fun _ => .pure _

/-- Targets are bound unless they are bound already. -/
theorem composed_compileTargets (setup : Setup) (seq : Nat) (bound : List Int64) (rank : Nat)
    (ids : List Int64) :
    Composed (Target.compileFrom setup seq bound rank ids : Build σ (List Target)) := by
  induction ids generalizing rank with
  | nil => exact .pure _
  | cons id rest ih =>
    unfold Target.compileFrom
    split
    · exact .throw _
    · rename_i p hp
      refine (composed_ofExcept _).bind fun outbound => ?_
      split
      · exact (ih (rank + 1)).bind fun _ => .pure _
      · exact (Composed.bindCounter p.id _).bind fun _ => (ih (rank + 1)).bind fun _ => .pure _

theorem composed_ruleSetEntries (names : List String) :
    Composed (ruleSetEntries names : Build σ (List Tree)) := by
  induction names with
  | nil => exact .pure _
  | cons name rest ih =>
    refine (Composed.ensureRuleSet name).bind fun _ => .readRuleSets (fun s t h => ?_) fun s => ?_
    · rw [h.path]
    · exact ih.bind fun _ => .pure _

/-- Routing asks the service first, and then compiles targets and rule sets. -/
theorem composed_routing (setup : Setup) (seq : Nat) (bound : List Int64) :
    Composed (Routing.compile setup seq bound : Build σ Routing) := by
  refine .readRuleSets (fun s t h => ?_) fun s => ?_
  · rw [h.sources]
  split
  · dsimp only
    split
    · exact (Composed.throw _).bind fun _ => .throw _
    · exact .throw _
  · rename_i chain hchain
    have hrest : Composed (do
        let targets ← Target.compileFrom setup seq bound 0 (Routing.targetIds chain)
        let ruleSets ← ruleSetEntries chain.usedRuleSets
        pure { chain := chain, targets := targets, ruleSets := ruleSets } : Build σ Routing) :=
      (composed_compileTargets _ _ _ _ _).bind fun _ =>
        (composed_ruleSetEntries _).bind fun _ => .pure _
    dsimp only
    split
    · exact (Composed.throw _).bind fun _ => hrest
    · exact hrest

theorem composed_generate (setup : Setup) (request : Request) (root : Profile) :
    Composed (generate setup request root : Build σ Output) := by
  refine (composed_ofExcept _).bind fun ps =>
    (composed_compileFrom _ _ _ _ ps).bind fun hops => ?_
  have hrest : Composed (do
      let routing ← Routing.compile setup request.seq (Document.traffic root hops [])
      pure (Document.assemble setup.settings request root hops routing) : Build σ Output) :=
    (composed_routing setup request.seq _).bind fun _ => .pure _
  split
  · exact (Composed.bindCounter root.id _).bind fun _ => hrest
  · exact hrest

/-- **The build of a profile consists of these steps.** -/
theorem composed_profile (setup : Setup) (request : Request) (root : Profile) :
    Composed (profile setup request root : Build σ Output) := by
  have hplain : Composed (plain setup request root : Build σ Output) := by
    unfold plain
    split
    · split
      · split
        · exact .pure _
        · exact .throw _
      · exact composed_generate setup request root
    · exact composed_generate setup request root
  exact hplain.bind fun _ => .pure _

end Build

end Detour
