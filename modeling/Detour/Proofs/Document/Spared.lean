import Detour.Proofs.Document.Built
/-!
# What a build leaves alone

A build binds the counters of the hops it compiles, of the root of a chain, and of the profiles that
the active chain of rules selects; it asks for ports where it bridges a hop, and has rule sets
compiled. A view of the state that none of these steps changes is the same behind the build as before,
whatever step the build fails at: `keeps_profile`. So the account of any other profile is spared
(`spares_profile`), and so is the counter of ports if no hop is bridged (`portless_profile`). A build
of a batch or of a probe is one like any other, so this holds of those as well.
-/

namespace Detour

/-- A build of a profile bridges one of its hops. A whole document has none. -/
def Setup.Bridges (setup : Setup) (request : Request) (root : Profile) : Prop :=
  root.isFullDocument = false ∧ ∃ ps : List Profile,
    setup.store.hops root (!request.test) = .ok ps ∧ ∃ (i : Nat) (p : Profile), ps[i]? = some p ∧
      (p.protocol.bridging (i + 1 == ps.length) setup.settings.vpn.enabled).isBridged = true

namespace Build

variable {σ α β γ : Type} {id : Int64} {view : BuildState σ → γ}

/-- A build leaves what is seen of the state as it is, from every state and also where it fails. -/
def Keeps (view : BuildState σ → γ) (b : Build σ α) : Prop :=
  ∀ s, view (run b s).2 = view s

/-- A build leaves the account of a profile as it is, from every state and also where it fails. -/
def Spares (id : Int64) (b : Build σ α) : Prop :=
  ∀ s, (run b s).2.ledger.get id = s.ledger.get id

/-! ## Steps -/

namespace Keeps

theorem pure (a : α) : Keeps view (pure a : Build σ α) := fun _ => rfl

theorem throw (e : BuildError) : Keeps view (throw e : Build σ α) := fun _ => rfl

theorem read : Keeps view (get : Build σ (BuildState σ)) := fun _ => rfl

theorem ofExcept (x : Except BuildError α) : Keeps view (ofExcept x : Build σ α) := by
  cases x with
  | error e => exact throw e
  | ok a => exact pure a

/-- Two steps keep what both of them keep. -/
theorem bind {x : Build σ α} {f : α → Build σ β} (hx : Keeps view x)
    (hf : ∀ a, Keeps view (f a)) : Keeps view (x >>= f) := by
  intro s
  have hfirst := hx s
  rw [run_bind]
  rcases hr : run x s with ⟨_ | a, s₁⟩
  · rw [hr] at hfirst
    exact hfirst
  · rw [hr] at hfirst
    exact (hf a s₁).trans hfirst

/-- Behind a computation without effects, only its result is looked at. -/
theorem bind_ofExcept {x : Except BuildError α} {f : α → Build σ β}
    (hf : ∀ a, x = .ok a → Keeps view (f a)) : Keeps view (Build.ofExcept x >>= f) := by
  cases x with
  | error e => exact fun _ => rfl
  | ok a => exact hf a rfl

theorem map {x : Build σ α} (f : α → β) (hx : Keeps view x) : Keeps view (f <$> x) := by
  intro s
  rw [run_map]
  exact hx s

end Keeps

/-- The counters of a profile can be bound without any change to what is seen. -/
def KeepsBinding (view : BuildState σ → γ) (id : Int64) : Prop :=
  ∀ tag, Keeps view (onLedger (Ledger.bind id id tag))

/-! ## Hops -/

/-- Picking a port changes nothing but the counter of ports. -/
theorem keeps_pickPort (h : Keeps view requestPort) (fixed : Int64) :
    Keeps view (pickPort fixed : Build σ Nat) := by
  unfold pickPort
  split
  · exact .pure _
  · exact h

/-- Ports are asked for only if the hop is bridged. -/
theorem keeps_compile {settings : Settings} {p : Profile} {nearest : Bool}
    (hbind : KeepsBinding view p.id)
    (hport : (p.protocol.bridging nearest settings.vpn.enabled).isBridged = true →
      Keeps view requestPort) (tag : String) :
    Keeps view (Hop.compile settings p tag nearest : Build σ Hop) := by
  have hdirect : Keeps view (Hop.compileDirect settings p tag : Build σ Hop) :=
    (Keeps.ofExcept _).bind fun _ => (hbind tag).bind fun _ => .pure _
  have hbridged : Keeps view (requestPort : Build σ Nat) →
      ∀ mode, Keeps view (Hop.compileBridged settings p tag mode : Build σ Hop) :=
    fun h _ => (keeps_pickPort h _).bind fun _ => (keeps_pickPort h _).bind fun _ =>
      (Keeps.ofExcept _).bind fun _ => (hbind tag).bind fun _ => .pure _
  unfold Hop.compile
  split
  · exact .throw _
  · exact hdirect.map _
  · rename_i hu hn
    exact (hbridged (hport (Bridging.isBridged_of_ne hu hn)) _).map _

/-- Hops change the bindings of their profiles, and the counter of ports where they are bridged. -/
theorem keeps_compileFrom {settings : Settings} {length : Nat} {ps : List Profile} (seq index : Nat)
    (hbind : ∀ p ∈ ps, KeepsBinding view p.id)
    (hport : ∀ (i : Nat) (p : Profile), ps[i]? = some p →
      (p.protocol.bridging (index + i + 1 == length) settings.vpn.enabled).isBridged = true →
        Keeps view requestPort) :
    Keeps view (Hop.compileFrom settings seq length index ps : Build σ (List Hop)) := by
  induction ps generalizing index with
  | nil => exact .pure _
  | cons p rest ih =>
    have hhead := keeps_compile (hbind p List.mem_cons_self) (hport 0 p rfl)
    refine (hhead _).bind fun _ => (ih (index + 1) ?_ ?_).bind fun _ => .pure _
    · exact fun q hq => hbind q (List.mem_cons_of_mem p hq)
    · intro i q hq
      have hindex : index + 1 + i + 1 = index + (i + 1) + 1 := by omega
      rw [hindex]
      exact hport (i + 1) q hq

/-! ## Routing -/

/-- Targets change the bindings of theirs. -/
theorem keeps_compileTargets {ids : List Int64} (hbind : ∀ id ∈ ids, KeepsBinding view id)
    (setup : Setup) (seq : Nat) (bound : List Int64) (rank : Nat) :
    Keeps view (Target.compileFrom setup seq bound rank ids : Build σ (List Target)) := by
  induction ids generalizing rank with
  | nil => exact .pure _
  | cons other rest ih =>
    have hrest := ih fun id hid => hbind id (List.mem_cons_of_mem other hid)
    unfold Target.compileFrom
    split
    · exact .throw _
    · rename_i p hp
      have hown : KeepsBinding view p.id := by
        rw [Store.id_of_profile? hp]
        exact hbind other List.mem_cons_self
      refine (Keeps.ofExcept _).bind fun outbound => ?_
      split
      · exact (hrest (rank + 1)).bind fun _ => .pure _
      · exact (hown _).bind fun _ => (hrest (rank + 1)).bind fun _ => .pure _

variable [RuleSetService σ]

theorem keeps_ruleSetEntries (hensure : ∀ name, Keeps view (ensureRuleSet name))
    (names : List String) : Keeps view (ruleSetEntries names : Build σ (List Tree)) := by
  induction names with
  | nil => exact .pure _
  | cons name rest ih =>
    exact (hensure name).bind fun _ => Keeps.read.bind fun _ => ih.bind fun _ => .pure _

/-- So routing changes bindings of targets and the service. -/
theorem keeps_routing {setup : Setup}
    (hbind : ∀ c, setup.store.chain? setup.settings.routing.currentRouteId = some c →
      ∀ id ∈ Routing.targetIds c, KeepsBinding view id)
    (hensure : ∀ name, Keeps view (ensureRuleSet name)) (seq : Nat) (bound : List Int64) :
    Keeps view (Routing.compile setup seq bound : Build σ Routing) := by
  refine Keeps.read.bind fun s => ?_
  split
  · dsimp only
    split
    · exact (Keeps.throw _).bind fun _ => .throw _
    · exact .throw _
  · rename_i chain hchain
    have hrest : Keeps view (do
        let targets ← Target.compileFrom setup seq bound 0 (Routing.targetIds chain)
        let ruleSets ← ruleSetEntries chain.usedRuleSets
        pure { chain := chain, targets := targets, ruleSets := ruleSets } : Build σ Routing) :=
      (keeps_compileTargets (hbind chain hchain) setup seq bound 0).bind fun _ =>
        (keeps_ruleSetEntries hensure _).bind fun _ => .pure _
    dsimp only
    split
    · exact (Keeps.throw _).bind fun _ => hrest
    · exact hrest

/-! ## Documents -/

/-- Nothing that a build does can be seen: neither the counters that it binds, nor the ports that it
asks for, nor the rule sets that it has compiled. -/
structure Unseen (view : BuildState σ → γ) (setup : Setup) (request : Request) (root : Profile) :
    Prop where
  own : KeepsBinding view root.id
  hops : ∀ ps, setup.store.hops root (!request.test) = .ok ps → ∀ p ∈ ps, KeepsBinding view p.id
  targets : ∀ c, setup.store.chain? setup.settings.routing.currentRouteId = some c →
    ∀ id ∈ Routing.targetIds c, KeepsBinding view id
  ports : setup.Bridges request root → Keeps view requestPort
  ruleSets : ∀ name, Keeps view (ensureRuleSet name)

/-- What nothing of a build can be seen in is kept by it. -/
theorem keeps_generate {setup : Setup} {request : Request} {root : Profile}
    (h : Unseen view setup request root) (hroot : root.isFullDocument = false) :
    Keeps view (generate setup request root : Build σ Output) := by
  refine Keeps.bind_ofExcept fun ps hps => ?_
  have hport : ∀ (i : Nat) (p : Profile), ps[i]? = some p →
      (p.protocol.bridging (0 + i + 1 == ps.length) setup.settings.vpn.enabled).isBridged = true →
        Keeps view (requestPort : Build σ Nat) := by
    intro i p hp hbridged
    rw [Nat.zero_add] at hbridged
    exact h.ports ⟨hroot, ps, hps, i, p, hp, hbridged⟩
  refine (keeps_compileFrom request.seq 0 (h.hops ps hps) hport).bind fun hops => ?_
  have hrest : Keeps view (do
      let routing ← Routing.compile setup request.seq (Document.traffic root hops [])
      pure (Document.assemble setup.settings request root hops routing) : Build σ Output) :=
    (keeps_routing h.targets h.ruleSets request.seq _).bind fun _ => .pure _
  split
  · exact (h.own _).bind fun _ => hrest
  · exact hrest

/-- **A build leaves alone what none of its steps changes.** -/
theorem keeps_profile {setup : Setup} {request : Request} {root : Profile}
    (h : Unseen view setup request root) :
    Keeps view (profile setup request root : Build σ Output) := by
  have hplain : Keeps view (plain setup request root : Build σ Output) := by
    cases hroot : root.isFullDocument with
    | false =>
      rw [plain_eq_generate hroot]
      exact keeps_generate h hroot
    | true =>
      obtain ⟨c, hc, hfull⟩ := Profile.exists_custom_of_full hroot
      simp only [plain, hc, hfull, if_true]
      cases c.configObject? with
      | some fields => exact .pure _
      | none => exact .throw _
  exact hplain.bind fun _ => .pure _

/-- A profile has nothing to do with a build: it is not the root, it is none of the hops that the
store resolves the root to, and no rule of the active chain selects it. -/
structure Unrelated (setup : Setup) (request : Request) (root : Profile) (id : Int64) : Prop where
  ne_root : id ≠ root.id
  hops : ∀ ps, setup.store.hops root (!request.test) = .ok ps → id ∉ ps.map Profile.id
  targets : ∀ c, setup.store.chain? setup.settings.routing.currentRouteId = some c →
    id ∉ Routing.targetIds c

/-- **A build leaves the accounts of all profiles alone that have nothing to do with it.** -/
theorem spares_profile {setup : Setup} {request : Request} {root : Profile}
    (h : Unrelated setup request root id) :
    Spares id (profile setup request root : Build σ Output) := by
  have hother : ∀ {other : Int64}, id ≠ other →
      KeepsBinding (fun s : BuildState σ => s.ledger.get id) other :=
    fun hne _ s => Ledger.get_update_of_ne hne _ s.ledger
  have hunseen : Unseen (fun s : BuildState σ => s.ledger.get id) setup request root := by
    refine ⟨hother h.ne_root, fun ps hps p hp => hother ?_, fun c hc other hid => hother ?_, ?_, ?_⟩
    · rintro rfl
      exact h.hops ps hps (List.mem_map_of_mem hp)
    · rintro rfl
      exact h.targets c hc hid
    · intro _ s
      rw [run_requestPort]
    · intro name s
      rw [run_ensureRuleSet]
      split <;> rfl
  exact keeps_profile hunseen

/-- **A build that bridges no hop leaves the counter of ports alone.** -/
theorem portless_profile {setup : Setup} {request : Request} {root : Profile}
    (h : ¬ setup.Bridges request root) :
    Keeps BuildState.ports (profile setup request root : Build σ Output) := by
  have hbind : ∀ other, KeepsBinding (BuildState.ports : BuildState σ → PortCounter) other :=
    fun _ _ _ => rfl
  refine keeps_profile ⟨hbind _, fun _ _ _ _ => hbind _, fun _ _ _ _ => hbind _,
    fun hbridges => absurd hbridges h, fun name s => ?_⟩
  rw [run_ensureRuleSet]
  split <;> rfl

end Build

end Detour
