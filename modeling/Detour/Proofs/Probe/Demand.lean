import Detour.Proofs.Steps
/-!
# Demands of builds

What a build asks of its surroundings does not depend on them: as long as there are ports, it requests
the same number of them and ends in the same way, whatever the ports are and whatever was compiled
before (`Build.Needs`). A step may go on from what an earlier one resulted in, so the rules are about
families of builds that need the same (`Build.Steady`), and each build of a profile is put together
by them. `exists_needs_profile` is what remains: the demand of a profile.
-/

namespace Detour

/-! ## Room for ports -/

namespace PortCounter

variable {c : PortCounter} {m n : Nat}

/-- The next requests are answered, as many as are asked for. -/
def HasRoom (c : PortCounter) (n : Nat) : Prop :=
  n = 0 ∨ (1 ≤ c.next ∧ c.next + n ≤ 65536)

/-- The counter after some requests that were answered. -/
def advance (c : PortCounter) (n : Nat) : PortCounter :=
  ⟨c.next + n⟩

@[simp] theorem hasRoom_zero : c.HasRoom 0 := .inl rfl

@[simp] theorem advance_zero : c.advance 0 = c := rfl

/-- Two series of requests advance the counter one after the other. -/
theorem advance_add : c.advance (m + n) = (c.advance m).advance n :=
  congrArg PortCounter.mk (Nat.add_assoc c.next m n).symm

/-- There is room for two series of requests if there is for the first one, and after it for the
second one. -/
theorem hasRoom_add : c.HasRoom (m + n) ↔ c.HasRoom m ∧ (c.advance m).HasRoom n := by
  simp only [HasRoom, advance]
  omega

/-- A counter that starts at the first port has room wherever another one has. -/
theorem HasRoom.first (h : c.HasRoom n) : (⟨1⟩ : PortCounter).HasRoom n := by
  simp only [HasRoom] at h ⊢
  omega

theorem request_of_room (h : c.HasRoom 1) : c.request = (.ok c.next, c.advance 1) := by
  simp only [HasRoom] at h
  exact request_of_available (by omega) (by omega)

theorem request_of_no_room (h : ¬ c.HasRoom 1) : c.request.1 = .error .portsExhausted := by
  simp only [HasRoom] at h
  rw [request_of_exhausted (by omega)]

end PortCounter

/-- Two services make the same builds fail: they refuse in the same way, and where they refuse, they
have the same rule sets. Otherwise whatever is missing is compiled. -/
structure MemoryRuleSets.Like (r r' : MemoryRuleSets) : Prop where
  fail : r.fail = r'.fail
  sourcesError : r.sourcesError = r'.sourcesError
  present : r.fail ≠ none → r.present = r'.present

/-- A service makes the same builds fail as itself. -/
theorem MemoryRuleSets.Like.refl (r : MemoryRuleSets) : r.Like r :=
  ⟨rfl, rfl, fun _ => rfl⟩

/-- Compiling a rule set does not make a service another one. -/
theorem MemoryRuleSets.like_compile {r r' : MemoryRuleSets} (h : r'.Like r) (name : String)
    (kind : RuleSetKind) : (compile name kind r').2.Like r := by
  unfold compile
  split
  · exact h
  · rename_i hfail
    exact ⟨h.fail, h.sourcesError, fun hne => absurd hfail hne⟩

namespace Build

variable {r : MemoryRuleSets} {α β ι κ : Type} {m n : Nat} {e : BuildError}
  {e? : Option BuildError}

/-- Why a build failed, if it did. -/
def failure? : Except BuildError α → Option BuildError
  | .ok _ => none
  | .error e => some e

theorem failure?_eq_none {x : Except BuildError α} : failure? x = none ↔ ∃ a, x = .ok a := by
  cases x <;> simp [failure?]

/-- And a failure is the error that the build ended with. -/
theorem failure?_eq_some {x : Except BuildError α} : failure? x = some e ↔ x = .error e := by
  cases x <;> simp [failure?]

/-- From every state with such rule sets, a build requests some ports and ends in some way. If there
is no room for the ports, it ends with that. -/
structure Needs (r : MemoryRuleSets) (n : Nat) (e? : Option BuildError)
    (b : Build MemoryRuleSets α) : Prop where
  like : ∀ s, s.ruleSets.Like r → (run b s).2.ruleSets.Like r
  ends : ∀ s, s.ruleSets.Like r → s.ports.HasRoom n →
    failure? (run b s).1 = e? ∧ (run b s).2.ports = s.ports.advance n
  runsOut : ∀ s, s.ruleSets.Like r → ¬ s.ports.HasRoom n →
    (run b s).1 = .error .portsExhausted

namespace Needs

theorem pure (a : α) : Needs r 0 none (pure a) where
  like _ hs := hs
  ends _ _ _ := ⟨rfl, rfl⟩
  runsOut _ _ hroom := absurd PortCounter.hasRoom_zero hroom

theorem throw (e : BuildError) : Needs r 0 (some e) (throw e : Build MemoryRuleSets α) where
  like _ hs := hs
  ends _ _ _ := ⟨rfl, rfl⟩
  runsOut _ _ hroom := absurd PortCounter.hasRoom_zero hroom

/-- A computation without effects ends as it ends. -/
theorem ofExcept {x : Except BuildError α} (h : failure? x = e?) : Needs r 0 e? (ofExcept x) := by
  subst h
  cases x with
  | ok a => exact pure a
  | error e => exact throw e

theorem onLedger (f : Ledger → Ledger) : Needs r 0 none (onLedger f) where
  like _ hs := hs
  ends _ _ _ := ⟨rfl, rfl⟩
  runsOut _ _ hroom := absurd PortCounter.hasRoom_zero hroom

/-- A request needs the port that it asks for. -/
theorem requestPort : Needs r 1 none requestPort where
  like s hs := by rwa [run_requestPort]
  ends s _ hroom := by
    rw [run_requestPort, PortCounter.request_of_room hroom]
    exact ⟨rfl, rfl⟩
  runsOut s _ hroom := by rw [run_requestPort, PortCounter.request_of_no_room hroom]

/-- Two steps need the ports of both, and end as the second one does. -/
theorem bind {x : Build MemoryRuleSets α} {f : α → Build MemoryRuleSets β}
    (hx : Needs r m none x) (hf : ∀ a, Needs r n e? (f a)) : Needs r (m + n) e? (x >>= f) where
  like s hs := by
    have hlike := hx.like s hs
    cases hr : (run x s).1 with
    | error e => rwa [run_bind_of_error hr]
    | ok a =>
      rw [run_bind_of_ok hr]
      exact (hf a).like _ hlike
  ends s hs hroom := by
    obtain ⟨hfirst, hsecond⟩ := PortCounter.hasRoom_add.1 hroom
    obtain ⟨hend, hports⟩ := hx.ends s hs hfirst
    obtain ⟨a, ha⟩ := failure?_eq_none.1 hend
    rw [← hports] at hsecond
    rw [run_bind_of_ok ha, PortCounter.advance_add, ← hports]
    exact (hf a).ends _ (hx.like s hs) hsecond
  runsOut s hs hroom := by
    by_cases hfirst : s.ports.HasRoom m
    · obtain ⟨hend, hports⟩ := hx.ends s hs hfirst
      obtain ⟨a, ha⟩ := failure?_eq_none.1 hend
      rw [run_bind_of_ok ha]
      refine (hf a).runsOut _ (hx.like s hs) fun hsecond => ?_
      exact hroom (PortCounter.hasRoom_add.2 ⟨hfirst, hports ▸ hsecond⟩)
    · rw [run_bind_of_error (hx.runsOut s hs hfirst)]

/-- Behind a step that fails there is no other one. -/
theorem bind_of_failure {x : Build MemoryRuleSets α} (hx : Needs r n (some e) x)
    (f : α → Build MemoryRuleSets β) : Needs r n (some e) (x >>= f) where
  like s hs := by
    have hlike := hx.like s hs
    by_cases hroom : s.ports.HasRoom n
    · rwa [run_bind_of_error (failure?_eq_some.1 (hx.ends s hs hroom).1)]
    · rwa [run_bind_of_error (hx.runsOut s hs hroom)]
  ends s hs hroom := by
    obtain ⟨hend, hports⟩ := hx.ends s hs hroom
    rw [run_bind_of_error (failure?_eq_some.1 hend)]
    exact ⟨rfl, hports⟩
  runsOut s hs hroom := by rw [run_bind_of_error (hx.runsOut s hs hroom)]

/-- What is done to the ledger needs nothing. -/
theorem behind_onLedger {b : Build MemoryRuleSets α} (hb : Needs r n e? b) (f : Ledger → Ledger) :
    Needs r n e? (Build.onLedger f >>= fun _ => b) := by
  have hboth := (onLedger (r := r) f).bind fun _ => hb
  rwa [Nat.zero_add] at hboth

/-- A rule set is refused where the service refuses all and does not have it. -/
theorem ensureRuleSet (name : String) :
    Needs r 0 (if name ∈ r.present then none else r.fail.map .ruleSet) (ensureRuleSet name) where
  like s hs := by
    rw [run_ensureRuleSet]
    split
    · exact hs
    · exact MemoryRuleSets.like_compile hs name _
  ends s hs _ := by
    have hpresent : RuleSetService.isPresent s.ruleSets name = true ↔ name ∈ s.ruleSets.present :=
      List.contains_iff_mem
    have hcompile : ∀ kind, RuleSetService.compile name kind s.ruleSets =
        MemoryRuleSets.compile name kind s.ruleSets := fun _ => rfl
    rw [run_ensureRuleSet, hcompile, MemoryRuleSets.compile]
    cases hfail : s.ruleSets.fail with
    | none =>
      rw [← hs.fail, hfail, Option.map_none, ite_self]
      split <;> exact ⟨rfl, rfl⟩
    | some message =>
      rw [← hs.fail, ← hs.present (by simp [hfail]), hfail]
      by_cases hname : name ∈ s.ruleSets.present
      · rw [if_pos (hpresent.2 hname), if_pos hname]
        exact ⟨rfl, rfl⟩
      · rw [if_neg (mt hpresent.1 hname), if_neg hname]
        exact ⟨rfl, rfl⟩
  runsOut _ _ hroom := absurd PortCounter.hasRoom_zero hroom

end Needs

/-! ## Families of builds -/

/-- Builds that need the same. -/
def Steady (r : MemoryRuleSets) (b : ι → Build MemoryRuleSets α) : Prop :=
  ∃ n e?, ∀ i, Needs r n e? (b i)

namespace Steady

/-- Results that differ need the same, which is nothing. -/
theorem pure (a : ι → α) : Steady r fun i => (Pure.pure (a i) : Build MemoryRuleSets α) :=
  ⟨0, none, fun i => .pure (a i)⟩

theorem throw (e : BuildError) :
    Steady r fun _ : ι => (MonadExcept.throw e : Build MemoryRuleSets α) :=
  ⟨0, some e, fun _ => .throw e⟩

/-- Computations without effects are steady if they end alike. -/
theorem ofExcept {x : ι → Except BuildError α} (h : ∀ i, failure? (x i) = e?) :
    Steady r fun i => (Build.ofExcept (x i) : Build MemoryRuleSets α) :=
  ⟨0, e?, fun i => .ofExcept (h i)⟩

/-- Whatever is written into the ledger, it needs nothing. -/
theorem onLedger (f : ι → Ledger → Ledger) :
    Steady r fun i => (Build.onLedger (f i) : Build MemoryRuleSets Unit) :=
  ⟨0, none, fun i => .onLedger (f i)⟩

/-- One rule set is there for all members of a family, or for none. -/
theorem ensureRuleSet (name : String) :
    Steady r fun _ : ι => (Build.ensureRuleSet name : Build MemoryRuleSets Unit) :=
  ⟨0, _, fun _ => .ensureRuleSet name⟩

/-- A fixed port needs no request, and any other one needs one. -/
theorem pickPort (fixed : Int64) :
    Steady r fun _ : ι => (Build.pickPort fixed : Build MemoryRuleSets Nat) := by
  unfold Build.pickPort
  split
  · exact pure _
  · exact ⟨1, none, fun _ => .requestPort⟩

/-- A family that is only indexed in another way stays steady. -/
theorem reindex {b : ι → Build MemoryRuleSets α} (h : Steady r b) (g : κ → ι) :
    Steady r fun k => b (g k) := by
  obtain ⟨n, e?, hb⟩ := h
  exact ⟨n, e?, fun k => hb (g k)⟩

/-- What the second steps need must not depend on what the first ones result in. -/
theorem bind {x : ι → Build MemoryRuleSets α} {f : ι → α → Build MemoryRuleSets β}
    (hx : Steady r x) (hf : Steady r fun q : ι × α => f q.1 q.2) :
    Steady r fun i => x i >>= f i := by
  obtain ⟨m, first?, hx⟩ := hx
  obtain ⟨n, e?, hf⟩ := hf
  cases first? with
  | none => exact ⟨m + n, e?, fun i => (hx i).bind fun a => hf (i, a)⟩
  | some e => exact ⟨m, some e, fun i => (hx i).bind_of_failure (f i)⟩

/-- What is made of the results does not matter. -/
theorem map {x : ι → Build MemoryRuleSets α} (hx : Steady r x) (f : α → β) :
    Steady r fun i => f <$> x i := by
  simp only [← bind_pure_comp]
  exact hx.bind (pure _)

/-- Behind a computation without effects there is only its own result to be looked at. -/
theorem bind_ofExcept {x : Except BuildError α} {f : ι → α → Build MemoryRuleSets β}
    (hf : ∀ a, x = .ok a → Steady r fun i => f i a) :
    Steady r fun i => Build.ofExcept x >>= f i := by
  cases x with
  | ok a => exact hf a rfl
  | error e => exact ⟨0, some e, fun i => (Needs.throw e).bind_of_failure (f i)⟩

/-- Of the state that is read, only what services have in common may be used. -/
theorem readState {f : ι → BuildState MemoryRuleSets → Build MemoryRuleSets α}
    (hf : Steady r fun q : ι × { s : BuildState MemoryRuleSets // s.ruleSets.Like r } =>
      f q.1 q.2.1) :
    Steady r fun i => get >>= f i := by
  obtain ⟨n, e?, hf⟩ := hf
  exact ⟨n, e?, fun i => {
    like := fun s hs => (hf (i, ⟨s, hs⟩)).like s hs
    ends := fun s hs => (hf (i, ⟨s, hs⟩)).ends s hs
    runsOut := fun s hs => (hf (i, ⟨s, hs⟩)).runsOut s hs }⟩

end Steady

/-! ## The build of a profile -/

variable {setup : Setup} {settings : Settings} {seq : Nat}

/-- The ports are put into a descriptor, and looked at nowhere else. -/
theorem failure?_descriptor (settings : Settings) (ports ports' : Bridge.Ports) (mode : Bridging)
    (p : Protocol) :
    failure? (Bridge.descriptor settings ports mode p) =
      failure? (Bridge.descriptor settings ports' mode p) := by
  cases p with
  | custom c =>
    simp only [Bridge.descriptor]
    split
    · rfl
    · split <;> rfl
  | _ => rfl

/-- A hop that the core realises by itself is refused or not, and asks for nothing. -/
theorem steady_compileDirect (settings : Settings) (p : Profile) (tag : String) :
    Steady r fun _ : ι => (Hop.compileDirect settings p tag : Build MemoryRuleSets Hop) :=
  .bind_ofExcept fun _ _ => .bind (.onLedger _) (.pure _)

/-- A bridged hop asks for the ports that its profile does not fix, before its helper is described. -/
theorem steady_compileBridged (settings : Settings) (p : Profile) (tag : String)
    (mode : Bridging) :
    Steady r fun _ : ι => (Hop.compileBridged settings p tag mode : Build MemoryRuleSets Hop) := by
  have hsame := fun ports => failure?_descriptor settings ports ⟨0, 0⟩ mode p.protocol
  exact .bind (.pickPort _) (.bind (.pickPort _)
    (.bind (.ofExcept fun q => hsame ⟨q.1.2, q.2⟩) (.bind (.onLedger _) (.pure _))))

/-- How a hop is realised is settled before anything is asked for. -/
theorem steady_compile (settings : Settings) (p : Profile) (tag : String) (nearest : Bool) :
    Steady r fun _ : ι => (Hop.compile settings p tag nearest : Build MemoryRuleSets Hop) := by
  unfold Hop.compile
  split
  · exact .throw _
  · exact (steady_compileDirect settings p tag).map _
  · exact (steady_compileBridged settings p tag _).map _

theorem steady_compileFrom (settings : Settings) (seq length index : Nat) (ps : List Profile) :
    Steady r fun _ : ι =>
      (Hop.compileFrom settings seq length index ps : Build MemoryRuleSets (List Hop)) := by
  induction ps generalizing ι index with
  | nil => exact .pure _
  | cons p rest ih => exact .bind (steady_compile settings p _ _) (.bind (ih _) (.pure _))

/-- Whether counters are bound already makes no difference to what is needed. -/
theorem steady_compileTargets (setup : Setup) (seq rank : Nat) (ids : List Int64) :
    Steady r fun bound : List Int64 =>
      (Target.compileFrom setup seq bound rank ids : Build MemoryRuleSets (List Target)) := by
  induction ids generalizing rank with
  | nil => exact .pure _
  | cons id rest ih =>
    unfold Target.compileFrom
    split
    · exact .throw _
    · rename_i p hp
      refine .bind_ofExcept fun outbound _ => ?_
      have hrest : Steady r fun bound : List Int64 => (do
          let targets ← Target.compileFrom setup seq bound (rank + 1) rest
          pure (⟨p, Tag.routeTarget seq rank, outbound⟩ :: targets) :
            Build MemoryRuleSets (List Target)) := .bind (ih _) (.pure _)
      obtain ⟨n, e?, hrest⟩ := hrest
      refine ⟨n, e?, fun bound => ?_⟩
      dsimp only
      split
      · exact hrest bound
      · exact (hrest bound).behind_onLedger _

/-- Rule sets are asked for by name, and nothing else decides on them. -/
theorem steady_ruleSetEntries (names : List String) :
    Steady r fun _ : ι => (ruleSetEntries names : Build MemoryRuleSets (List Tree)) := by
  induction names generalizing ι with
  | nil => exact .pure _
  | cons name rest ih =>
    exact .bind (.ensureRuleSet name) (.readState (.bind ih (.pure _)))

/-- Routing is steady over the ids whose counters are bound already: they do not change what is asked for. -/
theorem steady_routing (setup : Setup) (seq : Nat) :
    Steady r fun bound : List Int64 =>
      (Routing.compile setup seq bound : Build MemoryRuleSets Routing) := by
  refine .readState ?_
  have hsources : ∀ q : List Int64 × { s : BuildState MemoryRuleSets // s.ruleSets.Like r },
      RuleSetService.sourcesError? q.2.1.ruleSets = r.sourcesError := fun q => q.2.2.sourcesError
  simp only [hsources]
  cases r.sourcesError with
  | some message => exact ⟨0, _, fun _ => (Needs.throw (.ruleSet message)).bind_of_failure _⟩
  | none =>
    cases setup.store.chain? setup.settings.routing.currentRouteId with
    | none => exact .throw _
    | some chain =>
      exact .bind ((steady_compileTargets setup seq 0 _).reindex _)
        (.bind (steady_ruleSetEntries _) (.pure _))

/-- A document needs what its hops and its routing need. -/
theorem steady_generate (setup : Setup) (request : Request) (root : Profile) :
    Steady r fun _ : ι => (generate setup request root : Build MemoryRuleSets Output) := by
  refine .bind_ofExcept fun ps _ => .bind (steady_compileFrom _ _ _ _ ps) ?_
  have hrest : Steady r fun q : ι × List Hop => (do
      let routing ← Routing.compile setup request.seq (Document.traffic root q.2 [])
      pure (Document.assemble setup.settings request root q.2 routing) :
        Build MemoryRuleSets Output) :=
    .bind ((steady_routing setup request.seq).reindex _) (.pure _)
  obtain ⟨n, e?, hrest⟩ := hrest
  refine ⟨n, e?, fun q => ?_⟩
  dsimp only
  split
  · exact (hrest q).behind_onLedger _
  · exact hrest q

/-- **What the build of a profile needs.** It is the same from all states with services that refuse in
the same way: a number of ports, and either a document or one error. -/
theorem exists_needs_profile (setup : Setup) (request : Request) (root : Profile)
    (r : MemoryRuleSets) : ∃ n e?, Needs r n e? (profile setup request root) := by
  have hplain : Steady r fun _ : Unit => (plain setup request root : Build MemoryRuleSets Output) := by
    unfold plain
    split
    · split
      · split
        · exact .pure _
        · exact .throw _
      · exact steady_generate setup request root
    · exact steady_generate setup request root
  obtain ⟨n, e?, hneeds⟩ : Steady r fun _ : Unit =>
      (profile setup request root : Build MemoryRuleSets Output) := hplain.bind (.pure _)
  exact ⟨n, e?, hneeds ()⟩

end Build

end Detour
