import Mathlib.Algebra.GroupWithZero.Nat
import Mathlib.Data.List.Basic
import Detour.Build.Probe
import Detour.Proofs.Batch.Tests
import Detour.Proofs.Document.Resolution
import Detour.Proofs.Hop.Ports
import Detour.Proofs.Probe.Demand
/-!
# Orders of probes

The workers of a probe share the counter of ports, the service of rule sets and the ledger, and each
of them finds what those before it have left. Nothing of this shows in a report: with room for all
ports, a worker reports what it would report alone, and how many ports it takes does not depend on
its turn. `probed_of_perm` draws the conclusion for all orders in which the workers may take their
turns.
-/

namespace Detour

/-! ## Reports on documents -/

section Reports

variable {σ : Type} [RuleSetService σ] {setup : Setup} {request : Request} {root : Profile}
  {ps : List Profile} {hops hops' : List Hop} {r r' : Routing} {o o' : Output}

/-- A document has a helper for each hop of an external core. -/
theorem Output.length_externals_of_built (hb : Built setup request root ps hops r o) :
    o.externals.length = ps.countP fun p => p.protocol.isExternal := by
  have hexternals : o.externals = hops.filterMap Hop.helper := by
    rw [hb.output]
    rfl
  rw [hexternals, List.length_filterMap_eq_countP, ← hb.compiled.map_profile, List.countP_map]
  refine List.countP_congr fun h hh => ?_
  obtain ⟨i, hi⟩ := List.mem_iff_getElem?.1 hh
  obtain ⟨p, -, hcompiled⟩ := hb.compiled.exists_profile hi
  rw [hcompiled.isSome_helper]
  rfl

theorem Document.length_outbounds_of_built (hb : Built setup request root ps hops r o) :
    (outbounds hops r.targets).length =
      ps.length + 3 + (Routing.targetIds r.chain).length := by
  rw [outbounds, List.length_append, List.length_append, List.length_map, List.length_map,
    Hop.length_linkedOutbounds, hb.compiled.length_eq, hb.routing.targets.length_eq]
  rfl

/-- All documents of one profile under one number are reported alike, whatever ports they have. -/
theorem Report.ofOutput_congr (hb : Built setup request root ps hops r o)
    (hb' : Built setup request root ps hops' r' o') :
    Report.ofOutput root o = Report.ofOutput root o' := by
  have hentry : o.entryTag = o'.entryTag := by
    rw [Output.entryTag_of_built hb, Output.entryTag_of_built hb', Hop.entryTag, Hop.entryTag,
      ← List.head?_map, ← List.head?_map, hb.compiled.map_tag, hb'.compiled.map_tag]
  have hexternals : o.externals.length = o'.externals.length := by
    rw [Output.length_externals_of_built hb, Output.length_externals_of_built hb']
  have hchain : r.chain = r'.chain := by
    have hactive := hb.routing.chain
    rw [hb'.routing.chain] at hactive
    exact (Option.some.inj hactive).symm
  have hlength : (Document.outbounds hops r.targets).length =
      (Document.outbounds hops' r'.targets).length := by
    rw [Document.length_outbounds_of_built hb, Document.length_outbounds_of_built hb', hchain]
  have hsections : ∀ (hops : List Hop) (r : Routing),
      (Tree.ofFields (Document.sections setup.settings request hops r)).get? "outbounds" =
        some (.list (Document.outbounds hops r.targets)) := by
    intro hops r
    simp [Document.sections, Fields.get?_set]
  have hcount : ((o.document.get? "outbounds").bind Tree.items?).map List.length =
      ((o'.document.get? "outbounds").bind Tree.items?).map List.length := by
    rw [hb.output, hb'.output]
    -- the override of the profile leaves both lists of outbounds, or takes the place of both
    rcases Tree.get?_merge_lists root.customConfig.tree.override (hsections hops r)
      (hsections hops' r') with ⟨h, h'⟩ | h
    · simp [h, h', Tree.items?, hlength]
    · simp only [h]
  rw [Report.ofOutput, Report.ofOutput, hentry, hexternals, hcount]

theorem Report.ofOutput_eq_of_runs {s s' t t' : BuildState σ}
    (hr : Build.run (Build.profile setup request root) s = (.ok o, s'))
    (hr' : Build.run (Build.profile setup request root) t = (.ok o', t')) :
    Report.ofOutput root o = Report.ofOutput root o' := by
  cases hroot : root.isFullDocument with
  | false =>
    obtain ⟨ps, hops, r, hb⟩ := built_of_run hroot hr
    obtain ⟨hops', r', hb'⟩ := built_of_hops hroot hr' hb.resolved
    exact Report.ofOutput_congr hb hb'
  | true =>
    obtain ⟨c, hc, hfull⟩ := Profile.exists_custom_of_full hroot
    rw [Build.run_profile_of_full hc hfull] at hr hr'
    cases (Prod.mk.inj hr).1.symm.trans (Prod.mk.inj hr').1
    rfl

end Reports

/-! ## Workers -/

namespace Probe

/-- The workers of a probe: the profiles with their numbers. -/
def workers (profiles : List Profile) : List (Profile × Nat) :=
  profiles.zipIdx 1

section Definitions

variable {σ : Type} [RuleSetService σ]

/-- Some workers take their turns one after the other, and each hands in a report under its
number. -/
def inTurn (setup : Setup) : List (Profile × Nat) → StateM (BuildState σ) (List (Nat × Report))
  | [] => pure []
  | w :: rest => do
    let report ← one setup w.2 w.1
    let reports ← inTurn setup rest
    pure ((w.2, report) :: reports)

/-- The reports in the order of the profiles, whichever was handed in first. -/
def gather (profiles : List Profile) (reports : List (Nat × Report)) : List Report :=
  (workers profiles).filterMap fun w => (reports.find? fun r => r.1 == w.2).map Prod.snd

/-- Probe some profiles whose workers take their turns in an order. -/
def allInOrder (setup : Setup) (profiles : List Profile) (order : List (Profile × Nat)) :
    StateM (BuildState σ) (List Report) := do
  let reports ← inTurn setup order
  pure (gather profiles reports)

/-- The build of a worker. -/
def build (setup : Setup) (w : Profile × Nat) : Build σ Output :=
  Build.profile setup { test := true, seq := w.2 } w.1

/-- The ports last for some workers that take their turns one after the other: no build ends for want
of them. -/
def Supplied (setup : Setup) : List (Profile × Nat) → BuildState σ → Prop
  | [], _ => True
  | w :: rest, s =>
    (w.1.protocol.isValid = true →
      Build.failure? (Build.run (build setup w) s).1 ≠ some .portsExhausted) ∧
    Supplied setup rest (one setup w.2 w.1 s).2

instance decidableSupplied (setup : Setup) :
    ∀ (ws : List (Profile × Nat)) (s : BuildState σ), Decidable (Supplied setup ws s)
  | [], _ => .isTrue trivial
  | w :: rest, s =>
    have := decidableSupplied setup rest (one setup w.2 w.1 s).2
    inferInstanceAs (Decidable ((_ → _ ≠ _) ∧ Supplied setup rest _))

end Definitions

/-! ## One turn -/

section Turns

variable {setup : Setup} {r : MemoryRuleSets} {w : Profile × Nat} {ws : List (Profile × Nat)}

/-- The report on what the build of a worker resulted in. -/
def ofResult (p : Profile) : Except BuildError Output → Report
  | .ok o => .ofOutput p o
  | .error e => .ofError p e

theorem one_of_valid {σ : Type} [RuleSetService σ] (hvalid : w.1.protocol.isValid = true)
    (s : BuildState σ) :
    one setup w.2 w.1 s =
      (ofResult w.1 (Build.run (build setup w) s).1, (Build.run (build setup w) s).2) := by
  rw [one, if_pos hvalid]
  have hbind : ∀ (x : Except BuildError Output × BuildState σ),
      (match x.1 with
        | .ok output => (pure (.ofOutput w.1 output) : StateM (BuildState σ) Report)
        | .error e => pure (.ofError w.1 e)) x.2 = (ofResult w.1 x.1, x.2) := by
    rintro ⟨_ | o, s'⟩ <;> rfl
  exact hbind (Build.run (build setup w) s)

theorem one_of_invalid {σ : Type} [RuleSetService σ] (hvalid : w.1.protocol.isValid = false)
    (s : BuildState σ) :
    one setup w.2 w.1 s = (.invalid w.1,
      { s with ledger := s.ledger.setLatency w.1.id Account.unavailable }) := by
  rw [one, if_neg (by simp [hvalid])]
  rfl

/-- What a worker reports that has all ports to itself, with a service that no other one has used. -/
def alone (setup : Setup) (r : MemoryRuleSets) (w : Profile × Nat) : Report :=
  (one setup w.2 w.1 { ports := ⟨1⟩, ruleSets := r }).1

/-- A worker takes a number of ports in each turn. With room for them, it reports what it would
report alone. -/
structure Demands (setup : Setup) (r : MemoryRuleSets) (w : Profile × Nat) (n : Nat) : Prop where
  like : ∀ s : BuildState MemoryRuleSets, s.ruleSets.Like r →
    (one setup w.2 w.1 s).2.ruleSets.Like r
  reports : ∀ s : BuildState MemoryRuleSets, s.ruleSets.Like r → s.ports.HasRoom n →
    (one setup w.2 w.1 s).1 = alone setup r w ∧
      (one setup w.2 w.1 s).2.ports = s.ports.advance n
  runsOut : ∀ s : BuildState MemoryRuleSets, s.ruleSets.Like r → ¬ s.ports.HasRoom n →
    w.1.protocol.isValid = true ∧
      Build.failure? (Build.run (build setup w) s).1 = some .portsExhausted

/-- Two runs of a worker's build that end in the same way are reported alike. -/
theorem ofResult_congr {s t : BuildState MemoryRuleSets}
    (h : Build.failure? (Build.run (build setup w) s).1 =
      Build.failure? (Build.run (build setup w) t).1) :
    ofResult w.1 (Build.run (build setup w) s).1 = ofResult w.1 (Build.run (build setup w) t).1 := by
  cases hs : (Build.run (build setup w) s).1 with
  | error e =>
    rw [hs] at h
    rw [Build.failure?_eq_some.1 h.symm]
  | ok o =>
    rw [hs] at h
    obtain ⟨o', ht⟩ := Build.failure?_eq_none.1 h.symm
    rw [ht]
    exact Report.ofOutput_eq_of_runs (Prod.ext hs rfl) (Prod.ext ht rfl)

theorem exists_demands (setup : Setup) (r : MemoryRuleSets) (w : Profile × Nat) :
    ∃ n, Demands setup r w n := by
  cases hvalid : w.1.protocol.isValid with
  | false =>
    refine ⟨0, fun s hs => ?_, fun s hs _ => ?_, fun s _ hroom => ?_⟩
    · rwa [one_of_invalid hvalid]
    · rw [alone, one_of_invalid hvalid, one_of_invalid hvalid]
      exact ⟨rfl, rfl⟩
    · exact absurd PortCounter.hasRoom_zero hroom
  | true =>
    obtain ⟨n, e?, hneeds⟩ := Build.exists_needs_profile setup { test := true, seq := w.2 } w.1 r
    refine ⟨n, fun s hs => ?_, fun s hs hroom => ?_, fun s hs hroom => ⟨hvalid, ?_⟩⟩
    · rw [one_of_valid hvalid]
      exact hneeds.like s hs
    · -- a counter that starts at the first port has room wherever another one has
      have hfirst : (⟨1⟩ : PortCounter).HasRoom n := hroom.first
      obtain ⟨hend, hports⟩ := hneeds.ends s hs hroom
      obtain ⟨hend', -⟩ := hneeds.ends { ports := ⟨1⟩, ruleSets := r } (.refl r) hfirst
      rw [alone, one_of_valid hvalid, one_of_valid hvalid]
      exact ⟨ofResult_congr (hend.trans hend'.symm), hports⟩
    · exact Build.failure?_eq_some.2 (hneeds.runsOut s hs hroom)

/-- One turn changes the latency of an invalid profile only. -/
theorem marked_one {σ : Type} [RuleSetService σ] (setup : Setup) (w : Profile × Nat)
    (s : BuildState σ) :
    Batch.Marked (Batch.invalidIds [w.1]) s (one setup w.2 w.1 s).2 := by
  rw [Batch.invalidIds_cons]
  cases hvalid : w.1.protocol.isValid with
  | true =>
    rw [if_pos rfl, one_of_valid hvalid]
    exact Batch.Marked.of_run (Build.composed_profile setup _ w.1) rfl
  | false =>
    rw [if_neg (by simp), one_of_invalid hvalid]
    exact Batch.marked_setLatency w.1.id s

/-! ## All turns -/

theorem inTurn_cons {σ : Type} [RuleSetService σ] (setup : Setup) (w : Profile × Nat)
    (rest : List (Profile × Nat)) (s : BuildState σ) :
    inTurn setup (w :: rest) s =
      ((w.2, (one setup w.2 w.1 s).1) :: (inTurn setup rest (one setup w.2 w.1 s).2).1,
        (inTurn setup rest (one setup w.2 w.1 s).2).2) := rfl

theorem marked_inTurn {σ : Type} [RuleSetService σ] (setup : Setup) (ws : List (Profile × Nat))
    (s : BuildState σ) :
    Batch.Marked (Batch.invalidIds (ws.map Prod.fst)) s (inTurn setup ws s).2 := by
  induction ws generalizing s with
  | nil => exact fun _ => (if_neg List.not_mem_nil).symm
  | cons w rest ih =>
    rw [inTurn_cons, List.map_cons, ← List.singleton_append, Batch.invalidIds_append]
    exact (marked_one setup w s).trans (ih _)

variable {demand : Profile × Nat → Nat} {s : BuildState MemoryRuleSets}

/-- Where the ports last, there is room for all that the workers take. -/
theorem Supplied.hasRoom (hdemand : ∀ w, Demands setup r w (demand w)) (hs : s.ruleSets.Like r)
    (h : Supplied setup ws s) : s.ports.HasRoom (ws.map demand).sum := by
  induction ws generalizing s with
  | nil => exact PortCounter.hasRoom_zero
  | cons w rest ih =>
    obtain ⟨hw, hrest⟩ := h
    have hroom : s.ports.HasRoom (demand w) := Classical.byContradiction fun hfull => by
      obtain ⟨hvalid, hend⟩ := (hdemand w).runsOut s hs hfull
      exact hw hvalid hend
    have hbehind := ih ((hdemand w).like s hs) hrest
    rw [((hdemand w).reports s hs hroom).2] at hbehind
    rw [List.map_cons, List.sum_cons]
    exact PortCounter.hasRoom_add.2 ⟨hroom, hbehind⟩

/-- With that room, every worker reports what it would report alone. -/
theorem inTurn_eq_alone (hdemand : ∀ w, Demands setup r w (demand w)) (hs : s.ruleSets.Like r)
    (hroom : s.ports.HasRoom (ws.map demand).sum) :
    (inTurn setup ws s).1 = ws.map fun w => (w.2, alone setup r w) := by
  induction ws generalizing s with
  | nil => rfl
  | cons w rest ih =>
    rw [List.map_cons, List.sum_cons] at hroom
    obtain ⟨hfirst, hbehind⟩ := PortCounter.hasRoom_add.1 hroom
    obtain ⟨hreport, hports⟩ := (hdemand w).reports s hs hfirst
    rw [inTurn_cons, hreport, List.map_cons, ih ((hdemand w).like s hs) (hports ▸ hbehind)]

end Turns

/-! ## Gathering -/

section Gathering

variable {profiles : List Profile} {order : List (Profile × Nat)}

theorem nodup_workers (profiles : List Profile) : ((workers profiles).map Prod.snd).Nodup := by
  rw [workers, List.zipIdx_map_snd]
  exact List.nodup_range'

/-- Whatever the order, the report of each worker is found by its number. -/
theorem gather_of_perm (horder : order.Perm (workers profiles)) (f : Profile × Nat → Report) :
    gather profiles (order.map fun w => (w.2, f w)) = (workers profiles).map f := by
  have hnodup : (order.map Prod.snd).Nodup :=
    (horder.map Prod.snd).nodup_iff.2 (nodup_workers profiles)
  have hmap : (workers profiles).map f = (workers profiles).filterMap fun w => some (f w) := by
    rw [← List.filterMap_eq_map]
    rfl
  rw [gather, hmap]
  refine List.filterMap_congr fun w hw => ?_
  have hfind : order.find? (fun v => v.2 == w.2) = some w := by
    have hsingle := filter_key_eq_singleton hnodup (horder.mem_iff.2 hw)
    rw [← List.head?_filter]
    exact congrArg List.head? hsingle
  rw [List.find?_map]
  change Option.map _ (Option.map _ (order.find? fun v => v.2 == w.2)) = _
  rw [hfind]
  rfl

/-- Probing the profiles one after the other is letting the workers take their turns in the order of
the profiles. -/
theorem all_eq_inTurn {σ : Type} [RuleSetService σ] (setup : Setup) (profiles : List Profile)
    (s : BuildState σ) :
    all setup profiles s = ((inTurn setup (workers profiles) s).1.map Prod.snd,
      (inTurn setup (workers profiles) s).2) := by
  have hfrom : ∀ seq, allFrom setup seq profiles s =
      ((inTurn setup (profiles.zipIdx seq) s).1.map Prod.snd,
        (inTurn setup (profiles.zipIdx seq) s).2) := by
    induction profiles generalizing s with
    | nil => exact fun _ => rfl
    | cons p rest ih =>
      intro seq
      have hcons : allFrom setup seq (p :: rest) s =
          ((one setup seq p s).1 :: (allFrom setup (seq + 1) rest (one setup seq p s).2).1,
            (allFrom setup (seq + 1) rest (one setup seq p s).2).2) := rfl
      rw [hcons, ih, List.zipIdx_cons, inTurn_cons, List.map_cons]
  exact hfrom 1

theorem profile_of_alone (setup : Setup) (r : MemoryRuleSets) (w : Profile × Nat) :
    (alone setup r w).id = w.1.id ∧ (alone setup r w).name = w.1.displayName := by
  rw [alone]
  cases hvalid : w.1.protocol.isValid with
  | false =>
    rw [one_of_invalid hvalid]
    exact ⟨rfl, rfl⟩
  | true =>
    rw [one_of_valid hvalid]
    generalize (Build.run (build setup w) { ports := ⟨1⟩, ruleSets := r }).1 = result
    cases result <;> exact ⟨rfl, rfl⟩

end Gathering

/-- **A probe does not depend on the order of its workers.** As long as the ports last where the
profiles are probed one after the other, the workers may take their turns in any order. There is one
report for each profile, in the order of the profiles, and it says the same. The latencies are the
same, too: the invalid profiles are marked, and no other latency changes. -/
theorem probed_of_perm {setup : Setup} {profiles : List Profile} {order : List (Profile × Nat)}
    {s : BuildState MemoryRuleSets} (horder : order.Perm (workers profiles))
    (hports : Supplied setup (workers profiles) s) :
    (allInOrder setup profiles order s).1 = (all setup profiles s).1 ∧
      (all setup profiles s).1.map (fun r => (r.id, r.name)) =
        profiles.map (fun p => (p.id, p.displayName)) ∧
      Batch.Marked (Batch.invalidIds profiles) s (allInOrder setup profiles order s).2 ∧
      Batch.Marked (Batch.invalidIds profiles) s (all setup profiles s).2 := by
  obtain ⟨demand, hdemand⟩ := Classical.skolem.1 (exists_demands setup s.ruleSets)
  -- what a worker demands is the same at every turn, so the order does not matter for the sum
  have hroom := hports.hasRoom hdemand (.refl _)
  have hroom' : s.ports.HasRoom (order.map demand).sum := by
    rwa [(horder.map demand).sum_nat]
  have hfst : (workers profiles).map Prod.fst = profiles := List.zipIdx_map_fst 1 profiles
  have hreports : (all setup profiles s).1 = (workers profiles).map (alone setup s.ruleSets) := by
    rw [all_eq_inTurn, inTurn_eq_alone hdemand (.refl _) hroom, List.map_map]
    rfl
  -- each report is that of the profile alone, and gathering puts them back in order
  have hreports' : (allInOrder setup profiles order s).1 =
      (workers profiles).map (alone setup s.ruleSets) := by
    change gather profiles (inTurn setup order s).1 = _
    rw [inTurn_eq_alone hdemand (.refl _) hroom', gather_of_perm horder]
  refine ⟨hreports'.trans hreports.symm, ?_, ?_, ?_⟩
  · rw [hreports, List.map_map, ← hfst, List.map_map, hfst]
    refine List.map_congr_left fun w _ => ?_
    obtain ⟨hid, hname⟩ := profile_of_alone setup s.ruleSets w
    simp [hid, hname]
  · have hmarked := marked_inTurn setup order s
    intro id
    have hsame : id ∈ Batch.invalidIds (order.map Prod.fst) ↔ id ∈ Batch.invalidIds profiles := by
      rw [← hfst]
      exact (((horder.map Prod.fst).filter _).map Profile.id).mem_iff
    have hlatency := hmarked id
    simp only [hsame] at hlatency
    exact hlatency
  · rw [all_eq_inTurn]
    have hmarked := marked_inTurn setup (workers profiles) s
    rwa [hfst] at hmarked

end Probe

/-- A chain, a profile that is not valid, and a server that only a helper speaks to. -/
def Setting.probes : List Profile :=
  [Setting.chain, Setting.hollow, Setting.bridged]

/-- From the last worker to the first one. -/
theorem Probe.probed_of_perm_reversed :
    (allInOrder Setting.setup Setting.probes (workers Setting.probes).reverse Setting.start).1 =
        (all Setting.setup Setting.probes Setting.start).1 ∧
      (all Setting.setup Setting.probes Setting.start).1.map (fun r => (r.id, r.ok)) =
        [(3, true), (4, false), (1, true)] := by
  have hports : Supplied Setting.setup (workers Setting.probes) Setting.start := by decide
  have hprobed := probed_of_perm (List.reverse_perm (workers Setting.probes)) hports
  exact ⟨hprobed.1, by decide⟩

end Detour
