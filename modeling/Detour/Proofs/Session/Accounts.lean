import Detour.Proofs.Document.Spared
import Detour.Proofs.Session.Visits
import Mathlib.Data.List.Induction
/-!
# Accounts of sessions

A profile has a latency, two counters, and an outbound that the counters are bound to. Many steps
touch accounts, some of them deep inside of a build that fails behind that. `balanced_of_session` says
what an account holds at any point of a session: the counters are what was added since the profile was
put in, modulo their size; the latency is what the last step gave to it that gives one; and a build
binds the counters of no profile that has nothing to do with it.
-/

namespace Detour

/-- What an account has counted. -/
def Account.traffic (a : Account) : UInt64 × UInt64 :=
  (a.up, a.down)

/-! ## Visits -/

section Visits

variable {σ : Type} [RuleSetService σ] {s s' : BuildState σ} {vs : List (Visit σ)} {id : Int64}

namespace Visit

/-- A visit marks a profile. -/
def marks (id : Int64) (v : Visit σ) : Bool :=
  v.isMarked && v.root.id == id

/-- A visit counts nothing. -/
theorem traffic_after (v : Visit σ) (id : Int64) :
    (v.after.ledger.get id).traffic = (v.state.ledger.get id).traffic := by
  rw [after]
  split
  · by_cases h : id = v.root.id
    · subst h
      simp [Ledger.setLatency, Account.traffic]
    · rw [Ledger.setLatency, Ledger.get_update_of_ne h]
  · exact (Build.composed_profile v.setup v.request v.root).kept Account.traffic
      (fun _ _ _ => rfl) v.state id

/-- And gives no latency but to the profile that it marks. -/
theorem latency_after (v : Visit σ) (id : Int64) :
    (v.after.ledger.get id).latency =
      if v.marks id then Account.unavailable else (v.state.ledger.get id).latency := by
  rw [after, marks]
  cases hmarked : v.isMarked with
  | true =>
    by_cases h : id = v.root.id
    · subst h
      simp [Ledger.setLatency]
    · have hne : (v.root.id == id) = false := by simpa using Ne.symm h
      simp [Ledger.setLatency, Ledger.get_update_of_ne h, hne]
  | false =>
    exact (Build.composed_profile v.setup v.request v.root).latency v.state id

/-- Whatever becomes of it, a visit leaves the accounts alone of profiles that have nothing to do
with the build. -/
theorem account_after {v : Visit σ} (h : Build.Unrelated v.setup v.request v.root id) :
    v.after.ledger.get id = v.state.ledger.get id := by
  rw [after]
  split
  · exact Ledger.get_update_of_ne h.ne_root _ v.state.ledger
  · exact Build.spares_profile h v.state

theorem Path.traffic (h : Path s vs s') (id : Int64) :
    (s'.ledger.get id).traffic = (s.ledger.get id).traffic := by
  induction h with
  | nil => rfl
  | @cons v rest s' _ ih => rw [ih, traffic_after]

theorem Path.account (h : Path s vs s')
    (hunrelated : ∀ v ∈ vs, Build.Unrelated v.setup v.request v.root id) :
    s'.ledger.get id = s.ledger.get id := by
  induction h with
  | nil => rfl
  | @cons v rest s' _ ih =>
    obtain ⟨hv, hrest⟩ := List.forall_mem_cons.1 hunrelated
    rw [ih hrest, account_after hv]

theorem Path.latency (h : Path s vs s') (id : Int64) :
    (s'.ledger.get id).latency =
      if vs.any (marks id) then Account.unavailable else (s.ledger.get id).latency := by
  induction h with
  | nil => rfl
  | @cons v rest s' _ ih =>
    rw [ih, latency_after, List.any_cons]
    cases v.marks id <;> cases rest.any (marks id) <;> rfl

end Visit

end Visits

/-! ## Steps -/

namespace Step

/-- The profile that a step puts in under an id. -/
def inserted? (id : Int64) : Step → Option Profile
  | .insert p => if p.id = id then some p else none
  | _ => none

/-- What a step adds to the counters of a stored profile. -/
def added (id : Int64) : Step → UInt64 × UInt64
  | .addTraffic other up down => if other = id then (up, down) else (0, 0)
  | _ => (0, 0)

/-- The steps since a profile was put in, from the last one on. -/
def since (id : Int64) (steps : List Step) : List Step :=
  steps.reverse.takeWhile fun step => (step.inserted? id).isNone

/-- What a step that builds nothing makes of the account of a profile. -/
def onAccount (id : Int64) : Step → Account → Account
  | .setLatency other ms, a => if other = id then { a with latency := ms } else a
  | .addTraffic other up down, a =>
    if other = id then { a with up := a.up + up, down := a.down + down } else a
  | .bindTraffic other tag bound, a =>
    if other = id then { a with boundId := bound, boundTag := tag } else a
  | .insert p, a => if p.id = id then {} else a
  | _, a => a

end Step

namespace World

variable {w : World} {step : Step} {id : Int64}

/-- The latency that a step gives to a profile, if it gives one. -/
def latency? (w : World) (id : Int64) : Step → Option Int32
  | .insert p => if p.id = id then some 0 else none
  | .setLatency other ms =>
    if other = id ∧ (w.setup.store.profile? id).isSome then some ms else none
  | step => if (w.visits step).any (Visit.marks id) then some Account.unavailable else none

/-- The latencies that the steps of a session give to a profile. -/
def latencies (w : World) (id : Int64) : List Step → List Int32
  | [] => []
  | step :: rest => (w.latency? id step).toList ++ (w.step step).2.latencies id rest

/-! ### The store -/

/-- Only two kinds of steps change what builds read. -/
theorem setup_step (w : World) (step : Step) :
    (w.step step).2.setup =
      match step with
      | .insert p => { w.setup with store := w.setup.store.insert p }
      | .settings s => { w.setup with settings := s }
      | _ => w.setup := by
  cases step with
  | build id request =>
    rw [snd_step_build]
    cases w.profile id <;> rfl
  | batch ids =>
    rw [snd_step_batch]
    cases w.select ids <;> rfl
  | probe ids =>
    rw [snd_step_probe]
    cases w.select ids <;> rfl
  | resolve id wrappers => rw [snd_step_resolve]
  | setLatency id ms | addTraffic id up down | bindTraffic id tag bound =>
    rw [World.step, snd_withLedger]
    cases w.profile id <;> rfl
  | allocPort => rw [World.step, state_run]
  | insert p | settings s | ruleSets s => rfl

/-- Only putting a profile in changes the store. -/
theorem store_step (w : World) (step : Step) :
    (w.step step).2.setup.store =
      match step with
      | .insert p => w.setup.store.insert p
      | _ => w.setup.store := by
  rw [setup_step]
  cases step <;> rfl

/-- So what is stored of a profile is what was put in last. -/
theorem profile?_step (w : World) (step : Step) (id : Int64) :
    (w.step step).2.setup.store.profile? id =
      (step.inserted? id).or (w.setup.store.profile? id) := by
  rw [store_step]
  cases step with
  | insert p =>
    by_cases h : p.id = id
    · subst h
      simp [Step.inserted?]
    · simp [Step.inserted?, h, Store.profile?_insert_of_ne h]
  | _ => rfl

/-! ### The ledger -/

/-- A step that changes one account of a stored profile. -/
theorem account_withLedger {other : Int64} (f : Account → Account)
    (hstored : (w.setup.store.profile? id).isSome) :
    (w.withProfile other fun p =>
        (.ok .done, w.onLedger (Ledger.update p.id f))).2.state.ledger.get id =
      if other = id then f (w.state.ledger.get id) else w.state.ledger.get id := by
  rw [snd_withLedger w other fun p => Ledger.update p.id f, profile]
  cases hp : w.setup.store.profile? other with
  | none =>
    have hne : other ≠ id := by
      rintro rfl
      rw [hp] at hstored
      cases hstored
    rw [if_neg hne]
  | some p =>
    change (Ledger.update p.id f w.state.ledger).get id = _
    rw [Store.id_of_profile? hp]
    by_cases h : other = id
    · subst h
      rw [if_pos rfl, Ledger.get_update_self]
    · rw [if_neg h, Ledger.get_update_of_ne (Ne.symm h)]

/-- What a step that builds nothing does to the account of a profile that is stored. -/
theorem account_step_of_quiet (hbuilds : step.builds = false)
    (hstored : (w.setup.store.profile? id).isSome) :
    (w.step step).2.state.ledger.get id = step.onAccount id (w.state.ledger.get id) := by
  cases step with
  | build other request | batch ids | probe ids => cases hbuilds
  | resolve other wrappers =>
    rw [snd_step_resolve]
    rfl
  | allocPort =>
    rw [World.step, state_run, Build.run_requestPort]
    rfl
  | setLatency other ms => exact account_withLedger _ hstored
  | addTraffic other up down => exact account_withLedger _ hstored
  | bindTraffic other tag bound => exact account_withLedger _ hstored
  | insert p =>
    by_cases h : p.id = id
    · subst h
      rw [Step.onAccount, if_pos rfl]
      exact Ledger.get_update_self p.id _ w.state.ledger
    · rw [Step.onAccount, if_neg h]
      exact Ledger.get_update_of_ne (Ne.symm h) _ w.state.ledger
  | settings s | ruleSets s => rfl

/-- A step counts for a stored profile what it adds to its counters. -/
theorem traffic_step (hstored : (w.setup.store.profile? id).isSome)
    (hkept : step.inserted? id = none) :
    ((w.step step).2.state.ledger.get id).up =
        (w.state.ledger.get id).up + (step.added id).1 ∧
      ((w.step step).2.state.ledger.get id).down =
        (w.state.ledger.get id).down + (step.added id).2 := by
  cases hbuilds : step.builds with
  | true =>
    obtain ⟨s₁, hpath, -, hledger⟩ := w.path_step hbuilds
    have htraffic := hpath.traffic id
    rw [hledger, Account.traffic, Account.traffic, Prod.mk.injEq] at htraffic
    -- no step that builds adds anything, whatever its visits do
    have hnothing : step.added id = (0, 0) := by
      cases step <;> first | rfl | cases hbuilds
    simp [htraffic, hnothing]
  | false =>
    rw [account_step_of_quiet hbuilds hstored]
    cases step with
    | setLatency other ms | addTraffic other up down | bindTraffic other tag bound =>
      by_cases h : other = id <;> simp [Step.onAccount, Step.added, h]
    | insert p =>
      have hne : p.id ≠ id := fun he => by simp [Step.inserted?, he] at hkept
      simp [Step.onAccount, Step.added, hne]
    | _ => simp [Step.onAccount, Step.added]

/-- And its latency is the one that the step gives to it, if it gives one. -/
theorem latency_step (hstored : (w.setup.store.profile? id).isSome)
    (hkept : step.inserted? id = none) :
    ((w.step step).2.state.ledger.get id).latency =
      (w.latency? id step).getD (w.state.ledger.get id).latency := by
  cases hbuilds : step.builds with
  | true =>
    obtain ⟨s₁, hpath, -, hledger⟩ := w.path_step hbuilds
    have hgiven : w.latency? id step =
        if (w.visits step).any (Visit.marks id) then some Account.unavailable else none := by
      cases step <;> first | rfl | cases hbuilds
    rw [← hledger, hpath.latency, hgiven]
    split <;> rfl
  | false =>
    rw [account_step_of_quiet hbuilds hstored]
    cases step with
    | build other request | batch ids | probe ids => cases hbuilds
    | setLatency other ms | addTraffic other up down | bindTraffic other tag bound =>
      by_cases h : other = id <;> simp [Step.onAccount, latency?, visits, h, hstored]
    | insert p =>
      have hne : p.id ≠ id := fun he => by simp [Step.inserted?, he] at hkept
      simp [Step.onAccount, latency?, hne]
    | _ => rfl

/-- Putting a profile in starts its account afresh. -/
theorem account_step_of_insert {p : Profile} (hput : step.inserted? id = some p) :
    (w.step step).2.state.ledger.get id = {} ∧ w.latency? id step = some 0 := by
  cases step with
  | insert q =>
    simp only [Step.inserted?] at hput
    split at hput
    · rename_i h
      subst h
      exact ⟨Ledger.get_update_self q.id _ w.state.ledger, if_pos rfl⟩
    · cases hput
  | _ => cases hput

/-! ## Sessions -/

theorem steps_concat (w : World) (steps : List Step) (step : Step) :
    (w.steps (steps ++ [step])).2 = ((w.steps steps).2.step step).2 := by
  induction steps generalizing w with
  | nil => rfl
  | cons first rest ih => rw [List.cons_append, steps_cons, steps_cons, ih]

theorem latencies_concat (w : World) (id : Int64) (steps : List Step) (step : Step) :
    w.latencies id (steps ++ [step]) =
      w.latencies id steps ++ ((w.steps steps).2.latency? id step).toList := by
  induction steps generalizing w with
  | nil => simp [latencies, World.steps]
  | cons first rest ih =>
    rw [List.cons_append, latencies, latencies, ih, steps_cons, List.append_assoc]

/-- What is stored of a profile is what the session put in last, or what was there before. -/
theorem profile?_steps (w : World) (steps : List Step) (id : Int64) :
    (w.steps steps).2.setup.store.profile? id =
      (steps.filterMap (Step.inserted? id)).getLast?.or (w.setup.store.profile? id) := by
  induction steps using List.reverseRecOn with
  | nil => rfl
  | append_singleton steps step ih =>
    rw [steps_concat, profile?_step, ih, List.filterMap_append]
    cases hput : step.inserted? id with
    | none => simp [hput]
    | some p => simp [hput]

/-- The account of a profile agrees with what a session did. -/
structure Balanced (w : World) (steps : List Step) (id : Int64) : Prop where
  /-- The counters are the sums of what was added since the profile was put in. -/
  up : ((w.steps steps).2.state.ledger.get id).up.toNat =
    ((Step.since id steps).map fun step => (step.added id).1.toNat).sum % 2 ^ 64
  down : ((w.steps steps).2.state.ledger.get id).down.toNat =
    ((Step.since id steps).map fun step => (step.added id).2.toNat).sum % 2 ^ 64
  /-- The latency is the last one that was given. -/
  latency : ((w.steps steps).2.state.ledger.get id).latency =
    (w.latencies id steps).getLast?.getD 0

theorem balanced_of_fresh (hfresh : w.state.ledger = []) {steps : List Step}
    (hstored : ((w.steps steps).2.setup.store.profile? id).isSome) : w.Balanced steps id := by
  -- from the back, since the last step decides whether those in front of it still count
  induction steps using List.reverseRecOn with
  | nil =>
    have haccount : (w.steps []).2.state.ledger.get id = {} := by
      change w.state.ledger.get id = {}
      rw [hfresh]
      rfl
    exact ⟨by rw [haccount]; rfl, by rw [haccount]; rfl, by rw [haccount]; rfl⟩
  | append_singleton steps step ih =>
    have hsince : Step.since id (steps ++ [step]) =
        if (step.inserted? id).isNone then step :: Step.since id steps else [] := by
      rw [Step.since, List.reverse_append, List.reverse_singleton, List.singleton_append,
        List.takeWhile_cons]
      rfl
    cases hput : step.inserted? id with
    | some p =>
      -- the account starts afresh, and nothing was added since then
      obtain ⟨haccount, hlatency⟩ := account_step_of_insert (w := (w.steps steps).2) hput
      have hnone : Step.since id (steps ++ [step]) = [] := by simp [hsince, hput]
      refine ⟨?_, ?_, ?_⟩
      · rw [steps_concat, haccount, hnone]
        rfl
      · rw [steps_concat, haccount, hnone]
        rfl
      · rw [steps_concat, haccount, latencies_concat, hlatency]
        simp
    | none =>
      rw [steps_concat, profile?_step, hput, Option.none_or] at hstored
      obtain ⟨hup, hdown, hlatency⟩ := ih hstored
      obtain ⟨hup', hdown'⟩ := traffic_step hstored hput
      have hmore : Step.since id (steps ++ [step]) = step :: Step.since id steps := by
        simp [hsince, hput]
      refine ⟨?_, ?_, ?_⟩
      · rw [steps_concat, hup', UInt64.toNat_add, hup, hmore, List.map_cons, List.sum_cons]
        omega
      · rw [steps_concat, hdown', UInt64.toNat_add, hdown, hmore, List.map_cons, List.sum_cons]
        omega
      · rw [steps_concat, latency_step hstored hput, hlatency, latencies_concat]
        cases (w.steps steps).2.latency? id step <;> simp

/-- A step that builds nothing binds counters only if it is there for that. -/
theorem bound_step_of_quiet (hbuilds : step.builds = false)
    (hstored : (w.setup.store.profile? id).isSome) (hkept : step.inserted? id = none)
    (hbind : ∀ tag bound, step ≠ .bindTraffic id tag bound) :
    ((w.step step).2.state.ledger.get id).boundId = (w.state.ledger.get id).boundId ∧
      ((w.step step).2.state.ledger.get id).boundTag = (w.state.ledger.get id).boundTag := by
  rw [account_step_of_quiet hbuilds hstored]
  cases step with
  | setLatency other ms | addTraffic other up down =>
    by_cases h : other = id <;> simp [Step.onAccount, h]
  | bindTraffic other tag bound =>
    have hne : other ≠ id := by
      rintro rfl
      exact hbind tag bound rfl
    simp [Step.onAccount, hne]
  | insert p =>
    have hne : p.id ≠ id := fun he => by simp [Step.inserted?, he] at hkept
    simp [Step.onAccount, hne]
  | _ => exact ⟨rfl, rfl⟩

/-- **Compiling never corrupts accounts.** At every point of a session, whatever its steps are and
however they end, the account of each stored profile is balanced, and what is stored of a profile is
what was put in last. A build leaves the whole account of a profile alone that is not its root, not
one of its hops and not selected by the active chain of rules, and so does a step with several builds;
of the other steps, only the one that is there for it binds counters. -/
theorem balanced_of_session (db : Database) (settings : Settings) (base : UInt16)
    (ruleSets : MemoryRuleSets) (steps : List Step) :
    (∀ id, (((start db settings base ruleSets).steps steps).2.setup.store.profile? id).isSome →
      (start db settings base ruleSets).Balanced steps id) ∧
    (∀ id, ((start db settings base ruleSets).steps steps).2.setup.store.profile? id =
      (steps.filterMap (Step.inserted? id)).getLast?.or ((Store.ofDatabase db).profile? id)) ∧
    (∀ v ∈ (start db settings base ruleSets).visitsAlong steps, ∀ id,
      Build.Unrelated v.setup v.request v.root id →
        v.after.ledger.get id = v.state.ledger.get id) ∧
    ∀ (w : World) (step : Step) (id : Int64),
      (step.builds = true →
        (∀ v ∈ w.visits step, Build.Unrelated v.setup v.request v.root id) →
          (w.step step).2.state.ledger.get id = w.state.ledger.get id) ∧
      (step.builds = false → (w.setup.store.profile? id).isSome → step.inserted? id = none →
        (∀ tag bound, step ≠ .bindTraffic id tag bound) →
          ((w.step step).2.state.ledger.get id).boundId = (w.state.ledger.get id).boundId ∧
            ((w.step step).2.state.ledger.get id).boundTag = (w.state.ledger.get id).boundTag) := by
  refine ⟨fun id hstored => balanced_of_fresh rfl hstored, fun id => profile?_steps _ steps id,
    fun v _ id h => Visit.account_after h, fun w step id => ⟨fun hbuilds h => ?_, ?_⟩⟩
  · obtain ⟨s₁, hpath, -, hledger⟩ := w.path_step hbuilds
    rw [← hledger]
    exact hpath.account h
  · exact bound_step_of_quiet

/-- Counters that overflow, and a chain without members that a batch marks after it was measured. -/
theorem balanced_of_session_overflow :
    ∃ w : World, w = ((start { profiles := [Setting.native, { id := 9 }], groups := [{}] } {} 20000
        {}).steps [.addTraffic 2 18446744073709551615 1, .setLatency 9 80, .batch (some [9, 2]),
          .addTraffic 2 3 1]).2 ∧
      (w.state.ledger.get 2).up.toNat = 2 ∧ (w.state.ledger.get 2).down.toNat = 2 ∧
        (w.state.ledger.get 9).latency = -1 ∧
        w.setup.store.profile? 2 = some Setting.native := by
  obtain ⟨hbalanced, hprofile, -⟩ := balanced_of_session
    { profiles := [Setting.native, { id := 9 }], groups := [{}] } {} 20000 {}
    [.addTraffic 2 18446744073709551615 1, .setLatency 9 80, .batch (some [9, 2]), .addTraffic 2 3 1]
  have hserver := hbalanced 2 (by decide +kernel)
  have hchain := hbalanced 9 (by decide +kernel)
  refine ⟨_, rfl, hserver.up.trans (by decide), hserver.down.trans (by decide),
    hchain.latency.trans (by decide +kernel), ?_⟩
  exact (hprofile 2).trans (by rfl)

end World

end Detour
