import Detour.Proofs.Alike
import Detour.Proofs.Session.Ports
import Detour.Proofs.Session.RuleSets
/-!
# Builds without history

A session leaves traces in the world: latencies, bindings, counters, a log of compilations, and the
order in which things came to be there. No build looks at any of them. What is looked at is a
configuration (`World.SameConfiguration`), and builds from one configuration go the same way. One
thing does move on with every bridge, the counter of ports, so a build without bridges can be repeated
at any time later, for as long as nobody configures anything: `independent_of_history`.
-/

namespace Detour

/-! ## Stores that answer alike -/

/-- Two stores that answer the same to all questions of builds. -/
structure Store.SameLookups (s t : Store) : Prop where
  profile? : ∀ id, s.profile? id = t.profile? id
  group? : ∀ id, s.group? id = t.group? id
  chain? : ∀ id, s.chain? id = t.chain? id

namespace Store.SameLookups

variable {s t : Store}

theorem member_eq (h : s.SameLookups t) (id : Int64) : s.member id = t.member id := by
  rw [member, member, h.profile?]

theorem members_eq (h : s.SameLookups t) (ids : List Int64) : s.members ids = t.members ids := by
  induction ids with
  | nil => rfl
  | cons id rest ih => rw [members, members, h.member_eq, ih]

theorem expand_eq (h : s.SameLookups t) (p : Profile) : s.expand p = t.expand p := by
  unfold expand
  split
  · exact h.members_eq _
  · rfl

theorem wrapper_eq (h : s.SameLookups t) (missing : BuildError) (id? : Option Int64) :
    s.wrapper missing id? = t.wrapper missing id? := by
  cases id? with
  | none => rfl
  | some id =>
    rw [wrapper, wrapper, h.profile?]
    cases t.profile? id with
    | none => rfl
    | some p => exact h.expand_eq p

/-- They resolve profiles to the same hops. -/
theorem hops_eq (h : s.SameLookups t) (root : Profile) (wrappers : Bool) :
    s.hops root wrappers = t.hops root wrappers := by
  simp only [hops, h.group?, h.expand_eq, h.wrapper_eq]

end Store.SameLookups

namespace Build

variable {σ : Type} {settings : Settings} {s t : Store}

theorem compileTargets_eq (h : s.SameLookups t) (settings : Settings) (seq : Nat)
    (bound : List Int64) (rank : Nat) (ids : List Int64) :
    (Target.compileFrom ⟨s, settings⟩ seq bound rank ids : Build σ (List Target)) =
      Target.compileFrom ⟨t, settings⟩ seq bound rank ids := by
  induction ids generalizing rank with
  | nil => rfl
  | cons id rest ih => simp only [Target.compileFrom, h.profile?, ih]

variable [RuleSetService σ]

/-- **A build asks its store nothing but these questions.** -/
theorem profile_eq (h : s.SameLookups t) (settings : Settings) (request : Request)
    (root : Profile) :
    (profile ⟨s, settings⟩ request root : Build σ Output) = profile ⟨t, settings⟩ request root := by
  have hrouting : ∀ bound, (Routing.compile ⟨s, settings⟩ request.seq bound : Build σ Routing) =
      Routing.compile ⟨t, settings⟩ request.seq bound := by
    intro bound
    simp only [Routing.compile, h.chain?, compileTargets_eq h]
  have hgenerate : (generate ⟨s, settings⟩ request root : Build σ Output) =
      generate ⟨t, settings⟩ request root := by
    simp only [generate, h.hops_eq, hrouting]
  simp only [profile, plain, hgenerate]

end Build

/-! ## Services that answer alike -/

theorem MemoryRuleSets.Grows.sameView {r r' : MemoryRuleSets} (h : r.Grows r') :
    RuleSetService.SameView r r' := by
  obtain ⟨names, rfl, -, -⟩ := h
  exact ⟨fun _ => rfl, rfl⟩

/-- Two services that are set up in the same way and have the same rule sets. In what order these came
to be there, and what the log says, may differ. -/
structure MemoryRuleSets.SameContent (r r' : MemoryRuleSets) : Prop where
  dir : r.dir = r'.dir
  fail : r.fail = r'.fail
  sourcesError : r.sourcesError = r'.sourcesError
  present : ∀ name, name ∈ r.present ↔ name ∈ r'.present

/-- Two states of builds that differ in their ledgers and in the histories of their services at
most. -/
structure BuildState.AgreeOffHistory (s t : BuildState MemoryRuleSets) : Prop where
  ports : s.ports = t.ports
  ruleSets : s.ruleSets.SameContent t.ruleSets

namespace MemoryRuleSets.SameContent

variable {r r' : MemoryRuleSets} {name : String}

theorem sameView (h : r.SameContent r') : RuleSetService.SameView r r' where
  path := by simp [RuleSetService.path, h.dir]
  sources := h.sourcesError

theorem isPresent_eq (h : r.SameContent r') (name : String) :
    RuleSetService.isPresent r name = RuleSetService.isPresent r' name := by
  rw [Bool.eq_iff_iff]
  simpa [RuleSetService.isPresent] using h.present name

/-- They compile a rule set with the same result, and have the same rule sets behind it. -/
theorem compile (h : r.SameContent r') (name : String) (kind : RuleSetKind) :
    (RuleSetService.compile name kind r).1 = (RuleSetService.compile name kind r').1 ∧
      (RuleSetService.compile name kind r).2.SameContent (RuleSetService.compile name kind r').2 := by
  simp only [RuleSetService.compile, MemoryRuleSets.compile]
  have hfail := h.fail
  cases hr : r'.fail with
  | some message =>
    rw [hr] at hfail
    rw [hfail]
    exact ⟨rfl, h⟩
  | none =>
    rw [hr] at hfail
    rw [hfail]
    refine ⟨rfl, h.dir, rfl, h.sourcesError, fun name' => ?_⟩
    simp only [List.mem_append, h.present name']

end MemoryRuleSets.SameContent

namespace Build

variable {α : Type} {b : Build MemoryRuleSets α}

/-- **No step of a build looks at the history.** -/
theorem Composed.related_history (hb : Composed b) :
    Related BuildState.AgreeOffHistory Eq b b := by
  induction hb with
  | pure a => exact .pure rfl
  | throw e => exact .throw e
  | bind _ _ ihx ihf =>
    refine ihx.bind fun a a' haa => ?_
    rw [← haa]
    exact ihf a
  | requestPort =>
    intro s t h
    rw [run_requestPort, run_requestPort, h.ports]
    exact ⟨EndAlike.eq_iff.2 rfl, rfl, h.ruleSets⟩
  | ensureRuleSet name =>
    intro s t h
    rw [run_ensureRuleSet, run_ensureRuleSet, h.ruleSets.isPresent_eq]
    split
    · exact ⟨.ok rfl, h⟩
    · -- compiling looks at what the service is told to refuse, not at its log
      obtain ⟨hresult, hafter⟩ := h.ruleSets.compile name (RuleSetKind.ofName name)
      exact ⟨EndAlike.eq_iff.2 (congrArg (Except.mapError BuildError.ruleSet) hresult), h.ports,
        hafter⟩
  | readRuleSets hread _ ih =>
    refine .readState fun s t h => ?_
    rw [hread s t h.ruleSets.sameView]
    exact ih t
  | bindCounter id tag => exact fun s t h => ⟨.ok rfl, h.ports, h.ruleSets⟩

/-! ## Builds that are repeated -/

/-- What a build resulted in without a port, it results in again, wherever its rule sets are still
there. -/
theorem Composed.repeats (hb : Composed b) {s s' t : BuildState MemoryRuleSets} {a : α}
    (hr : run b s = (.ok a, s')) (hports : s'.ports.next = s.ports.next)
    (hgrows : s'.ruleSets.Grows t.ruleSets) :
    ∃ t', run b t = (.ok a, t') ∧ t'.ruleSets = t.ruleSets := by
  induction hb generalizing s s' t with
  | pure a' =>
    cases hr
    exact ⟨t, rfl, rfl⟩
  | throw e => cases hr
  | @bind _ _ x f hx hf ihx ihf =>
    obtain ⟨a₁, s₁, hfirst, hrest⟩ := run_bind_eq_ok.1 hr
    -- the counter only goes up, so neither part has taken a port
    have hle := hx.next_le s
    have hle' := (hf a₁).next_le s₁
    have hmore := (hf a₁).grows s₁
    rw [hfirst] at hle
    rw [hrest] at hle' hmore
    dsimp only at hle hle' hmore
    obtain ⟨t₁, ht₁, he₁⟩ := ihx hfirst (by omega) (hmore.trans hgrows)
    obtain ⟨t₂, ht₂, he₂⟩ := ihf a₁ hrest (by omega) (he₁ ▸ hgrows)
    exact ⟨t₂, run_bind_eq_ok.2 ⟨a₁, t₁, ht₁, ht₂⟩, he₂.trans he₁⟩
  | requestPort =>
    rw [run_requestPort] at hr
    rcases s.ports.request_cases with ⟨hreq, -⟩ | ⟨-, -, hreq⟩
    · rw [hreq] at hr
      cases hr
    · rw [hreq] at hr
      cases hr
      simp at hports
  | ensureRuleSet name =>
    have hpresent := hgrows.present_extends.subset (present_of_ensureRuleSet hr)
    have hthere : RuleSetService.isPresent t.ruleSets name = true := List.contains_iff_mem.2 hpresent
    refine ⟨t, ?_, rfl⟩
    rw [run_ensureRuleSet, if_pos hthere]
  | @readRuleSets _ f hread hf ih =>
    have hget : ∀ u : BuildState MemoryRuleSets, run (get >>= f) u = run (f u) u := fun _ => rfl
    rw [hget] at hr ⊢
    have hgrown := (hf s).grows s
    rw [hr] at hgrown
    have hview : RuleSetService.SameView s.ruleSets t.ruleSets := (hgrown.trans hgrows).sameView
    rw [← hread s t hview]
    exact ih s hr hports hgrows
  | bindCounter id tag =>
    cases hr
    exact ⟨_, rfl, rfl⟩

end Build

/-! ## Sessions -/

/-- A step changes what builds read: what is stored, the settings, or the service of rule sets. -/
def Step.configures : Step → Bool
  | .insert _ | .settings _ | .ruleSets _ => true
  | _ => false

namespace World

variable {w v : World} {id : Int64} {request : Request}

/-- Two worlds with one configuration: the same is stored and set, the counters of ports stand in one
place, and the services have the same rule sets. All that a session leaves behind may differ. -/
structure SameConfiguration (w v : World) : Prop where
  store : w.setup.store.SameLookups v.setup.store
  settings : w.setup.settings = v.setup.settings
  state : w.state.AgreeOffHistory v.state

namespace SameConfiguration

/-- One build goes the same way in both. -/
theorem run (h : w.SameConfiguration v) {b : Build MemoryRuleSets Output}
    (hb : Build.Composed b) :
    (w.run .built b).1 = (v.run .built b).1 ∧
      (w.run .built b).2.SameConfiguration (v.run .built b).2 := by
  obtain ⟨hend, hstate⟩ := hb.related_history w.state v.state h.state
  rw [fst_run, fst_run, state_run, state_run, EndAlike.eq_iff.1 hend]
  exact ⟨rfl, h.store, h.settings, hstate⟩

/-- **Builds from one configuration end with one answer**, in worlds of one configuration. -/
theorem build (h : w.SameConfiguration v) (id : Int64) (request : Request) :
    (w.step (.build id request)).1 = (v.step (.build id request)).1 ∧
      (w.step (.build id request)).2.SameConfiguration (v.step (.build id request)).2 := by
  have hprofile : w.profile id = v.profile id := by
    rw [profile, profile, h.store.profile?]
  have hbuild : ∀ p, (Build.profile w.setup request p : Build MemoryRuleSets Output) =
      Build.profile v.setup request p := by
    intro p
    have hsettings : v.setup = ⟨v.setup.store, w.setup.settings⟩ := by rw [h.settings]
    rw [hsettings]
    exact Build.profile_eq h.store w.setup.settings request p
  simp only [step, withProfile, hprofile, hbuild]
  cases v.profile id with
  | error e => exact ⟨rfl, h⟩
  | ok p => exact h.run (Build.composed_profile v.setup request p)

end SameConfiguration

/-- Steps that configure nothing leave the setup alone. -/
theorem setup_steps (w : World) {steps : List Step}
    (hquiet : ∀ step ∈ steps, step.configures = false) : (w.steps steps).2.setup = w.setup := by
  induction steps generalizing w with
  | nil => rfl
  | cons step rest ih =>
    have hstep := hquiet step List.mem_cons_self
    rw [steps_cons, ih _ fun s hs => hquiet s (List.mem_cons_of_mem step hs), setup_step]
    cases step with
    | insert p | settings s => cases hstep
    | _ => rfl

/-- A build that bridges no hop is the same again, until somebody configures something. -/
theorem build_again {o : Output} {steps : List Step}
    (hbuilt : (w.step (.build id request)).1 = .ok (.built o))
    (hnative : ∀ p, w.setup.store.profile? id = some p → ¬ w.setup.Bridges request p)
    (hquiet : ∀ step ∈ steps, step.configures = false) :
    (((w.step (.build id request)).2.steps steps).2.step (.build id request)).1 =
      .ok (.built o) := by
  cases hp : w.setup.store.profile? id with
  | none =>
    have hmissing : w.profile id = .error (.profileMissing id) := by rw [profile, hp]
    rw [step, withProfile, hmissing] at hbuilt
    cases hbuilt
  | some p =>
    have hr := run_of_build hbuilt hp
    have hports := Build.portless_profile (hnative p hp) w.state
    rw [hr] at hports
    have hone : ∀ r, Step.ruleSets r ∉ steps := by
      intro r hr
      cases hquiet _ hr
    have hgrows := grows_steps (w.step (.build id request)).2 hone
    have hsetup := (w.step (.build id request)).2.setup_steps hquiet
    rw [setup_step] at hsetup
    obtain ⟨t', hagain, -⟩ := (Build.composed_profile w.setup request p).repeats hr
      (congrArg PortCounter.next hports) hgrows
    have hprofile : ((w.step (.build id request)).2.steps steps).2.profile id = .ok p := by
      rw [profile, hsetup, hp]
    rw [step, withProfile, hprofile]
    dsimp only
    rw [fst_run, hsetup, hagain]
    rfl

/-- **A build depends on the configuration and on nothing else.** In two worlds of one configuration
every build gives the same answer, whether a document or an error, and leaves worlds of one
configuration; their accounts and logs may differ in any way. A build that succeeds and bridges no
hop gives the same answer also at any later point, if what lies between configures nothing. -/
theorem independent_of_history :
    (∀ w v : World, w.SameConfiguration v → ∀ (id : Int64) (request : Request),
      (w.step (.build id request)).1 = (v.step (.build id request)).1 ∧
        (w.step (.build id request)).2.SameConfiguration (v.step (.build id request)).2) ∧
    (∀ (w : World) (id : Int64) (request : Request) (o : Output) (steps : List Step),
      (w.step (.build id request)).1 = .ok (.built o) →
      (∀ p, w.setup.store.profile? id = some p → ¬ w.setup.Bridges request p) →
      (∀ step ∈ steps, step.configures = false) →
        (((w.step (.build id request)).2.steps steps).2.step (.build id request)).1 =
          .ok (.built o)) :=
  ⟨fun _ _ h id request => h.build id request,
    fun _ _ _ _ _ hbuilt hnative hquiet => build_again hbuilt hnative hquiet⟩

/-- A world in which both rule sets of the chain were there from the start. -/
def supplied : World :=
  start Setting.listed {} 20000 { present := ["geosite-ir", "geoip-ir_IP"] }

/-- A world that has come to have them in the course of a session, in the other order. -/
def wornIn : World :=
  ((start Setting.listed {} 20000 { present := ["geoip-ir_IP"] }).steps
    [.setLatency 2 30, .build 2 { test := true, seq := 4 }, .addTraffic 2 5 6]).2

theorem sameConfiguration_wornIn : supplied.SameConfiguration wornIn := by
  have hruleSets : wornIn.state.ruleSets =
      { present := ["geoip-ir_IP", "geosite-ir"], compiled := ["site:geosite-ir"] } := by
    decide +kernel
  refine ⟨⟨fun _ => rfl, fun _ => rfl, fun _ => rfl⟩, rfl, by decide +kernel, ?_⟩
  rw [hruleSets]
  refine ⟨rfl, rfl, rfl, fun name => ?_⟩
  simp [supplied, start, or_comm]

/-- The native server of the setting is not bridged. -/
theorem not_bridges_supplied {p : Profile} (hp : supplied.setup.store.profile? 2 = some p) :
    ¬ supplied.setup.Bridges {} p := by
  rintro ⟨-, ps, hps, i, q, hq, hbridged⟩
  cases hp
  cases hps
  have hnative : q = Setting.native := by
    simpa using List.mem_of_getElem? hq
  rw [hnative] at hbridged
  cases hbridged

/-- The document that the two worlds build is built again after a batch, a probe and the rest. -/
theorem independent_of_history_wornIn :
    ∃ o, (supplied.step (.build 2 {})).1 = .ok (.built o) ∧
      (wornIn.step (.build 2 {})).1 = .ok (.built o) ∧
      (((supplied.step (.build 2 {})).2.steps
        [.allocPort, .batch none, .setLatency 2 7, .probe none]).2.step (.build 2 {})).1 =
          .ok (.built o) := by
  obtain ⟨o, s', hr⟩ := Build.exists_run_eq_ok
    (b := Build.profile supplied.setup {} Setting.native) (s := supplied.state) (by decide +kernel)
  have hbuilt : (supplied.step (.build 2 {})).1 = .ok (.built o) := by
    have hprofile : supplied.profile 2 = .ok Setting.native := rfl
    rw [step, withProfile, hprofile]
    dsimp only
    rw [fst_run, hr]
    rfl
  obtain ⟨hsame, -⟩ := independent_of_history.1 _ _ sameConfiguration_wornIn 2 {}
  refine ⟨o, hbuilt, hsame ▸ hbuilt, ?_⟩
  exact independent_of_history.2 _ 2 {} o _ hbuilt (fun _ hp => not_bridges_supplied hp)
    (by simp [Step.configures])

end World

end Detour
