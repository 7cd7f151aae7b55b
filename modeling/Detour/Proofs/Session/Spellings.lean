import Detour.Proofs.Document.Spellings
import Detour.Session
/-!
# Sessions of spellings

Two sessions that differ in the spelling of what a user wrote at most go the same way. The relation of
their worlds is kept by every step (`Respelled.step`), so it holds along whole sessions, in which all
answers are the same; only `resolve` answers with profiles, each in the spelling of its own world.
-/

namespace Detour

/-- Two steps that differ in the spelling of what they bring in at most. -/
inductive Step.Respelled : Step → Step → Prop
  | same (step : Step) : Respelled step step
  | insert {p q : Profile} : p.Respelled q → Respelled (.insert p) (.insert q)
  | settings {s t : Settings} : s.Respelled t → Respelled (.settings s) (.settings t)

namespace World

/-- Two worlds that differ in the spelling of trees at most. -/
structure Respelled (w v : World) : Prop where
  setup : w.setup.Respelled v.setup
  state : v.state = w.state

/-- The same answer, but for the spelling of the profiles in it. -/
inductive SameAnswer : Except StepError StepResult → Except StepError StepResult → Prop
  | same (answer : Except StepError StepResult) : SameAnswer answer answer
  | resolved {hops hops' : List Profile} : List.Forall₂ Profile.Respelled hops hops' →
      SameAnswer (.ok (.resolved hops)) (.ok (.resolved hops'))

/-- Two steps end with the same answer, in worlds that differ in the spelling of trees at most. -/
structure SameOutcome (x y : Except StepError StepResult × World) : Prop where
  answer : SameAnswer x.1 y.1
  world : x.2.Respelled y.2

namespace Respelled

variable {w v : World}

/-! ## Look-ups -/

theorem withProfile (h : w.Respelled v) (id : Int64)
    {k l : Profile → Except StepError StepResult × World}
    (hkl : ∀ p q, p.Respelled q → SameOutcome (k p) (l q)) :
    SameOutcome (w.withProfile id k) (v.withProfile id l) := by
  have hfound := h.setup.store.profile? id
  simp only [World.withProfile, World.profile]
  generalize w.setup.store.profile? id = x, v.setup.store.profile? id = y at hfound ⊢
  cases hfound with
  | none => exact ⟨.same _, h⟩
  | some hpq => exact hkl _ _ hpq

/-- A missing profile is missed in both worlds. -/
theorem mapM_profile (h : w.Respelled v) (ids : List Int64) :
    (∃ e, ids.mapM w.profile = .error e ∧ ids.mapM v.profile = .error e) ∨
      ∃ ps qs, ids.mapM w.profile = .ok ps ∧ ids.mapM v.profile = .ok qs ∧
        List.Forall₂ Profile.Respelled ps qs := by
  induction ids with
  | nil => exact .inr ⟨[], [], rfl, rfl, .nil⟩
  | cons id rest ih =>
    have hfound := h.setup.store.profile? id
    simp only [List.mapM_cons, World.profile]
    generalize w.setup.store.profile? id = x, v.setup.store.profile? id = y at hfound ⊢
    cases hfound with
    | none => exact .inl ⟨_, rfl, rfl⟩
    | some hpq =>
      obtain ⟨e, hw, hv⟩ | ⟨ps, qs, hw, hv, hpqs⟩ := ih
      · exact .inl ⟨e, by rw [hw]; rfl, by rw [hv]; rfl⟩
      · exact .inr ⟨_, _, by rw [hw]; rfl, by rw [hv]; rfl, .cons hpq hpqs⟩

theorem withProfiles (h : w.Respelled v) (ids : Option (List Int64))
    {k l : List Profile → Except StepError StepResult × World}
    (hkl : ∀ ps qs, List.Forall₂ Profile.Respelled ps qs → SameOutcome (k ps) (l qs)) :
    SameOutcome (w.withProfiles ids k) (v.withProfiles ids l) := by
  unfold World.withProfiles World.select
  rw [h.setup.store.profileIds_eq]
  obtain ⟨e, hw, hv⟩ | ⟨ps, qs, hw, hv, hpqs⟩ :=
    h.mapM_profile (ids.getD w.setup.store.profileIds)
  · rw [hw, hv]
    exact ⟨.same _, h⟩
  · rw [hw, hv]
    exact hkl ps qs hpqs

/-! ## Steps -/

/-- One build takes both worlds to the same state. -/
theorem run (h : w.Respelled v) {α : Type} (result : α → StepResult)
    (b : Build MemoryRuleSets α) : SameOutcome (w.run result b) (v.run result b) := by
  unfold World.run
  rw [h.state]
  rcases b w.state with ⟨e | a, state⟩
  · exact ⟨.same _, h.setup, rfl⟩
  · exact ⟨.same _, h.setup, rfl⟩

theorem onLedger (h : w.Respelled v) (f : Ledger → Ledger) :
    (w.onLedger f).Respelled (v.onLedger f) :=
  ⟨h.setup, by rw [World.onLedger, World.onLedger, h.state]⟩

theorem insert (h : w.Respelled v) {p q : Profile} (hpq : p.Respelled q) :
    SameOutcome (w.step (.insert p)) (v.step (.insert q)) := by
  have hstore : (w.setup.store.insert p).Respelled (v.setup.store.insert q) := by
    refine ⟨List.rel_append h.setup.store.profiles (.cons hpq .nil), ?_⟩
    rw [Store.insert, h.setup.store.rest]
    rfl
  refine ⟨?_, ⟨hstore, h.setup.settings⟩, ?_⟩
  · simp only [World.step, hpq.id_eq]
    exact .same _
  · simp only [World.step, hpq.id_eq]
    exact (h.onLedger _).state

/-- **A step goes the same way in two worlds of different spelling.** -/
theorem step (h : w.Respelled v) {step step' : Step} (hstep : step.Respelled step') :
    SameOutcome (w.step step) (v.step step') := by
  cases hstep with
  | insert hpq => exact h.insert hpq
  | settings hs => exact ⟨.same _, ⟨h.setup.store, hs⟩, h.state⟩
  | same =>
    cases step with
    | build id request =>
      refine h.withProfile id fun p q hpq => ?_
      rw [h.setup.profile_eq request hpq]
      exact h.run .built _
    | batch ids =>
      refine h.withProfiles ids fun ps qs hpqs => ?_
      rw [h.setup.batch_eq hpqs]
      exact h.run .batched _
    | probe ids =>
      refine h.withProfiles ids fun ps qs hpqs => ?_
      have hprobe : Probe.all v.setup qs v.state = Probe.all w.setup ps w.state := by
        rw [Probe.all, Probe.all, h.setup.allFrom_eq hpqs, h.state]
      rw [hprobe]
      exact ⟨.same _, h.setup, rfl⟩
    | resolve id wrappers =>
      refine h.withProfile id fun p q hpq => ?_
      have hhops := h.setup.store.hops hpq wrappers
      generalize w.setup.store.hops p wrappers = x, v.setup.store.hops q wrappers = y at hhops ⊢
      cases hhops with
      | error e => exact ⟨.same _, h⟩
      | ok hps => exact ⟨.resolved hps, h⟩
    | allocPort => exact h.run .port _
    | setLatency id ms =>
      refine h.withProfile id fun p q hpq => ?_
      rw [hpq.id_eq]
      exact ⟨.same _, h.onLedger _⟩
    | addTraffic id up down =>
      refine h.withProfile id fun p q hpq => ?_
      rw [hpq.id_eq]
      exact ⟨.same _, h.onLedger _⟩
    | bindTraffic id tag bound =>
      refine h.withProfile id fun p q hpq => ?_
      rw [hpq.id_eq]
      exact ⟨.same _, h.onLedger _⟩
    | insert p => exact h.insert (.refl p)
    | settings s => exact ⟨.same _, ⟨h.setup.store, .refl s⟩, h.state⟩
    | ruleSets r => exact ⟨.same _, h.setup, by simp only [World.step, h.state]⟩

end Respelled

end World

/-! ## A setting

A world with an outbound of the user's own, an override of it, and a section of resolvers, which may
be objects or texts. -/

namespace Setting

/-- The world with some spelling of the three. -/
def spelled (config outbound resolvers : FreeForm) : World where
  setup := {
    store := { setup.store with
      profiles := [{
        id := 1, protocol := .custom { core := Custom.internalCore, config := config }
        customOutbound := outbound }] }
    settings := { routing := { useDnsObject := true, dnsObject := resolvers } } }
  state := start

/-- An object with one text. -/
def single (key value : String) : FreeForm :=
  ⟨.object [(key, .str value)], by simp [Tree.Ordered, Tree.OrderedFields]⟩

/-- A text. -/
def text (s : String) : FreeForm := ⟨.str s, trivial⟩

/-- Other spellings of the three make another spelling of the world. -/
theorem respelled_spelled {config config' outbound outbound' resolvers resolvers' : FreeForm}
    {fields : Fields} (hconfig : config.tree.Spells fields) (hconfig' : config'.tree.Spells fields)
    (houtbound : outbound.tree.SameOverride outbound'.tree)
    (hresolvers : resolvers.tree.SameOverride resolvers'.tree) :
    (spelled config outbound resolvers).Respelled (spelled config' outbound' resolvers') := by
  have hprotocol : Protocol.Respelled
      (.custom { core := Custom.internalCore, config := config })
      (.custom { core := Custom.internalCore, config := config' }) :=
    .config rfl hconfig hconfig'
  have hprofile : Profile.Respelled
      { id := 1, protocol := .custom { core := Custom.internalCore, config := config }
        customOutbound := outbound }
      { id := 1, protocol := .custom { core := Custom.internalCore, config := config' }
        customOutbound := outbound' } :=
    ⟨hprotocol, houtbound, Tree.sameOverride_iff.2 rfl, rfl⟩
  exact ⟨⟨⟨.cons hprofile .nil, rfl⟩, hresolvers, rfl⟩, rfl⟩

end Setting

/-! ## Sessions -/

namespace World

/-- **Sessions do not depend on spellings.** Whatever is built, batched, probed and resolved, in any
order and with profiles and settings coming in between, two worlds answer the same and stay in the
same state if their trees spell the same objects. An override that spells none is one more spelling
of the empty one. -/
theorem respelled_steps {w v : World} {steps steps' : List Step} (h : w.Respelled v)
    (hsteps : List.Forall₂ Step.Respelled steps steps') :
    List.Forall₂ SameAnswer (w.steps steps).1 (v.steps steps').1 ∧
      (w.steps steps).2.Respelled (v.steps steps').2 := by
  induction hsteps generalizing w v with
  | nil => exact ⟨.nil, h⟩
  | cons hstep _ ih =>
    have hone := h.step hstep
    obtain ⟨hanswers, hworld⟩ := ih hone.world
    exact ⟨.cons hone.answer hanswers, hworld⟩

/-- Two objects become texts, and the text of the empty override one that is no JSON. -/
theorem respelled_steps_text :
    List.Forall₂ SameAnswer
      ((Setting.spelled (Setting.single "type" "direct") (Setting.text "\x7b\x7d")
        (Setting.single "final" "local")).steps
          [.build 1 {}, .batch none, .probe none, .resolve 1 true]).1
      ((Setting.spelled (Setting.text "\x7b\"type\":\"direct\"\x7d") (Setting.text "none")
        (Setting.text "\x7b\"final\":\"local\"\x7d")).steps
          [.build 1 {}, .batch none, .probe none, .resolve 1 true]).1 := by
  have hconfig : Json.tree? "\x7b\"type\":\"direct\"\x7d" =
      some (.object [("type", .str "direct")]) := by
    simp only [Json.tree?, Json.read?, String.reduceToList]
    rfl
  have hresolvers : Json.tree? "\x7b\"final\":\"local\"\x7d" =
      some (.object [("final", .str "local")]) := by
    simp only [Json.tree?, Json.read?, String.reduceToList]
    rfl
  have hempty : Json.tree? "\x7b\x7d" = some (.object []) := by
    simp only [Json.tree?, Json.read?, String.reduceToList]
    rfl
  have hblank : ∀ fields, ¬ (Tree.str "none").Spells fields := by
    have hnone : Json.tree? "none" = none := by
      simp only [Json.tree?, Json.read?, String.reduceToList]
      rfl
    rintro fields (_ | hread)
    rw [hnone] at hread
    cases hread
  have houtbound : Tree.SameOverride (.str "\x7b\x7d") (.str "none") :=
    ⟨[], .object (.text hempty), .blank hblank⟩
  have hsection : Tree.SameOverride (.object [("final", .str "local")])
      (.str "\x7b\"final\":\"local\"\x7d") :=
    ⟨_, .object (.inline _), .object (.text hresolvers)⟩
  have hworlds : (Setting.spelled (Setting.single "type" "direct") (Setting.text "\x7b\x7d")
      (Setting.single "final" "local")).Respelled
        (Setting.spelled (Setting.text "\x7b\"type\":\"direct\"\x7d") (Setting.text "none")
          (Setting.text "\x7b\"final\":\"local\"\x7d")) :=
    Setting.respelled_spelled (.inline _) (.text hconfig) houtbound hsection
  exact (respelled_steps hworlds (List.forall₂_same.2 fun step _ => .same step)).1

end World

end Detour
