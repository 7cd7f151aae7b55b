import Detour.Proofs.Alike
import Detour.Proofs.Document.Built
/-!
# Twins in two sequences

A profile may be built in two sequences, from one state. Nothing on the way asks for the sequence
but the tags, so the two builds run alike: each hop and each target has a twin in the other sequence,
and what has none, the chain of rules and the rule sets, is the same in both. `alike_profile` says
this of whole builds.
-/

namespace Detour

variable {σ : Type} {settings : Settings} {setup : Setup} {s t rank index length : Nat}
  {p root : Profile} {tag tag' : String} {nearest : Bool} {ps : List Profile}

/-- Compiling a profile under two tags ends alike. -/
theorem endAlike_compileNative (settings : Settings) (p : Profile) (tag tag' : String) :
    EndAlike (fun own own' => compileNative settings p tag = .ok own ∧
        compileNative settings p tag' = .ok own')
      (compileNative settings p tag) (compileNative settings p tag') := by
  unfold compileNative
  extract_lets needsElevation
  by_cases he : needsElevation = true
  · rw [if_pos he, if_pos he]
    exact .error _
  · rw [if_neg he, if_neg he]
    cases p.protocol.nativeOutbound settings with
    | error e => exact .error e
    | ok own =>
      cases own with
      | nil => exact .error _
      | cons kv rest => exact .ok ⟨rfl, rfl⟩

/-! ## Hops -/

namespace Hop

/-- A profile compiled under two tags: natively both times, or as bridges with the same ports. -/
inductive Twin (settings : Settings) (p : Profile) (tag tag' : String) (nearest : Bool) :
    Hop → Hop → Prop
  | native {own own' : Fields} :
      p.protocol.bridging nearest settings.vpn.enabled = .native →
      compileNative settings p tag = .ok own → compileNative settings p tag' = .ok own' →
      Twin settings p tag tag' nearest (ofNative p tag own) (ofNative p tag' own')
  | bridged {mode : Bridging} {ports : Bridge.Ports} {helper : Descriptor} :
      p.protocol.bridging nearest settings.vpn.enabled = mode → mode.isBridged = true →
      Bridge.descriptor settings ports mode p.protocol = .ok helper →
      Twin settings p tag tag' nearest (ofBridge p tag mode ports helper)
        (ofBridge p tag' mode ports helper)

namespace Twin

variable {h h' : Hop}

theorem compiled (ht : Twin settings p tag tag' nearest h h') :
    Compiled settings p tag nearest h := by
  cases ht with
  | native hmode hown _ => exact .native hmode hown
  | bridged hmode hb hdesc => exact .bridged hmode hb hdesc

theorem profile_eq (ht : Twin settings p tag tag' nearest h h') : h'.profile = h.profile := by
  cases ht <;> rfl

end Twin

/-- The hops of a chain in two sequences, from a position on. -/
inductive Twins (settings : Settings) (s t length : Nat) :
    Nat → List Profile → List Hop → List Hop → Prop
  | nil {index : Nat} : Twins settings s t length index [] [] []
  | cons {index : Nat} {p : Profile} {rest : List Profile} {h h' : Hop} {hops hops' : List Hop} :
      Twin settings p (Tag.hop s p.id index length) (Tag.hop t p.id index length)
        (index + 1 == length) h h' →
      Twins settings s t length (index + 1) rest hops hops' →
      Twins settings s t length index (p :: rest) (h :: hops) (h' :: hops')

/-- Twins are of the same profiles. -/
theorem Twins.map_profile {hops hops' : List Hop}
    (ht : Twins settings s t length index ps hops hops') :
    hops'.map profile = hops.map profile := by
  induction ht with
  | nil => rfl
  | cons hhead _ ih => rw [List.map_cons, List.map_cons, ih, hhead.profile_eq]

/-- At the position of a hop there is a profile, which the hop is named after. -/
theorem Twins.exists_tag {hops hops' : List Hop} {h : Hop} {i : Nat}
    (ht : Twins settings s t length index ps hops hops') (hi : hops[i]? = some h) :
    ∃ p, ps[i]? = some p ∧ h.tag = Tag.hop s p.id (index + i) length := by
  induction ht generalizing i with
  | nil => cases hi
  | @cons index p rest _ _ _ _ hhead _ ih =>
    cases i with
    | zero =>
      cases hi
      exact ⟨p, rfl, hhead.compiled.place.2.1⟩
    | succ i =>
      obtain ⟨q, hq, htag⟩ := ih hi
      exact ⟨q, hq, by rwa [Nat.add_right_comm, Nat.add_assoc] at htag⟩

theorem alike_compileDirect (tag tag' : String)
    (hmode : p.protocol.bridging nearest settings.vpn.enabled = .native) :
    Build.Alike (fun h h' => Twin settings p tag tag' nearest (overridden h) (overridden h'))
      (compileDirect settings p tag : Build σ Hop) (compileDirect settings p tag') :=
  (Build.Alike.ofExcept (endAlike_compileNative settings p tag tag')).bind
    fun _ _ hown => (Build.Alike.onLedger _ _).bind
      fun _ _ _ => .pure (.native hmode hown.1 hown.2)

variable [RuleSetService σ]

/-- The ports of a bridge and its helper do not depend on the tag. -/
theorem alike_compileBridged {mode : Bridging} (tag tag' : String)
    (hmode : p.protocol.bridging nearest settings.vpn.enabled = mode)
    (hbridged : mode.isBridged = true) :
    Build.Alike (fun h h' => Twin settings p tag tag' nearest (overridden h) (overridden h'))
      (compileBridged settings p tag mode : Build σ Hop) (compileBridged settings p tag' mode) := by
  refine (Build.Alike.of_composed (Build.composed_pickPort _)).bind ?_
  rintro mapping _ rfl
  refine (Build.Alike.of_composed (Build.composed_pickPort _)).bind ?_
  rintro socks _ rfl
  refine (Build.Alike.ofExcept (EndAlike.refl _)).bind ?_
  rintro _ raw ⟨hdesc, rfl⟩
  have htwin : Twin settings p tag tag' nearest (ofBridge p tag mode ⟨mapping, socks⟩ raw)
      (ofBridge p tag' mode ⟨mapping, socks⟩ raw) := .bridged hmode hbridged hdesc
  exact (Build.Alike.onLedger _ _).bind fun _ _ _ => .pure htwin

/-- However a hop is realised, the sequence only names it. -/
theorem alike_compile (settings : Settings) (p : Profile) (tag tag' : String) (nearest : Bool) :
    Build.Alike (Twin settings p tag tag' nearest)
      (compile settings p tag nearest : Build σ Hop) (compile settings p tag' nearest) := by
  unfold compile
  split
  · exact .throw _
  · rename_i hmode
    exact (alike_compileDirect tag tag' hmode).map fun _ _ h => h
  · rename_i hu hn
    exact (alike_compileBridged tag tag' rfl (Bridging.isBridged_of_ne hu hn)).map fun _ _ h => h

theorem alike_compileFrom (settings : Settings) (s t length index : Nat) (ps : List Profile) :
    Build.Alike (Twins settings s t length index ps)
      (compileFrom settings s length index ps : Build σ (List Hop))
      (compileFrom settings t length index ps) := by
  induction ps generalizing index with
  | nil => exact .pure .nil
  | cons p rest ih =>
    exact (alike_compile settings p _ _ _).bind fun _ _ hhead => (ih (index + 1)).bind
      fun _ _ htail => .pure (.cons hhead htail)

end Hop

/-! ## Targets and routing -/

/-- The targets of some ids in two sequences, from a rank on. -/
inductive Target.Twins (setup : Setup) (s t : Nat) :
    Nat → List Int64 → List Target → List Target → Prop
  | nil {rank : Nat} : Twins setup s t rank [] [] []
  | cons {rank : Nat} {id : Int64} {rest : List Int64} {p : Profile} {own own' : Fields}
      {targets targets' : List Target} :
      setup.store.profile? id = some p →
      compileNative setup.settings p (Tag.routeTarget s rank) = .ok own →
      compileNative setup.settings p (Tag.routeTarget t rank) = .ok own' →
      Twins setup s t (rank + 1) rest targets targets' →
      Twins setup s t rank (id :: rest) (⟨p, Tag.routeTarget s rank, own⟩ :: targets)
        (⟨p, Tag.routeTarget t rank, own'⟩ :: targets')

theorem Target.alike_compileFrom (setup : Setup) (s t : Nat) (bound : List Int64) (rank : Nat)
    (ids : List Int64) :
    Build.Alike (Target.Twins setup s t rank ids)
      (Target.compileFrom setup s bound rank ids : Build σ (List Target))
      (Target.compileFrom setup t bound rank ids) := by
  induction ids generalizing rank with
  | nil => exact .pure .nil
  | cons id rest ih =>
    unfold Target.compileFrom
    split
    · exact .throw _
    · rename_i p hp
      refine (Build.Alike.ofExcept (endAlike_compileNative setup.settings p _ _)).bind
        fun own own' hown => ?_
      have hrest := (ih (rank + 1)).bind (S := Target.Twins setup s t rank (id :: rest))
        fun _ _ htail => .pure (.cons hp hown.1 hown.2 htail)
      split
      · exact hrest
      · exact (Build.Alike.onLedger _ _).bind fun _ _ _ => hrest

/-- The routing of a document in two sequences. -/
structure Routing.Twin (setup : Setup) (s t : Nat) (r r' : Routing) : Prop where
  active : setup.store.chain? setup.settings.routing.currentRouteId = some r.chain
  chain : r'.chain = r.chain
  ruleSets : r'.ruleSets = r.ruleSets
  targets : Target.Twins setup s t 0 (Routing.targetIds r.chain) r.targets r'.targets

variable [RuleSetService σ]

/-- Routing leaves the sequence to its targets. -/
theorem Routing.alike_compile (setup : Setup) (s t : Nat) (bound : List Int64) :
    Build.Alike (Routing.Twin setup s t)
      (Routing.compile setup s bound : Build σ Routing) (Routing.compile setup t bound) := by
  refine .readState fun s₁ s₂ hs => ?_
  rw [hs.ruleSets]
  split
  · dsimp only
    split
    · exact (Build.Alike.throw (R := fun _ _ => False) _).bind fun _ _ h => h.elim
    · exact .throw _
  · rename_i chain hchain
    have hrest : Build.Alike (Routing.Twin setup s t)
        (do
          let targets ← Target.compileFrom setup s bound 0 (Routing.targetIds chain)
          let ruleSets ← Build.ruleSetEntries chain.usedRuleSets
          pure { chain := chain, targets := targets, ruleSets := ruleSets } : Build σ Routing)
        (do
          let targets ← Target.compileFrom setup t bound 0 (Routing.targetIds chain)
          let ruleSets ← Build.ruleSetEntries chain.usedRuleSets
          pure { chain := chain, targets := targets, ruleSets := ruleSets }) :=
      (Target.alike_compileFrom setup s t bound 0 _).bind fun _ _ htargets =>
        (Build.Alike.of_composed (Build.composed_ruleSetEntries _)).bind fun _ _ hsets =>
          .pure ⟨hchain, rfl, hsets.symm, htargets⟩
    dsimp only
    split
    · exact (Build.Alike.throw (R := fun _ _ => False) _).bind fun _ _ h => h.elim
    · exact hrest

/-! ## Builds -/

/-- What the build of a profile in two sequences is put together from. -/
structure Document.Twins (setup : Setup) (request : Request) (root : Profile) (s t : Nat)
    (ps : List Profile) (hops hops' : List Hop) (r r' : Routing) : Prop where
  resolved : setup.store.hops root (!request.test) = .ok ps
  hops : Hop.Twins setup.settings s t ps.length 0 ps hops hops'
  routing : Routing.Twin setup s t r r'

/-- Two outputs are those of twins, apart from the override of the profile. -/
def Output.Twins (setup : Setup) (request : Request) (root : Profile) (s t : Nat)
    (o o' : Output) : Prop :=
  ∃ ps hops hops' r r', Document.Twins setup request root s t ps hops hops' r r' ∧
    o = Document.assemble setup.settings request root hops r ∧
    o' = Document.assemble setup.settings request root hops' r'

/-- An output with the override of a profile merged in. -/
def Output.overriddenBy (root : Profile) (o : Output) : Output :=
  { o with document := o.document.merge (.object root.customConfig.tree.override) }

/-- Without an override nothing is merged in. -/
theorem Output.overriddenBy_eq_self {o : Output} (h : root.customConfig.tree.override = []) :
    o.overriddenBy root = o := by
  rw [overriddenBy, h, Tree.merge_empty]

namespace Build

theorem alike_generate (setup : Setup) (request : Request) (root : Profile) (s t : Nat) :
    Alike (Output.Twins setup request root s t)
      (generate setup { request with seq := s } root : Build σ Output)
      (generate setup { request with seq := t } root) := by
  refine (Alike.ofExcept (EndAlike.refl _)).bind ?_
  rintro _ ps ⟨hps, rfl⟩
  refine (Hop.alike_compileFrom setup.settings s t ps.length 0 ps).bind fun hops hops' hhops => ?_
  -- counters are bound to the same profiles, since the hops are of the same ones
  have hprofiles := hhops.map_profile
  have hlength : hops'.length = hops.length := by
    simpa using congrArg List.length hprofiles
  have htraffic : Document.traffic root hops' [] = Document.traffic root hops [] := by
    have hids : hops'.map (fun h => h.profile.id) = hops.map fun h => h.profile.id := by
      have := congrArg (List.map Profile.id) hprofiles
      rwa [List.map_map, List.map_map] at this
    rw [Document.traffic, Document.traffic, hids, hlength]
  have hrest : Alike (Output.Twins setup request root s t)
      (do
        let routing ← Routing.compile setup s (Document.traffic root hops [])
        pure (Document.assemble setup.settings request root hops routing) : Build σ Output)
      (do
        let routing ← Routing.compile setup t (Document.traffic root hops' [])
        pure (Document.assemble setup.settings request root hops' routing)) := by
    rw [htraffic]
    exact (Routing.alike_compile setup s t _).bind fun r r' hr =>
      .pure ⟨ps, hops, hops', r, r', ⟨hps, hhops, hr⟩, rfl, rfl⟩
  rw [hlength]
  split
  · exact (Alike.onLedger _ _).bind fun _ _ _ => hrest
  · exact hrest

/-- A whole document of the user's own is the same in both sequences. -/
theorem alike_profile_of_full (setup : Setup) (request : Request) (s t : Nat)
    (hroot : root.isFullDocument = true) :
    Alike Eq (profile setup { request with seq := s } root : Build σ Output)
      (profile setup { request with seq := t } root) := by
  obtain ⟨c, hc, hfull⟩ := Profile.exists_custom_of_full hroot
  have hsame : (profile setup { request with seq := s } root : Build σ Output) =
      profile setup { request with seq := t } root := by
    simp only [profile, plain, hc, hfull, if_true]
  rw [hsame]
  exact .of_composed (composed_profile setup _ root)

/-- **The builds of a profile in two sequences run alike**, and what they result in are twins. -/
theorem alike_profile (setup : Setup) (request : Request) (s t : Nat)
    (hroot : root.isFullDocument = false) :
    Alike (fun o o' => ∃ plain plain', Output.Twins setup request root s t plain plain' ∧
        o = plain.overriddenBy root ∧ o' = plain'.overriddenBy root)
      (profile setup { request with seq := s } root : Build σ Output)
      (profile setup { request with seq := t } root) := by
  unfold profile
  rw [plain_eq_generate hroot, plain_eq_generate hroot]
  exact (alike_generate setup request root s t).bind fun plain plain' h =>
    .pure ⟨plain, plain', h, rfl, rfl⟩

end Build

end Detour
