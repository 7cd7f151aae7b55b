import Detour.Proofs.Alike
import Detour.Proofs.Tree.Fields
import Mathlib.Data.List.Forall2
/-!
# Spellings of trees

What a user writes is stored as an object or as the text of one. `Profile.Respelled` relates two
profiles that have the same content in different spellings: their overrides, and the configurations
that the core reads by itself, spell the same objects, and an override that spells no object counts
as the empty one. The store resolves a profile to hops that are respelled in turn, and compiles them
to the same outbounds and helpers, with the same effects.
-/

namespace Detour

/-! ## Trees -/

namespace Tree

/-- The ways to store an object: as it is, or as a JSON text that reads as it. -/
inductive Spells : Tree → Fields → Prop
  | inline (fields : Fields) : Spells (.object fields) fields
  | text {text : String} {fields : Fields} :
      Json.tree? text = some (.object fields) → Spells (.str text) fields

/-- The ways to store an override. Whatever stores no object stands for the empty one. -/
inductive SpellsOverride : Tree → Fields → Prop
  | object {t : Tree} {fields : Fields} : t.Spells fields → SpellsOverride t fields
  | blank {t : Tree} : (∀ fields, ¬ t.Spells fields) → SpellsOverride t []

/-- A tree spells the object that it holds, and no other one. -/
theorem spells_iff {t : Tree} {fields : Fields} :
    t.Spells fields ↔ t.heldObject? = some fields := by
  constructor
  · rintro (_ | hread)
    · rfl
    · exact Option.bind_eq_some_iff.2 ⟨_, hread, rfl⟩
  · intro h
    cases t with
    | object own =>
      cases h
      exact .inline fields
    | str text =>
      obtain ⟨held, hread, hheld⟩ := Option.bind_eq_some_iff.1 h
      exact .text (fields?_eq_some_iff.1 hheld ▸ hread)
    | _ => cases h

/-- A tree spells the override that it comes to. -/
theorem spellsOverride_iff {t : Tree} {fields : Fields} :
    t.SpellsOverride fields ↔ t.override = fields := by
  unfold override
  cases hheld : t.heldObject? with
  | some own =>
    constructor
    · rintro (hspells | hblank)
      · rw [spells_iff.1 hspells] at hheld
        exact (Option.some.inj hheld).symm
      · exact absurd (spells_iff.2 hheld) (hblank own)
    · rintro rfl
      exact .object (spells_iff.2 hheld)
  | none =>
    have hblank : ∀ own, ¬ t.Spells own := fun own hspells => by
      rw [spells_iff.1 hspells] at hheld
      cases hheld
    constructor
    · rintro (hspells | _)
      · exact absurd hspells (hblank fields)
      · rfl
    · rintro rfl
      exact .blank hblank

/-- Two trees spell one override. -/
def SameOverride (t u : Tree) : Prop :=
  ∃ fields, t.SpellsOverride fields ∧ u.SpellsOverride fields

/-- So two trees spell one override if they come to one. -/
theorem sameOverride_iff {t u : Tree} : t.SameOverride u ↔ u.override = t.override := by
  simp [SameOverride, spellsOverride_iff]

end Tree

/-! ## Protocols -/

namespace Protocol

/-- Two protocols that differ in the spelling of a configuration at most, which no external core
gets to see. -/
inductive Respelled : Protocol → Protocol → Prop
  | same (p : Protocol) : Respelled p p
  | config {c : Custom} {config : FreeForm} {fields : Fields} :
      c.isInternal = true → c.config.tree.Spells fields → config.tree.Spells fields →
      Respelled (.custom c) (.custom { c with config := config })

namespace Respelled

variable {p q : Protocol}

/-- What looks at a configuration only for the object that it holds makes no difference between two
spellings. -/
theorem eq_of {α : Type} (h : p.Respelled q) (f : Protocol → α)
    (hf : ∀ (c : Custom) (config : FreeForm), c.isInternal = true →
      config.tree.heldObject? = c.config.tree.heldObject? →
        f (.custom { c with config := config }) = f (.custom c)) : f q = f p := by
  cases h with
  | same => rfl
  | config hinternal hown hother =>
    exact hf _ _ hinternal ((Tree.spells_iff.1 hother).trans (Tree.spells_iff.1 hown).symm)

/-- A configuration is no part of what a protocol is called, of where it dials, or of how it is realised.
-/
theorem isChain_eq (h : p.Respelled q) : q.isChain = p.isChain :=
  h.eq_of _ fun _ _ _ _ => rfl

theorem name_eq (h : p.Respelled q) : q.name = p.name :=
  h.eq_of _ fun _ _ _ _ => rfl

/-- How a hop is realised hangs on the server and the core alone. -/
theorem bridging_eq (h : p.Respelled q) (nearest vpn : Bool) :
    q.bridging nearest vpn = p.bridging nearest vpn :=
  h.eq_of (fun r => r.bridging nearest vpn) fun _ _ _ _ => rfl

theorem isFullDocument_eq (h : p.Respelled q) : q.isFullDocument = p.isFullDocument :=
  h.eq_of _ fun _ _ _ _ => rfl

/-- A configuration is checked for the object that it holds. -/
theorem isValid_eq (h : p.Respelled q) : q.isValid = p.isValid :=
  h.eq_of _ fun _ _ _ hheld => by
    simp only [isValid, Custom.configObject?, hheld]
    rfl

theorem dialAddress_eq (h : p.Respelled q) : q.dialAddress = p.dialAddress :=
  h.eq_of _ fun _ _ _ hheld => by
    simp only [dialAddress, namedServer?, Custom.configObject?, hheld, endpoint]

/-- A protocol that is bridged has a single spelling. -/
theorem eq_of_bridged (h : p.Respelled q) {nearest vpn : Bool}
    (hmode : p.bridging nearest vpn ≠ .native) : q = p := by
  cases h with
  | same => rfl
  | config hinternal _ _ => exact absurd (by simp [bridging, hinternal]) hmode

/-- A configuration of the user's own is respelled to one for the same core. -/
theorem exists_custom {c : Custom} (h : Respelled (.custom c) q) :
    ∃ config : FreeForm, q = .custom { c with config := config } ∧
      ({ c with config := config } : Custom).configObject? = c.configObject? := by
  cases h with
  | same => exact ⟨c.config, rfl, rfl⟩
  | config _ hown hother =>
    exact ⟨_, rfl, (Tree.spells_iff.1 hother).trans (Tree.spells_iff.1 hown).symm⟩

end Respelled

end Protocol

/-! ## Profiles and settings -/

/-- Two profiles that differ in the spelling of their trees at most. -/
structure Profile.Respelled (p q : Profile) : Prop where
  protocol : p.protocol.Respelled q.protocol
  customOutbound : p.customOutbound.tree.SameOverride q.customOutbound.tree
  customConfig : p.customConfig.tree.SameOverride q.customConfig.tree
  rest : q = { p with
    protocol := q.protocol, customOutbound := q.customOutbound, customConfig := q.customConfig }

/-- Two settings that differ in the spelling of the section of resolvers at most. -/
structure Settings.Respelled (s t : Settings) : Prop where
  dnsObject : s.routing.dnsObject.tree.SameOverride t.routing.dnsObject.tree
  rest : t = { s with routing := { s.routing with dnsObject := t.routing.dnsObject } }

theorem Settings.Respelled.refl (s : Settings) : s.Respelled s :=
  ⟨Tree.sameOverride_iff.2 rfl, rfl⟩

namespace Profile.Respelled

variable {settings settings' : Settings} {p q : Profile}

theorem refl (p : Profile) : p.Respelled p :=
  ⟨.same _, Tree.sameOverride_iff.2 rfl, Tree.sameOverride_iff.2 rfl, rfl⟩

/-- Only overrides and configurations are spelled in another way, so ids stay. -/
theorem id_eq (h : p.Respelled q) : q.id = p.id := by
  rw [h.rest]

theorem gid_eq (h : p.Respelled q) : q.gid = p.gid := by
  rw [h.rest]

/-- What is asked of a protocol is answered alike for the profiles that have it. -/
theorem isChain_eq (h : p.Respelled q) : q.isChain = p.isChain :=
  h.protocol.isChain_eq

theorem isFullDocument_eq (h : p.Respelled q) : q.isFullDocument = p.isFullDocument :=
  h.protocol.isFullDocument_eq

/-- A profile is named after what is not respelled. -/
theorem displayName_eq (h : p.Respelled q) : q.displayName = p.displayName := by
  have hname : q.name = p.name := by rw [h.rest]
  rw [displayName, displayName, hname, h.protocol.name_eq, h.id_eq]

/-- Its native outbound is the same under every tag. -/
theorem compileNative_eq (h : p.Respelled q) (hs : settings.Respelled settings') (tag : String) :
    compileNative settings' q tag = compileNative settings p tag := by
  rw [h.rest, hs.rest]
  refine h.protocol.eq_of (fun r => compileNative settings { p with protocol := r } tag)
    fun c config _ hheld => ?_
  simp only [compileNative, Protocol.nativeOutbound, Custom.configObject?, hheld]
  rfl

end Profile.Respelled

/-! ## Resolution -/

namespace Store

/-- Two stores that differ in the spelling of profiles at most. -/
structure Respelled (s t : Store) : Prop where
  profiles : List.Forall₂ Profile.Respelled s.profiles t.profiles
  rest : t = { s with profiles := t.profiles }

namespace Respelled

variable {s t : Store} {p q : Profile}

/-- The last profiles with an id stand at the same place. -/
theorem profile? (h : s.Respelled t) (id : Int64) :
    Option.Rel Profile.Respelled (s.profile? id) (t.profile? id) := by
  have hrev := List.forall₂_reverse_iff.2 h.profiles
  unfold Store.profile? lastWhere?
  generalize s.profiles.reverse = ps, t.profiles.reverse = qs at hrev ⊢
  induction hrev with
  | nil => exact .none
  | @cons p q ps qs hpq _ ih =>
    rw [List.find?_cons, List.find?_cons, hpq.id_eq]
    split
    · exact .some hpq
    · exact ih

/-- The same profiles are stored, in the same order. -/
theorem profileIds_eq (h : s.Respelled t) : t.profileIds = s.profileIds := by
  have hids : t.profiles.map Profile.id = s.profiles.map Profile.id := by
    refine List.Forall₂.rec rfl (fun hpq _ ih => ?_) h.profiles
    rw [List.map_cons, List.map_cons, hpq.id_eq, ih]
  rw [profileIds, profileIds, hids]

/-- A member is found in both stores or missing in both. -/
theorem member (h : s.Respelled t) (id : Int64) :
    EndAlike Profile.Respelled (s.member id) (t.member id) := by
  have hfound := h.profile? id
  unfold Store.member
  generalize s.profile? id = x, t.profile? id = y at hfound ⊢
  cases hfound with
  | none => exact .error _
  | some hpq =>
    dsimp only
    rw [hpq.isChain_eq]
    split
    · exact .error _
    · exact .ok hpq

/-- The members of a chain are looked up one after the other. -/
theorem members (h : s.Respelled t) (ids : List Int64) :
    EndAlike (List.Forall₂ Profile.Respelled) (s.members ids) (t.members ids) := by
  induction ids with
  | nil => exact .ok .nil
  | cons id rest ih =>
    have hmember := h.member id
    unfold Store.members
    generalize s.member id = x, t.member id = y at hmember ⊢
    cases hmember with
    | error e => exact .error e
    | ok hpq => exact ih.map fun _ _ hrest => .cons hpq hrest

/-- A profile stands for itself or for its members. -/
theorem expand (h : s.Respelled t) (hpq : p.Respelled q) :
    EndAlike (List.Forall₂ Profile.Respelled) (s.expand p) (t.expand q) := by
  have hsingle : EndAlike (List.Forall₂ Profile.Respelled) (.ok [p]) (.ok [q]) :=
    .ok (.cons hpq .nil)
  have hprotocol := hpq.protocol
  unfold Store.expand
  generalize p.protocol = pp, q.protocol = qp at hprotocol
  cases hprotocol with
  | config => exact hsingle
  | same =>
    split
    · exact h.members _
    · exact hsingle

/-- The profile in front of a group, or behind it, is a member of the store. -/
theorem wrapper (h : s.Respelled t) (missing : BuildError) (id? : Option Int64) :
    EndAlike (List.Forall₂ Profile.Respelled) (s.wrapper missing id?) (t.wrapper missing id?) := by
  cases id? with
  | none => exact .ok .nil
  | some id =>
    have hfound := h.profile? id
    simp only [Store.wrapper]
    generalize s.profile? id = x, t.profile? id = y at hfound ⊢
    cases hfound with
    | none => exact .error _
    | some hpq => exact h.expand hpq

/-- **The hops of a respelled profile are those of the profile, respelled.** -/
theorem hops (h : s.Respelled t) (hpq : p.Respelled q) (wrappers : Bool) :
    EndAlike (List.Forall₂ Profile.Respelled) (s.hops p wrappers) (t.hops q wrappers) := by
  have hgroup : t.group? q.gid = s.group? p.gid := by
    rw [hpq.gid_eq, h.rest]
    rfl
  unfold Store.hops
  rw [hgroup]
  split
  · rename_i group hfound
    refine (h.expand hpq).bind fun own own' hown => ?_
    split
    · have hwrapped := (h.wrapper .frontMissing group.front?).bind
        (S := List.Forall₂ Profile.Respelled) fun front front' hfront =>
          (h.wrapper .landingMissing group.landing?).bind fun landing landing' hlanding =>
            .ok (List.rel_append (List.rel_append hlanding hown) hfront)
      split
      · exact .error _
      · exact hwrapped
    · exact .ok hown
  · exact .error _

end Respelled

end Store

/-! ## Compilation -/

namespace Hop

/-- Two hops that differ in the spelling of their profile at most. -/
structure Respelled (h k : Hop) : Prop where
  profile : h.profile.Respelled k.profile
  rest : k = { h with profile := k.profile }

variable {σ : Type} {settings settings' : Settings} {p q : Profile} {h k : Hop}

/-- Merging in an override takes the object that it spells. -/
theorem Respelled.overridden (hk : h.Respelled k) : h.overridden.Respelled k.overridden := by
  refine ⟨hk.profile, ?_⟩
  have houtbound : k.outbound = h.outbound := by rw [hk.rest]
  rw [Hop.overridden, Hop.overridden, Tree.sameOverride_iff.1 hk.profile.customOutbound, houtbound]
  conv_lhs => rw [hk.rest]

/-- A native hop is compiled from what the core would read of either spelling. -/
theorem related_compileDirect (hs : settings.Respelled settings') (hpq : p.Respelled q)
    (tag : String) :
    Build.Related Eq Respelled (compileDirect settings p tag : Build σ Hop)
      (compileDirect settings' q tag) := by
  unfold compileDirect
  rw [hpq.compileNative_eq hs, hpq.id_eq]
  exact Build.Related.bind_self fun _ => Build.Related.bind_self fun _ => .pure ⟨hpq, rfl⟩

/-- The helper of an external core reads a configuration that has no other spelling. -/
theorem related_compileBridged (hs : settings.Respelled settings') (hpq : p.Respelled q)
    (hprotocol : q.protocol = p.protocol) (tag : String) (mode : Bridging) :
    Build.Related Eq Respelled (compileBridged settings p tag mode : Build σ Hop)
      (compileBridged settings' q tag mode) := by
  have hdescriptor : Bridge.descriptor settings' = Bridge.descriptor settings := by
    rw [hs.rest]
    rfl
  unfold compileBridged
  rw [hprotocol, hdescriptor, hpq.id_eq]
  exact Build.Related.bind_self fun _ => Build.Related.bind_self fun _ =>
    Build.Related.bind_self fun _ => Build.Related.bind_self fun _ => .pure ⟨hpq, rfl⟩

/-- A hop is realised in one way in both setups. -/
theorem related_compile (hs : settings.Respelled settings') (hpq : p.Respelled q) (tag : String)
    (nearest : Bool) :
    Build.Related Eq Respelled (compile settings p tag nearest : Build σ Hop)
      (compile settings' q tag nearest) := by
  have hvpn : settings'.vpn = settings.vpn := by rw [hs.rest]
  unfold compile
  rw [hvpn, hpq.protocol.bridging_eq]
  split
  · exact .throw _
  · exact (related_compileDirect hs hpq tag).map fun _ _ hk => hk.overridden
  · rename_i hnative
    exact (related_compileBridged hs hpq (hpq.protocol.eq_of_bridged hnative) tag _).map
      fun _ _ hk => hk.overridden

/-- Hop by hop, chains are compiled alike. -/
theorem related_compileFrom (hs : settings.Respelled settings') {ps qs : List Profile}
    (hpqs : List.Forall₂ Profile.Respelled ps qs) (seq length index : Nat) :
    Build.Related Eq (List.Forall₂ Respelled)
      (compileFrom settings seq length index ps : Build σ (List Hop))
      (compileFrom settings' seq length index qs) := by
  induction hpqs generalizing index with
  | nil => exact .pure .nil
  | cons hpq _ ih =>
    unfold compileFrom
    rw [hpq.id_eq]
    exact (related_compile hs hpq _ _).bind fun _ _ hk => (ih (index + 1)).bind
      fun _ _ hrest => .pure (.cons hk hrest)

end Hop

end Detour
