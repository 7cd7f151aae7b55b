import Mathlib.Data.List.Forall2
import Detour.Proofs.Store
/-!
# What a profile resolves to

`Resolves` says what a profile comes to in a document, refusals included, without saying how it is
looked up. A chain comes to its members from the last one on, or to the complaint about the first of
these that cannot stand there (`Expands`). A wrapper comes to what its profile does, and to nothing
where the group has none (`Wraps`). The hops stand from the landing proxy to the front proxy, but the
front proxy is complained about before the landing proxy is. `hops_resolved` proves that this and
nothing else is what `Store.hops` returns.
-/

namespace Detour

/-- A computation succeeds after its errors were changed exactly when it did before. -/
theorem except_mapError_eq_ok {ε ε' α : Type} {f : ε → ε'} {x : Except ε α} {a : α} :
    x.mapError f = .ok a ↔ x = .ok a := by
  cases x <;> simp [Except.mapError]

/-- It fails with the changed error. -/
theorem except_mapError_eq_error {ε ε' α : Type} {f : ε → ε'} {x : Except ε α} {e' : ε'} :
    x.mapError f = .error e' ↔ ∃ e, x = .error e ∧ f e = e' := by
  cases x <;> simp [Except.mapError]

theorem Profile.isChain_iff {p : Profile} : p.isChain = true ↔ ∃ ids, p.protocol = .chain ids := by
  rw [Profile.isChain]
  cases p.protocol <;> simp [Protocol.isChain]

namespace Store

/-- A profile can be the member of a chain for an id: it is stored under it and no chain itself. -/
def Joins (s : Store) (id : Int64) (p : Profile) : Prop :=
  s.profile? id = some p ∧ p.isChain = false

/-- What a profile stands for, if it can stand for anything. -/
inductive Expands (s : Store) (p : Profile) : Except Failure (List Profile) → Prop where
  /-- Itself. -/
  | self (hchain : p.isChain = false) : s.Expands p (.ok [p])
  /-- The members of a chain, the last one first. -/
  | members {ids : List Int64} {members : List Profile} (hchain : p.protocol = .chain ids)
      (hmembers : List.Forall₂ s.Joins ids.reverse members) : s.Expands p (.ok members)
  /-- The first of these members that stops the others is not there. -/
  | missing {ids before after : List Int64} {id : Int64} (hchain : p.protocol = .chain ids)
      (hids : ids.reverse = before ++ id :: after) (hbefore : ∀ i ∈ before, ∃ q, s.Joins i q)
      (hid : s.profile? id = none) :
      s.Expands p (.error ⟨.structural, s!"chain missing ent: {id}"⟩)
  /-- It is there, and a chain. -/
  | nested {ids before after : List Int64} {id : Int64} {q : Profile}
      (hchain : p.protocol = .chain ids) (hids : ids.reverse = before ++ id :: after)
      (hbefore : ∀ i ∈ before, ∃ q, s.Joins i q) (hid : s.profile? id = some q)
      (hnested : q.isChain = true) :
      s.Expands p (.error ⟨.structural, s!"chain in chain is not allowed: {id}"⟩)

/-- What the wrapper of a group stands for, with the complaint about one that is not stored. -/
inductive Wraps (s : Store) (complaint : String) (id? : Option Int64) :
    Except Failure (List Profile) → Prop where
  /-- The group has no such wrapper; older groups say so with an id below zero. -/
  | nothing (hid : ∀ id, id? = some id → id < 0) : s.Wraps complaint id? (.ok [])
  | missing {id : Int64} (hid : id? = some id) (hnonneg : 0 ≤ id) (hnone : s.profile? id = none) :
      s.Wraps complaint id? (.error ⟨.structural, complaint⟩)
  | stored {id : Int64} {p : Profile} {out : Except Failure (List Profile)} (hid : id? = some id)
      (hnonneg : 0 ≤ id) (hsome : s.profile? id = some p) (hout : s.Expands p out) :
      s.Wraps complaint id? out

/-- What the front proxy of a group stands for. -/
def Fronts (s : Store) (group : Group) : Except Failure (List Profile) → Prop :=
  s.Wraps "front proxy ent not found." group.frontProxyId

/-- What the landing proxy of a group stands for. -/
def Lands (s : Store) (group : Group) : Except Failure (List Profile) → Prop :=
  s.Wraps "landing proxy ent not found." group.landingProxyId

/-- What a profile comes to in a document, with or without the wrappers of its group. -/
inductive Resolves (s : Store) (root : Profile) :
    (wrappers : Bool) → Except Failure (List Profile) → Prop where
  | noGroup {wrappers : Bool} (hgroup : s.group? root.gid = none) :
      s.Resolves root wrappers (.error ⟨.structural,
        "This profile is not in any group, your data may be corrupted."⟩)
  | refused {wrappers : Bool} {group : Group} {failure : Failure}
      (hgroup : s.group? root.gid = some group) (hown : s.Expands root (.error failure)) :
      s.Resolves root wrappers (.error failure)
  | bare {group : Group} {own : List Profile} (hgroup : s.group? root.gid = some group)
      (hown : s.Expands root (.ok own)) : s.Resolves root false (.ok own)
  | archived {group : Group} {own : List Profile} (hgroup : s.group? root.gid = some group)
      (hown : s.Expands root (.ok own)) (harchived : group.archived = true) :
      s.Resolves root true (.error ⟨.structural,
        "This profile belongs to an archived group and cannot be started."⟩)
  | front {group : Group} {own : List Profile} {failure : Failure}
      (hgroup : s.group? root.gid = some group) (hown : s.Expands root (.ok own))
      (harchived : group.archived = false) (hfront : s.Fronts group (.error failure)) :
      s.Resolves root true (.error failure)
  | landing {group : Group} {own front : List Profile} {failure : Failure}
      (hgroup : s.group? root.gid = some group) (hown : s.Expands root (.ok own))
      (harchived : group.archived = false) (hfront : s.Fronts group (.ok front))
      (hlanding : s.Lands group (.error failure)) : s.Resolves root true (.error failure)
  | wrapped {group : Group} {own front landing : List Profile}
      (hgroup : s.group? root.gid = some group) (hown : s.Expands root (.ok own))
      (harchived : group.archived = false) (hfront : s.Fronts group (.ok front))
      (hlanding : s.Lands group (.ok landing)) :
      s.Resolves root true (.ok (landing ++ own ++ front))

variable {s : Store} {id : Int64} {ids : List Int64} {p q root : Profile} {ps : List Profile}
variable {e : BuildError} {out : Except Failure (List Profile)}

/-! ## Members -/

/-- A member is found if it is stored and no chain. -/
theorem member_eq_ok_iff : s.member id = .ok p ↔ s.Joins id p := by
  unfold member Joins
  cases hid : s.profile? id with
  | none => simp
  | some q =>
    by_cases hp : q = p
    · subst hp
      cases hq : q.isChain <;> simp [hq]
    · cases hq : q.isChain <;> simp [hq, hp]

theorem member_eq_error_iff : s.member id = .error e ↔
    s.profile? id = none ∧ e = .memberMissing id ∨
      ∃ q, s.profile? id = some q ∧ q.isChain = true ∧ e = .nestedChain id := by
  unfold member
  cases hid : s.profile? id with
  | none => simp [eq_comm (a := e)]
  | some q => cases hq : q.isChain <;> simp [hq, eq_comm (a := e)]

/-- The members of a chain are the profiles that can join it, each for its id. -/
theorem members_eq_ok_iff : s.members ids = .ok ps ↔ List.Forall₂ s.Joins ids ps := by
  induction ids generalizing ps with
  | nil => cases ps <;> simp [members]
  | cons id rest ih =>
    rw [members]
    cases hid : s.member id with
    | error e =>
      have hnone : ∀ q, ¬ s.Joins id q := fun q hq => by simp [member_eq_ok_iff.2 hq] at hid
      cases ps <;> simp [hnone]
    | ok q =>
      have hsome : ∀ p, s.Joins id p ↔ q = p := fun p => by simp [← member_eq_ok_iff, hid]
      cases hrest : s.members rest with
      | error e => cases ps <;> simp [Except.map, ← ih, hrest]
      | ok qs => cases ps <;> simp [Except.map, ← ih, hrest, hsome]

/-- They are refused for the first id whose profile cannot join. -/
theorem members_eq_error_iff : s.members ids = .error e ↔
    ∃ before id after, ids = before ++ id :: after ∧ (∀ i ∈ before, ∃ q, s.Joins i q) ∧
      s.member id = .error e := by
  induction ids with
  | nil => simp [members]
  | cons id rest ih =>
    rw [members]
    -- the id that fails is the first one, or it stands behind a first one that joins
    constructor
    · intro h
      cases hid : s.member id with
      | error e' =>
        rw [hid] at h
        cases h
        exact ⟨[], id, rest, rfl, by simp, hid⟩
      | ok q =>
        have hrest : s.members rest = .error e := by
          cases hrest : s.members rest <;> simp_all [Except.map]
        obtain ⟨before, i, after, rfl, hbefore, hi⟩ := ih.1 hrest
        exact ⟨id :: before, i, after, rfl,
          List.forall_mem_cons.2 ⟨⟨q, member_eq_ok_iff.1 hid⟩, hbefore⟩, hi⟩
    · rintro ⟨before, i, after, hids, hbefore, hi⟩
      cases before with
      | nil =>
        obtain ⟨rfl, rfl⟩ := List.cons.inj hids
        rw [hi]
      | cons j before =>
        obtain ⟨rfl, rfl⟩ := List.cons.inj hids
        obtain ⟨⟨q, hq⟩, hbefore⟩ := List.forall_mem_cons.1 hbefore
        rw [member_eq_ok_iff.2 hq, ih.2 ⟨before, i, after, rfl, hbefore, hi⟩]
        rfl

/-! ## What a profile stands for -/

/-- A chain stands for its members, the last one first. -/
theorem expand_of_chain (h : p.protocol = .chain ids) : s.expand p = s.members ids.reverse := by
  rw [expand, h]

theorem expand_of_not_chain (h : p.isChain = false) : s.expand p = .ok [p] := by
  unfold expand
  split
  · rename_i ids hids
    cases h.symm.trans (Profile.isChain_iff.2 ⟨ids, hids⟩)
  · rfl

/-- What a profile is found to stand for is what it does stand for. -/
theorem expands_expand (s : Store) (p : Profile) :
    s.Expands p ((s.expand p).mapError BuildError.toFailure) := by
  cases hchain : p.isChain with
  | false =>
    rw [expand_of_not_chain hchain]
    exact .self hchain
  | true =>
    obtain ⟨ids, hids⟩ := Profile.isChain_iff.1 hchain
    rw [expand_of_chain hids]
    cases h : s.members ids.reverse with
    | ok members => exact .members hids (members_eq_ok_iff.1 h)
    | error e =>
      obtain ⟨before, id, after, hsplit, hbefore, hid⟩ := members_eq_error_iff.1 h
      obtain ⟨hnone, rfl⟩ | ⟨q, hsome, hnested, rfl⟩ := member_eq_error_iff.1 hid
      · exact .missing hids hsplit hbefore hnone
      · exact .nested hids hsplit hbefore hsome hnested

/-- A profile stands for one thing only. -/
theorem Expands.eq_expand (h : s.Expands p out) :
    (s.expand p).mapError BuildError.toFailure = out := by
  cases h with
  | self hchain =>
    rw [expand_of_not_chain hchain]
    rfl
  | members hchain hmembers =>
    rw [expand_of_chain hchain, members_eq_ok_iff.2 hmembers]
    rfl
  | missing hchain hids hbefore hid =>
    rw [expand_of_chain hchain, members_eq_error_iff.2
      ⟨_, _, _, hids, hbefore, member_eq_error_iff.2 (.inl ⟨hid, rfl⟩)⟩]
    rfl
  | nested hchain hids hbefore hid hnested =>
    rw [expand_of_chain hchain, members_eq_error_iff.2
      ⟨_, _, _, hids, hbefore, member_eq_error_iff.2 (.inr ⟨_, hid, hnested, rfl⟩)⟩]
    rfl

theorem not_isChain_of_forall₂_joins (h : List.Forall₂ s.Joins ids ps) :
    ∀ p ∈ ps, p.isChain = false := by
  induction h with
  | nil => simp
  | cons hjoins _ ih => exact List.forall_mem_cons.2 ⟨hjoins.2, ih⟩

/-- No profile stands for a chain. -/
theorem Expands.not_isChain (h : s.Expands root (.ok ps)) : ∀ p ∈ ps, p.isChain = false := by
  cases h with
  | self hchain => simpa using hchain
  | members _ hmembers => exact not_isChain_of_forall₂_joins hmembers

/-! ## Wrappers -/

variable {group : Group} {missing : BuildError} {id? : Option Int64}

theorem wrapper_of_none (hid : ∀ id, id? = some id → id < 0) :
    s.wrapper missing (id?.filter fun id => 0 ≤ id) = .ok [] := by
  have hnone : id?.filter (fun id => 0 ≤ id) = none := by
    simpa [Option.filter_eq_none_iff] using hid
  rw [hnone, wrapper]

/-- An id that is not negative has to be stored. -/
theorem wrapper_of_some (hnonneg : 0 ≤ id) :
    s.wrapper missing ((some id).filter fun id => 0 ≤ id) =
      match s.profile? id with
      | none => .error missing
      | some p => s.expand p := by
  rw [Option.filter, decide_eq_true hnonneg, if_pos rfl]
  rfl

/-- What a wrapper is found to stand for is what it stands for, and only that. -/
theorem wraps_iff (missing : BuildError) (hkind : missing.kind = .structural) :
    s.Wraps missing.message id? out ↔
      (s.wrapper missing (id?.filter fun id => 0 ≤ id)).mapError BuildError.toFailure = out := by
  have hmissing : missing.toFailure = ⟨.structural, missing.message⟩ := by
    rw [BuildError.toFailure, hkind]
  constructor
  · rintro (hid | ⟨rfl, hnonneg, hnone⟩ | ⟨rfl, hnonneg, hsome, hout⟩)
    · rw [wrapper_of_none hid]
      rfl
    · rw [wrapper_of_some hnonneg, hnone, ← hmissing]
      rfl
    · rw [wrapper_of_some hnonneg, hsome]
      exact hout.eq_expand
  · rintro rfl
    cases id? with
    | none => exact .nothing (by simp)
    | some id =>
      -- a negative id stands for none
      rcases Int64.lt_or_le id 0 with hneg | hnonneg
      · rw [wrapper_of_none (by simpa using hneg)]
        exact .nothing (by simpa using hneg)
      · rw [wrapper_of_some hnonneg]
        cases hsome : s.profile? id with
        | none =>
          have h : s.Wraps missing.message (some id) (.error missing.toFailure) :=
            hmissing ▸ .missing rfl hnonneg hsome
          exact h
        | some p => exact .stored rfl hnonneg hsome (s.expands_expand p)

/-- What is in front of a group is what looking it up comes to. -/
theorem fronts_iff : s.Fronts group out ↔
    (s.wrapper .frontMissing group.front?).mapError BuildError.toFailure = out :=
  wraps_iff .frontMissing rfl

theorem lands_iff : s.Lands group out ↔
    (s.wrapper .landingMissing group.landing?).mapError BuildError.toFailure = out :=
  wraps_iff .landingMissing rfl

theorem Wraps.not_isChain {complaint : String} (h : s.Wraps complaint id? (.ok ps)) :
    ∀ p ∈ ps, p.isChain = false := by
  cases h with
  | nothing => simp
  | stored _ _ _ hout => exact hout.not_isChain

/-! ## Resolutions -/

variable {wrappers : Bool}

/-- What is found when a profile is resolved is what it comes to. -/
theorem resolves_hops (s : Store) (root : Profile) (wrappers : Bool) :
    s.Resolves root wrappers ((s.hops root wrappers).mapError BuildError.toFailure) := by
  cases hgroup : s.group? root.gid with
  | none =>
    rw [hops_of_noGroup hgroup]
    exact .noGroup hgroup
  | some group =>
    rw [hops_of_group hgroup]
    have hown := s.expands_expand root
    have hfront : s.Fronts group _ := fronts_iff.2 rfl
    have hlanding : s.Lands group _ := lands_iff.2 rfl
    -- of the three look-ups only the results matter, in the order in which they are asked for
    generalize s.expand root = own? at hown ⊢
    generalize s.wrapper .frontMissing group.front? = front? at hfront ⊢
    generalize s.wrapper .landingMissing group.landing? = landing? at hlanding ⊢
    cases own? with
    | error e => exact .refused hgroup hown
    | ok own =>
      cases wrappers with
      | false => exact .bare hgroup hown
      | true =>
        cases harchived : group.archived with
        | true => exact .archived hgroup hown harchived
        | false =>
          cases front? with
          | error e => exact .front hgroup hown harchived hfront
          | ok front =>
            cases landing? with
            | error e => exact .landing hgroup hown harchived hfront hlanding
            | ok landing => exact .wrapped hgroup hown harchived hfront hlanding

/-- A profile comes to one thing only. -/
theorem Resolves.eq_hops (h : s.Resolves root wrappers out) :
    (s.hops root wrappers).mapError BuildError.toFailure = out := by
  -- one case for each step at which resolving can end
  cases h with
  | noGroup hgroup =>
    rw [hops_of_noGroup hgroup]
    rfl
  | refused hgroup hown =>
    obtain ⟨e, hexpand, rfl⟩ := except_mapError_eq_error.1 hown.eq_expand
    rw [hops_of_group hgroup, hexpand]
    rfl
  | bare hgroup hown =>
    rw [hops_of_group hgroup, except_mapError_eq_ok.1 hown.eq_expand]
    rfl
  | archived hgroup hown harchived =>
    rw [hops_of_group hgroup, except_mapError_eq_ok.1 hown.eq_expand, harchived]
    rfl
  | front hgroup hown harchived hfront =>
    obtain ⟨e, hwrapper, rfl⟩ := except_mapError_eq_error.1 (fronts_iff.1 hfront)
    rw [hops_of_group hgroup, except_mapError_eq_ok.1 hown.eq_expand, harchived, hwrapper]
    rfl
  | landing hgroup hown harchived hfront hlanding =>
    obtain ⟨e, hwrapper, rfl⟩ := except_mapError_eq_error.1 (lands_iff.1 hlanding)
    rw [hops_of_group hgroup, except_mapError_eq_ok.1 hown.eq_expand, harchived,
      except_mapError_eq_ok.1 (fronts_iff.1 hfront), hwrapper]
    rfl
  | wrapped hgroup hown harchived hfront hlanding =>
    rw [hops_of_group hgroup, except_mapError_eq_ok.1 hown.eq_expand, harchived,
      except_mapError_eq_ok.1 (fronts_iff.1 hfront), except_mapError_eq_ok.1 (lands_iff.1 hlanding)]
    rfl

/-- The specification has one outcome, the one that is computed. -/
theorem resolves_iff : s.Resolves root wrappers out ↔
    (s.hops root wrappers).mapError BuildError.toFailure = out :=
  ⟨Resolves.eq_hops, fun h => h ▸ s.resolves_hops root wrappers⟩

theorem Resolves.not_isChain (h : s.Resolves root wrappers (.ok ps)) :
    ∀ p ∈ ps, p.isChain = false := by
  cases h with
  | bare _ hown => exact hown.not_isChain
  | wrapped _ hown _ hfront hlanding =>
    simp only [List.forall_mem_append]
    exact ⟨⟨hlanding.not_isChain, hown.not_isChain⟩, hfront.not_isChain⟩

/-- The hops of a profile stand together between those of its wrappers. -/
theorem bare_infix_wrapped {own : List Profile} (hown : s.hops root false = .ok own)
    (hwrapped : s.hops root true = .ok ps) : own <:+: ps := by
  obtain ⟨group, own', front, landing, -, -, hown', -, -, rfl⟩ := hops_wrapped_eq_ok.1 hwrapped
  rw [expand_of_hops hown] at hown'
  cases hown'
  exact List.infix_append landing own front

/-- What a profile comes to is what `Resolves` says and nothing else, refusals included. The hops are
no chains, and those without wrappers stand together among those with them. -/
theorem hops_resolved (s : Store) (root : Profile) :
    (∀ wrappers out, s.Resolves root wrappers out ↔
      (s.hops root wrappers).mapError BuildError.toFailure = out) ∧
    (∀ wrappers hops, s.hops root wrappers = .ok hops → ∀ hop ∈ hops, hop.isChain = false) ∧
    ∀ own hops, s.hops root false = .ok own → s.hops root true = .ok hops → own <:+: hops := by
  refine ⟨fun wrappers out => resolves_iff, fun wrappers hops h => ?_,
    fun own hops => bare_infix_wrapped⟩
  exact (resolves_iff.2 (except_mapError_eq_ok.2 h)).not_isChain

example :
    let chain : Profile := { id := 5, protocol := .chain [1, 2] }
    let s : Store := {
      profiles := chain :: [1, 2, 3, 4].map fun id => { id := id, protocol := .socks {} },
      groups := [{ frontProxyId := some 3, landingProxyId := some 4 }], chains := [],
      defaultChain := .default }
    (s.hops chain true).map (List.map Profile.id) = .ok [4, 2, 1, 3] :=
  rfl

end Store

end Detour
