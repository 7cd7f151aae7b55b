import Detour.Hops
/-!
# Hops are stored

What a build resolves comes from the store: every hop of a stored profile is the profile that the
store has under its id. An id is therefore all that has to be compared where hops of different
documents are. `hops_bare_eq_ok` and `hops_wrapped_eq_ok` take a resolution apart into the hops of the
profile itself and those of its wrappers.
-/

namespace Detour

/-- Two computations one after the other fail exactly when the first one does, or it succeeds and the
second one fails. -/
theorem except_bind_eq_error {ε α β : Type} {x : Except ε α} {f : α → Except ε β} {e : ε} :
    x >>= f = .error e ↔ x = .error e ∨ ∃ a, x = .ok a ∧ f a = .error e := by
  cases x <;> simp [bind, Except.bind]

/-- And they succeed exactly when both do. -/
theorem except_bind_eq_ok {ε α β : Type} {x : Except ε α} {f : α → Except ε β} {b : β} :
    x >>= f = .ok b ↔ ∃ a, x = .ok a ∧ f a = .ok b := by
  cases x <;> simp [bind, Except.bind]

namespace Store

variable {s : Store} {ids : List Int64} {root : Profile} {ps : List Profile}

theorem mem_of_profile? {id : Int64} {p : Profile} (h : s.profile? id = some p) :
    p ∈ s.profiles :=
  List.mem_reverse.1 (List.mem_of_find?_eq_some h)

theorem stored_of_member {id : Int64} {p : Profile} (h : s.member id = .ok p) :
    s.profile? p.id = some p := by
  unfold member at h
  split at h
  · cases h
  · rename_i q hq
    split at h
    · cases h
    · cases h
      rwa [id_of_profile? hq]

theorem stored_of_members (h : s.members ids = .ok ps) : ∀ p ∈ ps, s.profile? p.id = some p := by
  induction ids generalizing ps with
  | nil =>
    cases h
    simp
  | cons id rest ih =>
    rw [members] at h
    split at h
    · cases h
    · rename_i q hq
      cases hrest : s.members rest with
      | error e =>
        rw [hrest] at h
        cases h
      | ok qs =>
        rw [hrest] at h
        cases h
        exact List.forall_mem_cons.2 ⟨stored_of_member hq, ih hrest⟩

/-- What a stored profile stands for is stored. -/
theorem stored_of_expand (hroot : s.profile? root.id = some root) (h : s.expand root = .ok ps) :
    ∀ p ∈ ps, s.profile? p.id = some p := by
  unfold expand at h
  split at h
  · exact stored_of_members h
  · cases h
    simpa using hroot

theorem length_of_members (h : s.members ids = .ok ps) : ps.length = ids.length := by
  induction ids generalizing ps with
  | nil =>
    cases h
    rfl
  | cons id rest ih =>
    rw [members] at h
    cases hid : s.member id with
    | error e =>
      rw [hid] at h
      cases h
    | ok p =>
      cases hrest : s.members rest with
      | error e =>
        rw [hid, hrest] at h
        cases h
      | ok qs =>
        rw [hid, hrest] at h
        cases h
        rw [List.length_cons, List.length_cons, ih hrest]

/-- Only a chain without members stands for no hops. -/
theorem expand_eq_nil_iff : s.expand root = .ok [] ↔ root.protocol = .chain [] := by
  unfold expand
  split
  · rename_i ids hids
    rw [hids, Protocol.chain.injEq]
    constructor
    · intro h
      have hlen := length_of_members h
      exact List.reverse_eq_nil_iff.1 (List.length_eq_zero_iff.1 hlen.symm)
    · rintro rfl
      rfl
  · rename_i hchain
    simpa using hchain []

/-! ## Resolutions -/

variable {wrappers : Bool} {group : Group}

/-- A profile in a group: the group's wrappers are looked at after the profile itself, and the front
proxy before the landing proxy. -/
theorem hops_of_group (hgroup : s.group? root.gid = some group) :
    s.hops root wrappers = s.expand root >>= fun own =>
      if wrappers then
        if group.archived then .error .archivedGroup
        else s.wrapper .frontMissing group.front? >>= fun front =>
          s.wrapper .landingMissing group.landing? >>= fun landing => .ok (landing ++ own ++ front)
      else .ok own := by
  rw [hops, hgroup]
  obtain ⟨_, _, _, _, archived⟩ := group
  cases wrappers <;> cases archived <;> rfl

theorem hops_of_noGroup (hgroup : s.group? root.gid = none) :
    s.hops root wrappers = .error .noGroup := by
  rw [hops, hgroup]
  rfl

/-- Without wrappers, a profile in a group resolves to what it stands for. -/
theorem hops_bare_eq_ok :
    s.hops root false = .ok ps ↔
      ∃ group, s.group? root.gid = some group ∧ s.expand root = .ok ps := by
  cases hgroup : s.group? root.gid with
  | none => simp [hops_of_noGroup hgroup]
  | some group => simp [hops_of_group hgroup, except_bind_eq_ok]

/-- With wrappers, the group has to be in use, and the hops of the profile stand between those of the
landing proxy and those of the front proxy. -/
theorem hops_wrapped_eq_ok :
    s.hops root true = .ok ps ↔ ∃ group own front landing,
      s.group? root.gid = some group ∧ group.archived = false ∧ s.expand root = .ok own ∧
      s.wrapper .frontMissing group.front? = .ok front ∧
      s.wrapper .landingMissing group.landing? = .ok landing ∧ ps = landing ++ own ++ front := by
  cases hgroup : s.group? root.gid with
  | none => simp [hops_of_noGroup hgroup]
  | some group =>
    cases harchived : group.archived <;>
      simp [hops_of_group hgroup, except_bind_eq_ok, harchived, eq_comm (a := ps)]

/-- Without the wrappers of its group, a profile resolves to what it stands for. -/
theorem expand_of_hops (h : s.hops root false = .ok ps) : s.expand root = .ok ps := by
  obtain ⟨-, -, hown⟩ := hops_bare_eq_ok.1 h
  exact hown

/-! ## Refusals

A profile that cannot be resolved is refused for a reference that leads nowhere, whatever is looked
up on the way. -/

variable {e : BuildError}

/-- A member that is missing, or a chain, is a matter of structure. -/
theorem kind_of_member {id : Int64} (h : s.member id = .error e) : e.kind = .structural := by
  unfold member at h
  split at h
  · cases h
    rfl
  · split at h <;> cases h
    rfl

theorem kind_of_members (h : s.members ids = .error e) : e.kind = .structural := by
  induction ids with
  | nil => cases h
  | cons id rest ih =>
    rw [members] at h
    split at h
    · rename_i hid
      cases h
      exact kind_of_member hid
    · cases hrest : s.members rest with
      | ok qs =>
        rw [hrest] at h
        cases h
      | error e' =>
        rw [hrest] at h
        cases h
        exact ih hrest

theorem kind_of_expand (h : s.expand root = .error e) : e.kind = .structural := by
  unfold expand at h
  split at h
  · exact kind_of_members h
  · cases h

theorem kind_of_wrapper {missing : BuildError} {id? : Option Int64}
    (hmissing : missing.kind = .structural) (h : s.wrapper missing id? = .error e) :
    e.kind = .structural := by
  unfold wrapper at h
  split at h
  · cases h
  · split at h
    · cases h
      exact hmissing
    · exact kind_of_expand h

/-- **Resolving a chain fails for structural reasons only.** -/
theorem kind_of_hops (h : s.hops root wrappers = .error e) : e.kind = .structural := by
  cases hgroup : s.group? root.gid with
  | none =>
    rw [hops_of_noGroup hgroup] at h
    cases h
    rfl
  | some group =>
    rw [hops_of_group hgroup] at h
    rcases except_bind_eq_error.1 h with hown | ⟨own, -, h⟩
    · exact kind_of_expand hown
    · split at h
      · split at h
        · cases h
          rfl
        · rcases except_bind_eq_error.1 h with hfront | ⟨front, -, h⟩
          · exact kind_of_wrapper rfl hfront
          · rcases except_bind_eq_error.1 h with hlanding | ⟨landing, -, h⟩
            · exact kind_of_wrapper rfl hlanding
            · cases h
      · cases h

end Store

end Detour
