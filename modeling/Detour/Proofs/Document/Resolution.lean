import Detour.Proofs.Document.Chain
import Detour.Proofs.Store
/-!
# What a profile resolves to

A primary build looks at the group of its profile: hops of an archived group are refused, and those
of any other one are put between the wrappers of the group. Two things pass by this. A whole document
is not resolved at all, so that its group is not looked at (`refused_iff_of_archived`). And a chain
without members stands for no hops, so that a document may be without an entry
(`entered_iff_of_run`).
-/

namespace Detour

/-! ## Without hops -/

namespace Store

variable {s : Store} {root : Profile} {ps : List Profile} {id? : Option Int64} {wrappers : Bool}

/-- A wrapper of a group that adds no hops: the group has none, or it is a chain without members. -/
def AddsNothing (s : Store) (id? : Option Int64) : Prop :=
  ∀ id p, id? = some id → s.profile? id = some p → p.protocol = .chain []

/-- A profile without hops: a chain without members, and where the wrappers of its group are asked
for, nothing is added to it. -/
structure Hopless (s : Store) (root : Profile) (wrappers : Bool) : Prop where
  members : root.protocol = .chain []
  around : wrappers = true → ∀ group, s.group? root.gid = some group →
    s.AddsNothing group.front? ∧ s.AddsNothing group.landing?

theorem wrapper_eq_nil_iff {missing : BuildError} (h : s.wrapper missing id? = .ok ps) :
    ps = [] ↔ s.AddsNothing id? := by
  unfold wrapper at h
  cases id? with
  | none =>
    cases h
    simp [AddsNothing]
  | some id =>
    cases hp : s.profile? id with
    | none =>
      simp only [hp] at h
      cases h
    | some p =>
      simp only [hp] at h
      constructor
      · rintro rfl id' p' ⟨⟩ hp'
        rw [hp] at hp'
        cases hp'
        exact expand_eq_nil_iff.1 h
      · intro hnothing
        rw [expand_eq_nil_iff.2 (hnothing id p rfl hp)] at h
        exact (Except.ok.inj h).symm

theorem hops_eq_nil_iff (h : s.hops root wrappers = .ok ps) :
    ps = [] ↔ s.Hopless root wrappers := by
  cases wrappers with
  | false =>
    have hown := expand_of_hops h
    constructor
    · rintro rfl
      exact ⟨expand_eq_nil_iff.1 hown, fun hw => by cases hw⟩
    · intro hhopless
      rw [expand_eq_nil_iff.2 hhopless.members] at hown
      exact (Except.ok.inj hown).symm
  | true =>
    obtain ⟨group, own, front, landing, hgroup, -, hown, hfront, hlanding, rfl⟩ :=
      hops_wrapped_eq_ok.1 h
    rw [List.append_eq_nil_iff, List.append_eq_nil_iff, wrapper_eq_nil_iff hfront,
      wrapper_eq_nil_iff hlanding]
    constructor
    · rintro ⟨⟨hnothing, rfl⟩, hnothing'⟩
      refine ⟨expand_eq_nil_iff.1 hown, fun _ group' hgroup' => ?_⟩
      rw [hgroup] at hgroup'
      cases hgroup'
      exact ⟨hnothing', hnothing⟩
    · intro hhopless
      rw [expand_eq_nil_iff.2 hhopless.members] at hown
      obtain ⟨hnothing', hnothing⟩ := hhopless.around rfl group hgroup
      exact ⟨⟨hnothing, (Except.ok.inj hown).symm⟩, hnothing'⟩

end Store

/-! ## Archived groups -/

section Archived

variable {σ : Type} [RuleSetService σ] {setup : Setup} {request : Request} {root : Profile}
  {e : BuildError}

/-- A profile that does not resolve is refused, before anything is done. -/
theorem run_profile_of_hops_eq_error (hroot : root.isFullDocument = false)
    (h : setup.store.hops root (!request.test) = .error e) (s : BuildState σ) :
    Build.run (Build.profile setup request root) s = (.error e, s) := by
  rw [Build.profile, Build.plain_eq_generate hroot, Build.run_bind, Build.generate, Build.run_bind,
    h]
  rfl

/-- A whole document is built from what it holds, or refused for what it does not hold. -/
theorem kind_of_run_of_full {s s' : BuildState σ} (hroot : root.isFullDocument = true)
    (hr : Build.run (Build.profile setup request root) s = (.error e, s')) : e.kind = .policy := by
  obtain ⟨c, hc, hfull⟩ := Profile.exists_custom_of_full hroot
  rw [Build.run_profile_of_full hc hfull] at hr
  cases hdoc : c.configObject? with
  | some fields =>
    rw [hdoc] at hr
    cases hr
  | none =>
    rw [hdoc] at hr
    cases hr
    rfl

/-- **What an archived group refuses.** A primary build of any member that is resolved to hops is
refused as structural, whatever else is asked for, and leaves the state as it is. A member that is a
whole document is never refused for its group. -/
theorem refused_iff_of_archived {group : Group} (hgroup : setup.store.group? root.gid = some group)
    (harchived : group.archived = true) (hprimary : request.test = false) (s : BuildState σ) :
    (∃ e : BuildError, e.kind = .structural ∧
        Build.run (Build.profile setup request root) s = (.error e, s)) ↔
      root.isFullDocument = false := by
  constructor
  · rintro ⟨e, hkind, hr⟩
    refine Bool.eq_false_iff.2 fun hfull => ?_
    have hpolicy := kind_of_run_of_full hfull hr
    rw [hkind] at hpolicy
    cases hpolicy
  · intro hroot
    cases hhops : setup.store.hops root (!request.test) with
    | error e =>
      exact ⟨e, Store.kind_of_hops hhops, run_profile_of_hops_eq_error hroot hhops s⟩
    | ok ps =>
      -- hops that were wrapped are those of a group that is in use
      rw [hprimary] at hhops
      obtain ⟨group', -, -, -, hgroup', hused, -⟩ := Store.hops_wrapped_eq_ok.1 hhops
      rw [hgroup] at hgroup'
      cases hgroup'
      rw [harchived] at hused
      cases hused

end Archived

/-- A document of the user's own. -/
def Setting.whole : Profile :=
  { id := 7
    protocol := .custom {
      core := "internal-full"
      config := ⟨.ofFields [("outbounds", .list [])],
        Tree.ordered_ofFields (by simp [Tree.OrderedFields, Tree.OrderedItems, Tree.Ordered])⟩ } }

/-- The setting with its group archived. -/
def Setting.archived : Setup :=
  { Setting.setup with store := { Setting.setup.store with groups := [{ archived := true }] } }

/-- Of the chain and the whole document, the group holds back the chain only. -/
theorem refused_iff_of_archived_setting :
    (∃ e : BuildError, e.kind = .structural ∧
      Build.run (Build.profile Setting.archived {} Setting.chain) Setting.start =
        (.error e, Setting.start)) ∧
    (¬ ∃ e : BuildError, e.kind = .structural ∧
      Build.run (Build.profile Setting.archived {} Setting.whole) Setting.start =
        (.error e, Setting.start)) ∧
    (Build.run (Build.profile Setting.archived {} Setting.whole) Setting.start).1.isOk = true := by
  have hgroup : Setting.archived.store.group? 0 = some { archived := true } := rfl
  refine ⟨(refused_iff_of_archived hgroup rfl rfl _).2 rfl, fun h => ?_, rfl⟩
  have hresolved := (refused_iff_of_archived hgroup rfl rfl _).1 h
  exact absurd hresolved (by decide)

/-! ## Entries -/

/-- A document has an entry: its hops have a first one, after which the entry is named and whose
counters are the primary ones. -/
structure Output.Entered (seq : Nat) (ps : List Profile) (o : Output) : Prop where
  entry : ∃ p, ps.head? = some p ∧ o.entryTag = Tag.hop seq p.id 0 ps.length ∧
    o.primaryTraffic = some p.id
  /-- And a last one, to which clients connect. -/
  client : ∃ p, ps.getLast? = some p
  named : o.entryTag ≠ ""

section Runs

variable {σ : Type} [RuleSetService σ] {setup : Setup} {request : Request} {root : Profile}
  {ps : List Profile} {hops : List Hop} {r : Routing} {o : Output}

theorem Output.primaryTraffic_of_built (hb : Built setup request root ps hops r o) :
    o.primaryTraffic = ps.head?.map Profile.id := by
  rw [hb.output, ← hb.compiled.map_profile, List.head?_map, Option.map_map]
  rfl

theorem Output.entered_of_built (hb : Built setup request root ps hops r o) (hne : ps ≠ []) :
    o.Entered request.seq ps := by
  obtain ⟨p, rest, rfl⟩ := List.exists_cons_of_ne_nil hne
  have htag : o.entryTag = Tag.hop request.seq p.id 0 (p :: rest).length := by
    have hentry := entry_of_built hb hne
    rw [List.head?_eq_getElem?, Hop.getElem?_tags] at hentry
    exact (Option.some.inj hentry).symm
  refine ⟨⟨p, rfl, htag, primaryTraffic_of_built hb⟩, ⟨_, List.getLast?_eq_some_getLast hne⟩, ?_⟩
  rw [htag]
  exact Tag.hop_ne_empty _ _ _ _

theorem Output.entryTag_of_no_hops (hb : Built setup request root [] hops r o) :
    o.entryTag = "" := by
  have hnone : hops = [] := List.length_eq_zero_iff.1 hb.compiled.length_eq
  rw [entryTag_of_built hb, hnone]
  rfl

/-- **Which documents have an entry.** A document that was built has one unless its profile has no
hops. Then it is put together all the same: its entry has an empty tag, and there are no primary
counters. -/
theorem entered_iff_of_run {s s' : BuildState σ} (hroot : root.isFullDocument = false)
    (hr : Build.run (Build.profile setup request root) s = (.ok o, s')) :
    ∃ ps, setup.store.hops root (!request.test) = .ok ps ∧
      (o.Entered request.seq ps ↔ ¬ setup.store.Hopless root (!request.test)) ∧
      (setup.store.Hopless root (!request.test) →
        ps = [] ∧ o.entryTag = "" ∧ o.primaryTraffic = none) := by
  obtain ⟨ps, hops, r, hb⟩ := built_of_run hroot hr
  have hempty := Store.hops_eq_nil_iff hb.resolved
  refine ⟨ps, hb.resolved, ?_, fun hhopless => ?_⟩
  · rw [← hempty]
    refine ⟨?_, Output.entered_of_built hb⟩
    rintro ⟨⟨p, hp, -⟩, -, -⟩ rfl
    cases hp
  · obtain rfl := hempty.2 hhopless
    exact ⟨rfl, Output.entryTag_of_no_hops hb, Output.primaryTraffic_of_built hb⟩

end Runs

/-- A chain that was not given any members. -/
def Setting.hollow : Profile :=
  { id := 4, protocol := .chain [] }

/-- The chain of three hops has an entry, and the hollow one has none. -/
theorem entered_iff_of_run_hollow :
    (∃ o s' ps, Build.run (Build.profile Setting.setup {} Setting.chain) Setting.start =
      (.ok o, s') ∧ o.Entered 0 ps) ∧
    (∃ o s', Build.run (Build.profile Setting.setup {} Setting.hollow) Setting.start =
      (.ok o, s') ∧ o.entryTag = "" ∧ o.primaryTraffic = none) := by
  constructor
  · obtain ⟨o, s', hr⟩ := Build.exists_run_eq_ok
      (b := Build.profile Setting.setup {} Setting.chain) (s := Setting.start) (by decide)
    obtain ⟨ps, -, hentered, -⟩ := entered_iff_of_run rfl hr
    refine ⟨o, s', ps, hr, hentered.2 fun h => ?_⟩
    cases h.members
  · obtain ⟨o, s', hr⟩ := Build.exists_run_eq_ok
      (b := Build.profile Setting.setup {} Setting.hollow) (s := Setting.start) (by decide)
    obtain ⟨ps, -, -, hnone⟩ := entered_iff_of_run rfl hr
    obtain ⟨-, htag, hprimary⟩ := hnone ⟨rfl, fun _ group hgroup => by
      cases hgroup
      constructor <;> rintro _ _ ⟨⟩⟩
    exact ⟨o, s', hr, htag, hprimary⟩

end Detour
