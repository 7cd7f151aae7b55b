import Detour.Proofs.Batch.Outbounds
/-!
# Attribution of tags

What is measured on a tag of a batch is written down for the profile that the tag stands for. The tag
is that of a hop, and the hop nearest to the client has one tag in all tests: two profiles that stand
for one and the same hop are reached under one tag, and it stands for the later of them.
`attributed_iff_of_run` says that nothing else comes between a profile and its tag.
-/

namespace Detour

namespace Store

variable {s : Store} {root : Profile} {ps : List Profile}

/-- A valid profile stands for one hop at least. -/
theorem ne_nil_of_expand (hvalid : root.protocol.isValid = true) (h : s.expand root = .ok ps) :
    ps ≠ [] := by
  rintro rfl
  rw [expand_eq_nil_iff.1 h] at hvalid
  cases hvalid

end Store

namespace Batch

variable {setup : Setup} {profiles : List Profile}

/-- The profiles that contribute to the shared document. -/
def contributors (profiles : List Profile) : List Profile :=
  profiles.filter fun p => p.protocol.isValid && !p.isFullDocument

/-- The profile that a tag stands for. -/
def Output.profileOf? (tag : String) (o : Output) : Option Int64 :=
  (o.tagToProfile.reverse.find? fun entry => entry.1 == tag).map Prod.snd

/-- Two profiles stand for one hop each, and for the same. -/
def SameHop (store : Store) (p q : Profile) : Prop :=
  ∃ h, store.hops p false = .ok [h] ∧ store.hops q false = .ok [h]

/-- Where no value is there twice, a key has the value beside it unless the key comes again. -/
theorem last_eq_some_iff {xs : List (String × Int64)} {j : Nat} {tag : String} {id : Int64}
    (hnodup : (xs.map Prod.snd).Nodup) (hj : xs[j]? = some (tag, id)) :
    (xs.reverse.find? fun e => e.1 == tag).map Prod.snd = some id ↔
      ∀ k e, j < k → xs[k]? = some e → e.1 ≠ tag := by
  induction xs generalizing j with
  | nil => cases hj
  | cons x rest ih =>
    rw [List.map_cons, List.nodup_cons] at hnodup
    obtain ⟨hx, hrest⟩ := hnodup
    rw [List.reverse_cons, List.find?_append]
    have hlast : (rest.reverse.find? fun e => e.1 == tag) = none ↔ ∀ e ∈ rest, e.1 ≠ tag := by
      simp [List.find?_eq_none]
    cases j with
    | zero =>
      cases hj
      have hshift : (∀ k e, 0 < k → ((tag, id) :: rest)[k]? = some e → e.1 ≠ tag) ↔
          ∀ e ∈ rest, e.1 ≠ tag := by
        constructor
        · intro h e he
          obtain ⟨k, hk⟩ := List.mem_iff_getElem?.1 he
          exact h (k + 1) e (Nat.succ_pos k) hk
        · rintro h (_ | k) e hpos hk
          · cases hpos
          · exact h e (List.mem_of_getElem? hk)
      rw [hshift, ← hlast]
      cases hfind : rest.reverse.find? fun e => e.1 == tag with
      | none => simp
      | some e =>
        -- what comes later has another value
        have hmem := List.mem_reverse.1 (List.mem_of_find?_eq_some hfind)
        have hne : e.2 ≠ id := fun he => hx (List.mem_map.2 ⟨e, hmem, he⟩)
        simp [hne]
    | succ j =>
      have hshift : (∀ k e, j + 1 < k → (x :: rest)[k]? = some e → e.1 ≠ tag) ↔
          ∀ k e, j < k → rest[k]? = some e → e.1 ≠ tag := by
        constructor
        · exact fun h k e hk he => h (k + 1) e (by omega) he
        · rintro h (_ | k) e hk he
          · omega
          · exact h k e (by omega) he
      have hj' : rest[j]? = some (tag, id) := hj
      rw [hshift, ← ih hrest hj']
      cases hfind : rest.reverse.find? fun e => e.1 == tag with
      | none => exact absurd rfl (hlast.1 hfind (tag, id) (List.mem_of_getElem? hj'))
      | some e => rfl

/-! ## The tags of tests -/

section Runs

variable {σ : Type} [RuleSetService σ] {tests : List Test} {items : List Item} {s : BuildState σ}
  {t t' : Test} {ps ps' : List Profile} {hops hops' : List Hop} {r r' : Routing}

theorem Item.id_of_ofOutput {p : Profile} {o : Detour.Output} {part : Part}
    (h : ofOutput p o = .ok (.part part)) : part.id = p.id := by
  unfold ofOutput at h
  split at h
  · cases h
  · split at h
    · split at h
      · cases h
        rfl
      · cases h
    · cases h

/-- The profiles of the tags are those of the tests. -/
theorem Item.Tested.tagToProfile_eq (h : Item.Tested profiles tests items) :
    (items.filterMap part?).map (fun part => (part.entryTag, part.id)) =
      (tests.filter fun t => !t.root.isFullDocument).map fun t => (t.entryTag, t.root.id) := by
  induction h with
  | nil => rfl
  | skipped _ _ ih => exact ih
  | built _ hitem _ ih =>
    rcases cases_of_ofOutput hitem with ⟨hfull, document, rfl, -⟩ | ⟨hfull, part, rfl, hout⟩
    · rw [List.filter_cons_of_neg (by simp [hfull])]
      exact ih
    · rw [List.filter_cons_of_pos (by simp [hfull]), List.map_cons, ← ih]
      simp [part?, Part.entryTag, Test.entryTag, Test.outbounds, hout, id_of_ofOutput hitem]

namespace Test.Compiled

/-- A test is reached under the tag of its first hop. -/
theorem entryTag_eq (hc : t.Compiled setup ps hops r) {p : Profile} (hp : ps[0]? = some p) :
    t.entryTag = Tag.hop t.seq p.id 0 ps.length := by
  obtain ⟨h, -, -, hget, htag⟩ := hc.hop hp
  rw [Test.entryTag, List.head?_eq_getElem?, hget, Option.map_some, Option.getD_some, htag]

/-- Two tests are reached under one tag exactly if their profiles stand for the same single hop. -/
theorem entryTag_eq_iff (hc : t.Compiled setup ps hops r) (hc' : t'.Compiled setup ps' hops' r')
    (hne : ps ≠ []) (hne' : ps' ≠ []) (hseq : t.seq ≠ t'.seq) :
    t.entryTag = t'.entryTag ↔ SameHop setup.store t.root t'.root := by
  obtain ⟨p, rest, rfl⟩ := List.exists_cons_of_ne_nil hne
  obtain ⟨q, rest', rfl⟩ := List.exists_cons_of_ne_nil hne'
  rw [hc.entryTag_eq rfl, hc'.entryTag_eq rfl]
  constructor
  · intro he
    -- no test is in sequence 0 and no two are in one, so the shared tag is that of a client's hop,
    -- which is first in its chain and therefore the only one
    rcases Tag.hop_eq_hop he with ⟨⟨hzero, -⟩, -⟩ | ⟨hlen, hlen', hids, -⟩ | ⟨-, -, hsame, -⟩
    · exact absurd hzero hc.seq_ne
    · have hp := hc.stored p List.mem_cons_self
      rw [hids, hc'.stored q List.mem_cons_self] at hp
      cases hp
      obtain rfl : rest = [] := List.eq_nil_of_length_eq_zero (by simpa using hlen.symm)
      obtain rfl : rest' = [] := List.eq_nil_of_length_eq_zero (by simpa using hlen'.symm)
      exact ⟨p, hc.resolved, hc'.resolved⟩
    · exact absurd hsame hseq
  · rintro ⟨h, hh, hh'⟩
    rw [hc.resolved] at hh
    rw [hc'.resolved] at hh'
    cases hh
    cases hh'
    simp [Tag.hop, hc.seq_ne, hc'.seq_ne]

end Test.Compiled

/-- What can be said of all tests that a batch of plain profiles shares, where no test fails. -/
theorem Plain.exists_compiled (hplain : Plain setup profiles)
    (hok : ∀ t ∈ Batch.tests setup profiles s, t.failure? = none)
    (ht : t ∈ sharedTests setup profiles s) :
    ∃ ps hops r, t.Compiled setup ps hops r ∧ ps ≠ [] := by
  obtain ⟨ps, hops, r, hc⟩ := Test.exists_compiled
    (fun p hp => by simp [hplain.document p hp])
    (fun root hroot ps hps p hp => by simp [hplain.outbound root hroot ps hps p hp])
    hplain.stored hok ht
  have hroot : t.root ∈ contributors profiles := by
    rw [contributors, ← map_root_sharedTests setup profiles s]
    exact List.mem_map_of_mem ht
  have hvalid : t.root.protocol.isValid = true := by
    have := (List.mem_filter.1 hroot).2
    simp only [Bool.and_eq_true] at this
    exact this.1
  exact ⟨ps, hops, r, hc, Store.ne_nil_of_expand hvalid (Store.expand_of_hops hc.resolved)⟩

/-- No two tests are of one profile. -/
theorem nodup_ids_sharedTests (hids : (profiles.map Profile.id).Nodup) :
    ((sharedTests setup profiles s).map fun t => t.root.id).Nodup := by
  have hmap : (sharedTests setup profiles s).map (fun t => t.root.id) =
      (contributors profiles).map Profile.id := by
    rw [contributors, ← map_root_sharedTests setup profiles s, List.map_map]
    rfl
  rw [hmap]
  exact hids.sublist (List.filter_sublist.map Profile.id)

/-- So a test and a later one are reached under one tag exactly if their profiles stand for the same
single hop. -/
theorem Plain.entryTag_eq_iff (hplain : Plain setup profiles)
    (hids : (profiles.map Profile.id).Nodup)
    (hok : ∀ t ∈ Batch.tests setup profiles s, t.failure? = none) {j k : Nat}
    (ht : (sharedTests setup profiles s)[j]? = some t)
    (ht' : (sharedTests setup profiles s)[k]? = some t') (hjk : j < k) :
    t.entryTag = t'.entryTag ↔ SameHop setup.store t.root t'.root := by
  have hmem := List.mem_of_getElem? ht
  have hmem' := List.mem_of_getElem? ht'
  obtain ⟨ps, hops, r, hc, hps⟩ := hplain.exists_compiled hok hmem
  obtain ⟨ps', hops', r', hc', hps'⟩ := hplain.exists_compiled hok hmem'
  refine hc.entryTag_eq_iff hc' hps hps' fun hseq => ?_
  obtain rfl := eq_of_seq_eq (List.mem_filter.1 hmem).1 (List.mem_filter.1 hmem').1 hseq
  have hnodup : (sharedTests setup profiles s).Nodup :=
    (List.pairwise_map.1 (nodup_ids_sharedTests hids)).imp fun hne he =>
      hne (congrArg (fun t => t.root.id) he)
  have hj : j < (sharedTests setup profiles s).length := (List.getElem?_eq_some_iff.1 ht).1
  have := (List.getElem?_inj hj hnodup).1 (ht.trans ht'.symm)
  omega

end Runs

/-- **A tag stands for its profile unless a later one is the same single hop.** Each profile that
contributes has one tag, in order. What the tag stands for is that profile, exactly if no profile
behind it stands for one hop that is also all that this one stands for. -/
theorem attributed_iff_of_run {σ : Type} [RuleSetService σ] {setup : Setup}
    {profiles : List Profile} {out : Output} {s s' : BuildState σ} (hplain : Plain setup profiles)
    (hids : (profiles.map Profile.id).Nodup)
    (hr : Build.run (Build.batch setup profiles) s = (.ok out, s')) :
    out.outboundTags.length = (contributors profiles).length ∧
      ∀ (j : Nat) (p : Profile) (tag : String), (contributors profiles)[j]? = some p →
        out.outboundTags[j]? = some tag →
        (out.profileOf? tag = some p.id ↔
          ∀ (k : Nat) (q : Profile), j < k → (contributors profiles)[k]? = some q →
            ¬ SameHop setup.store p q) := by
  simp only [Build.batch, Build.run_bind_eq_ok] at hr
  obtain ⟨items, s₁, hitems, ruleSets, s₂, -, hpure⟩ := hr
  cases hpure
  obtain ⟨htested, -, -⟩ := tested_of_run hitems
  have htags := htested.entryTags_eq
  have hpairs := htested.tagToProfile_eq
  change _ = (sharedTests setup profiles s).map _ at htags hpairs
  have hok := htested.failure?_eq_none
  simp only [assemble, htags, hpairs, Output.profileOf?, contributors,
    ← map_root_sharedTests setup profiles s]
  refine ⟨by rw [List.length_map, List.length_map], fun j p tag hp htag => ?_⟩
  rw [List.getElem?_map, Option.map_eq_some_iff] at hp
  obtain ⟨t, ht, rfl⟩ := hp
  rw [List.getElem?_map, ht, Option.map_some, Option.some.injEq] at htag
  subst htag
  -- the ids are distinct, so the last entry of a tag tells its profile
  have hnodup : (((sharedTests setup profiles s).map fun t => (t.entryTag, t.root.id)).map
      Prod.snd).Nodup := by
    rw [List.map_map]
    exact nodup_ids_sharedTests hids
  rw [last_eq_some_iff hnodup (by rw [List.getElem?_map, ht]; rfl)]
  constructor
  · intro h k q hk hq
    rw [List.getElem?_map, Option.map_eq_some_iff] at hq
    obtain ⟨t', ht', rfl⟩ := hq
    rw [← hplain.entryTag_eq_iff hids hok ht ht' hk]
    exact fun he => h k _ hk (by rw [List.getElem?_map, ht']; rfl) he.symm
  · intro h k e hk he
    rw [List.getElem?_map, Option.map_eq_some_iff] at he
    obtain ⟨t', ht', rfl⟩ := he
    intro he
    refine h k t'.root hk (by rw [List.getElem?_map, ht']; rfl) ?_
    exact (hplain.entryTag_eq_iff hids hok ht ht' hk).1 he.symm

/-! ## A name for a server -/

/-- A chain that has the native server as its only member. -/
def Setting.alone : Profile :=
  { id := 4, protocol := .chain [2] }

/-- The setting with that chain. -/
def Setting.named : Setup :=
  { Setting.setup with
    store := { Setting.setup.store with profiles := [Setting.native, Setting.alone] } }

theorem Setting.plain_named : Plain Setting.named [Setting.native, Setting.alone] := by
  have hops : ∀ root ∈ [Setting.native, Setting.alone],
      Setting.named.store.hops root false = .ok [Setting.native] := by
    simp only [List.forall_mem_cons]
    exact ⟨rfl, rfl, by simp⟩
  refine ⟨?_, by decide, fun root hroot ps hps p hp => ?_⟩
  · simp only [List.forall_mem_cons]
    exact ⟨rfl, rfl, by simp⟩
  rw [hops root hroot] at hps
  cases hps
  rw [List.mem_singleton.1 hp]
  rfl

/-- The server and the chain are reached under one tag, and what is measured on it counts for the
chain alone. -/
theorem attributed_iff_of_run_alone :
    ∃ out s', Build.run (Build.batch Setting.named [Setting.native, Setting.alone]) Setting.start =
        (.ok out, s') ∧ out.outboundTags[0]? = some "g-2-0" ∧
      out.profileOf? "g-2-0" ≠ some Setting.native.id := by
  obtain ⟨out, s', hr⟩ := Build.exists_run_eq_ok
    (b := Build.batch Setting.named [Setting.native, Setting.alone]) (s := Setting.start)
    (by decide +kernel)
  obtain ⟨-, htold⟩ := attributed_iff_of_run Setting.plain_named (by decide) hr
  have htag : out.outboundTags[0]? = some "g-2-0" := by
    have hrun : (Build.run (Build.batch Setting.named [Setting.native, Setting.alone])
        Setting.start).1.toOption.bind (fun o => o.outboundTags[0]?) = some "g-2-0" := by
      decide +kernel
    rw [hr] at hrun
    exact hrun
  refine ⟨out, s', hr, htag, fun hown => ?_⟩
  refine (htold 0 Setting.native "g-2-0" rfl htag).1 hown 1 Setting.alone Nat.one_pos rfl ?_
  exact ⟨Setting.native, rfl, rfl⟩

end Batch

end Detour
