import Detour.Proofs.Hop.Compiled
import Detour.Proofs.Tag
/-!
# Linked hops

Linking is a recursion over the hops that looks one hop ahead. Position by position it reads: the
hop is linked to the next one if there is one (`getElem?_linkedOutbounds`, `mem_redirects`). The
tags of a chain differ from each other, so a redirect is known by its hop (`filter_redirects`).
-/

namespace Detour

/-- Where a key tells elements apart, and all that is made of them has the keys they have, what is
made of one element is found by its key. -/
theorem filter_filterMap_eq {α β κ : Type} [DecidableEq κ] {xs : List α} {f : α → κ}
    {g : α → Option β} {key : β → κ} {x : α} (hnodup : (xs.map f).Nodup)
    (hkey : ∀ y ∈ xs, ∀ b, g y = some b → key b = f y) (hx : x ∈ xs) :
    (xs.filterMap g).filter (fun b => key b = f x) = (g x).toList := by
  -- elements with other keys leave nothing behind
  have hnone : ∀ ys : List α, (∀ y ∈ ys, y ∈ xs) → (∀ y ∈ ys, f y ≠ f x) →
      (ys.filterMap g).filter (fun b => key b = f x) = [] := by
    intro ys hsub hne
    refine List.filter_eq_nil_iff.2 fun b hb he => ?_
    obtain ⟨y, hy, hyb⟩ := List.mem_filterMap.1 hb
    exact hne y hy ((hkey y (hsub y hy) b hyb).symm.trans (of_decide_eq_true he))
  obtain ⟨front, back, rfl⟩ := List.append_of_mem hx
  rw [List.map_append, List.map_cons] at hnodup
  obtain ⟨-, hback, hdisjoint⟩ := List.nodup_append.1 hnodup
  have hfront : ∀ y ∈ front, f y ≠ f x := fun y hy =>
    hdisjoint _ (List.mem_map_of_mem hy) _ List.mem_cons_self
  have hrest : ∀ y ∈ back, f y ≠ f x := fun y hy he =>
    (List.nodup_cons.1 hback).1 (he ▸ List.mem_map_of_mem hy)
  rw [List.filterMap_append, List.filter_append,
    hnone front (fun y hy => List.mem_append_left _ hy) hfront, List.nil_append,
    List.filterMap_cons]
  have hback' := hnone back (fun y hy => List.mem_append_right _ (List.mem_cons_of_mem _ hy)) hrest
  cases hg : g x with
  | none => simpa using hback'
  | some b =>
    have hb : key b = f x := hkey x hx b hg
    rw [List.filter_cons_of_pos (by simpa using hb), hback']
    rfl

/-- Of elements with different keys, exactly one has the key of a given one. -/
theorem filter_key_eq_singleton {α κ : Type} [DecidableEq κ] {f : α → κ} {xs : List α} {x : α}
    (hxs : (xs.map f).Nodup) (hx : x ∈ xs) : xs.filter (fun y => f y = f x) = [x] := by
  have hkey : ∀ y ∈ xs, ∀ z, some y = some z → f z = f y := by
    rintro y - z ⟨⟩
    rfl
  have hsome := filter_filterMap_eq hxs hkey hx
  rwa [List.filterMap_some] at hsome

namespace Hop

variable {settings : Settings} {seq i : Nat} {ps : List Profile} {hops : List Hop} {h : Hop}

/-- The outbound of a hop once it is linked to the next one, if there is a next one. -/
def linkedTo (next : Option Hop) (h : Hop) : Fields :=
  match next with
  | some n => if h.bridging = .native then Fields.set "detour" (.str n.tag) h.outbound
    else h.outbound
  | none => h.outbound

/-- The redirect of a hop in front of the next one, if there is a next one. -/
def redirectTo (next : Option Hop) (h : Hop) : Option Redirect :=
  match next with
  | some n => if h.bridging = .native then none else some ⟨h.tag, n.tag⟩
  | none => if h.bridging = .mapping then some ⟨h.tag, Tag.direct⟩ else none

/-- A bridged hop is not linked by its outbound. -/
theorem linkedTo_of_ne_native (hn : h.bridging ≠ .native) (next : Option Hop) :
    h.linkedTo next = h.outbound := by
  cases next with
  | none => rfl
  | some n => exact if_neg hn

/-- Each hop is linked to the one behind it. -/
theorem getElem?_linkedOutbounds (hops : List Hop) (i : Nat) :
    (linkedOutbounds hops)[i]? = hops[i]?.map (linkedTo hops[i + 1]?) := by
  fun_induction linkedOutbounds hops generalizing i with
  | case1 => simp
  | case2 h => cases i <;> simp [linkedTo]
  | case3 h next rest ih =>
    cases i with
    | zero => simp [linkedTo]
    | succ i => simpa using ih i

@[simp] theorem length_linkedOutbounds (hops : List Hop) :
    (linkedOutbounds hops).length = hops.length := by
  fun_induction linkedOutbounds hops with
  | case1 => rfl
  | case2 h => rfl
  | case3 h next rest ih => simp [ih]

/-- The outbounds are those of the hops, each with the link that its place gives it. -/
theorem mem_linkedOutbounds {fields : Fields} :
    fields ∈ linkedOutbounds hops ↔
      ∃ (i : Nat) (h : Hop), hops[i]? = some h ∧ fields = h.linkedTo hops[i + 1]? := by
  rw [List.mem_iff_getElem?]
  refine exists_congr fun i => ?_
  rw [getElem?_linkedOutbounds, Option.map_eq_some_iff]
  simp only [eq_comm]

/-- A redirect comes from a hop and leads to the one behind it, or out behind the last one. -/
theorem mem_redirects {r : Redirect} :
    r ∈ redirects hops ↔
      ∃ (i : Nat) (h : Hop), hops[i]? = some h ∧ h.redirectTo hops[i + 1]? = some r := by
  -- the first hop stands at position 0, the others one further than in the tail
  have hcons : ∀ {h : Hop} {rest : List Hop},
      (∃ (i : Nat) (h' : Hop), (h :: rest)[i]? = some h' ∧
          h'.redirectTo (h :: rest)[i + 1]? = some r) ↔
        h.redirectTo rest[0]? = some r ∨
          ∃ (i : Nat) (h' : Hop), rest[i]? = some h' ∧ h'.redirectTo rest[i + 1]? = some r := by
    intro h rest
    constructor
    · rintro ⟨i, h', hi, hr⟩
      cases i with
      | zero =>
        cases hi
        exact .inl (by simpa using hr)
      | succ i => exact .inr ⟨i, h', by simpa using hi, by simpa using hr⟩
    · rintro (hr | ⟨i, h', hi, hr⟩)
      · exact ⟨0, h, rfl, by simpa using hr⟩
      · exact ⟨i + 1, h', by simpa using hi, by simpa using hr⟩
  fun_induction redirects hops with
  | case1 => simp
  | case2 h hm => rw [hcons]; simp [redirectTo, hm, eq_comm]
  | case3 h hm => rw [hcons]; simp [redirectTo, hm]
  | case4 h next rest hn ih =>
    refine Iff.trans ih (Iff.trans ?_ hcons.symm)
    have hnone : h.redirectTo (some next) = none := by simp [redirectTo, hn]
    simp [hnone]
  | case5 h next rest hn ih =>
    rw [hcons, List.mem_cons]
    refine or_congr ?_ ih
    simp [redirectTo, hn, eq_comm]

/-- Every hop has at most one redirect, and they stand in the order of the hops. -/
theorem map_hop_redirects_sublist (hops : List Hop) :
    ((redirects hops).map Redirect.hop).Sublist (hops.map tag) := by
  fun_induction redirects hops with
  | case1 => simp
  | case2 h hm => simp
  | case3 h hm => simp
  | case4 h next rest hn ih => exact ih.cons _
  | case5 h next rest hn ih => exact ih.cons_cons _

/-- A redirect feeds the hop that it is named after. -/
theorem hop_of_redirectTo {next : Option Hop} {r : Redirect} (hr : h.redirectTo next = some r) :
    r.hop = h.tag := by
  unfold redirectTo at hr
  split at hr <;> split at hr <;> cases hr <;> rfl

theorem outbound_of_redirectTo {next : Option Hop} {r : Redirect} (hr : h.redirectTo next = some r) :
    (∃ n, next = some n ∧ r.outbound = n.tag) ∨ r.outbound = Tag.direct := by
  unfold redirectTo at hr
  split at hr
  · rename_i n
    split at hr <;> cases hr
    exact .inl ⟨n, rfl, rfl⟩
  · split at hr <;> cases hr
    exact .inr rfl

/-- Where the hops have different tags, the redirects of a hop are the one that its place asks
for. -/
theorem filter_redirects (hnodup : (hops.map tag).Nodup) (hi : hops[i]? = some h) :
    (redirects hops).filter (fun r => r.hop = h.tag) = (h.redirectTo hops[i + 1]?).toList := by
  cases hr : h.redirectTo hops[i + 1]? with
  | some r =>
    have hmem : r ∈ redirects hops := mem_redirects.2 ⟨i, h, hi, hr⟩
    have := filter_key_eq_singleton (hnodup.sublist (map_hop_redirects_sublist hops)) hmem
    rwa [hop_of_redirectTo hr] at this
  | none =>
    refine List.filter_eq_nil_iff.2 fun r hmem he => ?_
    obtain ⟨j, h', hj, hr'⟩ := mem_redirects.1 hmem
    have htag : h'.tag = h.tag := by
      rw [← hop_of_redirectTo hr']
      exact of_decide_eq_true he
    have hij : j = i := by
      have hlt : j < (hops.map tag).length := by
        simpa using (List.getElem?_eq_some_iff.1 hj).1
      exact (List.getElem?_inj hlt hnodup).1 (by simp [hi, hj, htag])
    subst hij
    rw [hi] at hj
    cases hj
    rw [hr] at hr'
    cases hr'

/-! ## Tags of a chain -/

/-- The tags of the hops of a chain. -/
def tags (seq : Nat) (ps : List Profile) : List String :=
  ps.mapIdx fun i p => Tag.hop seq p.id i ps.length

/-- A tag is told by the profile and the place. -/
theorem getElem?_tags (seq : Nat) (ps : List Profile) (i : Nat) :
    (tags seq ps)[i]? = ps[i]?.map fun p => Tag.hop seq p.id i ps.length := by
  simp [tags]

theorem mem_tags {tag : String} :
    tag ∈ tags seq ps ↔ ∃ (i : Nat) (p : Profile), ps[i]? = some p ∧
      tag = Tag.hop seq p.id i ps.length := by
  rw [List.mem_iff_getElem?]
  refine exists_congr fun i => ?_
  rw [getElem?_tags, Option.map_eq_some_iff]
  simp only [eq_comm]

/-- The tags of a chain differ from each other, even where one profile is several hops. -/
theorem nodup_tags (seq : Nat) (ps : List Profile) : (tags seq ps).Nodup := by
  refine List.pairwise_iff_getElem.2 fun i j hi hj hij he => ?_
  simp only [tags, List.getElem_mapIdx] at he
  have := Tag.index_eq_of_hop_eq he
  omega

theorem direct_notMem_tags (seq : Nat) (ps : List Profile) : Tag.direct ∉ tags seq ps := by
  intro h
  obtain ⟨i, p, -, hp⟩ := mem_tags.1 h
  have hreserved := Tag.isReserved_hop seq p.id i ps.length
  rw [← hp] at hreserved
  exact absurd hreserved (by decide)

/-- And none of them is the way out. -/
theorem nodup_tags_append (seq : Nat) (ps : List Profile) :
    (tags seq ps ++ [Tag.direct]).Nodup := by
  refine List.nodup_append.2 ⟨nodup_tags seq ps, List.pairwise_singleton _ _, ?_⟩
  rintro a ha b hb rfl
  rw [List.mem_singleton.1 hb] at ha
  exact direct_notMem_tags seq ps ha

/-- Hops are compiled in the order of their profiles. -/
theorem CompiledChain.map_profile (hc : CompiledChain settings seq ps hops) :
    hops.map profile = ps := by
  refine List.ext_getElem? fun i => ?_
  rw [List.getElem?_map]
  cases hi : hops[i]? with
  | none =>
    have hlen := hc.length_eq
    exact (List.getElem?_eq_none (hlen ▸ List.getElem?_eq_none_iff.1 hi)).symm
  | some h =>
    obtain ⟨p, hp, hcompiled⟩ := hc.exists_profile hi
    rw [Option.map_some, hcompiled.place.1, hp]

theorem CompiledChain.map_tag (hc : CompiledChain settings seq ps hops) :
    hops.map tag = tags seq ps := by
  refine List.ext_getElem? fun i => ?_
  rw [List.getElem?_map, getElem?_tags]
  rcases Nat.lt_or_ge i ps.length with hi | hi
  · have hi' : i < hops.length := hc.length_eq ▸ hi
    have := (hc.compiled i ps[i] hops[i] (by simp [hi]) (by simp [hi'])).place.2.1
    simp [hi, hi', this]
  · have hi' : hops.length ≤ i := hc.length_eq ▸ hi
    simp [hi, hi']

/-- Only a hop in `mapping` mode has a redirect: the other bridged ones are nearest to the client. -/
theorem CompiledChain.eq_mapping_of_redirectTo (hc : CompiledChain settings seq ps hops)
    (hi : hops[i]? = some h) {r : Redirect} (hr : h.redirectTo hops[i + 1]? = some r) :
    h.bridging = .mapping := by
  cases hn : hops[i + 1]? with
  | none =>
    rw [hn, redirectTo] at hr
    split at hr
    · assumption
    · cases hr
  | some n =>
    rw [hn, redirectTo] at hr
    split at hr
    · cases hr
    · rename_i hnat
      obtain ⟨p, -, hp⟩ := hc.exists_profile hi
      have hlt := (List.getElem?_eq_some_iff.1 hn).1
      have hlen := hc.length_eq
      have hfar : (i + 1 == ps.length) = false := beq_eq_false_iff_ne.2 (by omega)
      rw [hfar] at hp
      exact hp.eq_mapping_of_far hnat

theorem CompiledChain.nodup (hc : CompiledChain settings seq ps hops) :
    (hops.map tag).Nodup :=
  hc.map_tag ▸ nodup_tags seq ps

/-- The helper of a hop is found by the tag of the hop. -/
theorem CompiledChain.filter_helpers (hc : CompiledChain settings seq ps hops)
    (hi : hops[i]? = some h) :
    (hops.filterMap helper).filter (fun d => d.outbound = h.tag) = h.helper.toList :=
  filter_filterMap_eq hc.nodup (fun _ hg _ hd => hc.outbound_helper hg hd) (List.mem_of_getElem? hi)

end Hop

end Detour
