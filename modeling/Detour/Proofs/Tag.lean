import Detour.Tag
/-!
# What tags say

A tag is printed from numbers with dashes between them, and ids below zero bring dashes of their
own. Tags can be read back all the same: the first and the last letter give the `family`, a number
holds no dash, so the first dash ends the sequence number and the last one begins the position.
`hop_eq_hop` says which hops share a tag. Within one document that is no two of them
(`index_eq_of_hop_eq`), and in the documents of a batch only those at one place nearest to the client
(`same_place_of_hop_eq`).
-/

namespace Detour

namespace Text

variable {sep : Char} {a a' b b' : List Char}

/-- The text before the first separator is found, however the text behind it goes on. -/
theorem cut?_append (h : sep ∉ a) : cut? sep (a ++ sep :: b) = some (a, b) := by
  induction a with
  | nil => simp [cut?]
  | cons c a ih =>
    have hc : c ≠ sep := fun he => h (he ▸ List.mem_cons_self)
    have ha : sep ∉ a := fun he => h (List.mem_cons_of_mem _ he)
    simp [cut?, hc, ih ha]

/-- Two texts that are equal are cut in the same way at their first separator. -/
theorem eq_and_eq_of_first_sep (h : sep ∉ a) (h' : sep ∉ a') (he : a ++ sep :: b = a' ++ sep :: b') :
    a = a' ∧ b = b' := by
  have hcut : some (a, b) = some (a', b') := by rw [← cut?_append h, he, cut?_append h']
  simpa using hcut

/-- And at their last one. -/
theorem eq_and_eq_of_last_sep (h : sep ∉ b) (h' : sep ∉ b') (he : a ++ sep :: b = a' ++ sep :: b') :
    a = a' ∧ b = b' := by
  have hrev : b.reverse ++ sep :: a.reverse = b'.reverse ++ sep :: a'.reverse := by
    simpa using congrArg List.reverse he
  obtain ⟨hb, ha⟩ := eq_and_eq_of_first_sep (by simpa using h) (by simpa using h') hrev
  exact ⟨List.reverse_inj.1 ha, List.reverse_inj.1 hb⟩

end Text

namespace Tag

/-! ## Numbers in tags -/

theorem dash_notMem_toDigits (n : Nat) : '-' ∉ Nat.toDigits 10 n := by
  intro h
  have hdigit := Nat.isDigit_of_mem_toDigits (by decide) (by decide) h
  exact absurd hdigit (by decide)

theorem toDigits_injective {m n : Nat} (h : Nat.toDigits 10 m = Nat.toDigits 10 n) : m = n := by
  rw [← Nat.ofDigitChars_ten_toDigits (n := m), h, Nat.ofDigitChars_ten_toDigits]

/-- An id is known by its text: only one below zero has a dash. -/
theorem id_eq_of_repr {a b : Int64} (h : a.toInt.repr.toList = b.toInt.repr.toList) : a = b := by
  refine Int64.toInt_inj.1 ?_
  revert h
  generalize a.toInt = i, b.toInt = j
  intro h
  match i, j with
  | .ofNat m, .ofNat n =>
    have hd : Nat.toDigits 10 m = Nat.toDigits 10 n := by simpa [Int.repr] using h
    rw [toDigits_injective hd]
  | .negSucc m, .negSucc n =>
    have hd : Nat.toDigits 10 (m + 1) = Nat.toDigits 10 (n + 1) := by
      simpa [Int.repr] using h
    have := toDigits_injective hd
    rw [Nat.add_right_cancel this]
  -- one of the two texts starts with a dash, and the other one has none
  | .ofNat m, .negSucc n =>
    have hd : Nat.toDigits 10 m = '-' :: Nat.toDigits 10 (n + 1) := by simpa [Int.repr] using h
    exact absurd (hd ▸ List.mem_cons_self) (dash_notMem_toDigits m)
  | .negSucc m, .ofNat n =>
    have hd : '-' :: Nat.toDigits 10 (m + 1) = Nat.toDigits 10 n := by simpa [Int.repr] using h
    exact absurd (hd ▸ List.mem_cons_self) (dash_notMem_toDigits n)

/-! ## The families of tags -/

/-- The text of the hop nearest to the client. -/
theorem toList_global (id : Int64) (index : Nat) :
    (s!"g-{id}-{index}").toList =
      'g' :: '-' :: (id.toInt.repr.toList ++ '-' :: Nat.toDigits 10 index) := by
  simp [toString, String.toList_append]

/-- The text of any other hop. -/
theorem toList_inner (seq : Nat) (id : Int64) (index : Nat) :
    (s!"c-{seq}-{id}-{index}").toList =
      'c' :: '-' :: (Nat.toDigits 10 seq ++
        '-' :: (id.toInt.repr.toList ++ '-' :: Nat.toDigits 10 index)) := by
  simp [toString, String.toList_append]

/-- The last dash ends the id, so both numbers can be told, also with a dash in front of the id. -/
theorem global_injective {a b : Int64} {i j : Nat} (h : s!"g-{a}-{i}" = s!"g-{b}-{j}") :
    a = b ∧ i = j := by
  have hl := congrArg String.toList h
  rw [toList_global, toList_global, List.cons_inj_right, List.cons_inj_right] at hl
  obtain ⟨hid, hindex⟩ :=
    Text.eq_and_eq_of_last_sep (dash_notMem_toDigits i) (dash_notMem_toDigits j) hl
  exact ⟨id_eq_of_repr hid, toDigits_injective hindex⟩

/-- Here the sequence comes first, and has no dash of its own. -/
theorem inner_injective {s t : Nat} {a b : Int64} {i j : Nat}
    (h : s!"c-{s}-{a}-{i}" = s!"c-{t}-{b}-{j}") : s = t ∧ a = b ∧ i = j := by
  have hl := congrArg String.toList h
  rw [toList_inner, toList_inner, List.cons_inj_right, List.cons_inj_right] at hl
  obtain ⟨hseq, hrest⟩ :=
    Text.eq_and_eq_of_first_sep (dash_notMem_toDigits s) (dash_notMem_toDigits t) hl
  obtain ⟨hid, hindex⟩ :=
    Text.eq_and_eq_of_last_sep (dash_notMem_toDigits i) (dash_notMem_toDigits j) hrest
  exact ⟨toDigits_injective hseq, id_eq_of_repr hid, toDigits_injective hindex⟩

/-- The first letters tell the two kinds of hops apart. -/
theorem global_ne_inner {s : Nat} {a b : Int64} {i j : Nat} :
    s!"g-{a}-{i}" ≠ s!"c-{s}-{b}-{j}" := by
  intro h
  have hl := congrArg String.toList h
  rw [toList_global, toList_inner] at hl
  simp at hl

/-- And the one kind from the destination of the primary chain. -/
theorem global_ne_proxy {a : Int64} {i : Nat} : s!"g-{a}-{i}" ≠ proxy := by
  intro h
  have hl := congrArg String.toList h
  rw [toList_global] at hl
  simp [proxy] at hl

theorem inner_ne_proxy {s : Nat} {a : Int64} {i : Nat} : s!"c-{s}-{a}-{i}" ≠ proxy := by
  intro h
  have hl := congrArg String.toList h
  rw [toList_inner] at hl
  simp [proxy] at hl

/-- The three names that a hop may have, with the place that each is for. -/
theorem hop_cases (seq : Nat) (id : Int64) (index length : Nat) :
    (seq = 0 ∧ index = 0 ∧ hop seq id index length = proxy) ∨
      (index + 1 = length ∧ hop seq id index length = s!"g-{id}-{index}") ∨
        (index + 1 ≠ length ∧ hop seq id index length = s!"c-{seq}-{id}-{index}") := by
  unfold hop
  split
  · rename_i h
    exact .inl ⟨h.1, h.2, rfl⟩
  · split
    · rename_i h
      exact .inr (.inl ⟨h, rfl⟩)
    · rename_i h
      exact .inr (.inr ⟨h, rfl⟩)

/-- The first letter of a hop's tag. -/
theorem head?_hop (seq : Nat) (id : Int64) (index length : Nat) :
    (hop seq id index length).toList.head? = some 'p' ∨
      (hop seq id index length).toList.head? = some 'g' ∨
        (hop seq id index length).toList.head? = some 'c' := by
  rcases hop_cases seq id index length with ⟨-, -, h⟩ | ⟨-, h⟩ | ⟨-, h⟩ <;> rw [h]
  · exact .inl rfl
  · rw [toList_global]
    exact .inr (.inl rfl)
  · rw [toList_inner]
    exact .inr (.inr rfl)

/-- The first letter of a routing target's tag. -/
theorem head?_routeTarget (seq rank : Nat) :
    (routeTarget seq rank).toList.head? = some 'r' := by
  unfold routeTarget
  split <;> simp [toString, String.toList_append]

theorem hop_ne_routeTarget {seq : Nat} {id : Int64} {index length seq' rank : Nat} :
    hop seq id index length ≠ routeTarget seq' rank := by
  intro h
  have hr := head?_routeTarget seq' rank
  rw [← h] at hr
  rcases head?_hop seq id index length with hh | hh | hh <;> simp [hh] at hr

/-! ### Targets of rules -/

/-- The text of a target in the primary sequence. -/
theorem toList_target (rank : Nat) :
    (s!"rout-{rank}").toList = "rout".toList ++ '-' :: Nat.toDigits 10 rank := by
  simp [toString, String.toList_append]

/-- The text of a target in any other sequence. -/
theorem toList_targetOf (seq rank : Nat) :
    (s!"rout-{seq}-{rank}").toList =
      "rout".toList ++ '-' :: (Nat.toDigits 10 seq ++ '-' :: Nat.toDigits 10 rank) := by
  simp [toString, String.toList_append]

/-- Targets are told apart by their sequences and ranks: a target of the primary sequence is the one
that has no second dash. -/
theorem routeTarget_injective {s t m n : Nat} (h : routeTarget s m = routeTarget t n) :
    s = t ∧ m = n := by
  have hl := congrArg String.toList h
  unfold routeTarget at hl
  split at hl <;> split at hl <;> rename_i hs ht
  · rw [toList_target, toList_target, List.append_cancel_left_eq, List.cons_inj_right] at hl
    exact ⟨hs.trans ht.symm, toDigits_injective hl⟩
  · rw [toList_target, toList_targetOf, List.append_cancel_left_eq, List.cons_inj_right] at hl
    exact absurd (hl ▸ by simp) (dash_notMem_toDigits m)
  · rw [toList_target, toList_targetOf, List.append_cancel_left_eq, List.cons_inj_right] at hl
    exact absurd (hl ▸ by simp) (dash_notMem_toDigits n)
  · rw [toList_targetOf, toList_targetOf, List.append_cancel_left_eq, List.cons_inj_right] at hl
    obtain ⟨hseq, hrank⟩ :=
      Text.eq_and_eq_of_first_sep (dash_notMem_toDigits s) (dash_notMem_toDigits t) hl
    exact ⟨toDigits_injective hseq, toDigits_injective hrank⟩

/-! ### Last letters -/

/-- A number does not end in a letter. -/
theorem getLast?_number (text : List Char) (n : Nat) :
    (text ++ '-' :: Nat.toDigits 10 n).getLast? ≠ some 'g' := by
  intro h
  rw [List.getLast?_append, List.getLast?_cons, Option.some_or, ← List.getLast?_cons] at h
  rcases List.mem_cons.1 (List.mem_of_getLast? h) with he | hdigit
  · exact absurd he (by decide)
  · exact absurd (Nat.isDigit_of_mem_toDigits (by decide) (by decide) hdigit) (by decide)

/-- The tag of a redirect inbound does. -/
theorem getLast?_mapping (tag : String) : (mapping tag).toList.getLast? = some 'g' := by
  rw [mapping, String.toList_append, List.getLast?_append]
  rfl

/-- The tag of a hop ends in a digit, or as `proxy` does. -/
theorem getLast?_hop (seq : Nat) (id : Int64) (index length : Nat) :
    (hop seq id index length).toList.getLast? ≠ some 'g' := by
  rcases hop_cases seq id index length with ⟨-, -, h⟩ | ⟨-, h⟩ | ⟨-, h⟩ <;> rw [h]
  · decide
  · rw [toList_global]
    exact getLast?_number ('g' :: '-' :: id.toInt.repr.toList) index
  · rw [toList_inner]
    have := getLast?_number ('c' :: '-' :: (Nat.toDigits 10 seq ++ '-' :: id.toInt.repr.toList))
      index
    simpa using this

theorem getLast?_routeTarget (seq rank : Nat) :
    (routeTarget seq rank).toList.getLast? ≠ some 'g' := by
  unfold routeTarget
  split
  · rw [toList_target]
    exact getLast?_number _ rank
  · rw [toList_targetOf]
    have := getLast?_number ("rout".toList ++ '-' :: Nat.toDigits 10 seq) rank
    simpa using this

/-! ### Reserved tags -/

theorem isReserved_iff {tag : String} :
    isReserved tag = true ↔ tag = direct ∨ tag = block ∨ tag = dnsOut := by
  simp [isReserved, reserved]

/-- No hop takes a reserved tag. -/
theorem isReserved_hop (seq : Nat) (id : Int64) (index length : Nat) :
    isReserved (hop seq id index length) = false := by
  rw [Bool.eq_false_iff]
  intro h
  rcases isReserved_iff.1 h with h | h | h <;>
    rcases head?_hop seq id index length with hh | hh | hh <;>
      simp [h, direct, block, dnsOut] at hh

/-- And no routing target does. -/
theorem isReserved_routeTarget (seq rank : Nat) : isReserved (routeTarget seq rank) = false := by
  rw [Bool.eq_false_iff]
  intro h
  have hr := head?_routeTarget seq rank
  rcases isReserved_iff.1 h with h | h | h <;> simp [h, direct, block, dnsOut] at hr

/-! ### Families -/

/-- The family of a tag. Those of redirects have the last letter for themselves, and any other family
has its first letters. -/
def family (tag : String) : Nat :=
  if tag.toList.getLast? = some 'g' then 4
  else
    match tag.toList.head? with
    | some 'd' | some 'b' => 1
    | some 'r' => 2
    | some 'm' | some 't' => 3
    | _ => 0

theorem family_hop (seq : Nat) (id : Int64) (index length : Nat) :
    family (hop seq id index length) = 0 := by
  rw [family, if_neg (getLast?_hop seq id index length)]
  rcases head?_hop seq id index length with h | h | h <;> simp [h]

theorem family_of_mem_reserved {tag : String} (h : tag ∈ reserved) : family tag = 1 :=
  (by decide : ∀ tag ∈ reserved, family tag = 1) tag h

theorem family_routeTarget (seq rank : Nat) : family (routeTarget seq rank) = 2 := by
  simp [family, getLast?_routeTarget seq rank, head?_routeTarget]

/-- The inbounds that serve the local machine have fixed tags. -/
theorem family_of_mem_localInbounds {tag : String} (h : tag ∈ ["mixed-in", "tun-in"]) :
    family tag = 3 :=
  (by decide : ∀ tag ∈ ["mixed-in", "tun-in"], family tag = 3) tag h

/-- And whatever a redirect is named after, its tag is of a fourth. -/
theorem family_mapping (tag : String) : family (mapping tag) = 4 := by
  rw [family, if_pos (getLast?_mapping tag)]

/-- Lists of different families have no tag in common. -/
theorem nodup_flatten_of_family {tags : List (List String)} (hnodup : ∀ l ∈ tags, l.Nodup)
    (hfamily : ∀ (k : Nat) (l : List String), tags[k]? = some l → ∀ tag ∈ l, family tag = k) :
    tags.flatten.Nodup := by
  refine List.pairwise_flatten.2 ⟨hnodup, List.pairwise_iff_getElem.2 fun i j hi hj hij => ?_⟩
  rintro tag hl _ hl' rfl
  have := hfamily i _ (List.getElem?_eq_getElem hi) tag hl
  have := hfamily j _ (List.getElem?_eq_getElem hj) tag hl'
  omega

/-! ## Equal tags -/

/-- Two hops share a tag only if both are the destination of the primary chain, or both are nearest
to the client at one position with one id, or they agree in everything. -/
theorem hop_eq_hop {s t : Nat} {a b : Int64} {i j m n : Nat} (h : hop s a i m = hop t b j n) :
    ((s = 0 ∧ i = 0) ∧ t = 0 ∧ j = 0) ∨ (i + 1 = m ∧ j + 1 = n ∧ a = b ∧ i = j) ∨
      (i + 1 ≠ m ∧ j + 1 ≠ n ∧ s = t ∧ a = b ∧ i = j) := by
  -- three names on each side: those of different kinds differ, and of one kind they can be read back
  rcases hop_cases s a i m with ⟨hs, hi, hp⟩ | ⟨hm, hg⟩ | ⟨hm, hc⟩ <;>
    rcases hop_cases t b j n with ⟨ht, hj, hp'⟩ | ⟨hn, hg'⟩ | ⟨hn, hc'⟩
  · exact .inl ⟨⟨hs, hi⟩, ht, hj⟩
  · exact absurd (hg'.symm.trans (h.symm.trans hp)) global_ne_proxy
  · exact absurd (hc'.symm.trans (h.symm.trans hp)) inner_ne_proxy
  · exact absurd (hg.symm.trans (h.trans hp')) global_ne_proxy
  · exact .inr (.inl ⟨hm, hn, global_injective (hg.symm.trans (h.trans hg'))⟩)
  · exact absurd (hg.symm.trans (h.trans hc')) global_ne_inner
  · exact absurd (hc.symm.trans (h.trans hp')) inner_ne_proxy
  · exact absurd (hg'.symm.trans (h.symm.trans hc)) global_ne_inner
  · exact .inr (.inr ⟨hm, hn, inner_injective (hc.symm.trans (h.trans hc'))⟩)

/-- The tags of a chain differ from position to position. -/
theorem index_eq_of_hop_eq {seq : Nat} {a b : Int64} {i j length : Nat}
    (h : hop seq a i length = hop seq b j length) : i = j := by
  rcases hop_eq_hop h with ⟨⟨-, hi⟩, -, hj⟩ | ⟨-, -, -, hij⟩ | ⟨-, -, -, -, hij⟩
  · rw [hi, hj]
  · exact hij
  · exact hij

/-- Outside of sequence 0, hops that share a tag are the same profile, and both or neither of them
is nearest to the client. -/
theorem same_place_of_hop_eq {s t : Nat} {a b : Int64} {i j m n : Nat} (hs : s ≠ 0)
    (h : hop s a i m = hop t b j n) : a = b ∧ (i + 1 == m) = (j + 1 == n) := by
  rcases hop_eq_hop h with ⟨⟨hs', -⟩, -⟩ | ⟨hm, hn, hab, -⟩ | ⟨hm, hn, -, hab, -⟩
  · exact absurd hs' hs
  · exact ⟨hab, by rw [beq_iff_eq.2 hm, beq_iff_eq.2 hn]⟩
  · exact ⟨hab, by rw [beq_eq_false_iff_ne.2 hm, beq_eq_false_iff_ne.2 hn]⟩

/-- Only the destination of the primary chain is called `proxy`. -/
theorem hop_eq_proxy_iff {seq : Nat} {id : Int64} {index length : Nat} :
    hop seq id index length = proxy ↔ seq = 0 ∧ index = 0 := by
  constructor
  · intro h
    rcases hop_cases seq id index length with ⟨hs, hi, -⟩ | ⟨-, hg⟩ | ⟨-, hc⟩
    · exact ⟨hs, hi⟩
    · exact absurd (hg.symm.trans h) global_ne_proxy
    · exact absurd (hc.symm.trans h) inner_ne_proxy
  · intro h
    exact if_pos h

/-- So no other sequence has a hop of that name. -/
theorem hop_ne_proxy {seq : Nat} (h : seq ≠ 0) (id : Int64) (index length : Nat) :
    hop seq id index length ≠ proxy :=
  fun he => h (hop_eq_proxy_iff.1 he).1

/-- A target is not called like the destination of the primary chain. -/
theorem routeTarget_ne_proxy {seq rank : Nat} : routeTarget seq rank ≠ proxy := by
  intro h
  have hr := head?_routeTarget seq rank
  rw [h] at hr
  exact absurd hr (by decide)

/-- No hop goes without a name. -/
theorem hop_ne_empty (seq : Nat) (id : Int64) (index length : Nat) :
    hop seq id index length ≠ "" := by
  intro h
  rcases head?_hop seq id index length with hh | hh | hh <;> simp [h] at hh

theorem mapping_injective {a b : String} (h : mapping a = mapping b) : a = b :=
  (String.append_left_inj mappingEnding).1 h

/-- An inbound's tag names a hop exactly when it is that of the redirect to this hop. -/
theorem mappedHop?_eq_some_iff {inbound hop : String} :
    mappedHop? inbound = some hop ↔ inbound = mapping hop := by
  constructor
  · intro h
    obtain ⟨text, htext, rfl⟩ := Option.map_eq_some_iff.1 h
    have hinbound := Text.beforeSuffix?_eq_some_iff.1 htext
    rw [← String.toList_inj, hinbound, mapping, String.toList_append, String.toList_ofList]
  · rintro rfl
    exact mappedHop?_mapping hop

end Tag

end Detour
