import Detour.Build.Batch
/-!
# Merging by tags

A batch merges its parts by the tags of their outbounds. Of each tag the first part that has it is
the owner (`owner?`): the shared document keeps the owner's outbound, and from the redirects and
helpers those of the owner. `filter_freshTags` and `filter_keptTags` say so for one tag at a time,
which is all that later modules need to know about the merge.
-/

namespace Detour

namespace Batch

variable {seen : List String} {tag : String} {xs : List Tree} {parts : List Part}

theorem mem_of_mem_freshTags {t : Tree} (h : t ∈ freshTags seen xs) : t ∈ xs := by
  induction xs generalizing seen with
  | nil => cases h
  | cons x rest ih =>
    rw [freshTags] at h
    split at h
    · exact List.mem_cons_of_mem _ (ih h)
    · rcases List.mem_cons.1 h with rfl | h
      · exact List.mem_cons_self
      · exact List.mem_cons_of_mem _ (ih h)

/-- Of the elements with a tag, the first one is kept, unless the tag was seen before. -/
theorem filter_freshTags (seen : List String) (xs : List Tree) (tag : String) :
    (freshTags seen xs).filter (fun t => tagOf t = tag) =
      if tag ∈ seen then [] else (xs.find? fun t => tagOf t = tag).toList := by
  induction xs generalizing seen with
  | nil => simp [freshTags]
  | cons x rest ih =>
    rw [freshTags]
    by_cases hx : tagOf x ∈ seen
    · rw [if_pos hx, ih]
      by_cases htag : tag ∈ seen
      · rw [if_pos htag, if_pos htag]
      · have hne : tagOf x ≠ tag := fun he => htag (he ▸ hx)
        rw [if_neg htag, if_neg htag, List.find?_cons_of_neg (by simpa using hne)]
    · rw [if_neg hx]
      by_cases he : tagOf x = tag
      · subst he
        rw [List.filter_cons_of_pos (by simp), ih, if_pos List.mem_cons_self, if_neg hx,
          List.find?_cons_of_pos (by simp)]
        rfl
      · rw [List.filter_cons_of_neg (by simpa using he), ih,
          List.find?_cons_of_neg (by simpa using he)]
        simp [Ne.symm he]

/-- The tags that are kept are the ones that were not seen. -/
theorem mem_tags_freshTags :
    tag ∈ (freshTags seen xs).map tagOf ↔ tag ∉ seen ∧ tag ∈ xs.map tagOf := by
  have hmem : ∀ ys : List Tree,
      tag ∈ ys.map tagOf ↔ ys.filter (fun t => tagOf t = tag) ≠ [] := by
    intro ys
    rw [List.mem_map, ne_eq, List.filter_eq_nil_iff]
    simp
  rw [hmem, filter_freshTags, List.mem_map]
  by_cases htag : tag ∈ seen
  · simp [htag]
  · simp [htag, Option.toList_eq_nil_iff]

/-! ## Owners -/

/-- Whether an outbound of a part has a tag. -/
def Part.owns (tag : String) (p : Part) : Bool :=
  p.outbounds.any fun t => tagOf t = tag

/-- The part whose outbound is kept under a tag. -/
def owner? (tag : String) (parts : List Part) : Option Part :=
  parts.find? (Part.owns tag)

theorem Part.owns_iff {p : Part} : p.owns tag = true ↔ tag ∈ p.outbounds.map tagOf := by
  simp [owns]

theorem owner?_cons {p : Part} :
    owner? tag (p :: parts) = if p.owns tag = true then some p else owner? tag parts := by
  rw [owner?, List.find?_cons]
  cases p.owns tag <;> rfl

/-- What the owners of tags bring along: of all that belongs to a tag, that of the owner is kept. -/
theorem filter_keptTags {α : Type} (f : Part → List α) (key : α → String) (seen : List String)
    (parts : List Part) (tag : String) :
    ((keptTags seen parts).flatMap fun pk => (f pk.1).filter fun a => key a ∈ pk.2).filter
        (fun a => key a = tag) =
      if tag ∈ seen then []
      else ((owner? tag parts).map fun p => (f p).filter fun a => key a = tag).getD [] := by
  induction parts generalizing seen with
  | nil => simp [keptTags, owner?]
  | cons p rest ih =>
    have hkept : tag ∈ (freshTags seen p.outbounds).map tagOf ↔ tag ∉ seen ∧ p.owns tag = true := by
      rw [mem_tags_freshTags, Part.owns_iff]
    -- of one tag, a part brings along all or nothing
    have hhead : ∀ kept : List String,
        ((f p).filter fun a => key a ∈ kept).filter (fun a => key a = tag) =
          if tag ∈ kept then (f p).filter fun a => key a = tag else [] := by
      intro kept
      rw [List.filter_filter]
      split
      · rename_i hmem
        refine List.filter_congr fun a _ => ?_
        by_cases he : key a = tag
        · simp [he, hmem]
        · simp [he]
      · rename_i hmem
        refine List.filter_eq_nil_iff.2 fun a _ ha => hmem ?_
        simp only [Bool.and_eq_true, decide_eq_true_eq] at ha
        exact ha.1 ▸ ha.2
    rw [keptTags, List.flatMap_cons, List.filter_append, hhead, ih, owner?_cons]
    -- a tag that this part is the first to own is seen by all parts behind it
    by_cases htag : tag ∈ seen
    · simp [htag, mt hkept.1]
    · cases hown : p.owns tag with
      | true => simp [htag, hkept.2 ⟨htag, hown⟩]
      | false =>
        have hnot : tag ∉ (freshTags seen p.outbounds).map tagOf := by
          intro hmem
          rw [(hkept.1 hmem).2] at hown
          cases hown
        simp [htag, hnot]

/-- The first match in a list of lists lies in the first list that has one. -/
theorem find?_flatMap_of_find? {α β : Type} {xs : List α} {f : α → List β} {q : β → Bool} {x : α}
    (h : xs.find? (fun y => (f y).any q) = some x) : (xs.flatMap f).find? q = (f x).find? q := by
  induction xs with
  | nil => cases h
  | cons y rest ih =>
    rw [List.flatMap_cons, List.find?_append]
    cases hy : (f y).any q with
    | true =>
      rw [List.find?_cons_of_pos (by simpa using hy)] at h
      cases h
      obtain ⟨b, hb⟩ := Option.isSome_iff_exists.1 (List.find?_isSome.2 (List.any_eq_true.1 hy))
      rw [hb, Option.some_or]
    | false =>
      rw [List.find?_cons_of_neg (by simp [hy])] at h
      have hnone : (f y).find? q = none := by
        rw [List.find?_eq_none]
        intro b hb
        have := List.any_eq_false.1 hy b hb
        simpa using this
      rw [hnone, Option.none_or, ih h]

/-! ## The shared document -/

variable {p : Part}

theorem isReserved_of_mem_reservedOutbounds :
    ∀ t ∈ reservedOutbounds, Tag.isReserved (tagOf t) = true := by
  decide

/-- Under a tag that is not reserved, what is kept behind the reserved outbounds is the first
element with the tag. -/
theorem filter_merged (hreserved : Tag.isReserved tag = false) (xs : List Tree) :
    (reservedOutbounds ++ freshTags [] xs).filter (fun t => tagOf t = tag) =
      (xs.find? fun t => tagOf t = tag).toList := by
  have hnone : reservedOutbounds.filter (fun t => tagOf t = tag) = [] := by
    refine List.filter_eq_nil_iff.2 fun t ht he => ?_
    have htag := isReserved_of_mem_reservedOutbounds t ht
    rw [of_decide_eq_true he, hreserved] at htag
    cases htag
  rw [List.filter_append, hnone, List.nil_append, filter_freshTags, if_neg List.not_mem_nil]

/-- So the shared document has the owner's outbound. -/
theorem filter_outbounds (hreserved : Tag.isReserved tag = false)
    (hown : owner? tag parts = some p) :
    (outbounds parts).filter (fun t => tagOf t = tag) =
      (p.outbounds.find? fun t => tagOf t = tag).toList := by
  rw [outbounds, filter_merged hreserved, find?_flatMap_of_find? hown]

/-- The redirects of a hop are those that its owner brings along. -/
theorem filter_redirects (hown : owner? tag parts = some p) :
    (redirects parts).filter (fun r => r.hop = tag) = p.redirects.filter fun r => r.hop = tag := by
  have := filter_keptTags Part.redirects Hop.Redirect.hop [] parts tag
  rw [if_neg List.not_mem_nil, hown] at this
  exact this

/-- And so are the helpers. -/
theorem filter_externals (hown : owner? tag parts = some p) :
    (externals parts).filter (fun d => d.outbound = tag) =
      p.externals.filter fun d => d.outbound = tag := by
  have := filter_keptTags Part.externals Descriptor.outbound [] parts tag
  rw [if_neg List.not_mem_nil, hown] at this
  exact this

theorem exists_owner (hp : p ∈ parts) (ht : tag ∈ p.outbounds.map tagOf) :
    ∃ q ∈ parts, q.owns tag = true ∧ owner? tag parts = some q := by
  have hsome : (parts.find? (Part.owns tag)).isSome := by
    rw [List.find?_isSome]
    exact ⟨p, hp, Part.owns_iff.2 ht⟩
  obtain ⟨q, hq⟩ := Option.isSome_iff_exists.1 hsome
  exact ⟨q, List.mem_of_find?_eq_some hq, List.find?_some hq, hq⟩

/-- Nothing is brought along that does not come from a part. -/
theorem mem_of_mem_keptTags {kept : List String} (h : (p, kept) ∈ keptTags seen parts) :
    p ∈ parts := by
  induction parts generalizing seen with
  | nil => cases h
  | cons q rest ih =>
    rw [keptTags] at h
    rcases List.mem_cons.1 h with h | h
    · cases h
      exact List.mem_cons_self
    · exact List.mem_cons_of_mem _ (ih h)

theorem exists_part_of_external {d : Descriptor} (h : d ∈ externals parts) :
    ∃ p ∈ parts, d ∈ p.externals := by
  obtain ⟨⟨p, kept⟩, hpk, hd⟩ := List.mem_flatMap.1 h
  exact ⟨p, mem_of_mem_keptTags hpk, (List.mem_filter.1 hd).1⟩

theorem exists_part_of_redirect {r : Hop.Redirect} (h : r ∈ redirects parts) :
    ∃ p ∈ parts, r ∈ p.redirects := by
  obtain ⟨⟨p, kept⟩, hpk, hr⟩ := List.mem_flatMap.1 h
  exact ⟨p, mem_of_mem_keptTags hpk, (List.mem_filter.1 hr).1⟩

theorem exists_part_of_inbound {t : Tree} (h : t ∈ inbounds parts) :
    ∃ p ∈ parts, t ∈ p.inbounds :=
  List.mem_flatMap.1 (mem_of_mem_freshTags h)

end Batch

end Detour
