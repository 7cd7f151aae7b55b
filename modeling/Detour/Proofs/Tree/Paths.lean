import Detour.Proofs.Tree.Ordered
/-!
# Merges, path by path

A merge is one pass over the keys of the overlay that goes on inside wherever both trees hold an
object. `Tree.MergedFrom` says what it comes to without the pass: what the merged tree has at the end
of a path depends only on what the two trees have along that path. `FreeForm.merged_by_paths` proves
that this holds of the merged tree and of no other one. An overlay that the base includes changes
nothing (`Tree.merge_eq_self_iff`), and after a merge the overlay is included.
-/

namespace Detour

namespace Tree

variable {key : String} {path pre : List String} {t u base overlay value : Tree}
  {fields old new : Fields}

/-! ## Paths -/

/-- A path in two halves is followed one half after the other. -/
theorem at?_append : t.at? (pre ++ path) = (t.at? pre).bind (at? path) := by
  have hfrom : ∀ found : Option Tree, path.foldl (fun found key => found.bind (get? key)) found =
      found.bind (at? path) := by
    intro found
    cases found with
    | some _ => rfl
    | none =>
      induction path with
      | nil => rfl
      | cons _ _ ih => exact ih
  rw [at?, List.foldl_append, hfrom, ← at?]

theorem at?_cons : t.at? (key :: path) = (t.get? key).bind (at? path) := by
  change t.at? ([key] ++ path) = (t.at? [key]).bind (at? path)
  exact at?_append

theorem at?_concat_of_at? (h : t.at? path = some (.object fields)) :
    t.at? (path ++ [key]) = fields.get? key := by
  rw [at?_append, h]
  rfl

/-- What an ordered tree has at the end of a path is ordered. -/
theorem Ordered.at? (ht : t.Ordered) (h : t.at? path = some value) : value.Ordered := by
  induction path generalizing t with
  | nil =>
    cases h
    exact ht
  | cons key rest ih =>
    rw [at?_cons] at h
    obtain ⟨next, hnext, hrest⟩ := Option.bind_eq_some_iff.1 h
    exact ih (ht.get? hnext) hrest

/-- At the end of a path the tree has an object. -/
def HasObject (path : List String) (t : Tree) : Prop :=
  ∃ fields, t.at? path = some (.object fields)

theorem exists_object_of_get? (h : t.get? key = some value) : ∃ fields, t = .object fields := by
  cases t with
  | object fields => exact ⟨fields, rfl⟩
  | _ => cases h

/-- Along a path that goes on there are objects. -/
theorem HasObject.along (h : t.HasObject path) (hpre : pre <+: path) : t.HasObject pre := by
  obtain ⟨rest, rfl⟩ := hpre
  obtain ⟨fields, hfields⟩ := h
  rw [at?_append] at hfields
  obtain ⟨next, hnext, hrest⟩ := Option.bind_eq_some_iff.1 hfields
  cases rest with
  | nil =>
    cases hrest
    exact ⟨fields, hnext⟩
  | cons key rest =>
    rw [at?_cons] at hrest
    obtain ⟨_, hget, -⟩ := Option.bind_eq_some_iff.1 hrest
    obtain ⟨own, rfl⟩ := exists_object_of_get? hget
    exact ⟨own, hnext⟩

/-! ## Merges -/

/-- What a tree has at the ends of its paths, if it is what an overlay and a base are merged to. -/
structure MergedFrom (base overlay t : Tree) : Prop where
  /-- A value of the overlay that is no object takes the place of whatever the base has. -/
  scalar : ∀ path value, path ≠ [] → overlay.at? path = some value → value.fields? = none →
    t.at? path = some value
  /-- So does an object, if the base has no object there or on the way. -/
  object : ∀ path pre new, overlay.at? path = some (.object new) → pre ≠ [] → pre <+: path →
    ¬ base.HasObject pre → t.at? path = some (.object new)
  /-- Of two objects the merged one has all keys. -/
  joined : ∀ path old new, base.at? path = some (.object old) →
    overlay.at? path = some (.object new) → ∃ fields, t.at? path = some (.object fields) ∧
      ∀ key, Fields.Lacks key fields ↔ Fields.Lacks key old ∧ Fields.Lacks key new
  /-- What two objects on the way lead to and the overlay lacks is what the base has. -/
  kept : ∀ path, path ≠ [] →
    (∀ pre, pre <+: path → pre ≠ path → base.HasObject pre ∧ overlay.HasObject pre) →
    overlay.at? path = none → t.at? path = base.at? path

theorem mergeValue_of_objects :
    Fields.mergeValue (.object new) (some (.object old)) = (object old).merge (.object new) := by
  cases new with
  | nil => simp [Fields.mergeValue]
  | cons kv rest => rfl

theorem mergeValue_of_not_objects {old? : Option Tree}
    (h : ∀ new old, value = .object new → old? ≠ some (.object old)) :
    Fields.mergeValue value old? = value := by
  unfold Fields.mergeValue
  split
  · exact absurd rfl (h _ _ rfl)
  · rfl

/-- An overlay without keys changes nothing. -/
theorem merge_of_blank (h : overlay.fields?.getD [] = []) : base.merge overlay = base := by
  cases overlay with
  | object new =>
    obtain rfl : new = [] := h
    exact merge_empty base
  | _ => rfl

/-- Under each key, the merge is that of the two values there. -/
theorem get?_merge (hoverlay : overlay.Ordered) :
    (base.merge overlay).get? key = match overlay.get? key with
      | some value => some (Fields.mergeValue value (base.get? key))
      | none => base.get? key := by
  have hbase : base.get? key = (base.fields?.getD []).get? key := by
    cases base <;> rfl
  cases overlay with
  | object new =>
    cases new with
    | nil => rfl
    | cons kv rest =>
      rw [merge, get?_object, Fields.get?_merge_of_sorted hoverlay.1, ← hbase]
      rfl
  | _ => rfl

/-- A base that is no object gives way to an overlay with keys. -/
theorem merge_of_not_object (hoverlay : overlay.Ordered) (hbase : base.fields? = none)
    (hne : overlay.fields?.getD [] ≠ []) : base.merge overlay = overlay := by
  obtain ⟨new, rfl⟩ : ∃ new, overlay = .object new := by
    cases overlay with
    | object new => exact ⟨new, rfl⟩
    | _ => exact absurd rfl hne
  cases new with
  | nil => exact absurd rfl hne
  | cons kv rest =>
    -- the base counts as the empty object, into which the overlay is put as it is
    rw [merge, hbase]
    refine congrArg _ (Fields.ext_of_sorted (Fields.sorted_merge List.Pairwise.nil) hoverlay.1
      fun key => ?_)
    rw [Fields.get?_merge_of_sorted hoverlay.1]
    cases hget : Fields.get? key (kv :: rest) with
    | none => rfl
    | some value =>
      exact congrArg some (mergeValue_of_not_objects fun _ _ _ hnone => by cases hnone)

/-- Two objects at the end of a path are merged. -/
theorem at?_merge_of_objects (hoverlay : overlay.Ordered) (hold : base.at? path = some (.object old))
    (hnew : overlay.at? path = some (.object new)) :
    (base.merge overlay).at? path = some ((object old).merge (.object new)) := by
  induction path generalizing base overlay with
  | nil =>
    cases hold
    cases hnew
    rfl
  | cons key rest ih =>
    rw [at?_cons] at hold hnew
    obtain ⟨b, hb, hbrest⟩ := Option.bind_eq_some_iff.1 hold
    obtain ⟨o, ho, horest⟩ := Option.bind_eq_some_iff.1 hnew
    obtain ⟨own, hown⟩ := HasObject.along ⟨old, hbrest⟩ List.nil_prefix
    obtain ⟨own', hown'⟩ := HasObject.along ⟨new, horest⟩ List.nil_prefix
    cases hown
    cases hown'
    rw [at?_cons, get?_merge hoverlay, ho, hb]
    change (some (Fields.mergeValue (object own') (some (object own)))).bind _ = _
    rw [mergeValue_of_objects]
    exact ih (hoverlay.get? ho) hbrest horest

/-- Anything else that the overlay has at the end of a path stands as it is. -/
theorem at?_merge_of_not_objects (hoverlay : overlay.Ordered) (hpath : path ≠ [])
    (hvalue : overlay.at? path = some value)
    (hnot : ∀ new old, value = .object new → base.at? path ≠ some (.object old)) :
    (base.merge overlay).at? path = some value := by
  induction path generalizing base overlay with
  | nil => exact absurd rfl hpath
  | cons key rest ih =>
    rw [at?_cons] at hvalue
    obtain ⟨o, ho, horest⟩ := Option.bind_eq_some_iff.1 hvalue
    rw [at?_cons, get?_merge hoverlay, ho, Option.bind_some]
    by_cases hboth : ∃ own b, o = .object own ∧ base.get? key = some (.object b)
    · obtain ⟨own, b, rfl, hb⟩ := hboth
      have hrest : rest ≠ [] := by
        rintro rfl
        cases horest
        exact hnot own b rfl (by rw [at?_cons, hb]; rfl)
      rw [hb, mergeValue_of_objects]
      refine ih (hoverlay.get? ho) hrest horest fun new old hnew hold => hnot new old hnew ?_
      rw [at?_cons, hb]
      exact hold
    · rw [mergeValue_of_not_objects fun new old hnew hold => hboth ⟨new, old, hnew, hold⟩]
      exact horest

/-- **The merged tree has at the end of each path what a merge has there.** -/
theorem mergedFrom_merge (base : Tree) (hoverlay : overlay.Ordered) :
    base.MergedFrom overlay (base.merge overlay) where
  scalar path value hpath hvalue hscalar := by
    refine at?_merge_of_not_objects hoverlay hpath hvalue ?_
    rintro new _ rfl
    cases hscalar
  object path pre new hnew hpre hprefix hnone := by
    refine at?_merge_of_not_objects hoverlay ?_ hnew fun _ old _ hold =>
      hnone (HasObject.along ⟨old, hold⟩ hprefix)
    rintro rfl
    exact hpre (List.prefix_nil.1 hprefix)
  joined path old new hold hnew := by
    have hsorted := (hoverlay.at? hnew).1
    refine ⟨Fields.merge new old, ?_, fun key => ?_⟩
    · rw [at?_merge_of_objects hoverlay hold hnew, ← mergeValue_of_objects]
      rfl
    · rw [← Fields.get?_eq_none_iff, Fields.get?_merge_of_sorted hsorted, ← Fields.get?_eq_none_iff,
        ← Fields.get?_eq_none_iff]
      cases Fields.get? key new <;> simp
  kept path hpath halong hlacks := by
    -- the objects above it are merged, and the overlay lacks the last key
    obtain ⟨pre, key, rfl⟩ : ∃ pre key, path = pre ++ [key] :=
      ⟨_, _, (List.dropLast_concat_getLast hpath).symm⟩
    obtain ⟨⟨old, hold⟩, ⟨new, hnew⟩⟩ := halong pre (List.prefix_append _ _) (by simp)
    rw [at?_concat_of_at? hnew] at hlacks
    rw [at?_append, at?_merge_of_objects hoverlay hold hnew, at?_concat_of_at? hold]
    change ((object old).merge (.object new)).get? key = _
    rw [get?_merge (hoverlay.at? hnew), get?_object, hlacks]
    rfl

/-! ## No other tree is merged from the two -/

theorem sizeOf_lt_of_get? (h : Fields.get? key fields = some value) : sizeOf value < sizeOf fields := by
  have hmem := List.sizeOf_lt_of_mem (Fields.mem_of_get? h)
  simp only [Prod.mk.sizeOf_spec] at hmem
  omega

/-- Where the base and the overlay have objects, ordered trees that are merged from them agree. -/
theorem MergedFrom.at?_eq (h : base.MergedFrom overlay t) (h' : base.MergedFrom overlay u)
    (ht : t.Ordered) (hu : u.Ordered) (hold : base.at? path = some (.object old))
    (hnew : overlay.at? path = some (.object new)) : t.at? path = u.at? path := by
  -- the induction is on the part of the overlay that is still to be merged
  induction hn : sizeOf new using Nat.strongRecOn generalizing path old new with
  | ind n ih =>
    obtain ⟨fields, hfields, -⟩ := h.joined path old new hold hnew
    obtain ⟨fields', hfields', -⟩ := h'.joined path old new hold hnew
    rw [hfields, hfields']
    refine congrArg _ (congrArg _ (Fields.ext_of_sorted (ht.at? hfields).1 (hu.at? hfields').1
      fun key => ?_))
    rw [← at?_concat_of_at? hfields, ← at?_concat_of_at? hfields']
    have hpath : path ++ [key] ≠ [] := by simp
    have halong : ∀ pre, pre <+: path ++ [key] → pre ≠ path ++ [key] →
        base.HasObject pre ∧ overlay.HasObject pre := by
      intro pre hpre hne
      have hpre' := (List.prefix_concat_iff.1 hpre).resolve_left hne
      exact ⟨.along ⟨old, hold⟩ hpre', .along ⟨new, hnew⟩ hpre'⟩
    cases hvalue : overlay.at? (path ++ [key]) with
    | none => rw [h.kept _ hpath halong hvalue, h'.kept _ hpath halong hvalue]
    | some value =>
      by_cases hobject : ∃ new', value = .object new'
      · obtain ⟨new', rfl⟩ := hobject
        by_cases hbase : base.HasObject (path ++ [key])
        · obtain ⟨old', hold'⟩ := hbase
          have hlt : sizeOf new' < n := by
            have := sizeOf_lt_of_get? (at?_concat_of_at? hnew ▸ hvalue)
            simp only [object.sizeOf_spec] at this
            omega
          exact ih _ hlt hold' hvalue rfl
        · rw [h.object _ _ new' hvalue hpath (List.prefix_refl _) hbase,
            h'.object _ _ new' hvalue hpath (List.prefix_refl _) hbase]
      · have hscalar : value.fields? = none := by
          cases value with
          | object new' => exact absurd ⟨new', rfl⟩ hobject
          | _ => rfl
        rw [h.scalar _ value hpath hvalue hscalar, h'.scalar _ value hpath hvalue hscalar]

/-- **Of two objects, one ordered tree is merged.** -/
theorem mergedFrom_iff {old new : Fields} (hold : (object old).Ordered)
    (hnew : (object new).Ordered) (ht : t.Ordered) :
    (object old).MergedFrom (.object new) t ↔ t = (object old).merge (.object new) := by
  have hmerge := mergedFrom_merge (.object old) hnew
  constructor
  · intro h
    have hroot : t.at? [] = ((object old).merge (.object new)).at? [] :=
      h.at?_eq hmerge ht (ordered_merge hold hnew) rfl rfl
    exact Option.some.inj hroot
  · rintro rfl
    exact hmerge

/-! ## Overlays that change nothing -/

/-- A tree has all that an overlay would put into it. -/
structure Includes (t overlay : Tree) : Prop where
  scalar : ∀ path value, path ≠ [] → overlay.at? path = some value → value.fields? = none →
    t.at? path = some value
  object : ∀ path, path ≠ [] → overlay.HasObject path → t.HasObject path

/-- Merging puts all of the overlay into the base. -/
theorem includes_merge (base : Tree) (hoverlay : overlay.Ordered) :
    (base.merge overlay).Includes overlay where
  scalar := (mergedFrom_merge base hoverlay).scalar
  object path hpath hnew := by
    obtain ⟨new, hnew⟩ := hnew
    by_cases hold : base.HasObject path
    · obtain ⟨old, hold⟩ := hold
      obtain ⟨fields, hfields, -⟩ := (mergedFrom_merge base hoverlay).joined path old new hold hnew
      exact ⟨fields, hfields⟩
    · exact ⟨new, (mergedFrom_merge base hoverlay).object path path new hnew hpath
        (List.prefix_refl _) hold⟩

/-- What includes an overlay is what the overlay and it are merged to. -/
theorem Includes.mergedFrom (h : base.Includes overlay) : base.MergedFrom overlay base where
  scalar := h.scalar
  object path pre new hnew hpre hprefix hnone := by
    have hpath : path ≠ [] := by
      rintro rfl
      exact hpre (List.prefix_nil.1 hprefix)
    exact absurd ((h.object path hpath ⟨new, hnew⟩).along hprefix) hnone
  joined path old new hold hnew := by
    refine ⟨old, hold, fun key => ⟨fun hlacks => ⟨hlacks, ?_⟩, And.left⟩⟩
    rw [← Fields.get?_eq_none_iff] at hlacks ⊢
    have hpath : path ++ [key] ≠ [] := by simp
    have hbase : base.at? (path ++ [key]) = none := by rw [at?_concat_of_at? hold, hlacks]
    cases hvalue : Fields.get? key new with
    | none => rfl
    | some value =>
      have hat : overlay.at? (path ++ [key]) = some value := by rw [at?_concat_of_at? hnew, hvalue]
      -- whatever the overlay has under the key, the base has something there too
      cases value with
      | object own =>
        obtain ⟨fields, hfields⟩ := h.object _ hpath ⟨own, hat⟩
        rw [hbase] at hfields
        cases hfields
      | _ =>
        rw [h.scalar _ _ hpath hat rfl] at hbase
        cases hbase
  kept _ _ _ _ := rfl

/-- **An overlay changes nothing exactly if it is included already.** -/
theorem merge_eq_self_iff {old new : Fields} (hold : (object old).Ordered)
    (hnew : (object new).Ordered) :
    (object old).merge (.object new) = .object old ↔ (object old).Includes (.object new) := by
  constructor
  · intro h
    have := includes_merge (.object old) hnew
    rwa [h] at this
  · intro h
    exact ((mergedFrom_iff hold hnew hold).1 h.mergedFrom).symm

theorem merge_objects : (object old).merge (.object new) = .object (Fields.merge new old) := by
  rw [← mergeValue_of_objects]
  rfl

/-- An overlay that is merged in after a key was put changes nothing else exactly if all of it but
that key is included already. -/
theorem agreeOff_merge_set_iff {old new : Fields} (hold : (object old).Ordered)
    (hnew : (object new).Ordered) (key : String) (value : Tree) :
    Fields.AgreeOff key (Fields.merge new (old.set key value)) old ↔
      (object old).Includes (.object (Fields.erase key new)) := by
  have herased := ordered_erase hnew key
  -- what is merged in under other keys does not depend on the one that was put
  have hget : ∀ other, (Fields.merge (Fields.erase key new) old).get? other =
      if other = key then old.get? other
      else (Fields.merge new (old.set key value)).get? other := by
    intro other
    rw [Fields.get?_merge_of_sorted herased.1, Fields.get?_merge_of_sorted hnew.1,
      Fields.get?_erase hnew.1]
    by_cases hother : other = key
    · rw [if_pos hother, if_pos hother]
    · rw [if_neg hother, if_neg hother, Fields.get?_set_of_ne hother]
  rw [← merge_eq_self_iff hold herased, merge_objects, object.injEq]
  constructor
  · intro h
    refine Fields.ext_of_sorted (Fields.sorted_merge hold.1) hold.1 fun other => ?_
    rw [hget]
    split
    · rfl
    · rename_i hother
      exact h other hother
  · intro h other hother
    have := hget other
    rwa [h, if_neg hother, eq_comm] at this

/-- Merging an overlay again changes nothing. -/
theorem merge_merge_self (hbase : base.Ordered) (hoverlay : overlay.Ordered) :
    (base.merge overlay).merge overlay = base.merge overlay := by
  have hincludes := includes_merge base hoverlay
  have hmerged := ordered_merge hbase hoverlay
  cases overlay with
  | object new =>
    cases new with
    | nil => simp
    | cons kv rest => exact (merge_eq_self_iff hmerged hoverlay).2 hincludes
  | _ => rfl

end Tree

/-- **A merge, path by path.** An overlay without keys changes nothing, and a base that is no object
gives way to any other one. Of two objects the merged tree is the one that has the values of the
overlay wherever the two do not both have objects, the keys of both where they have, and the values
of the base where the overlay lacks the path. -/
theorem FreeForm.merged_by_paths (base overlay : FreeForm) :
    (overlay.tree.fields?.getD [] = [] → base.tree.merge overlay.tree = base.tree) ∧
    (overlay.tree.fields?.getD [] ≠ [] → base.tree.fields? = none →
      base.tree.merge overlay.tree = overlay.tree) ∧
    (base.tree.fields?.isSome = true → overlay.tree.fields?.isSome = true → ∀ t : FreeForm,
      base.tree.MergedFrom overlay.tree t.tree ↔ t.tree = base.tree.merge overlay.tree) ∧
    base.tree.MergedFrom overlay.tree (base.tree.merge overlay.tree) ∧
    (∀ key, overlay.tree.get? key = none →
      (base.tree.merge overlay.tree).get? key = base.tree.get? key) ∧
    (base.tree.merge overlay.tree).merge overlay.tree = base.tree.merge overlay.tree := by
  refine ⟨Tree.merge_of_blank, fun hne hbase => Tree.merge_of_not_object overlay.ordered hbase hne,
    fun hbase hoverlay t => ?_, Tree.mergedFrom_merge _ overlay.ordered, fun key hlacks => ?_,
    Tree.merge_merge_self base.ordered overlay.ordered⟩
  · obtain ⟨old, hold⟩ := Option.isSome_iff_exists.1 hbase
    obtain ⟨new, hnew⟩ := Option.isSome_iff_exists.1 hoverlay
    have hold' := base.ordered
    have hnew' := overlay.ordered
    rw [Tree.fields?_eq_some_iff.1 hold] at hold' ⊢
    rw [Tree.fields?_eq_some_iff.1 hnew] at hnew' ⊢
    exact Tree.mergedFrom_iff hold' hnew' t.ordered
  · rw [Tree.get?_merge overlay.ordered, hlacks]

/-- Objects are merged on, and a flag takes the place of one. -/
example :
    (Tree.ofFields [("mux", .ofFields [("enabled", .bool true)]), ("tls", .ofFields
      [("enabled", .bool true), ("sni", .str "a")])]).merge
      (.ofFields [("mux", .bool false), ("tls", .ofFields [("sni", .str "b")])]) =
    .ofFields [("mux", .bool false), ("tls", .ofFields
      [("enabled", .bool true), ("sni", .str "b")])] := rfl

end Detour
