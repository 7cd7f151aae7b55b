import Detour.Proofs.Tree.Fields
import Detour.Tree.FreeForm
import Detour.Tree.Override
/-!
# Ordered objects

The keys of an ordered object stand in order and each of them once. So a look-up says all of an
object (`Fields.ext_of_sorted`), an overlay names a key once at most (`Fields.get?_merge_of_sorted`),
and what two ordered trees are merged to is ordered again (`Tree.ordered_merge`).
-/

namespace Detour

namespace Fields

variable {key : String} {value : Tree} {fields other new overlay base : Fields}

theorem lacks_of_sorted_cons {kv : String × Tree} {rest : Fields} (h : Sorted (kv :: rest)) :
    Lacks kv.1 rest := fun other hother hkey =>
  String.lt_irrefl kv.1 (hkey ▸ (List.pairwise_cons.1 h).1 other hother)

/-- Values that are put keep the keys in order. -/
theorem sorted_setAll (h : fields.Sorted) : (setAll new fields).Sorted := by
  induction new generalizing fields with
  | nil => exact h
  | cons kv rest ih => exact ih (h.set kv.1 kv.2)

/-- Merging into a sorted object keeps it sorted, whatever the overlay is. -/
theorem sorted_merge (h : base.Sorted) : (merge overlay base).Sorted := by
  induction overlay generalizing base with
  | nil => simpa using h
  | cons kv rest ih =>
    rw [merge]
    exact ih (h.set _ _)

/-- What is found under a key is one of the fields. -/
theorem mem_of_get? (h : fields.get? key = some value) : (key, value) ∈ fields := by
  induction fields with
  | nil => cases h
  | cons kv rest ih =>
    obtain ⟨k, v⟩ := kv
    by_cases hk : k = key
    · rw [get?, if_pos hk] at h
      cases h
      exact hk ▸ List.mem_cons_self
    · rw [get?, if_neg hk] at h
      exact List.mem_cons_of_mem _ (ih h)

/-- No key of a sorted object is below its first one. -/
theorem not_lt_of_get? {kv : String × Tree} {rest : Fields} (h : Sorted (kv :: rest))
    (hget : get? key (kv :: rest) = some value) : ¬ key < kv.1 := by
  rcases List.mem_cons.1 (mem_of_get? hget) with rfl | hmem
  · exact String.lt_irrefl _
  · exact String.lt_asymm ((List.pairwise_cons.1 h).1 _ hmem)

/-- Two sorted objects are equal if every look-up finds the same in both. -/
theorem ext_of_sorted (h : fields.Sorted) (h' : other.Sorted)
    (hget : ∀ key, fields.get? key = other.get? key) : fields = other := by
  induction fields generalizing other with
  | nil =>
    cases other with
    | nil => rfl
    | cons kv rest => simpa [get?] using hget kv.1
  | cons kv rest ih =>
    cases other with
    | nil => simpa [get?] using hget kv.1
    | cons kv' rest' =>
      obtain ⟨k, v⟩ := kv
      obtain ⟨k', v'⟩ := kv'
      -- each first key is found in the other object, so neither is below the other one
      have hin' : get? k ((k', v') :: rest') = some v := by
        rw [← hget k]
        simp [get?]
      have hin : get? k' ((k, v) :: rest) = some v' := by
        rw [hget k']
        simp [get?]
      obtain rfl : k = k' :=
        String.le_antisymm (String.not_lt.1 (not_lt_of_get? h hin))
          (String.not_lt.1 (not_lt_of_get? h' hin'))
      obtain rfl : v = v' := by simpa [get?] using hget k
      refine congrArg _ (ih (List.pairwise_cons.1 h).2 (List.pairwise_cons.1 h').2 fun key => ?_)
      by_cases hk : k = key
      · subst hk
        rw [get?_eq_none_iff.2 (lacks_of_sorted_cons h), get?_eq_none_iff.2 (lacks_of_sorted_cons h')]
      · simpa [get?, hk] using hget key

/-- What a key holds after a merge, if the overlay has it once at most. -/
theorem get?_merge_of_sorted (h : overlay.Sorted) :
    (merge overlay base).get? key = match overlay.get? key with
      | some value => some (mergeValue value (base.get? key))
      | none => base.get? key := by
  induction overlay generalizing base with
  | nil => simp
  | cons kv rest ih =>
    obtain ⟨k, v⟩ := kv
    rw [merge]
    by_cases hk : k = key
    · subst hk
      rw [get?_merge_of_lacks (lacks_of_sorted_cons h), get?_set_self]
      simp [get?]
    · rw [ih (List.pairwise_cons.1 h).2, get?_set_of_ne (Ne.symm hk)]
      simp [get?, hk]

/-! ## Taking keys away -/

/-- Taking a key away leaves the other fields in their order. -/
theorem erase_sublist (key : String) (fields : Fields) : (fields.erase key).Sublist fields := by
  induction fields with
  | nil => exact .slnil
  | cons kv rest ih =>
    rw [erase]
    split
    · exact .cons _ (List.Sublist.refl _)
    · exact ih.cons_cons _

/-- Taking a key away leaves the others alone, and of an object in order the key is gone. -/
theorem get?_erase {other : String} (h : fields.Sorted) :
    (fields.erase key).get? other = if other = key then none else fields.get? other := by
  induction fields with
  | nil => simp [erase]
  | cons kv rest ih =>
    obtain ⟨k, v⟩ := kv
    rw [erase]
    by_cases hk : k = key
    · subst hk
      by_cases hother : other = k
      · subst hother
        simpa using get?_eq_none_iff.2 (lacks_of_sorted_cons h)
      · simp [get?, hother, Ne.symm hother]
    · rw [if_neg hk, get?, ih (List.pairwise_cons.1 h).2]
      by_cases hother : k = other
      · simp [get?, ← hother, hk]
      · simp [get?, hother]

end Fields

namespace Tree

variable {key : String} {t base overlay value : Tree} {fields new : Fields}

theorem ordered_erase (h : (object fields).Ordered) (key : String) :
    (object (Fields.erase key fields)).Ordered := by
  have hsublist := Fields.erase_sublist key fields
  exact ⟨h.1.sublist hsublist, orderedFields_iff.2 fun kv hkv =>
    orderedFields_iff.1 h.2 kv (hsublist.subset hkv)⟩

/-! ## Entries -/

@[simp] theorem ordered_str (s : String) : (str s).Ordered := trivial

@[simp] theorem ordered_int (n : Int) : (int n).Ordered := trivial

@[simp] theorem ordered_bool (b : Bool) : (bool b).Ordered := trivial

/-- A list is ordered if its elements are. -/
theorem orderedItems_iff {items : List Tree} : OrderedItems items ↔ ∀ t ∈ items, t.Ordered := by
  induction items with
  | nil => simp [OrderedItems]
  | cons head rest ih => simp [OrderedItems, ih]

@[simp] theorem ordered_ofStrings (texts : List String) : (ofStrings texts).Ordered := by
  rw [ofStrings, Ordered, orderedItems_iff]
  simp

/-- Two series of fields are ordered if each of them is. -/
@[simp] theorem orderedFields_append :
    OrderedFields (fields ++ new) ↔ OrderedFields fields ∧ OrderedFields new := by
  simp [orderedFields_iff, or_imp, forall_and]

/-- An entry that is left out has nothing that could be out of order. -/
@[simp] theorem orderedFields_onlyIf {condition : Bool} :
    OrderedFields (Entry.onlyIf condition key value) ↔ (condition = true → value.Ordered) := by
  cases condition <;> simp [Entry.onlyIf, OrderedFields]

@[simp] theorem orderedFields_nonEmpty {text : String} :
    OrderedFields (Entry.nonEmpty key text) := by
  simp [Entry.nonEmpty]

@[simp] theorem orderedFields_nonEmptyList {texts : List String} :
    OrderedFields (Entry.nonEmptyList key texts) := by
  simp [Entry.nonEmptyList]

/-- A value that may be missing has to be ordered if it is there. -/
@[simp] theorem orderedFields_present {value? : Option Tree} :
    OrderedFields (Entry.present key value?) ↔ ∀ t, value? = some t → t.Ordered := by
  cases value? <;> simp [Entry.present, OrderedFields]

/-! ## Ordered trees -/

/-- The object that an ordered value holds is ordered, inline or as text. -/
theorem Ordered.heldObject (h : t.Ordered) (hheld : t.heldObject? = some fields) :
    (object fields).Ordered := by
  cases t with
  | object own =>
    cases hheld
    exact h
  | str text =>
    obtain ⟨held, hread, hfields⟩ := Option.bind_eq_some_iff.1 hheld
    obtain ⟨n, -, hn⟩ := Option.bind_eq_some_iff.1 hread
    exact fields?_eq_some_iff.1 hfields ▸ Node.toTree?_ordered hn
  | _ => cases hheld

/-- What an ordered tree holds under a key is ordered. -/
theorem Ordered.get? {value : Tree} (h : t.Ordered) (hget : t.get? key = some value) :
    value.Ordered := by
  cases t with
  | object fields => exact orderedFields_iff.1 h.2 _ (Fields.mem_of_get? hget)
  | _ => cases hget

mutual
/-- The value that an ordered overlay leaves in the place of an ordered one is ordered. -/
theorem ordered_mergeValue {value : Tree} {old : Option Tree} (hvalue : value.Ordered)
    (hold : ∀ t, old = some t → t.Ordered) : (Fields.mergeValue value old).Ordered := by
  cases value with
  | object fields =>
    unfold Fields.mergeValue
    split
    · rename_i hobject
      cases hobject
      exact ordered_mergeFields hvalue.2 (hold _ rfl)
    · exact hvalue
  | _ => exact hvalue
/-- Merging puts ordered values into an ordered object. -/
theorem ordered_mergeFields {overlay base : Fields} (hoverlay : OrderedFields overlay)
    (hbase : (Tree.object base).Ordered) : (Tree.object (Fields.merge overlay base)).Ordered := by
  cases overlay with
  | nil => simpa using hbase
  | cons kv rest =>
    obtain ⟨k, v⟩ := kv
    rw [Fields.merge]
    have hold : ∀ t, base.get? k = some t → t.Ordered := fun t ht =>
      Ordered.get? (t := .object base) hbase ht
    exact ordered_mergeFields hoverlay.2 (ordered_set hbase k (ordered_mergeValue hoverlay.1 hold))
end

/-- What two ordered trees are merged to is ordered. -/
theorem ordered_merge (hbase : base.Ordered) (hoverlay : overlay.Ordered) :
    (base.merge overlay).Ordered := by
  unfold merge
  split
  · refine ordered_mergeFields hoverlay.2 ?_
    cases base with
    | object fields => exact hbase
    | _ => exact ⟨List.Pairwise.nil, trivial⟩
  · exact hbase

end Tree

/-- An override is ordered, inline or as text. -/
theorem FreeForm.ordered_override (t : FreeForm) : (Tree.object t.tree.override).Ordered := by
  unfold Tree.override
  cases hheld : t.tree.heldObject? with
  | none => exact ⟨List.Pairwise.nil, trivial⟩
  | some fields => exact t.ordered.heldObject hheld

theorem FreeForm.sorted_override (t : FreeForm) : t.tree.override.Sorted :=
  t.ordered_override.1

end Detour
