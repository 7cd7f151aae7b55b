import Detour.Node
/-!
# Ordered trees

`Fields.set` keeps the keys of an object in order, so every tree that comes from a document is
ordered (`Node.toTree?_ordered`). A `FreeForm` is a tree that carries this fact: the form in which
the records of the model hold what a user may write freely.
-/

namespace Detour

namespace Fields

/-- The keys stand in strictly rising order. -/
def Sorted (fields : Fields) : Prop :=
  fields.Pairwise fun a b => a.1 < b.1

/-- Of two different keys that are not in order, the opposite order holds. -/
theorem lt_of_not_lt {a b : String} (h : ¬ a < b) (hne : b ≠ a) : b < a := by
  rcases String.le_total a b with hab | hba
  · exact absurd (String.le_antisymm (String.not_lt.1 h) hab) hne
  · exact Decidable.byContradiction fun hn => hne (String.le_antisymm hba (String.not_lt.1 hn))

/-- The keys after a put are the old ones and the new one. -/
theorem mem_keys_set {key : String} {value : Tree} {fields : Fields} {kv : String × Tree}
    (h : kv ∈ fields.set key value) : kv = (key, value) ∨ kv ∈ fields := by
  induction fields with
  | nil => exact Or.inl (List.mem_singleton.1 h)
  | cons head rest ih =>
    obtain ⟨k, v⟩ := head
    simp only [set] at h
    split at h
    · simpa using h
    · split at h
      · rcases List.mem_cons.1 h with h | h
        · exact Or.inl h
        · exact Or.inr (List.mem_cons_of_mem _ h)
      · rcases List.mem_cons.1 h with h | h
        · exact Or.inr (h ▸ List.mem_cons_self)
        · rcases ih h with h | h
          · exact Or.inl h
          · exact Or.inr (List.mem_cons_of_mem _ h)

/-- A put keeps the order of the keys. -/
theorem Sorted.set {fields : Fields} (h : fields.Sorted) (key : String) (value : Tree) :
    (fields.set key value).Sorted := by
  induction fields with
  | nil => exact List.pairwise_singleton _ _
  | cons head rest ih =>
    obtain ⟨k, v⟩ := head
    have hrest := (List.pairwise_cons.1 h).2
    have hhead := (List.pairwise_cons.1 h).1
    simp only [Fields.set]
    split
    · rename_i hlt
      refine List.pairwise_cons.2 ⟨fun kv hkv => ?_, h⟩
      rcases List.mem_cons.1 hkv with rfl | hkv
      · exact hlt
      · exact String.lt_trans hlt (hhead kv hkv)
    · rename_i hnlt
      split
      · rename_i heq
        exact List.pairwise_cons.2 ⟨fun kv hkv => heq ▸ hhead kv hkv, hrest⟩
      · rename_i hne
        refine List.pairwise_cons.2 ⟨fun kv hkv => ?_, ih hrest⟩
        rcases mem_keys_set hkv with rfl | hkv
        · exact lt_of_not_lt hnlt hne
        · exact hhead kv hkv

end Fields

namespace Tree

theorem orderedFields_iff {fields : Fields} :
    OrderedFields fields ↔ ∀ kv ∈ fields, Ordered kv.2 := by
  induction fields with
  | nil => simp [OrderedFields]
  | cons head rest ih => simp [OrderedFields, ih]

/-- A put of an ordered value keeps an object ordered. -/
theorem ordered_set {fields : Fields} {value : Tree} (h : Ordered (.object fields)) (key : String)
    (hv : Ordered value) : Ordered (.object (Fields.set key value fields)) := by
  simp only [Ordered, orderedFields_iff] at h ⊢
  refine ⟨Fields.Sorted.set h.1 key value, fun kv hkv => ?_⟩
  rcases Fields.mem_keys_set hkv with rfl | hkv
  · exact hv
  · exact h.2 kv hkv

/-- Putting ordered values one after the other keeps an object ordered. -/
theorem ordered_setAll {new fields : Fields} (h : Ordered (.object fields))
    (hnew : OrderedFields new) : Ordered (.object (Fields.setAll new fields)) := by
  induction new generalizing fields with
  | nil => exact h
  | cons kv rest ih =>
    obtain ⟨hkv, hrest⟩ := hnew
    exact ih (ordered_set h kv.1 hkv) hrest

/-- An object made of ordered values is ordered. -/
theorem ordered_ofFields {entries : Fields} (h : OrderedFields entries) :
    Ordered (ofFields entries) :=
  ordered_setAll (by simp [Ordered, OrderedFields]) h

mutual
/-- Sorting orders every object. -/
theorem ordered_sorted (t : Tree) : t.sorted.Ordered := by
  cases t with
  | list items => simpa [sorted, Ordered] using orderedItems_sortedItems items
  | object fields => exact ordered_ofFields (orderedFields_sortedFields fields)
  | _ => trivial
theorem orderedItems_sortedItems (ts : List Tree) : OrderedItems (sortedItems ts) := by
  cases ts with
  | nil => trivial
  | cons t rest => exact ⟨ordered_sorted t, orderedItems_sortedItems rest⟩
theorem orderedFields_sortedFields (fs : List (String × Tree)) :
    OrderedFields (sortedFields fs) := by
  cases fs with
  | nil => trivial
  | cons kv rest => exact ⟨ordered_sorted kv.2, orderedFields_sortedFields rest⟩
end

end Tree

/-- A real or a text is a scalar. -/
theorem Plain.ordered_realOrText (s : String) : (Plain.realOrText s).Ordered := by
  unfold Plain.realOrText
  split
  · trivial
  · split <;> trivial

/-- An unquoted scalar stands for a scalar. -/
theorem Plain.ordered_of_value? {s : String} {t : Tree} (h : Plain.value? s = some t) :
    t.Ordered := by
  unfold Plain.value? at h
  split at h
  · cases h; trivial
  · split at h
    · cases h; trivial
    · split at h
      · split at h
        · cases h; trivial
        · split at h
          · cases h
          · cases h; exact Plain.ordered_realOrText s
      · cases h; exact Plain.ordered_realOrText s

namespace Node

mutual
/-- The free-form value of a document is ordered. -/
theorem toTree?_ordered {n : Node} {t : Tree} (h : n.toTree? = some t) : t.Ordered := by
  cases n with
  | plain s => exact Plain.ordered_of_value? h
  | list items =>
    simp only [toTree?, Option.map_eq_some_iff] at h
    obtain ⟨ts, hts, rfl⟩ := h
    exact toTrees?_ordered hts
  | sequence items =>
    simp only [toTree?, Option.map_eq_some_iff] at h
    obtain ⟨ts, hts, rfl⟩ := h
    exact toTrees?_ordered hts
  | object entries =>
    simp only [toTree?, Option.map_eq_some_iff] at h
    obtain ⟨kvs, hkvs, rfl⟩ := h
    exact Tree.ordered_ofFields (toFields?_ordered hkvs)
  | flawed => cases h
  | _ => cases h; trivial
theorem toTrees?_ordered {ns : List Node} {ts : List Tree} (h : toTrees? ns = some ts) :
    Tree.OrderedItems ts := by
  cases ns with
  | nil => cases h; trivial
  | cons n rest =>
    simp only [toTrees?] at h
    split at h
    · rename_i t ts' ht hts
      cases h
      exact ⟨toTree?_ordered ht, toTrees?_ordered hts⟩
    · cases h
theorem toFields?_ordered {es : List (Node × Node)} {fs : List (String × Tree)}
    (h : toFields? es = some fs) : Tree.OrderedFields fs := by
  cases es with
  | nil => cases h; trivial
  | cons e rest =>
    obtain ⟨k, n⟩ := e
    simp only [toFields?] at h
    split at h
    · rename_i _ t ts' _ ht hts
      cases h
      exact ⟨toTree?_ordered ht, toFields?_ordered hts⟩
    · cases h
end

end Node

/-- A tree whose objects all have their keys in order, as a record of the model holds it. -/
structure FreeForm where
  tree : Tree
  ordered : tree.Ordered

namespace FreeForm

/-- The free-form null. -/
def null : FreeForm := ⟨.null, trivial⟩

instance : Inhabited FreeForm := ⟨null⟩

/-- The free-form value of a document. -/
def ofNode? (n : Node) : Option FreeForm :=
  match h : n.toTree? with
  | some t => some ⟨t, Node.toTree?_ordered h⟩
  | none => none

end FreeForm

end Detour
