import Detour.Tree.Merge
import Detour.Tree.Entry
/-!
# Look-ups in objects under construction

Objects are put together key by key (`Fields.setAll`) and then merged with an overlay. The lemmas
here push a look-up through both: what a key holds is the last value put under it, and an overlay
that does not name the key leaves it alone.
-/

namespace Detour

namespace Fields

variable {key other : String} {value : Tree} {fields new overlay : Fields}

/-- No entry has the key. -/
def Lacks (key : String) (fields : Fields) : Prop :=
  ∀ kv ∈ fields, kv.1 ≠ key

instance : Decidable (Lacks key fields) :=
  inferInstanceAs (Decidable (∀ kv ∈ fields, kv.1 ≠ key))

@[simp] theorem lacks_nil : Lacks key [] := by
  simp [Lacks]

/-- A key is missing if it is neither the first one nor among the others. -/
@[simp] theorem lacks_cons {kv : String × Tree} :
    Lacks key (kv :: fields) ↔ kv.1 ≠ key ∧ Lacks key fields := by
  simp [Lacks]

/-- Of two series of fields, both have to lack it. -/
@[simp] theorem lacks_append : Lacks key (fields ++ new) ↔ Lacks key fields ∧ Lacks key new := by
  simp only [Lacks, List.mem_append]
  exact ⟨fun h => ⟨fun kv hkv => h kv (.inl hkv), fun kv hkv => h kv (.inr hkv)⟩,
    fun h kv hkv => hkv.elim (h.1 kv) (h.2 kv)⟩

/-- A look-up fails exactly at a key that no entry has. -/
theorem get?_eq_none_iff : fields.get? key = none ↔ Lacks key fields := by
  induction fields with
  | nil => simp
  | cons kv rest ih =>
    obtain ⟨k, v⟩ := kv
    by_cases hk : k = key
    · simp [get?, hk]
    · simp [get?, hk, ih]

/-! ## Entries put one after the other -/

@[simp] theorem setAll_nil : setAll [] fields = fields := rfl

@[simp] theorem setAll_cons {kv : String × Tree} :
    setAll (kv :: new) fields = setAll new (fields.set kv.1 kv.2) := rfl

@[simp] theorem setAll_append {more : Fields} :
    setAll (new ++ more) fields = setAll more (setAll new fields) := by
  simp [setAll]

/-- Keys that are not put keep their values. -/
theorem get?_setAll_of_lacks (h : Lacks key new) :
    (setAll new fields).get? key = fields.get? key := by
  induction new generalizing fields with
  | nil => rfl
  | cons kv rest ih =>
    obtain ⟨hkv, hrest⟩ := lacks_cons.1 h
    rw [setAll_cons, ih hrest, get?_set_of_ne (Ne.symm hkv)]

/-- What a key holds after some entries were put is the last of them that has it. -/
theorem get?_setAll :
    (setAll new fields).get? key =
      ((new.reverse.find? fun kv => kv.1 == key).map Prod.snd).or (fields.get? key) := by
  induction new generalizing fields with
  | nil => rfl
  | cons kv rest ih =>
    rw [setAll_cons, ih, List.reverse_cons, List.find?_append, get?_set]
    cases rest.reverse.find? fun kv => kv.1 == key with
    | some _ => rfl
    | none =>
      by_cases hk : key = kv.1
      · simp [hk]
      · simp [hk, Ne.symm hk]

/-- An object holds nothing that was not put. -/
theorem get?_ofList_of_lacks (h : Lacks key new) : (ofList new).get? key = none :=
  get?_setAll_of_lacks h

/-- An object has a value under exactly the keys that it was given entries for. -/
theorem get?_ofList_eq_none_iff : (ofList new).get? key = none ↔ Lacks key new := by
  refine ⟨fun h => ?_, get?_ofList_of_lacks⟩
  rw [ofList, get?_setAll, Option.or_eq_none_iff, Option.map_eq_none_iff,
    List.find?_eq_none] at h
  exact fun kv hkv he => h.1 kv (List.mem_reverse.2 hkv) (by simpa using he)

/-- What is put stays, so the object is not empty. -/
theorem ofList_ne_nil (h : new ≠ []) : ofList new ≠ [] := by
  intro hnil
  obtain ⟨kv, rest, rfl⟩ := List.exists_cons_of_ne_nil h
  have hlacks : Lacks kv.1 (kv :: rest) := by
    rw [← get?_ofList_eq_none_iff, hnil]
    rfl
  simp at hlacks

/-- An entry with a condition is put under its key if the condition holds. -/
@[simp] theorem get?_setAll_onlyIf {condition : Bool} :
    (setAll (Entry.onlyIf condition other value) fields).get? key =
      if condition ∧ key = other then some value else fields.get? key := by
  cases condition <;> simp [Entry.onlyIf, get?_set]

/-- An entry of a value that may be missing keeps what was there in its place. -/
@[simp] theorem get?_setAll_present {value? : Option Tree} :
    (setAll (Entry.present other value?) fields).get? key =
      if key = other then value?.or (fields.get? key) else fields.get? key := by
  cases value? <;> simp [Entry.present, get?_set]

@[simp] theorem get?_setAll_nonEmptyList {texts : List String} :
    (setAll (Entry.nonEmptyList other texts) fields).get? key =
      if texts ≠ [] ∧ key = other then some (.ofStrings texts) else fields.get? key := by
  simp [Entry.nonEmptyList]

@[simp] theorem get?_setAll_nonEmpty {text : String} :
    (setAll (Entry.nonEmpty other text) fields).get? key =
      if text ≠ "" ∧ key = other then some (.str text) else fields.get? key := by
  simp [Entry.nonEmpty]

/-- Where its condition fails, an entry lacks every key. -/
@[simp] theorem lacks_onlyIf {condition : Bool} :
    Lacks key (Entry.onlyIf condition other value) ↔ (condition → other ≠ key) := by
  cases condition <;> simp [Entry.onlyIf]

@[simp] theorem lacks_nonEmpty {text : String} :
    Lacks key (Entry.nonEmpty other text) ↔ (text ≠ "" → other ≠ key) := by
  simp [Entry.nonEmpty]

@[simp] theorem lacks_nonEmptyList {texts : List String} :
    Lacks key (Entry.nonEmptyList other texts) ↔ (texts ≠ [] → other ≠ key) := by
  simp [Entry.nonEmptyList]

@[simp] theorem lacks_present {value? : Option Tree} :
    Lacks key (Entry.present other value?) ↔ (value?.isSome → other ≠ key) := by
  cases value? <;> simp [Entry.present]

/-! ## Overlays -/

@[simp] theorem merge_nil : merge [] fields = fields := by
  simp [merge]

/-- An overlay leaves the keys alone that it does not name. -/
theorem get?_merge_of_lacks (h : Lacks key overlay) :
    (merge overlay fields).get? key = fields.get? key := by
  induction overlay generalizing fields with
  | nil => simp
  | cons kv rest ih =>
    obtain ⟨k, v⟩ := kv
    obtain ⟨hk, hrest⟩ := lacks_cons.1 h
    rw [merge, ih hrest, get?_set_of_ne (Ne.symm hk)]

/-- What a key holds after a merge depends on the overlay and on what it held before. -/
theorem get?_merge_congr {base other : Fields} (h : base.get? key = other.get? key) :
    (merge overlay base).get? key = (merge overlay other).get? key := by
  induction overlay generalizing base other with
  | nil => simpa using h
  | cons kv rest ih =>
    obtain ⟨k, v⟩ := kv
    rw [merge, merge]
    refine ih ?_
    by_cases hk : key = k
    · subst hk
      rw [get?_set_self, get?_set_self, h]
    · rw [get?_set_of_ne hk, get?_set_of_ne hk, h]

/-- A list gives way to what an overlay names in its place, whatever its items are. -/
theorem get?_merge_of_lists {base other : Fields} {items items' : List Tree}
    (hnamed : ¬ Lacks key overlay) (h : base.get? key = some (.list items))
    (h' : other.get? key = some (.list items')) :
    (merge overlay base).get? key = (merge overlay other).get? key := by
  induction overlay generalizing base other with
  | nil => exact absurd lacks_nil hnamed
  | cons kv rest ih =>
    obtain ⟨k, v⟩ := kv
    rw [merge, merge]
    by_cases hk : key = k
    · subst hk
      have hreplaced : ∀ xs, mergeValue v (some (.list xs)) = v := by
        intro xs
        cases v <;> rfl
      refine get?_merge_congr ?_
      rw [get?_set_self, get?_set_self, h, h', hreplaced, hreplaced]
    · refine ih (fun hrest => hnamed (lacks_cons.2 ⟨Ne.symm hk, hrest⟩)) ?_ ?_
      · rw [get?_set_of_ne hk, h]
      · rw [get?_set_of_ne hk, h']

/-- Two objects have the same values under all keys but one. -/
def AgreeOff (except : String) (fields other : Fields) : Prop :=
  ∀ key, key ≠ except → fields.get? key = other.get? key

/-- Merging one overlay into both keeps that. -/
theorem AgreeOff.merge {except : String} {base other : Fields} (h : AgreeOff except base other)
    (overlay : Fields) : AgreeOff except (merge overlay base) (merge overlay other) :=
  fun key hkey => get?_merge_congr (h key hkey)

end Fields

namespace Tree

/-- What is found under some keys, one inside the other. -/
def at? (keys : List String) (t : Tree) : Option Tree :=
  keys.foldl (fun found key => found.bind (get? key)) (some t)

/-- The elements of the list under a key; without a list there are none. -/
def itemsOf (key : String) (t : Tree) : List Tree :=
  ((t.get? key).bind items?).getD []

variable {key : String}

theorem fields?_eq_some_iff {t : Tree} {fields : Fields} :
    t.fields? = some fields ↔ t = .object fields := by
  cases t <;> simp [fields?]

/-- A key of an object is one of its fields. -/
@[simp] theorem get?_object {fields : Fields} :
    (Tree.object fields).get? key = fields.get? key := rfl

/-- An object of entries is the result of putting them. -/
@[simp] theorem get?_ofFields {entries : Fields} :
    (ofFields entries).get? key = (Fields.setAll entries []).get? key := rfl

/-- Merging an overlay into a document leaves the keys alone that it does not name. -/
theorem get?_merge_of_lacks {base : Tree} {overlay : Fields} (h : Fields.Lacks key overlay) :
    (base.merge (.object overlay)).get? key = base.get? key := by
  cases overlay with
  | nil => rfl
  | cons kv rest =>
    rw [merge, get?_object, Fields.get?_merge_of_lacks h]
    cases base <;> rfl

/-- Of two lists under one key, an overlay leaves both alone or puts the same in their places. -/
theorem get?_merge_lists {base other : Tree} (overlay : Fields) {items items' : List Tree}
    (h : base.get? key = some (.list items)) (h' : other.get? key = some (.list items')) :
    ((base.merge (.object overlay)).get? key = some (.list items) ∧
      (other.merge (.object overlay)).get? key = some (.list items')) ∨
    (base.merge (.object overlay)).get? key = (other.merge (.object overlay)).get? key := by
  by_cases hlacks : Fields.Lacks key overlay
  · rw [get?_merge_of_lacks hlacks, get?_merge_of_lacks hlacks]
    exact .inl ⟨h, h'⟩
  · have hfields : ∀ {t : Tree} {xs : List Tree}, t.get? key = some (.list xs) →
        ∃ fields, t = .object fields := by
      intro t xs ht
      cases t <;> first | exact ⟨_, rfl⟩ | cases ht
    obtain ⟨fields, rfl⟩ := hfields h
    obtain ⟨fields', rfl⟩ := hfields h'
    refine .inr ?_
    cases overlay with
    | nil => exact absurd Fields.lacks_nil hlacks
    | cons kv rest => exact Fields.get?_merge_of_lists hlacks h h'

end Tree

end Detour
