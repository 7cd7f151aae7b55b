import Detour.Proofs.Tree.Fields
/-!
# Edits in place

`Fields.edit` changes the value of one key and leaves everything else where it is. The lemmas here
pass an edit on through the ways in which objects are put together, down to the entry that the key
was put with.
-/

namespace Detour

namespace Fields

/-- Change the value of a key, where the key stands first. -/
def edit (key : String) (f : Tree → Tree) : Fields → Fields
  | [] => []
  | (k, v) :: rest => if k = key then (k, f v) :: rest else (k, v) :: edit key f rest

variable {key other : String} {f : Tree → Tree} {value : Tree} {fields new overlay : Fields}

/-- There is nothing to change without the key. -/
theorem edit_of_lacks (h : Lacks key fields) : fields.edit key f = fields := by
  induction fields with
  | nil => rfl
  | cons kv rest ih =>
    obtain ⟨hkv, hrest⟩ := lacks_cons.1 h
    rw [edit, if_neg hkv, ih hrest]

/-- An edit keeps the keys. -/
theorem lacks_edit : Lacks other (fields.edit key f) ↔ Lacks other fields := by
  induction fields with
  | nil => rfl
  | cons kv rest ih =>
    rw [edit]
    split
    · rw [lacks_cons, lacks_cons]
    · rw [lacks_cons, lacks_cons, ih]

theorem get?_edit_of_ne (h : other ≠ key) :
    (fields.edit key f).get? other = fields.get? other := by
  induction fields with
  | nil => rfl
  | cons kv rest ih =>
    obtain ⟨k, v⟩ := kv
    rw [edit]
    split
    · rename_i hk
      simp [get?, show k ≠ other from fun he => h (he.symm.trans hk)]
    · simp only [get?, ih]

/-! ## Entries put one after the other -/

/-- A value that was just put is changed in its place. -/
@[simp] theorem edit_set_self : (fields.set key value).edit key f = fields.set key (f value) := by
  induction fields with
  | nil => simp [set, edit]
  | cons kv rest ih =>
    obtain ⟨k, v⟩ := kv
    simp only [set]
    split
    · simp [edit]
    · split
      · simp [edit]
      · rename_i hk
        rw [edit, if_neg hk, ih]

/-- A value under another key may be put before or behind the change. -/
theorem edit_set_of_ne (h : key ≠ other) :
    (fields.set other value).edit key f = (fields.edit key f).set other value := by
  induction fields with
  | nil => simp [set, edit, Ne.symm h]
  | cons kv rest ih =>
    obtain ⟨k, v⟩ := kv
    -- the new entry goes in front of this one, in its place, or somewhere behind it
    by_cases hk : k = key
    · subst hk
      by_cases hlt : other < k
      · simp [set, edit, hlt, Ne.symm h]
      · simp [set, edit, hlt, h]
    · by_cases hlt : other < k
      · simp [set, edit, hlt, hk, Ne.symm h]
      · by_cases hother : k = other
        · subst hother
          simp [set, edit, hk]
        · simp [set, edit, hlt, hother, hk, ih]

theorem edit_setAll_of_lacks (h : Lacks key new) :
    (setAll new fields).edit key f = setAll new (fields.edit key f) := by
  induction new generalizing fields with
  | nil => rfl
  | cons kv rest ih =>
    obtain ⟨hkv, hrest⟩ := lacks_cons.1 h
    rw [setAll_cons, setAll_cons, ih hrest, edit_set_of_ne (Ne.symm hkv)]

/-- An overlay that does not name the key leaves the edit alone. -/
theorem edit_merge_of_lacks (h : Lacks key overlay) :
    (merge overlay fields).edit key f = merge overlay (fields.edit key f) := by
  induction overlay generalizing fields with
  | nil => simp
  | cons kv rest ih =>
    obtain ⟨k, v⟩ := kv
    obtain ⟨hk, hrest⟩ := lacks_cons.1 h
    rw [merge, merge, ih hrest, edit_set_of_ne (Ne.symm hk), get?_edit_of_ne hk]

end Fields

namespace Tree

/-- Change the value of a key of an object. -/
def edit (key : String) (f : Tree → Tree) : Tree → Tree
  | .object fields => .object (Fields.edit key f fields)
  | t => t

/-- Change the elements of a list. -/
def mapItems (f : Tree → Tree) : Tree → Tree
  | .list items => .list (items.map f)
  | t => t

/-- Change a text. -/
def mapText (f : String → String) : Tree → Tree
  | .str s => .str (f s)
  | t => t

variable {key : String} {f : Tree → Tree} {g : String → String}

/-- An object is changed in its fields. -/
@[simp] theorem edit_object {fields : Fields} :
    (Tree.object fields).edit key f = .object (fields.edit key f) := rfl

/-- A list is changed element by element. -/
@[simp] theorem mapItems_list {items : List Tree} :
    (Tree.list items).mapItems f = .list (items.map f) := rfl

@[simp] theorem mapText_str {s : String} : (Tree.str s).mapText g = .str (g s) := rfl

/-- A list of texts is changed text by text. -/
@[simp] theorem mapItems_ofStrings {texts : List String} :
    (ofStrings texts).mapItems (mapText g) = ofStrings (texts.map g) := by
  simp [ofStrings]

end Tree

end Detour
