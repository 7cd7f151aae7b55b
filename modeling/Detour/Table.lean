import Detour.Codec
/-!
# Tables

A `Table` holds values under distinct keys, in the order of the keys.
-/

namespace Detour

/-- Values under keys in strictly rising order. -/
structure Table (α : Type) where
  entries : List (String × α)
  sorted : entries.Pairwise fun a b => a.1 < b.1

namespace Table

variable {α : Type}

/-- No entries. -/
def empty : Table α := ⟨[], List.Pairwise.nil⟩

instance : Inhabited (Table α) := ⟨empty⟩

/-- Put a value into entries, in the place that the order of keys gives it. -/
def insert (key : String) (value : α) : List (String × α) → List (String × α)
  | [] => [(key, value)]
  | (k, v) :: rest =>
    if key < k then (key, value) :: (k, v) :: rest
    else if k = key then (key, value) :: rest
    else (k, v) :: insert key value rest

theorem mem_insert {key : String} {value : α} {es : List (String × α)} {e : String × α}
    (h : e ∈ insert key value es) : e = (key, value) ∨ e ∈ es := by
  induction es with
  | nil => exact Or.inl (List.mem_singleton.1 h)
  | cons head rest ih =>
    obtain ⟨k, v⟩ := head
    simp only [insert] at h
    split at h
    · simpa using h
    · split at h
      · rcases List.mem_cons.1 h with h | h
        · exact Or.inl h
        · exact Or.inr (List.mem_cons_of_mem _ h)
      · rcases List.mem_cons.1 h with h | h
        · exact Or.inr (h ▸ List.mem_cons_self)
        · rcases ih h with h | h
          · exact Or.inl h
          · exact Or.inr (List.mem_cons_of_mem _ h)

theorem sorted_insert {es : List (String × α)} (h : es.Pairwise fun a b => a.1 < b.1)
    (key : String) (value : α) : (insert key value es).Pairwise fun a b => a.1 < b.1 := by
  induction es with
  | nil => exact List.pairwise_singleton _ _
  | cons head rest ih =>
    obtain ⟨k, v⟩ := head
    have hrest := (List.pairwise_cons.1 h).2
    have hhead := (List.pairwise_cons.1 h).1
    simp only [insert]
    split
    · rename_i hlt
      refine List.pairwise_cons.2 ⟨fun e he => ?_, h⟩
      rcases List.mem_cons.1 he with rfl | he
      · exact hlt
      · exact String.lt_trans hlt (hhead e he)
    · rename_i hnlt
      split
      · rename_i heq
        exact List.pairwise_cons.2 ⟨fun e he => heq ▸ hhead e he, hrest⟩
      · rename_i hne
        refine List.pairwise_cons.2 ⟨fun e he => ?_, ih hrest⟩
        rcases mem_insert he with rfl | he
        · exact Fields.lt_of_not_lt hnlt hne
        · exact hhead e he

/-- Put a value under a key. -/
def set (key : String) (value : α) (t : Table α) : Table α :=
  ⟨insert key value t.entries, sorted_insert t.sorted key value⟩

/-- The value under a key. -/
def get? (key : String) (t : Table α) : Option α :=
  (t.entries.find? fun e => e.1 == key).map Prod.snd

/-- The table of some entries; of a repeated key, the last value counts. -/
def ofList (es : List (String × α)) : Table α :=
  es.foldl (fun t e => t.set e.1 e.2) empty

/-- Read the key and the value of every entry. -/
def decodeAll (c : Codec α) : List (Node × Node) → Option (List (String × α))
  | [] => some []
  | (k, n) :: rest =>
    match k.text?, c.decode n, decodeAll c rest with
    | some k, some x, some xs => some ((k, x) :: xs)
    | _, _, _ => none

/-- A table is written as an object. -/
def codec (c : Codec α) : Codec (Table α) where
  encode t := .object (t.entries.map fun e => (e.1, c.encode e.2))
  decode n := (Codec.entries? n).bind fun es => (decodeAll c es).map ofList

end Table

end Detour
