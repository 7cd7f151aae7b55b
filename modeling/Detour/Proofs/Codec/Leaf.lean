import Detour.Profile
/-!
# Values without fields of their own

Scalars, words, free-form trees and tables are written in one way only. What is written for such a
value is read back as that value (`Codec.Leaf.reads`): integers stay within their bounds, and an
object whose keys stand in order is the same one when it is put together again, entry by entry.
-/

namespace Detour

/-! ## Objects put together again -/

namespace Table

variable {α : Type} {key : String} {value : α} {es rest : List (String × α)}

/-- A key behind all others goes to the end. -/
theorem insert_of_forall_lt (h : ∀ e ∈ es, e.1 < key) :
    insert key value es = es ++ [(key, value)] := by
  induction es with
  | nil => rfl
  | cons e es ih =>
    have hlt : e.1 < key := h e List.mem_cons_self
    have hne : e.1 ≠ key := String.ne_of_lt hlt
    rw [insert, if_neg (String.lt_asymm hlt), if_neg hne,
      ih fun e he => h e (List.mem_cons_of_mem _ he)]
    rfl

/-- Entries in the order of their keys are put one behind the other. -/
theorem foldl_insert (h : (es ++ rest).Pairwise fun a b => a.1 < b.1) :
    rest.foldl (fun acc e => insert e.1 e.2 acc) es = es ++ rest := by
  induction rest generalizing es with
  | nil => simp
  | cons e rest ih =>
    have hlast : ∀ a ∈ es, a.1 < e.1 := fun a ha =>
      (List.pairwise_append.1 h).2.2 a ha e List.mem_cons_self
    rw [List.foldl_cons, insert_of_forall_lt hlast, ih (by simpa using h)]
    simp

theorem entries_foldl_set {t : Table α} :
    (es.foldl (fun t e => t.set e.1 e.2) t).entries =
      es.foldl (fun acc e => insert e.1 e.2 acc) t.entries := by
  induction es generalizing t with
  | nil => rfl
  | cons e es ih => exact ih

/-- A table is the table of its entries. -/
theorem ofList_entries (t : Table α) : ofList t.entries = t := by
  have hentries : (ofList t.entries).entries = t.entries := by
    rw [ofList, entries_foldl_set]
    exact foldl_insert t.sorted
  cases t
  exact (mk.injEq ..).mpr hentries

end Table

namespace Fields

theorem set_eq_insert {key : String} {value : Tree} {fields : Fields} :
    fields.set key value = Table.insert key value fields := by
  induction fields with
  | nil => rfl
  | cons kv rest ih => rw [set, Table.insert, ih]

/-- An object with its keys in order is the object with its entries. -/
theorem ofList_of_sorted {fields : Fields} (h : fields.Sorted) : ofList fields = fields := by
  simp only [ofList, setAll, set_eq_insert]
  exact Table.foldl_insert h

end Fields

/-! ## Free-form trees -/

namespace Node

mutual
/-- What a document says that spells an ordered value. -/
theorem toTree?_ofTree {t : Tree} (h : t.Ordered) : toTree? (ofTree t) = some t := by
  cases t with
  | list items => simp [ofTree, toTree?, toTrees?_ofTrees h]
  | object fields =>
    rw [ofTree, toTree?, toFields?_ofFields h.2, Option.map_some, Tree.ofFields,
      Fields.ofList_of_sorted h.1]
  | _ => rfl
theorem toTrees?_ofTrees {ts : List Tree} (h : Tree.OrderedItems ts) :
    toTrees? (ofTrees ts) = some ts := by
  cases ts with
  | nil => rfl
  | cons t rest => simp [ofTrees, toTrees?, toTree?_ofTree h.1, toTrees?_ofTrees h.2]
theorem toFields?_ofFields {fs : List (String × Tree)} (h : Tree.OrderedFields fs) :
    toFields? (ofFields fs) = some fs := by
  cases fs with
  | nil => rfl
  | cons kv rest =>
    simp [ofFields, toFields?, text?, toTree?_ofTree h.1, toFields?_ofFields h.2]
end

end Node

theorem FreeForm.ofNode?_of_toTree? {n : Node} {t : FreeForm} (h : n.toTree? = some t.tree) :
    FreeForm.ofNode? n = some t := by
  unfold FreeForm.ofNode?
  split
  · rename_i t' ht'
    obtain rfl : t' = t.tree := Option.some.inj (ht'.symm.trans h)
    rfl
  · rename_i hnone
    rw [hnone] at h
    cases h

/-! ## Numbers and tables -/

namespace Codec

theorem intWithin?_of_mem {low high n : Int} (hlow : low ≤ n) (hhigh : n ≤ high) :
    intWithin? low high n = some n :=
  if_pos ⟨hlow, hhigh⟩

theorem natBelow?_of_lt {bound n : Nat} (h : n < bound) : natBelow? bound (.int n) = some n :=
  if_pos h

theorem decodeAll_entries {α : Type} {c : Codec α}
    (hc : ∀ x, c.decode (.ofTree (c.encode x)) = some x) (es : List (String × α)) :
    Table.decodeAll c (Node.ofFields (es.map fun e => (e.1, c.encode e.2))) = some es := by
  induction es with
  | nil => rfl
  | cons e es ih => simp [Node.ofFields, Table.decodeAll, Node.text?, hc, ih]

/-- The codecs of values without fields of their own. -/
inductive Leaf : {α : Type} → Codec α → Prop
  | bool : Leaf bool
  | text : Leaf text
  | int64 : Leaf int64
  | uint8 : Leaf uint8
  | uint16 : Leaf uint16
  | uint32 : Leaf uint32
  | freeForm : Leaf freeForm
  | muxState : Leaf MuxState.codec
  | sniffing : Leaf Sniffing.codec
  | table : Leaf (Table.codec .text)

/-- **What is written for a value without fields is read back as that value.** -/
theorem Leaf.reads {α : Type} {c : Codec α} (h : c.Leaf) (x : α) :
    c.decode (.ofTree (c.encode x)) = some x := by
  cases h with
  | bool => rfl
  | text => rfl
  | int64 =>
    simp only [Codec.int64, Node.ofTree]
    rw [intWithin?_of_mem x.minValue_le_toInt x.toInt_le, Option.map_some, Int64.ofInt_toInt]
  | uint8 =>
    have hx := natBelow?_of_lt x.toNat_lt_size
    simp [Codec.uint8, Node.ofTree, hx]
  | uint16 =>
    have hx := natBelow?_of_lt x.toNat_lt_size
    simp [Codec.uint16, Node.ofTree, hx]
  | uint32 =>
    have hx := natBelow?_of_lt x.toNat_lt_size
    simp [Codec.uint32, Node.ofTree, hx]
  | freeForm => exact FreeForm.ofNode?_of_toTree? (Node.toTree?_ofTree x.ordered)
  | muxState => cases x <;> decide
  | sniffing => cases x <;> decide
  | table =>
    have hes := decodeAll_entries (c := Codec.text) (fun _ => rfl) x.entries
    simp [Table.codec, Node.ofTree, Codec.entries?, hes, Table.ofList_entries]

end Codec

end Detour
