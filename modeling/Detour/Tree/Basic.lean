import Detour.Number.Binary64
/-!
# Free-form trees

A `Tree` is a value of a document: a scalar, a list, or an object. The fields of an object are a list
of keys and values that `Fields.set` keeps in the order of the keys and free of repetitions, so two
objects with the same content are the same tree. `Tree.Ordered` says that all objects of a tree are
kept that way. A tree that is only going to be written may have its fields in any order;
`Tree.sorted` puts them in the order of their keys.
-/

namespace Detour

/-- A value of a document. -/
inductive Tree where
  | null
  | bool (b : Bool)
  | int (n : Int)
  | real (x : Binary64)
  | str (s : String)
  | list (items : List Tree)
  | object (fields : List (String × Tree))
deriving Inhabited

/-- The fields of an object, by key. -/
abbrev Fields := List (String × Tree)

namespace Fields

/-- The value under a key. -/
def get? (key : String) : Fields → Option Tree
  | [] => none
  | (k, v) :: rest => if k = key then some v else get? key rest

/-- Put a value under a key, in the place that the order of keys gives it. -/
def set (key : String) (value : Tree) : Fields → Fields
  | [] => [(key, value)]
  | (k, v) :: rest =>
    if key < k then (key, value) :: (k, v) :: rest
    else if k = key then (key, value) :: rest
    else (k, v) :: set key value rest

/-- Take a key away. -/
def erase (key : String) : Fields → Fields
  | [] => []
  | (k, v) :: rest => if k = key then rest else (k, v) :: erase key rest

/-- Put several values, from left to right. -/
def setAll (new : Fields) (fields : Fields) : Fields :=
  new.foldl (fun acc kv => acc.set kv.1 kv.2) fields

/-- The object with these entries; of a repeated key, the last value counts. -/
def ofList (entries : Fields) : Fields :=
  setAll entries []

end Fields

namespace Tree

/-- The object with these entries. -/
def ofFields (entries : Fields) : Tree :=
  .object (Fields.ofList entries)

/-- The list of these texts. -/
def ofStrings (texts : List String) : Tree :=
  .list (texts.map .str)

/-- The fields of an object. -/
def fields? : Tree → Option Fields
  | .object fields => some fields
  | _ => none

/-- The elements of a list. -/
def items? : Tree → Option (List Tree)
  | .list items => some items
  | _ => none

/-- The text of a string. -/
def text? : Tree → Option String
  | .str s => some s
  | _ => none

/-- The value under a key of an object. -/
def get? (key : String) : Tree → Option Tree
  | .object fields => Fields.get? key fields
  | _ => none

mutual
/-- The same value with the fields of every object in the order of their keys. -/
def sorted : Tree → Tree
  | .list items => .list (sortedItems items)
  | .object fields => ofFields (sortedFields fields)
  | t => t
/-- Sort every tree of a list. -/
def sortedItems : List Tree → List Tree
  | [] => []
  | t :: rest => sorted t :: sortedItems rest
/-- Sort every value of some fields. -/
def sortedFields : List (String × Tree) → List (String × Tree)
  | [] => []
  | (k, t) :: rest => (k, sorted t) :: sortedFields rest
end

mutual
/-- Equality of values. Reals are compared as numbers, so the two zeros are equal. -/
def same : Tree → Tree → Bool
  | .null, .null => true
  | .bool a, .bool b => a == b
  | .int a, .int b => a == b
  | .real a, .real b => a.sameValue b
  | .str a, .str b => a == b
  | .list a, .list b => sameItems a b
  | .object a, .object b => sameFields a b
  | _, _ => false
/-- Equality of lists of values. -/
def sameItems : List Tree → List Tree → Bool
  | [], [] => true
  | a :: as, b :: bs => same a b && sameItems as bs
  | _, _ => false
/-- Equality of fields, keys and values in order. -/
def sameFields : List (String × Tree) → List (String × Tree) → Bool
  | [], [] => true
  | (k, a) :: as, (l, b) :: bs => k == l && same a b && sameFields as bs
  | _, _ => false
end

mutual
/-- Every object of the tree has its keys in order, each once. -/
def Ordered : Tree → Prop
  | .list items => OrderedItems items
  | .object fields => fields.Pairwise (fun a b => a.1 < b.1) ∧ OrderedFields fields
  | _ => True
/-- Every tree of a list is ordered. -/
def OrderedItems : List Tree → Prop
  | [] => True
  | t :: rest => Ordered t ∧ OrderedItems rest
/-- Every value of some fields is ordered. -/
def OrderedFields : List (String × Tree) → Prop
  | [] => True
  | (_, t) :: rest => Ordered t ∧ OrderedFields rest
end

end Tree

namespace Fields

@[simp] theorem get?_nil (key : String) : get? key [] = none := rfl

/-- A key that was put is found with its value. -/
@[simp] theorem get?_set_self (key : String) (value : Tree) (fields : Fields) :
    (fields.set key value).get? key = some value := by
  induction fields with
  | nil => simp [set, get?]
  | cons kv rest ih =>
    obtain ⟨k, v⟩ := kv
    simp only [set]
    split
    · simp [get?]
    · split
      · simp [get?]
      · rename_i hk
        simp [get?, hk, ih]

/-- Putting a key leaves the others alone. -/
theorem get?_set_of_ne {key other : String} (h : other ≠ key) (value : Tree) (fields : Fields) :
    (fields.set key value).get? other = fields.get? other := by
  induction fields with
  | nil => simp [set, get?, Ne.symm h]
  | cons kv rest ih =>
    obtain ⟨k, v⟩ := kv
    simp only [set]
    split
    · simp [get?, Ne.symm h]
    · split
      · rename_i hk
        subst hk
        simp [get?, Ne.symm h]
      · simp only [get?, ih]

theorem get?_set (key other : String) (value : Tree) (fields : Fields) :
    (fields.set key value).get? other = if other = key then some value else fields.get? other := by
  split
  · rename_i h
    rw [h, get?_set_self]
  · rename_i h
    exact get?_set_of_ne h value fields

end Fields

end Detour
