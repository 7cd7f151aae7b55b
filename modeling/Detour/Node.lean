import Detour.Yaml.Plain
/-!
# Documents as they were read

A `Node` is what a text says before a type is asked of it: the entries of an object in the order and
the number in which they were written, each with whatever stands in the place of its key, and unquoted
scalars as their text. A part that keeps to the grammar but holds no value is `flawed`; it does no
harm where nothing is asked of it.

`toTree?` is the reading of a document as a free-form value, where the last of several equal keys
counts. `ofTree` goes the other way. `limit` bounds how deep the containers of a document may lie.
-/

namespace Detour

/-- A document as it was read. -/
inductive Node where
  | null
  | bool (b : Bool)
  | int (n : Int)
  | real (x : Binary64)
  | text (s : String)
  /-- An unquoted scalar, whose meaning depends on what is asked of it. -/
  | plain (s : String)
  | list (items : List Node)
  /-- A list that is not taken for a record, until the meaning of the document is settled. -/
  | sequence (items : List Node)
  /-- Entries, with their keys. -/
  | object (entries : List (Node × Node))
  /-- A part that keeps to the grammar but holds no value: a number out of range, half a surrogate
  pair, a container that lies too deep. -/
  | flawed
deriving Inhabited

namespace Node

/-- The text of a scalar that is one, or that may be taken for one. -/
def text? : Node → Option String
  | .text s => some s
  | .plain s => some s
  | _ => none

mutual
/-- The same document with every container flawed that lies inside more than so many others. -/
def limit : Nat → Node → Node
  | 0, .list _ => .flawed
  | 0, .sequence _ => .flawed
  | 0, .object _ => .flawed
  | depth + 1, .list items => .list (limitAll depth items)
  | depth + 1, .sequence items => .sequence (limitAll depth items)
  | depth + 1, .object entries => .object (limitEntries depth entries)
  | _, n => n
/-- Limit several documents. -/
def limitAll (depth : Nat) : List Node → List Node
  | [] => []
  | n :: rest => limit depth n :: limitAll depth rest
/-- Limit the keys and values of entries. -/
def limitEntries (depth : Nat) : List (Node × Node) → List (Node × Node)
  | [] => []
  | (k, n) :: rest => (limit depth k, limit depth n) :: limitEntries depth rest
end

mutual
/-- The free-form value of a document. -/
def toTree? : Node → Option Tree
  | .null => some .null
  | .bool b => some (.bool b)
  | .int n => some (.int n)
  | .real x => some (.real x)
  | .text s => some (.str s)
  | .plain s => Plain.value? s
  | .list items => (toTrees? items).map .list
  | .sequence items => (toTrees? items).map .list
  | .object entries => (toFields? entries).map fun kvs => .ofFields kvs
  | .flawed => none
/-- The free-form values of several documents. -/
def toTrees? : List Node → Option (List Tree)
  | [] => some []
  | n :: rest =>
    match toTree? n, toTrees? rest with
    | some t, some ts => some (t :: ts)
    | _, _ => none
/-- The free-form values of entries whose keys are texts, in their order. -/
def toFields? : List (Node × Node) → Option (List (String × Tree))
  | [] => some []
  | (k, n) :: rest =>
    match text? k, toTree? n, toFields? rest with
    | some k, some t, some ts => some ((k, t) :: ts)
    | _, _, _ => none
end

mutual
/-- The document that spells a free-form value. -/
def ofTree : Tree → Node
  | .null => .null
  | .bool b => .bool b
  | .int n => .int n
  | .real x => .real x
  | .str s => .text s
  | .list items => .list (ofTrees items)
  | .object fields => .object (ofFields fields)
/-- The documents that spell several values. -/
def ofTrees : List Tree → List Node
  | [] => []
  | t :: rest => ofTree t :: ofTrees rest
/-- The entries that spell some fields. -/
def ofFields : List (String × Tree) → List (Node × Node)
  | [] => []
  | (k, t) :: rest => (.text k, ofTree t) :: ofFields rest
end

/-- Whether a document is an unquoted integer with a minus sign. -/
def isSigned : Node → Bool
  | .plain s => s.toList.head? == some '-' && (Plain.int? s.toList).isSome
  | _ => false

mutual
/-- The same document with the meaning of its unquoted scalars settled as in a free-form value, keys
included. Nothing in it may be flawed, but no key is an integer with a minus sign, even of zero. -/
def settle? : Node → Option Node
  | .plain s => (Plain.value? s).map ofTree
  | .list items => (settleAll? items).map .list
  | .sequence items => (settleAll? items).map .list
  | .object entries => (settleEntries? entries).map .object
  | .flawed => none
  | n => some n
/-- Settle several documents. -/
def settleAll? : List Node → Option (List Node)
  | [] => some []
  | n :: rest =>
    match settle? n, settleAll? rest with
    | some m, some ms => some (m :: ms)
    | _, _ => none
/-- Settle the keys and values of entries. -/
def settleEntries? : List (Node × Node) → Option (List (Node × Node))
  | [] => some []
  | (k, n) :: rest =>
    match settle? k, settle? n, settleEntries? rest with
    | some l, some m, some ms => some ((if isSigned k then .flawed else l, m) :: ms)
    | _, _, _ => none
end

mutual
/-- A document spelled from a value has nothing to settle. -/
theorem settle?_ofTree (t : Tree) : settle? (ofTree t) = some (ofTree t) := by
  cases t with
  | list items => simp [ofTree, settle?, settleAll?_ofTrees items]
  | object fields => simp [ofTree, settle?, settleEntries?_ofFields fields]
  | _ => rfl
theorem settleAll?_ofTrees (ts : List Tree) : settleAll? (ofTrees ts) = some (ofTrees ts) := by
  cases ts with
  | nil => rfl
  | cons t rest => simp [ofTrees, settleAll?, settle?_ofTree t, settleAll?_ofTrees rest]
theorem settleEntries?_ofFields (fs : List (String × Tree)) :
    settleEntries? (ofFields fs) = some (ofFields fs) := by
  cases fs with
  | nil => rfl
  | cons kv rest =>
    obtain ⟨k, t⟩ := kv
    simp [ofFields, settleEntries?, settle?, isSigned, settle?_ofTree t,
      settleEntries?_ofFields rest]
end

end Node

end Detour
