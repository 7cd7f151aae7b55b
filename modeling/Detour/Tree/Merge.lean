import Detour.Tree.Basic
/-!
# Deep merge

An overlay is merged into a base key by key: where both hold an object the merge goes on inside, and
anywhere else the overlay's value takes the place of the base's. Keys that the overlay does not name
keep their values. An overlay without keys, or one that is no object, changes nothing.
-/

namespace Detour

namespace Fields

mutual
/-- The value that an overlay's value leaves in the place of an old one. -/
def mergeValue : Tree → Option Tree → Tree
  | .object fields, some (.object base) => .object (merge fields base)
  | value, _ => value
/-- Merge the fields of an overlay, from left to right, into those of a base. -/
def merge : List (String × Tree) → Fields → Fields
  | [], base => base
  | (key, value) :: rest, base => merge rest (base.set key (mergeValue value (base.get? key)))
end

end Fields

namespace Tree

/-- Merge an overlay into a base. A base that is no object gives way to a non-empty overlay. -/
def merge (base overlay : Tree) : Tree :=
  match overlay with
  | .object (kv :: rest) => .object (Fields.merge (kv :: rest) (base.fields?.getD []))
  | _ => base

/-- The empty overlay changes nothing. -/
@[simp] theorem merge_empty (base : Tree) : base.merge (.object []) = base := rfl

end Tree

end Detour
