import Detour.Json.Reader
import Detour.Text.Blank
import Detour.Tree.Merge
/-!
# Override trees

A user's override is stored as an object or as the JSON text of one. `Tree.override` brings both to
the same form; whatever is neither counts as the empty override.
-/

namespace Detour

namespace Tree

/-- The object that a stored value holds, inline or as JSON text. -/
def heldObject? : Tree → Option Fields
  | .object fields => some fields
  | .str text => (Json.tree? text).bind fields?
  | _ => none

/-- The fields of a stored override; none of them if it holds no object. -/
def override (raw : Tree) : Fields :=
  raw.heldObject?.getD []

end Tree

end Detour
