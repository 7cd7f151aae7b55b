import Detour.Tree.Basic
/-!
# Entries of an object under construction

Objects are put together from lists of entries, of which some are left out.
-/

namespace Detour

namespace Entry

/-- An entry that is left out unless a condition holds. -/
def onlyIf (condition : Bool) (key : String) (value : Tree) : Fields :=
  if condition then [(key, value)] else []

/-- A text that is left out when it is empty. -/
def nonEmpty (key text : String) : Fields :=
  onlyIf (!text.isEmpty) key (.str text)

/-- A list of texts that is left out when it is empty. -/
def nonEmptyList (key : String) (texts : List String) : Fields :=
  onlyIf (!texts.isEmpty) key (.ofStrings texts)

/-- An entry that is left out when there is no value for it. -/
def present (key : String) : Option Tree → Fields
  | some value => [(key, value)]
  | none => []

end Entry

end Detour
