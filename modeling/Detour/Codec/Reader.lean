import Detour.Codec
/-!
# Readers of documents

A document is read as JSON, and as YAML if that fails. Either format has a reader of its own, which may
say why it refuses a text. What is asked of the document takes part in the choice: a text that is JSON
but does not hold what is asked for gets its second reading too.
-/

namespace Detour

/-- How the documents of one kind are read in the two formats, or refused with or without a reason. -/
structure DocumentReader (α : Type) where
  json : String → Except (Option String) α
  yaml : String → Except (Option String) α

/-- What a text holds, or why it is refused as JSON and why as YAML. -/
def DocumentReader.read {α : Type} (r : DocumentReader α) (text : String) :
    Except (Option String × Option String) α :=
  match r.json text with
  | .ok a => .ok a
  | .error json => (r.yaml text).mapError fun yaml => (json, yaml)

/-- Read with a codec what a text was found to hold, if anything; there is no reason why not. -/
def Codec.taken {α : Type} (c : Codec α) : Option Node → Except (Option String) α
  | some n => (c.decode n).elim (.error none) .ok
  | none => .error none

end Detour
