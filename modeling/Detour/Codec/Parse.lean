import Detour.Codec.Reader
import Detour.Json.Reader
import Detour.Yaml.Reader
/-!
# Files of documents

The readers of this library for the two formats, which refuse a text without a reason. Of YAML they know
block and flow collections with plain and quoted scalars; a text with anchors, tags, directives or block
scalars is refused.
-/

namespace Detour

namespace Codec

variable {α : Type}

/-- The reader of the documents that a codec knows. -/
def reader (c : Codec α) : DocumentReader α where
  json text := c.taken (Json.read? text)
  yaml text := c.taken (Yaml.read? text)

/-- The value that a JSON or YAML text holds. -/
def parse? (c : Codec α) (text : String) : Option α :=
  (c.reader.read text).toOption

end Codec

end Detour
