import Detour.Codec.Reader
import Detour.Port
import Detour.RuleSet.Directory
import Detour.Settings
import Detour.Store
/-!
# Hosts

What a command takes from outside: the variables of its environment, the readers of documents, a launcher
of programs, and the local ports that are left. A command that names a first port of its own never
looks at these.
-/

namespace Detour

/-- What a command takes from outside, but for the files. -/
structure Host where
  /-- The variables of the environment. -/
  env : String → Option String
  settings : DocumentReader Settings
  database : DocumentReader Database
  /-- How documents of any content are read. -/
  free : DocumentReader FreeForm
  launch : Launcher
  /-- The local ports that the host has left where a command begins; they are handed out upwards. -/
  ports : PortCounter

end Detour
