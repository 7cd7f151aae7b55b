import Detour.Codec.Parse
import Detour.Command.Work
import Detour.Shell.Launch
/-!
# Running commands by the library alone

A `Host` in which nothing is taken from outside but the variables of the environment: documents are read
by the readers of the library, which give no reasons, and programs are those of `Shell`. What is proved
of commands is proved for every host, and so for this one.
-/

namespace Detour

/-- Launch one of the programs of `Shell`. They are given the variables that the host has. -/
def Shell.launcher (env : String → Option String) : Launcher := fun program words fs =>
  let given := [Source.logLevelVariable].filterMap fun name => (env name).map fun value => (name, value)
  match launch program words given fs with
  | .error e => .error e.message
  | .ok (ended, fs) => .ok ({ succeeded := ended.status == 0, complaint := ended.complaint }, fs)

/-- The host that the library is by itself. Its first local port is the first one that is free for
private use. -/
def Host.own (env : String → Option String) : Host where
  env := env
  settings := Settings.codec.reader
  database := Database.codec.reader
  free := Codec.freeForm.reader
  launch := Shell.launcher env
  ports := ⟨49152⟩

/-- Run a command on a tree of files, in an environment. -/
def Command.run (env : String → Option String) (c : Command) : Run String :=
  c.runOn (.own env)

end Detour
