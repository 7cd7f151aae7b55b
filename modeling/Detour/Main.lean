import Detour.Command.Reach
import Detour.Command.Run
/-!
# The program

The program reads a command from its arguments, takes up the files that the command may look at, runs
the command on them, and carries back to the disk what has changed.
-/

namespace Detour

namespace Program

/-- Take up what the disk holds at some locations, of which each is in the one before it or
around it. -/
def takeUpTrail (fs : Files) : List Location → IO Files
  | [] => pure fs
  | l :: rest =>
    if l.isAround then takeUpTrail fs rest
    else do
      match ← EIO.toBaseIO (IO.FS.readFile l.text) with
      | .ok text => pure (fs.put l text)
      | .error (.inappropriateType ..) => takeUpTrail (fs.addFolder l) rest
      | .error _ => pure fs

/-- Take up what the disk holds along some paths. -/
def takeUp (fs : Files) (paths : List String) : IO Files :=
  paths.foldlM (fun fs path => takeUpTrail fs (Path.ofText path).trail) fs

/-- Carry back to the disk what a command has added and changed. -/
def carryBack (before after : Files) : IO Unit := do
  for l in after.folders.reverse do
    if l ∉ before.folders then IO.FS.createDir l.text
  for (l, text) in before.changes after do
    IO.FS.writeFile l.text text

/-- Take up the files that the command may look at. -/
def takeUpFor (host : Host) (args : List String) : IO Files :=
  match Command.ofArguments? args with
  | none => pure {}
  | some c => do
    let named ← takeUp {} c.paths
    match (c.ruleSetPaths host named).1 with
    | .ok paths => takeUp named paths
    | .error _ => pure named

end Program

end Detour

open Detour in
/-- Run the command that the arguments ask for; the result is the status of the program. -/
def main (args : List String) : IO UInt32 := do
  let level ← IO.getEnv Source.logLevelVariable
  let host := Host.own fun name => if name = Source.logLevelVariable then level else none
  let before ← Program.takeUpFor host args
  let o := Program.outcome host args before
  Program.carryBack before o.files
  IO.print o.stdout
  IO.eprint o.stderr
  return o.status
