import Detour.Shell.Utility.Characters
import Detour.Shell.Utility.Edit
import Detour.Shell.Utility.Expression
import Detour.Shell.Utility.Folders
import Detour.Shell.Utility.Lines
import Detour.Shell.Utility.Order
import Detour.Shell.Utility.Search
/-!
# Shell: all utilities

The utilities by their names, and those among them that a shell could do without, since it has commands of
its own for them.
-/

namespace Detour

namespace Shell

namespace Utility

open Act

/-- Wait, which takes no time here. -/
def sleep (ws : List String) : Act Nat := do
  let isTime (w : String) : Bool :=
    let cs := match w.toList.reverse with
      | c :: rest => if ['s', 'm', 'h', 'd'].contains c then rest.reverse else w.toList
      | [] => []
    !cs.isEmpty && cs.all (fun c => c.isDigit || c = '.') && cs.any Char.isDigit
  match ws with
  | [] => misuse "sleep" "missing operand"
  | ws =>
    match ws.find? fun w => !isTime w with
    | some w => misuse "sleep" s!"invalid time interval {quoted w}"
    | none => pure 0

/-- Print words on a line as they are. -/
def echo : List String → Act Nat
  | "-n" :: ws => do put (" ".intercalate ws); pure 0
  | "-e" :: ws => do put (String.ofList (Format.unescapeAll (" ".intercalate ws)).1 ++ "\n"); pure 0
  | ws => do put (" ".intercalate ws ++ "\n"); pure 0

/-- Print words by a format. -/
def printf (ws : List String) : Act Nat := do
  match ws with
  | [] => misuse "printf" "missing operand"
  | format :: ws =>
    let p := Format.print format ws
    for c in p.complaints do
      let _ ← complain "printf" c
    put (String.ofList p.output)
    pure (if p.complaints.isEmpty && p.failure.isNone then 0 else 1)

/-- Decide on a condition. -/
def test (name : String) (ws : List String) : Act Nat := do
  let m ← get
  let failed (e : ConditionError) : Act Nat := do
    let _ ← complain name e.message
    pure 2
  if name = "[" && ws.getLast? ≠ some "]" then
    let _ ← complain name "missing \x27]\x27"
    pure 2
  else
    match Condition.holds m.view (if name = "[" then ws.dropLast else ws) with
    | .ok holds => pure (if holds then 0 else 1)
    | .error e => failed e

/-- The utilities by their names. -/
def all : List (String × (List String → Act Nat)) :=
  [("true", fun _ => pure 0), ("false", fun _ => pure 1), ("echo", echo), ("printf", printf),
    ("test", test "test"), ("[", test "["), ("cat", cat), ("head", head), ("tail", tail),
    ("wc", wc), ("tee", tee), ("tac", tac), ("rev", rev), ("nl", nl), ("sort", sort), ("uniq", uniq), ("tr", tr), ("seq", seq),
    ("cut", cut), ("paste", paste), ("expr", expr),
    ("basename", basename), ("dirname", dirname), ("touch", touch), ("mkdir", mkdir),
    ("rmdir", rmdir), ("rm", rm), ("cp", cp), ("mv", mv), ("ln", ln), ("ls", ls), ("chmod", chmod),
    ("sed", sed), ("grep", grep 'G'), ("egrep", grep 'E'), ("fgrep", grep 'F'),
    ("sleep", sleep), ("sync", fun _ => pure 0)]

end Utility

end Shell

end Detour
