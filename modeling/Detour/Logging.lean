import Detour.Text.Blank
/-!
# Logging

How logs are written is taken from variables of the environment: `RUST_LOG` is the level unless it is
blank, then `BC_LOG_LEVEL`, then `warn`; `BC_LOG_FORMAT` asks for JSON.
-/

namespace Detour

/-- How logs are written. -/
structure Logging where
  json : Bool
  level : String
deriving DecidableEq, Repr

namespace Logging

/-- The choice that an environment makes. -/
def ofEnv (var : String → Option String) : Logging :=
  { json := var "BC_LOG_FORMAT" == some "json"
    level := (((var "RUST_LOG").filter fun v => !Text.isBlankText v).or
      (var "BC_LOG_LEVEL")).getD "warn" }

/-- A blank level is as good as none. -/
theorem ofEnv_of_blank {var : String → Option String} {v : String} (hv : var "RUST_LOG" = some v)
    (hblank : Text.isBlankText v = true) :
    ofEnv var = ofEnv fun name => if name = "RUST_LOG" then none else var name := by
  simp [ofEnv, hv, Option.filter, hblank]

/-- The word for the format. -/
def format (l : Logging) : String :=
  if l.json then "json" else "compact"

end Logging

end Detour
