import Detour.Command.Work
/-!
# The reach of commands

Which paths a command looks at. Those that it names come first; those of rule sets depend on the
settings and the database that the command reads.
-/

namespace Detour

/-- The locations along a path, from the first step to the last. -/
def Path.trail (p : Path) : List Location :=
  (List.range p.steps.length).map fun k =>
    ({ p with pieces := p.steps.take (k + 1) } : Path).location

/-- The paths that a source names. -/
def Source.paths (s : Source) : List String :=
  [s.database] ++ s.settings.toList ++ s.ruleSetsDir.toList ++
    match s.geoDir with
    | some dir => ["geosite.db", "geoip.db"].map (Path.join dir)
    | none => []

namespace Command

/-- The source of a command that builds. -/
def source? : Command → Option Source
  | build s _ _ _ _ | batch s _ _ _ | probe s _ _ => some s
  | merge _ _ _ => none

/-- The paths that a command names. -/
def paths (c : Command) : List String :=
  c.out?.toList ++
    match c with
    | merge base overlay _ => [base, overlay]
    | _ => (c.source?.map Source.paths).getD []

/-- The rule sets that the chains of a store refer to, and those of the built-in chains. -/
def ruleSets (s : Store) : List String :=
  (s.chains ++ [RuleChain.iranId, RuleChain.chinaId].filterMap RuleChain.preset?).flatMap RuleChain.usedRuleSets

/-- The paths of the rule sets that a command may refer to. -/
def ruleSetPaths (host : Host) (c : Command) : Run (List String) :=
  match c.source? with
  | some source => do
    let setup ← source.load host
    pure ((ruleSets setup.store).map fun name =>
      Path.join setup.settings.routing.ruleSetsDir (name ++ ".srs"))
  | none => pure []

end Command

end Detour
