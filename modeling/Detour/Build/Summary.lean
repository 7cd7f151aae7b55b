import Detour.Build.Batch
import Detour.Build.Probe
/-!
# Results as trees

What builds, batches and probes result in, as it is written out. The fields of a result stand in an
order of their own, and those of the documents in it in the order of their keys. Values that are absent
are left out of the report on a probed profile.
-/

namespace Detour

namespace Output

/-- What is known of a build beside its counters. -/
def entries (o : Output) : Fields :=
  [("document", o.document), ("externals", .list (o.externals.map Descriptor.toTree)),
    ("auto_bypass_paths", .ofStrings o.bypassPaths), ("entry_tag", .str o.entryTag),
    ("ignore_conn_tags", .ofStrings o.ignoreConnTags), ("chain_rules", .list o.chainRules),
    ("keep_vpn_off", .bool o.keepVpnOff)]

/-- The result of a build. -/
def toTree (o : Output) : Tree :=
  .object o.entries

end Output

namespace Batch.Output

/-- Put a document under an id, in the place that the order of ids gives it. -/
def putById (id : Int64) (t : Tree) : List (Int64 × Tree) → List (Int64 × Tree)
  | [] => [(id, t)]
  | (k, u) :: rest =>
    if id < k then (id, t) :: (k, u) :: rest
    else if k = id then (id, t) :: rest
    else (k, u) :: putById id t rest

/-- The whole documents in the order of their ids. -/
def documentsById (o : Output) : List (Int64 × Tree) :=
  o.fullConfigs.foldl (fun docs d => putById d.1 d.2 docs) []

/-- The result of a batch. -/
def toTree (o : Output) : Tree :=
  .object [("document", o.document),
    ("full_configs", .object (o.documentsById.map fun (id, t) => (toString id, t))),
    ("outbound_tags", .ofStrings o.outboundTags),
    ("tag_to_profile", .ofFields (o.tagToProfile.map fun (tag, id) => (tag, .int id.toInt))),
    ("externals", .list (o.externals.map Descriptor.toTree)),
    ("skipped", .list (o.skipped.map fun id => .int id.toInt))]

end Batch.Output

namespace Report

/-- A report on one profile. -/
def toTree (r : Report) : Tree :=
  .object ([("id", .int r.id.toInt), ("name", .str r.name), ("ok", .bool r.ok)] ++
    Entry.present "entry_tag" (r.entryTag.map .str) ++
    [("outbounds", .int r.outbounds), ("externals", .int r.externals)] ++
    Entry.present "error" (r.error.map .str) ++
    Entry.present "class" (r.errorClass.map fun c => .str c.word))

/-- A report on one profile as a line of text. -/
def line (r : Report) : String :=
  let start := s!"{r.id}\t{r.name}\t"
  match r.entryTag, r.error with
  | some tag, _ => start ++ "ok\t" ++ tag ++ "\n"
  | none, some message => start ++ "fail\t" ++ message ++ "\n"
  | none, none => start ++ "fail\n"

end Report

end Detour
