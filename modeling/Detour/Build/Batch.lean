import Detour.Build.Document
/-!
# Batches

A batch compiles many profiles into one document for measuring their latencies. Each valid profile is
built by itself, as a test with a sequence number of its own; an invalid one is skipped and marked as
unavailable, and the first failure ends the batch. The shared document takes its sections from the
first profile, and of several outbounds or inbounds with one tag it keeps the first. A helper or a
redirect stays with the profile whose outbound was kept. Whole documents stay apart.
-/

namespace Detour

namespace Batch

/-- The tag of an outbound or inbound; a missing one counts as empty. -/
def tagOf (t : Tree) : String :=
  ((t.get? "tag").bind Tree.text?).getD ""

/-- A profile of a batch, built. -/
structure Part where
  id : Int64
  /-- The sections of the profile's own document. -/
  sections : Fields
  /-- The outbounds of that document, of which there is at least one. -/
  first : Tree
  others : List Tree
  redirects : List Hop.Redirect
  externals : List Descriptor

/-- What becomes of a profile of a batch. -/
inductive Item where
  | skipped (id : Int64)
  | whole (id : Int64) (document : Tree)
  | part (p : Part)

namespace Item

/-- The part that a built profile contributes: its document must have outbounds. -/
def ofOutput (p : Profile) (o : Output) : Except BuildError Item :=
  if p.isFullDocument then
    .ok (.whole p.id (match o.document with
      | .object fields => .object (Fields.set "inbounds" (.list []) fields)
      | t => t))
  else
    match o.document with
    | .object fields =>
      match (Fields.get? "outbounds" fields).bind Tree.items? with
      | some (first :: others) => .ok (.part ⟨p.id, fields, first, others, o.redirects, o.externals⟩)
      | _ => .error (.noOutbounds p.displayName)
    | _ => .error (.noOutbounds p.displayName)

variable {σ : Type} [RuleSetService σ]

/-- Build the profiles of a batch, from a sequence number on. -/
def buildFrom (setup : Setup) : Nat → List Profile → Build σ (List Item)
  | _, [] => pure []
  | seq, p :: rest =>
    if p.protocol.isValid then do
      let output ← Build.profile setup { test := true, seq := seq } p
      let item ← Build.ofExcept (ofOutput p output)
      let items ← buildFrom setup (seq + 1) rest
      pure (item :: items)
    else do
      Build.onLedger (Ledger.setLatency p.id Account.unavailable)
      let items ← buildFrom setup seq rest
      pure (.skipped p.id :: items)

/-- The part of an item that has one. -/
def part? : Item → Option Part
  | part p => some p
  | _ => none

/-- The id of a skipped item. -/
def skipped? : Item → Option Int64
  | skipped id => some id
  | _ => none

/-- The whole document of an item that has one, with its id. -/
def whole? : Item → Option (Int64 × Tree)
  | whole id document => some (id, document)
  | _ => none

end Item

namespace Part

/-- The outbounds of a part that are not reserved. -/
def outbounds (p : Part) : List Tree :=
  (p.first :: p.others).filter fun o => !Tag.isReserved (tagOf o)

/-- The tag under which the profile of a part is reached. -/
def entryTag (p : Part) : String :=
  tagOf p.first

/-- The inbounds of a part's document. -/
def inbounds (p : Part) : List Tree :=
  ((Fields.get? "inbounds" p.sections).bind Tree.items?).getD []

/-- The names that the document of a part resolves directly. -/
def directNames (p : Part) : List Tree :=
  let rules := (((Fields.get? "dns" p.sections).bind (Tree.get? "rules")).bind Tree.items?).getD []
  rules.flatMap fun r => ((r.get? "domain").bind Tree.items?).getD []

end Part

/-! ## Merging -/

/-- The elements whose tag is neither among those seen nor that of an element before them. -/
def freshTags (seen : List String) : List Tree → List Tree
  | [] => []
  | t :: rest =>
    if tagOf t ∈ seen then freshTags seen rest else t :: freshTags (tagOf t :: seen) rest

/-- The first occurrences among values. -/
def distinctValues (values : List Tree) : List Tree :=
  values.foldl (fun kept v => if kept.any fun k => k.same v then kept else kept ++ [v]) []

/-- Each part with the tags of the outbounds that it is the first to contribute. -/
def keptTags (seen : List String) : List Part → List (Part × List String)
  | [] => []
  | p :: rest =>
    let kept := (freshTags seen p.outbounds).map tagOf
    (p, kept) :: keptTags (kept ++ seen) rest

/-- The outbounds of the shared document. -/
def outbounds (parts : List Part) : List Tree :=
  reservedOutbounds ++ freshTags [] (parts.flatMap Part.outbounds)

/-- The inbounds of the shared document. -/
def inbounds (parts : List Part) : List Tree :=
  freshTags [] (parts.flatMap Part.inbounds)

/-- The redirects that lead to outbounds of the part they come from. -/
def redirects (parts : List Part) : List Hop.Redirect :=
  (keptTags [] parts).flatMap fun (p, kept) => p.redirects.filter fun r => r.hop ∈ kept

/-- The helpers that serve outbounds of the part they come from. -/
def externals (parts : List Part) : List Descriptor :=
  (keptTags [] parts).flatMap fun (p, kept) => p.externals.filter fun d => d.outbound ∈ kept

/-- The section of name resolution: that of the first part, with one rule for the names of all. -/
def dns (parts : List Part) : Tree :=
  let base := match (parts.head?.bind fun p => Fields.get? "dns" p.sections) with
    | some (.object fields) => fields
    | _ => []
  let names := distinctValues (parts.flatMap Part.directNames)
  .object (Fields.set "rules" (.list (if names.isEmpty then [] else
    [.ofFields [("domain", .list names), ("server", .str Dns.direct)]])) base)

/-- The route section: redirects first, then the rules of the chain for batches. -/
def route (chain : RuleChain) (parts : List Part) (ruleSets : List Tree) : Tree :=
  .ofFields [("rules", .list ((redirects parts).map Hop.Redirect.toTree ++
      chain.routeRules Tag.sentinels)),
    ("rule_set", .list ruleSets), ("auto_detect_interface", .bool true)]

/-- The shared document. -/
def document (chain : RuleChain) (parts : List Part) (ruleSets : List Tree) : Tree :=
  .object (Fields.setAll [("inbounds", .list (inbounds parts)),
    ("outbounds", .list (outbounds parts)), ("dns", dns parts),
    ("route", route chain parts ruleSets)] ((parts.head?.map Part.sections).getD []))

/-- What a batch results in. -/
structure Output where
  document : Tree
  /-- The whole documents, by profile; the last of several counts. -/
  fullConfigs : List (Int64 × Tree)
  /-- The tag of every part, in order. -/
  outboundTags : List String
  /-- The profile that each tag stands for; the last of several counts. -/
  tagToProfile : List (String × Int64)
  externals : List Descriptor
  skipped : List Int64

/-- What some items and the rule sets of the chain for batches result in. -/
def assemble (chain : RuleChain) (items : List Item) (ruleSets : List Tree) : Output :=
  let parts := items.filterMap Item.part?
  { document := document chain parts ruleSets
    fullConfigs := items.filterMap Item.whole?
    outboundTags := parts.map Part.entryTag
    tagToProfile := parts.map fun p => (p.entryTag, p.id)
    externals := externals parts
    skipped := items.filterMap Item.skipped? }

end Batch

/-- Build many profiles into one document. -/
def Build.batch {σ : Type} [RuleSetService σ] (setup : Setup) (profiles : List Profile) :
    Build σ Batch.Output := do
  let items ← Batch.Item.buildFrom setup 1 profiles
  let chain := setup.store.defaultChain
  let ruleSets ← Build.ruleSetEntries chain.usedRuleSets
  pure (Batch.assemble chain items ruleSets)

end Detour
