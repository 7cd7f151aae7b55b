import Detour.Proofs.Batch.Attribution
import Detour.Proofs.Document.References
/-!
# Resolvers of batches

The shared document takes its section of name resolution from the first profile, and puts one rule
in the place of the section's own: the direct resolver answers for the names that the sections of all
profiles have rules about. A section that was generated has that resolver. A section of the user's own
need not have it, and its rules, which may all have led to resolvers of the section, give way to one
that leads nowhere. `resolvers_iff_of_run` says when that happens.
-/

namespace Detour

namespace Dns

/-- The names that the rules of a section are about. -/
def namesOf (dns : Tree) : List Tree :=
  (dns.itemsOf "rules").flatMap (Tree.itemsOf "domain")

/-- Every rule of a section selects a resolver of the section. -/
def Resolves (dns : Tree) : Prop :=
  ∀ r ∈ dns.itemsOf "rules", ∃ v, r.get? "server" = some v ∧ v.IsTagIn (dns.itemsOf "servers")

/-- The section of the user's own. -/
def own (settings : Settings) : Tree :=
  .object settings.routing.dnsObject.tree.override

theorem build_of_own {settings : Settings} (h : settings.routing.useDnsObject = true)
    (entryTag : String) (sites : DirectSites) : build settings entryTag sites = own settings := by
  rw [build, if_pos h, own]

/-- A generated section has the direct resolver. -/
theorem isTagIn_direct_build {settings : Settings} (h : settings.routing.useDnsObject = false)
    (entryTag : String) (sites : DirectSites) :
    (Tree.str direct).IsTagIn ((build settings entryTag sites).itemsOf "servers") := by
  have hservers : (build settings entryTag sites).itemsOf "servers" = servers settings entryTag := by
    simp [Tree.itemsOf, build, h, Fields.get?_set, Tree.items?]
  rw [hservers]
  exact isTagIn_direct

theorem exists_fields_build (settings : Settings) (entryTag : String) (sites : DirectSites) :
    ∃ fields, build settings entryTag sites = .object fields := by
  unfold build
  split
  · exact ⟨_, rfl⟩
  · exact ⟨_, rfl⟩

end Dns

namespace Batch

/-! ## The section of some parts -/

theorem distinctValues_eq_nil_iff {values : List Tree} :
    distinctValues values = [] ↔ values = [] := by
  -- what was kept stays
  have hkept : ∀ (values kept : List Tree), kept ≠ [] →
      values.foldl (fun kept v => if kept.any fun k => k.same v then kept else kept ++ [v]) kept ≠
        [] := by
    intro values
    induction values with
    | nil => exact fun kept h => h
    | cons v rest ih =>
      intro kept h
      rw [List.foldl_cons]
      split
      · exact ih kept h
      · exact ih _ (by simp)
  cases values with
  | nil => simp [distinctValues]
  | cons v rest =>
    refine iff_of_false (hkept rest [v] (by simp)) (by simp)

section Sections

variable {parts : List Part} {p : Part} {d : Tree}

theorem Part.directNames_eq (h : p.sections.get? "dns" = some d) :
    p.directNames = Dns.namesOf d := by
  rw [Part.directNames, h]
  rfl

/-- The rules of the shared section are for the names of all parts. -/
theorem get?_rules_dns (parts : List Part) :
    (dns parts).get? "rules" = some (.list (
      if parts.flatMap Part.directNames = [] then []
      else [.ofFields [("domain", .list (distinctValues (parts.flatMap Part.directNames))),
        ("server", .str Dns.direct)]])) := by
  rw [dns, Tree.get?_object, Fields.get?_set_self]
  by_cases hnames : parts.flatMap Part.directNames = []
  · simp [hnames, distinctValues]
  · simp [hnames, distinctValues_eq_nil_iff]

/-- Its resolvers are those of the first part. -/
theorem itemsOf_servers_dns (hp : parts.head? = some p) {fields : Fields}
    (h : p.sections.get? "dns" = some (.object fields)) :
    (dns parts).itemsOf "servers" = (Tree.object fields).itemsOf "servers" := by
  simp [Tree.itemsOf, dns, hp, h, Fields.get?_set]

/-- The section resolves exactly if no part has names or the first one has the direct resolver. -/
theorem resolves_dns_iff :
    Dns.Resolves (dns parts) ↔ (parts.flatMap Part.directNames ≠ [] →
      (Tree.str Dns.direct).IsTagIn ((dns parts).itemsOf "servers")) := by
  have hrules : (dns parts).itemsOf "rules" =
      if parts.flatMap Part.directNames = [] then []
      else [.ofFields [("domain", .list (distinctValues (parts.flatMap Part.directNames))),
        ("server", .str Dns.direct)]] := by
    rw [Tree.itemsOf, get?_rules_dns]
    rfl
  rw [Dns.Resolves, hrules]
  split
  · rename_i hnone
    simp [hnone]
  · rename_i hsome
    simp [hsome]

end Sections

/-! ## The parts of a batch -/

section Runs

variable {σ : Type} [RuleSetService σ] {setup : Setup} {profiles : List Profile}
  {tests : List Test} {items : List Item} {s : BuildState σ} {part : Part}

/-- A part is what a batch keeps of a document. -/
structure Part.Of (o : Detour.Output) (part : Part) : Prop where
  sections : o.document = .object part.sections
  outbounds : o.outbounds = part.first :: part.others
  externals : o.externals = part.externals

theorem Part.of_ofOutput {p : Profile} {o : Detour.Output}
    (h : Item.ofOutput p o = .ok (.part part)) : part.Of o := by
  have hout : o.outbounds = part.first :: part.others := by
    rcases Item.cases_of_ofOutput h with ⟨-, document, hwhole, -⟩ | ⟨-, own, hown, hout⟩
    · cases hwhole
    · cases hown
      exact hout
  unfold Item.ofOutput at h
  split at h
  · cases h
  · split at h
    · rename_i fields hdoc
      split at h
      · cases h
        exact ⟨hdoc, hout, rfl⟩
      · cases h
    · cases h

theorem Item.Tested.exists_test (h : Item.Tested profiles tests items)
    (hp : part ∈ items.filterMap part?) :
    ∃ t ∈ tests, t.root ∈ profiles ∧ t.root.isFullDocument = false ∧
      ∃ o, t.result = .ok o ∧ part.Of o := by
  induction h with
  | nil => cases hp
  | skipped _ _ ih =>
    obtain ⟨t, ht, hroot, hrest⟩ := ih hp
    exact ⟨t, ht, List.mem_cons_of_mem _ hroot, hrest⟩
  | built _ hitem _ ih =>
    rcases cases_of_ofOutput hitem with ⟨-, document, rfl, -⟩ | ⟨hfull, own, rfl, -⟩
    · obtain ⟨t, ht, hroot, hrest⟩ := ih hp
      exact ⟨t, List.mem_cons_of_mem _ ht, List.mem_cons_of_mem _ hroot, hrest⟩
    · rcases List.mem_cons.1 hp with rfl | hp
      · exact ⟨_, List.mem_cons_self, List.mem_cons_self, hfull, _, rfl,
          Part.of_ofOutput hitem⟩
      · obtain ⟨t, ht, hroot, hrest⟩ := ih hp
        exact ⟨t, List.mem_cons_of_mem _ ht, List.mem_cons_of_mem _ hroot, hrest⟩

/-- The section of a part is the one that its build wrote. -/
theorem Item.Tested.exists_dns (hcfg : ∀ p ∈ profiles, p.customConfig.tree.override = [])
    (h : Item.Tested profiles (Batch.tests setup profiles s) items)
    (hp : part ∈ items.filterMap part?) :
    ∃ entryTag sites,
      part.sections.get? "dns" = some (Dns.build setup.settings entryTag sites) := by
  obtain ⟨t, ht, hroot, hfull, o, ho, hof⟩ := h.exists_test hp
  obtain ⟨s₁, s₂, hr⟩ := exists_run_of_mem_testsFrom ht
  rw [ho] at hr
  obtain ⟨ps, hops, r, hb⟩ := built_of_run hfull hr
  have hdoc := hof.sections
  rw [Output.document_of_built hb (hcfg t.root hroot)] at hdoc
  refine ⟨Hop.entryTag hops, Document.directSites hops r, ?_⟩
  rw [← Tree.get?_object, ← hdoc]
  simp [Document.sections, Fields.get?_set]

/-- There are parts if there are profiles that contribute. -/
theorem Item.Tested.parts_eq_nil_iff
    (h : Item.Tested profiles (Batch.tests setup profiles s) items) :
    items.filterMap part? = [] ↔ contributors profiles = [] := by
  have hlen := congrArg List.length h.entryTags_eq
  have hlen' := congrArg List.length (map_root_sharedTests setup profiles s)
  rw [List.length_map, List.length_map] at hlen
  rw [List.length_map, sharedTests] at hlen'
  rw [← List.length_eq_zero_iff, ← List.length_eq_zero_iff, contributors, hlen, hlen']

end Runs

/-- **When the rules of a batch resolve.** The rule of the shared document leads to a resolver of the
document, unless the section is the user's own: that one must have the direct resolver itself if any
profile contributes and the section has rules about names. -/
theorem resolvers_iff_of_run {σ : Type} [RuleSetService σ] {setup : Setup}
    {profiles : List Profile} {out : Output} {s s' : BuildState σ}
    (hcfg : ∀ p ∈ profiles, p.customConfig.tree.override = [])
    (hr : Build.run (Build.batch setup profiles) s = (.ok out, s')) :
    ∃ dns rules, out.document.get? "dns" = some dns ∧ dns.get? "rules" = some (.list rules) ∧
      (Dns.Resolves dns ↔
        (setup.settings.routing.useDnsObject = true → contributors profiles ≠ [] →
          Dns.namesOf (Dns.own setup.settings) ≠ [] →
          (Tree.str Dns.direct).IsTagIn ((Dns.own setup.settings).itemsOf "servers"))) := by
  simp only [Build.batch, Build.run_bind_eq_ok] at hr
  obtain ⟨items, s₁, hitems, ruleSets, s₂, -, hpure⟩ := hr
  cases hpure
  obtain ⟨htested, -, -⟩ := tested_of_run hitems
  change Item.Tested profiles (Batch.tests setup profiles s) items at htested
  have hempty := htested.parts_eq_nil_iff
  have hdns : ∀ part ∈ items.filterMap Item.part?, ∃ entryTag sites,
      part.sections.get? "dns" = some (Dns.build setup.settings entryTag sites) :=
    fun _ hp => htested.exists_dns hcfg hp
  refine ⟨dns (items.filterMap Item.part?), _, ?_, get?_rules_dns _, ?_⟩
  · simp [assemble, document, Fields.get?_set]
  generalize items.filterMap Item.part? = parts at hempty hdns
  rw [resolves_dns_iff]
  cases parts with
  | nil => simp [hempty.1 rfl]
  | cons p rest =>
    have hcontributes : contributors profiles ≠ [] := fun he => by simpa using hempty.2 he
    obtain ⟨entryTag, sites, hp⟩ := hdns p List.mem_cons_self
    obtain ⟨fields, hfields⟩ := Dns.exists_fields_build setup.settings entryTag sites
    rw [itemsOf_servers_dns rfl (hfields ▸ hp), ← hfields]
    cases huse : setup.settings.routing.useDnsObject with
    | false => simp [Dns.isTagIn_direct_build huse]
    | true =>
      -- every part has the section of the user's own, and so the names of that one
      have hnames : (p :: rest).flatMap Part.directNames ≠ [] ↔
          Dns.namesOf (Dns.own setup.settings) ≠ [] := by
        have hown : ∀ q ∈ p :: rest,
            q.directNames = Dns.namesOf (Dns.own setup.settings) := by
          intro q hq
          obtain ⟨entryTag, sites, hq⟩ := hdns q hq
          rw [Part.directNames_eq hq, Dns.build_of_own huse]
        rw [ne_eq, ne_eq, List.flatMap_eq_nil_iff]
        refine not_congr ⟨fun h => ?_, fun h q hq => ?_⟩
        · rw [← hown p List.mem_cons_self]
          exact h p List.mem_cons_self
        · rw [hown q hq, h]
      rw [Dns.build_of_own huse, hnames]
      simp [hcontributes]

/-! ## A resolver of the user's own -/

/-- The setting with a section of the user's own: one resolver, and a rule that leads to it. -/
def Setting.resolving : Setup :=
  { Setting.setup with
    settings := { Setting.setup.settings with
      routing := {
        useDnsObject := true
        dnsObject := ⟨Tree.sorted (.object [
            ("servers", .list [.object [("tag", .str "own"), ("address", .str "1.1.1.1")]]),
            ("rules", .list [
              .object [("domain", .ofStrings ["lan.example"]), ("server", .str "own")]])]),
          Tree.ordered_sorted _⟩ } } }

theorem Setting.servers_resolving :
    (Dns.own Setting.resolving.settings).itemsOf "servers" =
      [.object [("address", .str "1.1.1.1"), ("tag", .str "own")]] := by
  rfl

/-- The section resolves by itself, and no longer once a batch has put its rule in. -/
theorem resolvers_iff_of_run_resolving :
    Dns.Resolves (Dns.own Setting.resolving.settings) ∧
    ∃ out s' dns, Build.run (Build.batch Setting.resolving [Setting.native]) Setting.start =
        (.ok out, s') ∧ out.document.get? "dns" = some dns ∧ ¬ Dns.Resolves dns := by
  refine ⟨?_, ?_⟩
  · have hrules : (Dns.own Setting.resolving.settings).itemsOf "rules" =
        [.object [("domain", .ofStrings ["lan.example"]), ("server", .str "own")]] := rfl
    rw [Dns.Resolves, hrules, Setting.servers_resolving]
    simp [Tree.IsTagIn, Fields.get?]
  · obtain ⟨out, s', hr⟩ := Build.exists_run_eq_ok
      (b := Build.batch Setting.resolving [Setting.native]) (s := Setting.start)
      (by decide +kernel)
    obtain ⟨dns, rules, hdns, -, htold⟩ := resolvers_iff_of_run
      (List.forall_mem_singleton.2 rfl) hr
    refine ⟨out, s', dns, hr, hdns, fun hresolves => ?_⟩
    have hin := htold.1 hresolves rfl (by decide) (by
      have hnames : Dns.namesOf (Dns.own Setting.resolving.settings) = [.str "lan.example"] := rfl
      simp [hnames])
    rw [Setting.servers_resolving] at hin
    simp [Tree.IsTagIn, Fields.get?, Dns.direct] at hin

end Batch

end Detour
