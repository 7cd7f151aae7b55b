import Detour.Command.Reach
import Detour.Proofs.Command.Arguments
/-!
# Lines with one more option

Two options only matter for what becomes of a command's result: one names a file to write, the other
asks for more than the document. Where one of them is added to a line, behind the name of the command,
and the line is still a command, it is the same command but for that (`ofArguments?_writing`,
`ofArguments?_extras`). The commands are split for this into a `Body` and the way in which it is
settled. The line must have no words for a compiler, since one of those may start with a dash, so an
option that is added behind it would be taken for such a word.
-/

namespace Detour

namespace Command

open Arguments

variable {a a' : Arguments} {n : Nat} {use : CommandOption × List String} {c c' : Command}
  {known : List CommandOption} {before after words args : List String} {name path : String}
  {source : Source}

/-! ## A command but for its delivery -/

/-- A command, once it is known whether it shows more than the document, and which file it writes. -/
abbrev Body := Bool → Option String → Command

/-- Settle how a command delivers what it shows. -/
def Body.settle (a : Arguments) (body : Body) : Option Command :=
  (a.value? "out" path?).map fun out => body (a.has "with-extras") out

/-- A build but for its delivery. -/
def buildBody? (a : Arguments) : Option Body := do
  let source ← sourceOf? a
  let profile ← ← a.value? "profile" id?
  let seq ← a.value? "seq" seq?
  return .build source profile
    { test := a.has "test", exporting := a.has "export", seq := seq.getD 0 }

/-- A batch but for its delivery. -/
def batchBody? (a : Arguments) : Option Body := do
  let source ← sourceOf? a
  let profiles ← (a.values "profile").mapM id?
  return .batch source profiles

/-- A merge but for its delivery. -/
def mergeBody? (a : Arguments) : Option Body :=
  match a.positionals with
  | [base, overlay] => do
    let base ← path? base
    let overlay ← path? overlay
    return fun _ out => .merge base overlay out
  | _ => none

theorem build?_eq (args : List String) :
    build? args =
      (optionsOnly? buildOptions args).bind fun a => (buildBody? a).bind (·.settle a) := by
  simp only [build?, buildBody?, Body.settle, bind, pure, Option.bind_assoc, Option.map_eq_bind,
    Option.bind_some]
  rfl

theorem batch?_eq (args : List String) :
    batch? args =
      (optionsOnly? batchOptions args).bind fun a => (batchBody? a).bind (·.settle a) := by
  simp only [batch?, batchBody?, Body.settle, bind, pure, Option.bind_assoc, Option.map_eq_bind,
    Option.bind_some]
  rfl

theorem merge?_eq (args : List String) :
    merge? args =
      (Arguments.ofList? [outOption] args).bind fun a => (mergeBody? a).bind (·.settle a) := by
  unfold merge?
  refine congrArg _ (funext fun a => ?_)
  rw [mergeBody?]
  cases hout : a.value? "out" path? with
  | none => simp [Body.settle, hout]
  | some out =>
    rcases a.positionals with _ | ⟨base, _ | ⟨overlay, _ | ⟨more, rest⟩⟩⟩
    · rfl
    · rfl
    · simp [Body.settle, hout, Option.bind_assoc]
    · rfl

/-! ## One more use that only matters for the delivery -/

/-- The options that only matter for the delivery. -/
def deliveryOptions : List CommandOption := [outOption, extrasOption]

/-- What is not named among them is another option. -/
theorem ne_name_of_mem (huse : use.1 ∈ deliveryOptions)
    (hname : name ∉ deliveryOptions.map CommandOption.name) : use.1.name ≠ name := by
  rintro rfl
  exact hname (List.mem_map_of_mem huse)

/-- Where documents come from is no matter of delivery. -/
theorem sourceOf?_withUse (huse : use.1 ∈ deliveryOptions) :
    sourceOf? (a.withUse n use) = sourceOf? a := by
  have hne : ∀ name, name ∉ deliveryOptions.map CommandOption.name → use.1.name ≠ name :=
    fun _ => ne_name_of_mem huse
  rw [sourceOf?, sourceOf?, value?_withUse_of_ne (hne "db" (by decide)),
    value?_withUse_of_ne (hne "settings" (by decide)),
    value?_withUse_of_ne (hne "rule-sets-dir" (by decide)),
    value?_withUse_of_ne (hne "geo-dir" (by decide)),
    value?_withUse_of_ne (hne "port-base" (by decide)),
    values_withUse_of_ne (hne "ruleset-compiler" (by decide)),
    values_withUse_of_ne (hne "ruleset-compiler-arg" (by decide))]

/-- Nor is anything else of a build but how it is settled. -/
theorem buildBody?_withUse (huse : use.1 ∈ deliveryOptions) :
    buildBody? (a.withUse n use) = buildBody? a := by
  have hne : ∀ name, name ∉ deliveryOptions.map CommandOption.name → use.1.name ≠ name :=
    fun _ => ne_name_of_mem huse
  have hhas : ∀ name, name ∉ deliveryOptions.map CommandOption.name →
      (a.withUse n use).has name = a.has name := by
    intro name hname
    rw [has_withUse, beq_false_of_ne (hne name hname), Bool.false_or]
  rw [buildBody?, buildBody?, sourceOf?_withUse huse,
    value?_withUse_of_ne (hne "profile" (by decide)), value?_withUse_of_ne (hne "seq" (by decide)),
    hhas "test" (by decide), hhas "export" (by decide)]

theorem batchBody?_withUse (huse : use.1 ∈ deliveryOptions) :
    batchBody? (a.withUse n use) = batchBody? a := by
  rw [batchBody?, batchBody?, sourceOf?_withUse huse,
    values_withUse_of_ne (ne_name_of_mem huse (by decide))]

theorem mergeBody?_withUse : mergeBody? (a.withUse n use) = mergeBody? a := rfl

theorem mem_known_of_ofList? (h : ofList? known args = some a) {e : CommandOption × List String}
    (he : e ∈ a.options) : e.1 ∈ known := by
  have hsort := (Option.filter_eq_some_iff.1 h).1
  rcases (extends_of_sort (waiting_none _) hsort).new e.1 (List.mem_map_of_mem he) with hnew | hnew
  · cases hnew
  · exact hnew

/-! ## Lines with one more option -/

/-- The lists of options that the commands know. -/
def knownLists : List (List CommandOption) :=
  [buildOptions, batchOptions, probeOptions, [outOption]]

/-- Of all options, only the one for words of the compiler takes values that start with a dash. -/
theorem dashed_of_mem_knownLists : ∀ known ∈ knownLists, ∀ o ∈ known, o.dashed = true →
    o.name = "ruleset-compiler-arg" ∧ o.arity ≠ .none := by
  decide

/-- An option for the delivery is used once at most, and its name is its own in every list. -/
theorem unique_of_mem_deliveryOptions : ∀ o ∈ deliveryOptions, o.repeatable = false ∧
    ∀ known ∈ knownLists, ∀ o' ∈ known, o'.name = o.name → o' = o := by
  decide

/-- Without words for a compiler, no option is used whose values may start with a dash. -/
theorem undashed_of_compiler (hknown : known ∈ knownLists) (h : ofList? known args = some a)
    (hsource : sourceOf? a = some source) (hcompiler : source.compiler = []) :
    ∀ e ∈ a.options, e.1.dashed = false := by
  intro e he
  rw [← Bool.not_eq_true]
  intro hdashed
  obtain ⟨hname, harity⟩ :=
    dashed_of_mem_knownLists known hknown e.1 (mem_known_of_ofList? h he) hdashed
  have hwords : a.values "ruleset-compiler-arg" = [] := by
    simp only [sourceOf?, Option.bind_eq_bind, Option.bind_eq_some_iff] at hsource
    obtain ⟨_, -, _, -, _, -, _, -, _, -, _, -, hsource⟩ := hsource
    cases hsource
    exact (List.append_eq_nil_iff.1 hcompiler).2
  rw [values, List.flatMap_eq_nil_iff] at hwords
  exact values_of_isComplete (Option.filter_eq_some_iff.1 h).2 he harity
    (hwords e (List.mem_filter.2 ⟨he, beq_iff_eq.2 hname⟩))

section

variable (huse : use.1 ∈ deliveryOptions) (hne : words ≠ [])
  (hspells : ∀ known ∈ knownLists, Spells known words use)
include huse hne hspells

/-- **A line with one more option is the line without it, with one more use.** -/
theorem exists_withUse_of_ofList? (hknown : known ∈ knownLists)
    (h : ofList? known (before ++ after) = some a)
    (h' : ofList? known (before ++ (words ++ after)) = some a')
    (hdashed : ∀ e ∈ a.options, e.1.dashed = false)
    (hlength : a'.positionals.length = a.positionals.length)
    (hseveral : a'.positionals = [] ∨ ∀ o ∈ known, o.arity ≠ .several) :
    use.1 ∈ known ∧ a.has use.1.name = false ∧ ∃ n, a' = a.withUse n use := by
  obtain ⟨hsort, -⟩ := Option.filter_eq_some_iff.1 h
  obtain ⟨hsort', hcomplete⟩ := Option.filter_eq_some_iff.1 h'
  obtain ⟨hrepeatable, hnames⟩ := unique_of_mem_deliveryOptions _ huse
  obtain ⟨n, rfl⟩ := exists_withUse (hspells known hknown) hne hsort hsort' hcomplete hdashed
    hlength hseveral
  refine ⟨mem_known_of_ofList? h' (mem_withUse.2 (.inl rfl)), ?_, n, rfl⟩
  rw [has, List.any_eq_false]
  intro e he
  rw [beq_iff_eq]
  intro heq
  exact ne_of_isComplete hcomplete hrepeatable he
    (hnames known hknown e.1 (mem_known_of_ofList? h he) heq)

/-- A line of options only, with one more option. -/
theorem exists_withUse_of_optionsOnly? (hknown : known ∈ knownLists)
    (h : optionsOnly? known (before ++ after) = some a)
    (h' : optionsOnly? known (before ++ (words ++ after)) = some a')
    (hsource : sourceOf? a = some source) (hcompiler : source.compiler = []) :
    use.1 ∈ known ∧ a.has use.1.name = false ∧ ∃ n, a' = a.withUse n use := by
  obtain ⟨hlist, hnone⟩ := Option.filter_eq_some_iff.1 h
  obtain ⟨hlist', hnone'⟩ := Option.filter_eq_some_iff.1 h'
  rw [List.isEmpty_iff] at hnone hnone'
  exact exists_withUse_of_ofList? huse hne hspells hknown hlist hlist'
    (undashed_of_compiler hknown hlist hsource hcompiler) (by rw [hnone, hnone']) (.inl hnone')

end

/-! ## Commands of such lines -/

/-- The words of the program that compiles rule sets. -/
def compiler (c : Command) : List String :=
  (c.source?.map Source.compiler).getD []

theorem ofArguments?_cons (name : String) (args : List String) :
    ofArguments? (name :: args) =
      if name = "build" then build? args
      else if name = "batch" then batch? args
      else if name = "probe" then probe? args
      else if name = "merge" then merge? args
      else none := by
  unfold ofArguments?
  split <;> simp_all

/-- A probe reads its source from its options. -/
theorem probe?_source {args : List String} (h : probe? args = some c) :
    ∃ a source, optionsOnly? probeOptions args = some a ∧ sourceOf? a = some source ∧
      c.source? = some source := by
  simp only [probe?, bind, Option.bind_eq_some_iff] at h
  obtain ⟨a, ha, source, hsource, _, -, _, -, _, -, h⟩ := h
  cases h
  exact ⟨a, source, ha, hsource, rfl⟩

theorem source_of_buildBody? {body : Body} (h : buildBody? a = some body) :
    ∃ source id request, sourceOf? a = some source ∧ body = build source id request := by
  simp only [buildBody?, bind, Option.bind_eq_some_iff] at h
  obtain ⟨source, hsource, _, -, id, -, _, -, h⟩ := h
  cases h
  exact ⟨source, id, _, hsource, rfl⟩

theorem source_of_batchBody? {body : Body} (h : batchBody? a = some body) :
    ∃ source ids, sourceOf? a = some source ∧ body = batch source ids := by
  simp only [batchBody?, bind, Option.bind_eq_some_iff] at h
  obtain ⟨source, hsource, ids, -, h⟩ := h
  cases h
  exact ⟨source, ids, hsource, rfl⟩

/-- A merge takes two positionals, and nothing else. -/
theorem of_mergeBody? {body : Body} (h : mergeBody? a = some body) :
    a.positionals.length = 2 ∧ ∃ base overlay, body = fun _ => merge base overlay := by
  unfold mergeBody? at h
  split at h
  · rename_i hpositionals
    simp only [bind, Option.bind_eq_some_iff] at h
    obtain ⟨base, -, overlay, -, h⟩ := h
    cases h
    exact ⟨by rw [hpositionals]; rfl, base, overlay, rfl⟩
  · cases h

/-- A command has the compiler of its source. -/
theorem compiler_of_source? (hsource : c.source? = some source) (hcompiler : c.compiler = []) :
    source.compiler = [] := by
  rw [compiler, hsource] at hcompiler
  exact hcompiler

/-- Two commands are one body, settled without an option and with it. -/
def Settled (use : CommandOption × List String) (c c' : Command) (body : Body) : Prop :=
  ∃ a n, a.has use.1.name = false ∧ body.settle a = some c ∧
    body.settle (a.withUse n use) = some c'

section

variable (huse : use.1 ∈ deliveryOptions) (hne : words ≠ [])
  (hspells : ∀ known ∈ knownLists, Spells known words use)
include huse hne hspells

/-- Two lines of options, of which one has one more. -/
theorem settled_of_optionsOnly? {body? : Arguments → Option Body} (hknown : known ∈ knownLists)
    (hsame : ∀ a n, body? (a.withUse n use) = body? a)
    (hsource : ∀ {a body}, body? a = some body → ∃ source, sourceOf? a = some source ∧
      ∀ extras out, (body extras out).source? = some source)
    (h : ((optionsOnly? known (before ++ after)).bind fun a => (body? a).bind (·.settle a)) = some c)
    (h' : ((optionsOnly? known (before ++ (words ++ after))).bind fun a =>
      (body? a).bind (·.settle a)) = some c')
    (hcompiler : c.compiler = []) :
    ∃ a body, body? a = some body ∧ Settled use c c' body := by
  obtain ⟨a, ha, hc⟩ := Option.bind_eq_some_iff.1 h
  obtain ⟨body, hbody, hc⟩ := Option.bind_eq_some_iff.1 hc
  obtain ⟨a', ha', hc'⟩ := Option.bind_eq_some_iff.1 h'
  obtain ⟨source, hsource, hshape⟩ := hsource hbody
  have hcsource : c.source? = some source := by
    obtain ⟨out, -, rfl⟩ := Option.map_eq_some_iff.1 hc
    exact hshape _ _
  obtain ⟨-, hfresh, n, rfl⟩ := exists_withUse_of_optionsOnly? huse hne hspells hknown ha ha'
    hsource (compiler_of_source? hcsource hcompiler)
  rw [hsame, hbody] at hc'
  exact ⟨a, body, hbody, a, n, hfresh, hc, hc'⟩

/-- Two builds, of which one has one more option for the delivery. -/
theorem settled_of_build? (h : build? (before ++ after) = some c)
    (h' : build? (before ++ (words ++ after)) = some c') (hcompiler : c.compiler = []) :
    ∃ source id request, Settled use c c' (build source id request) := by
  rw [build?_eq] at h h'
  have hsource : ∀ {a} {body : Body}, buildBody? a = some body → ∃ source,
      sourceOf? a = some source ∧ ∀ extras out, (body extras out).source? = some source := by
    intro a body hbody
    obtain ⟨source, id, request, hsource, rfl⟩ := source_of_buildBody? hbody
    exact ⟨source, hsource, fun _ _ => rfl⟩
  obtain ⟨a, body, hbody, hsettled⟩ := settled_of_optionsOnly? huse hne hspells (by decide)
    (fun _ _ => buildBody?_withUse huse) hsource h h' hcompiler
  obtain ⟨source, id, request, -, rfl⟩ := source_of_buildBody? hbody
  exact ⟨source, id, request, hsettled⟩

theorem settled_of_batch? (h : batch? (before ++ after) = some c)
    (h' : batch? (before ++ (words ++ after)) = some c') (hcompiler : c.compiler = []) :
    ∃ source ids, Settled use c c' (batch source ids) := by
  rw [batch?_eq] at h h'
  have hsource : ∀ {a} {body : Body}, batchBody? a = some body → ∃ source,
      sourceOf? a = some source ∧ ∀ extras out, (body extras out).source? = some source := by
    intro a body hbody
    obtain ⟨source, ids, hsource, rfl⟩ := source_of_batchBody? hbody
    exact ⟨source, hsource, fun _ _ => rfl⟩
  obtain ⟨a, body, hbody, hsettled⟩ := settled_of_optionsOnly? huse hne hspells (by decide)
    (fun _ _ => batchBody?_withUse huse) hsource h h' hcompiler
  obtain ⟨source, ids, -, rfl⟩ := source_of_batchBody? hbody
  exact ⟨source, ids, hsettled⟩

/-- A probe knows no such option. -/
theorem probe?_ne_some (h : probe? (before ++ after) = some c) (hcompiler : c.compiler = []) :
    probe? (before ++ (words ++ after)) ≠ some c' := by
  intro h'
  obtain ⟨a, source, ha, hsource, hcsource⟩ := probe?_source h
  obtain ⟨a', _, ha', -, -⟩ := probe?_source h'
  obtain ⟨hmem, -⟩ := exists_withUse_of_optionsOnly? huse hne hspells (by decide) ha ha' hsource
    (compiler_of_source? hcsource hcompiler)
  have hunknown : ∀ o ∈ deliveryOptions, o ∉ probeOptions := by decide
  exact hunknown _ huse hmem

/-- A merge takes as many positionals as before, and has no words for a compiler. -/
theorem settled_of_merge? (h : merge? (before ++ after) = some c)
    (h' : merge? (before ++ (words ++ after)) = some c') :
    use.1 = outOption ∧ ∃ base overlay, Settled use c c' fun _ => merge base overlay := by
  rw [merge?_eq] at h h'
  obtain ⟨a, ha, hc⟩ := Option.bind_eq_some_iff.1 h
  obtain ⟨body, hbody, hc⟩ := Option.bind_eq_some_iff.1 hc
  obtain ⟨a', ha', hc'⟩ := Option.bind_eq_some_iff.1 h'
  obtain ⟨body', hbody', hc'⟩ := Option.bind_eq_some_iff.1 hc'
  obtain ⟨hlength, base, overlay, rfl⟩ := of_mergeBody? hbody
  obtain ⟨hlength', -⟩ := of_mergeBody? hbody'
  have hundashed : ∀ o ∈ [outOption], o.dashed = false := by decide
  obtain ⟨hmem, hfresh, n, rfl⟩ := exists_withUse_of_ofList? huse hne hspells (by decide) ha ha'
    (fun e he => hundashed e.1 (mem_known_of_ofList? ha he)) (hlength'.trans hlength.symm)
    (.inr (by decide))
  rw [mergeBody?_withUse, hbody] at hbody'
  cases hbody'
  exact ⟨List.mem_singleton.1 hmem, base, overlay, a, n, hfresh, hc, hc'⟩

/-- **A line, and the same one with one more option that only matters for the delivery**, are the same
command but for that. A merge knows one of these options only, and a probe none. -/
theorem exists_settled (h : ofArguments? (name :: (before ++ after)) = some c)
    (h' : ofArguments? (name :: (before ++ (words ++ after))) = some c')
    (hcompiler : c.compiler = []) :
    ∃ body, Settled use c c' body ∧ ((∃ source id request, body = build source id request) ∨
      (∃ source ids, body = batch source ids) ∨
      use.1 = outOption ∧ ∃ base overlay, body = fun _ => merge base overlay) := by
  rw [ofArguments?_cons] at h h'
  split at h
  · -- the commands are told by the first word, which both lines share
    rename_i hname
    rw [if_pos hname] at h'
    obtain ⟨source, id, request, hsettled⟩ := settled_of_build? huse hne hspells h h' hcompiler
    exact ⟨_, hsettled, .inl ⟨source, id, request, rfl⟩⟩
  rename_i hbuild
  rw [if_neg hbuild] at h'
  split at h
  · rename_i hname
    rw [if_pos hname] at h'
    obtain ⟨source, ids, hsettled⟩ := settled_of_batch? huse hne hspells h h' hcompiler
    exact ⟨_, hsettled, .inr (.inl ⟨source, ids, rfl⟩)⟩
  rename_i hbatch
  rw [if_neg hbatch] at h'
  split at h
  · rename_i hname
    rw [if_pos hname] at h'
    exact absurd h' (probe?_ne_some huse hne hspells h hcompiler)
  rename_i hprobe
  rw [if_neg hprobe] at h'
  split at h
  · rename_i hname
    rw [if_pos hname] at h'
    obtain ⟨hout, base, overlay, hsettled⟩ := settled_of_merge? huse hne hspells h h'
    exact ⟨_, hsettled, .inr (.inr ⟨hout, base, overlay, rfl⟩)⟩
  · cases h

end

/-! ## A file to write, and more than the document -/

/-- A command that writes a file. -/
def writing (path : String) : Command → Command
  | build source id request extras _ => build source id request extras (some path)
  | batch source ids extras _ => batch source ids extras (some path)
  | probe source ids format => probe source ids format
  | merge base overlay _ => merge base overlay (some path)

/-- An option that is not used has no values. -/
theorem values_of_has (h : a.has name = false) : a.values name = [] := by
  rw [has, List.any_eq_false] at h
  rw [values, List.filter_eq_nil_iff.2 h]
  rfl

/-- **A file to write makes no other difference to a command.** -/
theorem ofArguments?_writing (h : ofArguments? (name :: (before ++ after)) = some c)
    (h' : ofArguments? (name :: (before ++ (["-o", path] ++ after))) = some c')
    (hcompiler : c.compiler = []) :
    c.out? = none ∧ c' = c.writing path ∧ ∀ source ids format, c ≠ probe source ids format := by
  have hspells : ∀ known ∈ knownLists, Spells known ["-o", path] (outOption, [path]) :=
    fun known hknown => spells_lettered (by decide : Argument.ofText "-o" = .lettered 'o' none)
      ((by decide : ∀ known ∈ knownLists,
        ∀ o' ∈ known.find? fun o => o.letter == some 'o', o' = outOption) known hknown) rfl
  have hmem : (outOption, [path]).1 ∈ deliveryOptions := .head _
  obtain ⟨body, ⟨a, n, hfresh, hc, hc'⟩, hbody⟩ :=
    exists_settled hmem (by simp) hspells h h' hcompiler
  have hnone : a.values "out" = [] := values_of_has hfresh
  have hsome : (a.withUse n (outOption, [path])).values "out" = [path] :=
    @values_withUse_self a n (outOption, [path]) hnone
  have hextras : (a.withUse n (outOption, [path])).has "with-extras" = a.has "with-extras" :=
    has_withUse
  rw [Body.settle, value?, hnone] at hc
  rw [Body.settle, value?, hsome, hextras] at hc'
  cases hc
  obtain ⟨out, hout, rfl⟩ := Option.map_eq_some_iff.1 hc'
  have hpath : out = some path := by
    simp only [List.head?_cons, path?] at hout
    split at hout
    · cases hout
    · cases hout
      rfl
  rw [hpath]
  rcases hbody with ⟨source, id, request, rfl⟩ | ⟨source, ids, rfl⟩ | ⟨-, base, overlay, rfl⟩
  · exact ⟨rfl, rfl, fun _ _ _ h => by cases h⟩
  · exact ⟨rfl, rfl, fun _ _ _ h => by cases h⟩
  · exact ⟨rfl, rfl, fun _ _ _ h => by cases h⟩

/-- **That more than the document is shown makes no other difference to a command.** -/
theorem ofArguments?_extras (h : ofArguments? (name :: (before ++ after)) = some c)
    (h' : ofArguments? (name :: (before ++ (["--with-extras"] ++ after))) = some c')
    (hcompiler : c.compiler = []) :
    (∃ source id request out, c = build source id request false out ∧
      c' = build source id request true out) ∨
    ∃ source ids out, c = batch source ids false out ∧ c' = batch source ids true out := by
  have hspells : ∀ known ∈ knownLists, Spells known ["--with-extras"] (extrasOption, []) :=
    fun known hknown => spells_flag
      (by decide : Argument.ofText "--with-extras" = .named "with-extras" none)
      ((by decide : ∀ known ∈ knownLists,
        ∀ o' ∈ known.find? fun o => o.name == "with-extras", o' = extrasOption) known hknown) rfl
  have hmem : (extrasOption, ([] : List String)).1 ∈ deliveryOptions := .tail _ (.head _)
  obtain ⟨body, ⟨a, n, hfresh, hc, hc'⟩, hbody⟩ :=
    exists_settled hmem (by simp) hspells h h' hcompiler
  have hout : (a.withUse n (extrasOption, [])).value? "out" path? = a.value? "out" path? :=
    value?_withUse_of_ne (by decide) _
  have hextras : (a.withUse n (extrasOption, [])).has "with-extras" = true := has_withUse
  replace hfresh : a.has "with-extras" = false := hfresh
  rw [Body.settle, hfresh] at hc
  rw [Body.settle, hout, hextras] at hc'
  obtain ⟨out, hsome, rfl⟩ := Option.map_eq_some_iff.1 hc
  rw [hsome] at hc'
  cases hc'
  rcases hbody with ⟨source, id, request, rfl⟩ | ⟨source, ids, rfl⟩ | ⟨himpossible, -⟩
  · exact .inl ⟨source, id, request, out, rfl, rfl⟩
  · exact .inr ⟨source, ids, out, rfl, rfl⟩
  · exact absurd himpossible (by decide)

end Command

end Detour
