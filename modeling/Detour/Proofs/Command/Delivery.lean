import Detour.Command.Work
import Detour.Json.Reader
import Detour.Proofs.Command.Lines
import Detour.Proofs.Files
import Detour.Proofs.Session.Visits
/-!
# What commands leave behind

Until it delivers, a command that is given no compiler only reads: `Run.Keeps` goes through its steps,
and the builds among them leave a service without a compiler as it is. So all that can change the files
is the delivery, which comes last, and what is delivered has been computed of the files as they were
(`Command.run_eq`), also where it is written over one of them. `Program.delivered` puts this together
with what an option that is added to a line does to the command (`Command.ofArguments?_writing`,
`Command.ofArguments?_extras`).
-/

namespace Detour

/-! ## Services without a compiler -/

/-- Without a compiler, nothing that is asked of a service changes it. -/
theorem DirectoryRuleSets.preorder_unchanged : RuleSetService.Preorder
    (fun r r' : DirectoryRuleSets => r.compiler = [] → r' = r) where
  refl _ _ := rfl
  trans h h' hnone := by
    obtain rfl := h hnone
    exact h' hnone
  compile {r name} _ hnone := by
    change (r.compile name (RuleSetKind.ofName name)).2 = r
    rw [DirectoryRuleSets.compile, hnone]

namespace Run

variable {α β : Type} {m : Run α} {fs fs' : Files} {a : α} {e : CommandError}

/-- The result of a computation on some files, and the files that it leaves. -/
def run (m : Run α) (fs : Files) : Except CommandError α × Files :=
  m fs

/-- The second computation runs on the files that the first one leaves, if that succeeds. -/
theorem run_bind (m : Run α) (f : α → Run β) (fs : Files) :
    run (m >>= f) fs = match run m fs with
      | (.ok a, fs) => run (f a) fs
      | (.error e, fs) => (.error e, fs) := by
  simp only [run, bind, ExceptT.bind, ExceptT.mk, StateT.bind]
  rcases m fs with ⟨_ | a, fs₁⟩ <;> rfl

/-- Two computations succeed one after the other exactly when both do. -/
theorem run_bind_eq_ok {f : α → Run β} {b : β} :
    run (m >>= f) fs = (.ok b, fs') ↔
      ∃ a fs₁, run m fs = (.ok a, fs₁) ∧ run (f a) fs₁ = (.ok b, fs') := by
  rw [run_bind]
  rcases run m fs with ⟨_ | a, fs₁⟩
  · simp
  · constructor
    · intro h
      exact ⟨a, fs₁, rfl, h⟩
    · rintro ⟨_, _, ⟨⟩, h⟩
      exact h

/-- A computation that leaves all files as they are. -/
def Keeps (m : Run α) : Prop :=
  ∀ fs, (run m fs).2 = fs

theorem keeps_pure (a : α) : Keeps (pure a) := fun _ => rfl

theorem keeps_throw (e : CommandError) : Keeps (throw e : Run α) := fun _ => rfl

/-- And so do two computations of which neither touches them. -/
theorem Keeps.bind {f : α → Run β} (hm : Keeps m) (hf : ∀ a, Keeps (f a)) : Keeps (m >>= f) := by
  intro fs
  have hfiles := hm fs
  rw [run_bind]
  generalize run m fs = u at hfiles ⊢
  obtain ⟨_ | a, fs₁⟩ := u
  · exact hfiles
  · exact (hf a fs₁).trans hfiles

/-- Without effects there is nothing to touch. -/
theorem keeps_ofExcept (x : Except CommandError α) : Keeps (ofExcept x) := by
  cases x with
  | error e => exact keeps_throw e
  | ok a => exact keeps_pure a

/-- Reading leaves the files alone, whatever the reader makes of the text. -/
theorem keeps_load (role : DocumentRole) (r : DocumentReader α) (path : String) :
    Keeps (load role r path) := by
  intro fs
  have hget : run get fs = (.ok fs, fs) := rfl
  rw [load, run_bind, hget]
  dsimp only
  split
  · rfl
  · split <;> rfl

end Run

namespace Source

open Run

variable {source : Source} {host : Host} {setup : Setup} {α : Type}

/-- A setup is read from two documents at most. -/
theorem keeps_load (source : Source) (host : Host) :
    Keeps (source.load host) := by
  have hsettings : Keeps (source.loadSettings host) := by
    unfold loadSettings
    dsimp only
    split
    · exact (Run.keeps_load _ _ _).bind fun _ => keeps_pure _
    · exact (keeps_pure _).bind fun _ => keeps_pure _
  exact hsettings.bind fun _ => (Run.keeps_load _ _ _).bind fun _ => keeps_pure _

/-- Work that leaves its service as it is leaves the files as they are. -/
theorem keeps_work {m : StateM (BuildState DirectoryRuleSets) α}
    (h : ∀ s, s.ruleSets.compiler = [] → (m s).2.ruleSets = s.ruleSets)
    (hnone : source.compiler = []) : Keeps (source.work host setup m) := by
  intro fs
  change (m (source.start host setup fs)).2.ruleSets.files = fs
  rw [h _ hnone]
  rfl

end Source

namespace Command

open Run

variable {host : Host} {c : Command}

/-- **A command without a compiler only reads** until it delivers. -/
theorem keeps_compute (hnone : c.compiler = []) : Keeps (c.compute host) := by
  cases c with
  | build source id request extras out =>
    refine (source.keeps_load host).bind fun setup => ?_
    split
    · exact keeps_throw _
    · refine (Source.keeps_work (fun s hs => ?_) hnone).bind fun r => ?_
      · exact (Build.composed_profile _ _ _).services DirectoryRuleSets.preorder_unchanged s hs
      · cases r with
        | error e => exact keeps_throw _
        | ok o => exact keeps_pure _
  | batch source ids extras out =>
    refine (source.keeps_load host).bind fun setup => (keeps_ofExcept _).bind fun ps => ?_
    refine (Source.keeps_work (fun s hs => ?_) hnone).bind fun r => ?_
    · exact Batch.services_batch DirectoryRuleSets.preorder_unchanged _ _ s hs
    · cases r with
      | error e => exact keeps_throw _
      | ok o => exact keeps_pure _
  | probe source ids format =>
    refine (source.keeps_load host).bind fun setup => (keeps_ofExcept _).bind fun ps => ?_
    refine (Source.keeps_work (fun s hs => ?_) hnone).bind fun rs => keeps_pure _
    exact (Probe.path_allFrom setup 1 ps s).services DirectoryRuleSets.preorder_unchanged hs
  | merge base overlay out =>
    exact (Run.keeps_load _ _ _).bind fun b => (Run.keeps_load _ _ _).bind fun o => keeps_pure _

/-! ## What commands show -/

/-- The output of a build, of which it shows a part. -/
def buildOutput (host : Host) (source : Source) (id : Int64) (request : Request) :
    Run Output := do
  let setup ← source.load host
  match setup.store.profile? id with
  | none => throw (.profileMissing id)
  | some p =>
    match ← source.work host setup (ExceptT.run (Build.profile setup request p)) with
    | .ok o => pure o
    | .error e => throw (.build p.displayName e)

/-- The output of a batch, of which it shows a part. -/
def batchOutput (host : Host) (source : Source) (ids : List Int64) :
    Run Batch.Output := do
  let setup ← source.load host
  let ps ← Run.ofExcept (select setup.store ids)
  match ← source.work host setup (ExceptT.run (Build.batch setup ps)) with
  | .ok o => pure o
  | .error e => throw (.batch e)

/-- What a build shows is a part of its output. -/
theorem compute_build (source : Source) (id : Int64) (request : Request) (extras : Bool)
    (out : Option String) : compute host (build source id request extras out) = (do
      let o ← buildOutput host source id request
      pure (.tree (if extras then o.toTree else o.document))) := by
  simp only [compute, buildOutput, bind_assoc]
  refine congrArg _ (funext fun setup => ?_)
  cases setup.store.profile? id with
  | none => rfl
  | some p =>
    simp only [bind_assoc]
    refine congrArg _ (funext fun r => ?_)
    cases r with
    | ok o => rfl
    | error e => rfl

theorem compute_batch (source : Source) (ids : List Int64) (extras : Bool) (out : Option String) :
    compute host (batch source ids extras out) = (do
      let o ← batchOutput host source ids
      pure (.tree (if extras then o.toTree else o.document))) := by
  simp only [compute, batchOutput, bind_assoc]
  refine congrArg _ (funext fun setup => congrArg _ (funext fun ps => congrArg _ (funext fun r => ?_)))
  cases r with
  | ok o => rfl
  | error e => rfl

/-- All commands but a probe show a tree. -/
theorem exists_tree_of_compute {fs fs' : Files} {shown : Shown}
    (hprobe : ∀ source ids format, c ≠ probe source ids format)
    (h : Run.run (c.compute host) fs = (.ok shown, fs')) : ∃ t, shown = .tree t := by
  cases c with
  | build source id request extras out =>
    rw [compute_build] at h
    obtain ⟨o, _, -, hpure⟩ := Run.run_bind_eq_ok.1 h
    cases hpure
    exact ⟨_, rfl⟩
  | batch source ids extras out =>
    rw [compute_batch] at h
    obtain ⟨o, _, -, hpure⟩ := Run.run_bind_eq_ok.1 h
    cases hpure
    exact ⟨_, rfl⟩
  | probe source ids format => exact absurd rfl (hprobe source ids format)
  | merge base overlay out =>
    obtain ⟨b, _, -, h⟩ := Run.run_bind_eq_ok.1 h
    obtain ⟨o, _, -, hpure⟩ := Run.run_bind_eq_ok.1 h
    cases hpure
    exact ⟨_, rfl⟩

/-- Where a command delivers does not matter for what it computes. -/
theorem compute_writing (c : Command) (path : String) :
    compute host (c.writing path) = compute host c := by
  cases c <;> rfl

theorem compiler_writing (c : Command) (path : String) : (c.writing path).compiler = c.compiler := by
  cases c <;> rfl

/-- A command that is told to write a file writes that file. -/
theorem out?_writing {path : String} (hprobe : ∀ source ids format, c ≠ probe source ids format) :
    (c.writing path).out? = some path := by
  cases c with
  | probe source ids format => exact absurd rfl (hprobe source ids format)
  | build | batch | merge => rfl

/-! ## Delivering -/

variable {fs fs' : Files} {path text : String} {t : Tree} {shown : Shown} {out : Option String}
  {e : CommandError}

/-- Writing a file sees to the folder first, and stops where that fails. -/
theorem run_writeOut (path text : String) (fs : Files) :
    Run.run (writeOut path text) fs =
      match fs.ensureFolders (Path.ofText path).parent with
      | (.error e, fs₁) => (.error (.folder (Path.ofText path).parent.text e), fs₁)
      | (.ok (), fs₁) =>
        match fs₁.write (.ofText path) text with
        | .error e => (.error (.unwritable path e), fs₁)
        | .ok fs₂ => (.ok (), fs₂) := by
  have hget : Run.run get fs = (.ok fs, fs) := rfl
  have hset : ∀ fs₁ fs₂ : Files, Run.run (set fs₁) fs₂ = (.ok (), fs₁) := fun _ _ => rfl
  rw [writeOut, Run.run_bind, hget]
  dsimp only
  rw [Run.run_bind, hset]
  rcases fs.ensureFolders (Path.ofText path).parent with ⟨e | ⟨⟩, fs₁⟩
  · rfl
  · dsimp only
    cases fs₁.write (.ofText path) text with
    | error e => rfl
    | ok fs₂ => rfl

/-- What is left of writing a file: the file if it succeeds, and folders along its path at most if it
does not. -/
theorem left_of_writeOut {result : Except CommandError Unit}
    (h : Run.run (writeOut path text) fs = (result, fs')) :
    match result with
    | .ok _ => Files.Written (.ofText path) text fs fs'
    | .error _ => Files.Furnished (.ofText path) fs fs' := by
  have hfurnished : Files.Furnished (.ofText path) fs
      (fs.ensureFolders (Path.ofText path).parent).2 :=
    (Files.furnished_ensureFolders _ _).trans (.refl _ _) (Path.trail_parent_subset _)
  rw [run_writeOut] at h
  split at h
  · rename_i hfolders
    rw [hfolders] at hfurnished
    cases h
    exact hfurnished
  · rename_i hfolders
    rw [hfolders] at hfurnished
    split at h
    · cases h
      exact hfurnished
    · rename_i hwrite
      cases h
      exact hfurnished.written hwrite

/-- A delivery that fails has changed no file. -/
theorem kept_of_deliver_error (h : Run.run (deliver out shown) fs = (.error e, fs')) :
    fs'.texts = fs.texts ∧ fs'.runnable = fs.runnable ∧ fs.folders <:+ fs'.folders := by
  unfold deliver at h
  split at h
  · rw [Run.run_bind] at h
    split at h
    · cases h
    · rename_i hwriteOut
      cases h
      obtain ⟨folders, rfl, -⟩ := left_of_writeOut hwriteOut
      exact ⟨rfl, rfl, List.suffix_append _ _⟩
  · cases h

/-- A delivery into a file that succeeds. -/
theorem written_of_deliver (h : Run.run (deliver (some path) (.tree t)) fs = (.ok text, fs')) :
    text = "" ∧ Files.Written (.ofText path) (Json.pretty t) fs fs' := by
  obtain ⟨⟨⟩, fs₂, hwriteOut, hpure⟩ := Run.run_bind_eq_ok.1 h
  cases hpure
  exact ⟨rfl, left_of_writeOut hwriteOut⟩

/-- A command without a compiler delivers what it has computed of the files that it found. -/
theorem run_eq (host : Host) (hnone : c.compiler = []) (fs : Files) :
    Run.run (c.runOn host) fs = match (Run.run (c.compute host) fs).1 with
      | .ok shown => Run.run (deliver c.out? shown) fs
      | .error e => (.error e, fs) := by
  have hkeeps : (Run.run (c.compute host) fs).2 = fs := keeps_compute hnone fs
  rw [runOn, Run.run_bind]
  generalize Run.run (c.compute host) fs = u at hkeeps ⊢
  obtain ⟨_ | shown, fs₁⟩ := u
  · cases hkeeps
    rfl
  · cases hkeeps
    rfl

end Command

/-! ## Runs of the program -/

namespace Program

open Command

variable {host : Host} {args : List String} {c c' : Command} {fs fs' : Files}
  {text : String}

/-- A command that succeeds prints its text. -/
theorem outcome_of_ok (hc : ofArguments? args = some c)
    (hr : Run.run (c.runOn host) fs = (.ok text, fs')) :
    outcome host args fs = { status := 0, stdout := text, files := fs' } := by
  change c.runOn host fs = _ at hr
  simp only [outcome, hc, hr]

theorem outcome_of_error (hc : ofArguments? args = some c) {e : CommandError}
    (hr : Run.run (c.runOn host) fs = (.error e, fs')) :
    outcome host args fs =
      { status := 1, stderr := s!"Error: {e.message}\n", files := fs' } := by
  change c.runOn host fs = _ at hr
  simp only [outcome, hc, hr]

/-- Only a command that succeeds ends with status 0. -/
theorem ok_of_status (hstatus : (outcome host args fs).status = 0) :
    ∃ c text fs', ofArguments? args = some c ∧ Run.run (c.runOn host) fs = (.ok text, fs') := by
  unfold outcome at hstatus
  split at hstatus
  · cases hstatus
  · rename_i c hc
    split at hstatus
    · rename_i text fs' hr
      exact ⟨c, text, fs', hc, hr⟩
    · cases hstatus

/-- A line that fails has changed no file. -/
theorem kept_of_status (hnone : ∀ c, ofArguments? args = some c → c.compiler = [])
    (hstatus : (outcome host args fs).status ≠ 0) :
    (outcome host args fs).stdout = "" ∧ (outcome host args fs).files.texts = fs.texts ∧
      (outcome host args fs).files.runnable = fs.runnable ∧
      fs.folders <:+ (outcome host args fs).files.folders := by
  cases hc : ofArguments? args with
  | none => simp [outcome, hc]
  | some c =>
    cases hr : Run.run (c.runOn host) fs with
    | mk result fs' =>
      cases result with
      | ok text =>
        rw [outcome_of_ok hc hr] at hstatus
        exact absurd rfl hstatus
      | error e =>
        rw [outcome_of_error hc hr]
        refine ⟨rfl, ?_⟩
        rw [run_eq host (hnone c hc)] at hr
        split at hr
        · exact kept_of_deliver_error hr
        · cases hr
          exact ⟨rfl, rfl, List.suffix_rfl⟩

/-- A line that names no file to write changes none. -/
theorem files_of_out? (hc : ofArguments? args = some c) (hnone : c.compiler = [])
    (hout : c.out? = none) : (outcome host args fs).files = fs := by
  have hr := run_eq host hnone fs
  rw [hout] at hr
  split at hr
  · rw [outcome_of_ok hc hr]
  · rw [outcome_of_error hc hr]

/-- What a line that writes a file puts there is what it prints without that. -/
theorem written_of_status {name path : String} {before after : List String}
    (hc : ofArguments? (name :: (before ++ after)) = some c) (hnone : c.compiler = [])
    (hstatus : (outcome host (name :: (before ++ (["-o", path] ++ after))) fs).status = 0) :
    ∃ t fs', outcome host (name :: (before ++ after)) fs =
        { status := 0, stdout := Json.pretty t ++ "\n", files := fs } ∧
      outcome host (name :: (before ++ (["-o", path] ++ after))) fs =
        { status := 0, files := fs' } ∧
      Files.Written (.ofText path) (Json.pretty t) fs fs' := by
  obtain ⟨c', text, fs', hc', hr'⟩ := ok_of_status hstatus
  obtain ⟨hout, rfl, hprobe⟩ := ofArguments?_writing hc hc' hnone
  have houtcome' := outcome_of_ok hc' hr'
  have hr := run_eq host hnone fs
  rw [run_eq host ((compiler_writing c path).trans hnone), compute_writing, out?_writing hprobe] at hr'
  rw [hout] at hr
  cases hcompute : Run.run (c.compute host) fs with
  | mk result fs₁ =>
    rw [hcompute] at hr hr'
    cases result with
    | error e => cases hr'
    | ok shown =>
      obtain ⟨t, rfl⟩ := exists_tree_of_compute hprobe hcompute
      obtain ⟨rfl, hwritten⟩ := written_of_deliver hr'
      exact ⟨t, fs', outcome_of_ok hc hr, houtcome', hwritten⟩

/-- Two lines whose commands take what they show from one output. -/
theorem shown_of_computes {α : Type} {output : Run α} {document full : α → Tree}
    {args' : List String} (hc : ofArguments? args = some c) (hc' : ofArguments? args' = some c')
    (hnone : c.compiler = []) (hnone' : c'.compiler = []) (hout : c.out? = none)
    (hout' : c'.out? = none)
    (hcompute : c.compute host = output >>= fun o => pure (.tree (document o)))
    (hcompute' : c'.compute host = output >>= fun o => pure (.tree (full o)))
    (hdocument : ∀ o, (full o).get? "document" = some (document o)) :
    (outcome host args fs).status ≠ 0 ∧ outcome host args' fs = outcome host args fs ∨
      ∃ t shown, outcome host args fs =
          { status := 0, stdout := Json.pretty t ++ "\n", files := fs } ∧
        outcome host args' fs =
          { status := 0, stdout := Json.pretty shown ++ "\n", files := fs } ∧
        shown.get? "document" = some t := by
  have hr := run_eq host hnone fs
  have hr' := run_eq host hnone' fs
  rw [hcompute, hout, Run.run_bind] at hr
  rw [hcompute', hout', Run.run_bind] at hr'
  cases houtput : Run.run output fs with
  | mk result fs₁ =>
    rw [houtput] at hr hr'
    cases result with
    | error e =>
      left
      rw [outcome_of_error hc hr, outcome_of_error hc' hr']
      exact ⟨by simp, rfl⟩
    | ok o =>
      right
      exact ⟨document o, full o, outcome_of_ok hc hr, outcome_of_ok hc' hr', hdocument o⟩

/-- What a line shows beside the document does not change the document. -/
theorem document_of_extras {name : String} {before after : List String}
    (hc : ofArguments? (name :: (before ++ after)) = some c)
    (hc' : ofArguments? (name :: (before ++ (["--with-extras"] ++ after))) = some c')
    (hnone : c.compiler = []) (hout : c.out? = none) :
    (outcome host (name :: (before ++ after)) fs).status ≠ 0 ∧
        outcome host (name :: (before ++ (["--with-extras"] ++ after))) fs =
          outcome host (name :: (before ++ after)) fs ∨
      ∃ t shown, outcome host (name :: (before ++ after)) fs =
          { status := 0, stdout := Json.pretty t ++ "\n", files := fs } ∧
        outcome host (name :: (before ++ (["--with-extras"] ++ after))) fs =
          { status := 0, stdout := Json.pretty shown ++ "\n", files := fs } ∧
        shown.get? "document" = some t := by
  rcases ofArguments?_extras hc hc' hnone with
    ⟨source, id, request, out, rfl, rfl⟩ | ⟨source, ids, out, rfl, rfl⟩
  · exact shown_of_computes hc hc' hnone hnone hout hout (compute_build source id request false out)
      (compute_build source id request true out) fun _ => rfl
  · exact shown_of_computes hc hc' hnone hnone hout hout (compute_batch source ids false out)
      (compute_batch source ids true out) fun _ => rfl

/-- **A line that fails leaves the files alone, and where a line delivers makes no difference to what.**
All this goes for lines without words of a compiler, on every host: whatever its readers make of the
documents, and whatever programs do that it launches. If such a line fails, no file has changed, folders
have been added at most, and nothing is printed; if it names no file to write, nothing has changed at
all. Where `-o` and a path are added to it and it succeeds, it prints nothing, and behind it the files
are those that it found but for the one at the path, which holds what the line prints without that, and
for folders along the path. And `--with-extras` puts the document that is shown without it under a key
of its own. Lines that name no first port are compared on a host that has the same ports left for
both. -/
theorem delivered (host : Host) (fs : Files) :
    (∀ args, (∀ c, ofArguments? args = some c → c.compiler = []) →
      (outcome host args fs).status ≠ 0 →
        (outcome host args fs).stdout = "" ∧ (outcome host args fs).files.texts = fs.texts ∧
          (outcome host args fs).files.runnable = fs.runnable ∧
          fs.folders <:+ (outcome host args fs).files.folders) ∧
    (∀ args c, ofArguments? args = some c → c.compiler = [] → c.out? = none →
      (outcome host args fs).files = fs) ∧
    (∀ name before after path c, ofArguments? (name :: (before ++ after)) = some c →
      c.compiler = [] →
      (outcome host (name :: (before ++ (["-o", path] ++ after))) fs).status = 0 →
        ∃ t fs', outcome host (name :: (before ++ after)) fs =
            { status := 0, stdout := Json.pretty t ++ "\n", files := fs } ∧
          outcome host (name :: (before ++ (["-o", path] ++ after))) fs =
            { status := 0, files := fs' } ∧
          Files.Written (.ofText path) (Json.pretty t) fs fs') ∧
    ∀ name before after c c', ofArguments? (name :: (before ++ after)) = some c →
      ofArguments? (name :: (before ++ (["--with-extras"] ++ after))) = some c' →
      c.compiler = [] → c.out? = none →
        (outcome host (name :: (before ++ after)) fs).status ≠ 0 ∧
            outcome host (name :: (before ++ (["--with-extras"] ++ after))) fs =
              outcome host (name :: (before ++ after)) fs ∨
          ∃ t shown, outcome host (name :: (before ++ after)) fs =
              { status := 0, stdout := Json.pretty t ++ "\n", files := fs } ∧
            outcome host (name :: (before ++ (["--with-extras"] ++ after))) fs =
              { status := 0, stdout := Json.pretty shown ++ "\n", files := fs } ∧
            shown.get? "document" = some t :=
  ⟨fun _ hnone hstatus => kept_of_status hnone hstatus,
    fun _ _ hc hnone hout => files_of_out? hc hnone hout,
    fun _ _ _ _ _ hc hnone hstatus => written_of_status hc hnone hstatus,
    fun _ _ _ _ _ hc hc' hnone hout => document_of_extras hc hc' hnone hout⟩

/-- A reader that knows JSON only, and says so. -/
def jsonReader {α : Type} (c : Codec α) : DocumentReader α where
  json text := c.taken (Json.read? text)
  yaml _ := .error (some "YAML is not known")

/-- A launcher that knows one program: `touch` adds an empty file where none is. -/
def toucher : Launcher
  | "touch", [word], fs =>
    if fs.isFile (.ofText word) then .ok ({ succeeded := true }, fs)
    else
      match fs.write (.ofText word) "" with
      | .ok fs => .ok ({ succeeded := true }, fs)
      | .error e => .ok ({ succeeded := false, complaint := e.message }, fs)
  | _, _, _ => .error FileError.notFound.message

/-- A host of these, without variables. -/
def plainHost : Host where
  env _ := none
  settings := jsonReader Settings.codec
  database := jsonReader Database.codec
  free := jsonReader Codec.freeForm
  launch := toucher
  ports := ⟨40000⟩

/-- A database whose only chain refers to a rule set. -/
def directory : Tree :=
  .ofFields [
    ("groups", .list [.ofFields []]),
    ("profiles", .list [.ofFields [("id", .int 1), ("gid", .int 0),
      ("bean", .ofFields [("type", .str "socks"), ("server", .str "s"),
        ("server_port", .int 1080)])]]),
    ("routing_chains", .list [.ofFields [("rules", .list [.ofFields [
      ("rule_set", .ofStrings ["ads"]), ("outbound_id", .int (-3))]])]])]

/-- Some documents, and the rule set. -/
def documents : Files :=
  .ofTexts [("base.json", Json.compact (.ofFields [("k", .int 1)])),
    ("overlay.json", Json.compact (.ofFields [("k", .list [.int 2])])),
    ("db.json", Json.compact directory), ("rule_sets/ads.srs", "")]

/-- A merge whose second document is missing, one that is written over its first document, and a build
that shows more than its document. The last line names no compiler but has arguments for one, the first
of which is run; it fails and leaves a file. -/
theorem delivered_over_input :
    (outcome plainHost ["merge", "base.json", "missing.json"] documents).files.texts =
      documents.texts ∧
    (∃ t fs', outcome plainHost ["merge", "base.json", "overlay.json"] documents =
        { status := 0, stdout := Json.pretty t ++ "\n", files := documents } ∧
      outcome plainHost ["merge", "base.json", "-o", "base.json", "overlay.json"] documents =
        { status := 0, files := fs' } ∧
      Files.Written (.ofText "base.json") (Json.pretty t) documents fs') ∧
    (let line := ["build", "-d", "db.json", "-p", "1", "--port-base", "30000"]
      ∃ t shown, outcome plainHost line documents =
          { status := 0, stdout := Json.pretty t ++ "\n", files := documents } ∧
        outcome plainHost (line ++ ["--with-extras"]) documents =
          { status := 0, stdout := Json.pretty shown ++ "\n", files := documents } ∧
        shown.get? "document" = some t) ∧
    let line := ["build", "-d", "db.json", "-p", "1", "--port-base", "30000",
      "--ruleset-compiler-arg", "touch", "--ruleset-compiler-arg", "left"]
    let alone : Files := .ofTexts [("db.json", Json.compact directory)]
    (outcome plainHost line alone).status ≠ 0 ∧
      (outcome plainHost line alone).files.texts ≠ alone.texts := by
  obtain ⟨hfailed, -, hwritten, hextras⟩ := delivered plainHost documents
  have hmerge : ofArguments? ["merge", "base.json", "overlay.json"] =
    some (.merge "base.json" "overlay.json" none) := by decide
  refine ⟨?_, ?_, ?_, by decide +kernel⟩
  · have hmissing : ofArguments? ["merge", "base.json", "missing.json"] =
      some (.merge "base.json" "missing.json" none) := by decide
    refine (hfailed ["merge", "base.json", "missing.json"] (fun c hc => ?_) (by decide +kernel)).2.1
    rw [hmissing] at hc
    cases hc
    rfl
  · exact hwritten "merge" ["base.json"] ["overlay.json"] "base.json" _ hmerge rfl (by decide +kernel)
  · have hplain : ofArguments? ["build", "-d", "db.json", "-p", "1", "--port-base", "30000"] =
      some (.build { database := "db.json", portBase := some 30000 } 1 {} false none) := by decide
    have hmore : ofArguments?
        ["build", "-d", "db.json", "-p", "1", "--port-base", "30000", "--with-extras"] =
      some (.build { database := "db.json", portBase := some 30000 } 1 {} true none) := by decide
    rcases hextras "build" ["-d", "db.json", "-p", "1", "--port-base", "30000"] [] _ _ hplain hmore
      rfl rfl with ⟨hne, -⟩ | h
    · exact absurd (by decide +kernel) hne
    · exact h

end Program

end Detour
