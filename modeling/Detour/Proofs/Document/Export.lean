import Detour.Proofs.Document.Twins
/-!
# Documents for export

A document that is to be used elsewhere is built without the control interface. Nothing on the way to
a document asks for this but the last section, so a build for export and an ordinary one from the same
state run side by side. The override of the profile is merged in afterwards and may have such a
section of its own: `exported_of_runs` says what of it is left in the exported document.
-/

namespace Detour

/-- The same request, for export or not. -/
def Request.forExport (request : Request) (exporting : Bool) : Request :=
  { request with exporting := exporting }

namespace Tree

/-- What a key holds after a merge into a document depends on what it held before. -/
theorem get?_merge_congr {key : String} {base other : Tree} (overlay : Fields)
    (h : base.get? key = other.get? key) :
    (base.merge (.object overlay)).get? key = (other.merge (.object overlay)).get? key := by
  -- a base that is no object gives way, as an object without fields would
  have hfields : ∀ t : Tree, t.get? key = Fields.get? key (t.fields?.getD []) := by
    intro t
    cases t <;> rfl
  cases overlay with
  | nil => exact h
  | cons kv rest =>
    rw [hfields base, hfields other] at h
    exact Fields.get?_merge_congr h

end Tree

namespace Output

/-- Before the override, an exported result lacks the section of the control interface and differs in
nothing else. -/
def BareExport (settings : Settings) (request : Request) (shown exported : Output) : Prop :=
  ∃ fields, Fields.get? "experimental" fields = none ∧
    exported = { shown with document := .object fields } ∧
    shown.document = .object (Fields.setAll
      (Entry.present "experimental" (Document.experimental? settings request)) fields)

/-- An exported result has all that the ordinary one has beside the document. The documents agree
under every key but `experimental`, where the exported one has what the override puts into a document
without such a section. -/
structure ExportOf (root : Profile) (shown exported : Output) : Prop where
  beside : exported = { shown with document := exported.document }
  elsewhere : ∀ key, key ≠ "experimental" → exported.document.get? key = shown.document.get? key
  experimental : root.isFullDocument = false → ∀ base : Tree, base.get? "experimental" = none →
    exported.document.get? "experimental" =
      (base.merge (.object root.customConfig.tree.override)).get? "experimental"

/-- The override is merged into both. -/
theorem BareExport.overridden {settings : Settings} {request : Request} {shown exported : Output}
    (h : BareExport settings request shown exported) (root : Profile) :
    ExportOf root (shown.overriddenBy root) (exported.overriddenBy root) := by
  obtain ⟨fields, hlacks, rfl, hshown⟩ := h
  refine ⟨rfl, fun key hkey => Tree.get?_merge_congr _ ?_,
    fun _ base hbase => Tree.get?_merge_congr _ (Eq.trans hlacks hbase.symm)⟩
  rw [hshown, Tree.get?_object, Tree.get?_object, Fields.get?_setAll_present, if_neg hkey]

end Output

namespace Document

variable {settings : Settings} {request : Request}

/-- Neither a test nor a document for export has a control interface. -/
theorem experimental?_eq_none (h : request.test = true ∨ request.exporting = true) :
    experimental? settings request = none := by
  rw [experimental?]
  rcases h with h | h <;> simp [h]

theorem bareExport_assemble (settings : Settings) (request : Request) (root : Profile)
    (hops : List Hop) (r : Routing) :
    Output.BareExport settings (request.forExport false)
      (assemble settings (request.forExport false) root hops r)
      (assemble settings (request.forExport true) root hops r) := by
  have hnone : experimental? settings (request.forExport true) = none :=
    experimental?_eq_none (.inr rfl)
  refine ⟨Fields.ofList (sections settings (request.forExport true) hops r), ?_, rfl, ?_⟩
  · rw [Fields.get?_ofList_eq_none_iff, sections, hnone]
    simp [Entry.present]
  · simp only [assemble, sections, hnone, Tree.ofFields, Fields.ofList, Fields.setAll_append]
    rfl

/-- A test is put together in one way, whether it is for export or not. -/
theorem assemble_forExport_of_test (h : request.test = true) (root : Profile) (hops : List Hop)
    (r : Routing) :
    assemble settings (request.forExport true) root hops r =
      assemble settings (request.forExport false) root hops r := by
  have hnone : ∀ exporting, experimental? settings (request.forExport exporting) = none :=
    fun _ => experimental?_eq_none (.inl h)
  simp only [assemble, sections, hnone]
  rfl

end Document

section Runs

variable {σ : Type} [RuleSetService σ] {request : Request} {root : Profile}

/-- A build asks whether it is for export only when all is put together. -/
theorem related_generate_forExport (setup : Setup) (root : Profile) {R : Output → Output → Prop}
    (hassemble : ∀ hops r,
      R (Document.assemble setup.settings (request.forExport false) root hops r)
        (Document.assemble setup.settings (request.forExport true) root hops r)) :
    Build.Related Eq R (Build.generate setup (request.forExport false) root : Build σ Output)
      (Build.generate setup (request.forExport true) root) := by
  unfold Build.generate
  refine .bind_self fun ps => .bind_self fun hops => ?_
  have hrest : Build.Related Eq R
      (do
        let routing ← Routing.compile setup request.seq (Document.traffic root hops [])
        pure (Document.assemble setup.settings (request.forExport false) root hops routing) :
          Build σ Output)
      (do
        let routing ← Routing.compile setup request.seq (Document.traffic root hops [])
        pure (Document.assemble setup.settings (request.forExport true) root hops routing)) :=
    .bind_self fun r => .pure (hassemble hops r)
  dsimp only
  split
  · exact .bind_self fun _ => hrest
  · exact hrest

theorem related_profile_forExport (setup : Setup) (request : Request)
    (hroot : root.isFullDocument = false) :
    Build.Related Eq (Output.ExportOf root)
      (Build.profile setup (request.forExport false) root : Build σ Output)
      (Build.profile setup (request.forExport true) root) := by
  unfold Build.profile
  rw [Build.plain_eq_generate hroot, Build.plain_eq_generate hroot]
  exact (related_generate_forExport setup root
    (Document.bareExport_assemble setup.settings request root)).bind
      fun _ _ h => .pure (h.overridden root)

/-- A test, and a whole document of the user's own, is the same for export. -/
theorem profile_forExport_eq (setup : Setup)
    (h : request.test = true ∨ root.isFullDocument = true) :
    (Build.profile setup (request.forExport true) root : Build σ Output) =
      Build.profile setup (request.forExport false) root := by
  cases hroot : root.isFullDocument with
  | true =>
    obtain ⟨c, hc, hfull⟩ := Profile.exists_custom_of_full hroot
    simp only [Build.profile, Build.plain, hc, hfull, if_true]
  | false =>
    have htest : request.test = true := h.resolve_right (by simp [hroot])
    have hgenerate : (Build.generate setup (request.forExport false) root : Build σ Output) =
        Build.generate setup (request.forExport true) root :=
      Build.Related.eq_iff.1 <| related_generate_forExport setup root fun hops r =>
        (Document.assemble_forExport_of_test htest root hops r).symm
    unfold Build.profile
    rw [Build.plain_eq_generate hroot, Build.plain_eq_generate hroot, hgenerate]

end Runs

theorem Output.ExportOf.refl_of_full {root : Profile} (hroot : root.isFullDocument = true)
    (o : Output) : ExportOf root o o :=
  ⟨rfl, fun _ _ => rfl, fun h => by rw [hroot] at h; cases h⟩

/-- **An export only leaves the control interface out.** Built from one state for export and not for
export, a profile leaves the same state, and fails in both builds with one error or in neither. The
results agree but for the section `experimental` of their documents, and altogether where the build is
a test or the profile a whole document. -/
theorem exported_of_runs {σ : Type} [RuleSetService σ] (setup : Setup) (request : Request)
    (root : Profile) (s : BuildState σ) :
    let shown := Build.run (Build.profile setup (request.forExport false) root) s
    let exported := Build.run (Build.profile setup (request.forExport true) root) s
    exported.2 = shown.2 ∧ EndAlike (Output.ExportOf root) shown.1 exported.1 ∧
      (request.test = true ∨ root.isFullDocument = true → exported = shown) := by
  intro shown exported
  have hsame : request.test = true ∨ root.isFullDocument = true → exported = shown := fun h =>
    congrArg (Build.run · s) (profile_forExport_eq setup h)
  suffices h : EndAlike (Output.ExportOf root) shown.1 exported.1 ∧ shown.2 = exported.2 from
    ⟨h.2.symm, h.1, hsame⟩
  cases hroot : root.isFullDocument with
  | true =>
    rw [hsame (.inr hroot)]
    refine ⟨?_, rfl⟩
    cases shown.1 with
    | ok o => exact .ok (.refl_of_full hroot o)
    | error e => exact .error e
  | false => exact related_profile_forExport setup request hroot s s rfl

/-- The native server with a section of its own for the control interface. -/
def Setting.annotated : Profile :=
  { Setting.native with
    customConfig := ⟨.object [("experimental", .object [("cache_file", .bool true)])],
      by simp [Tree.Ordered, Tree.OrderedFields]⟩ }

/-- The setting with a control interface. -/
def Setting.controlled : Setup :=
  { Setting.setup with settings := { Setting.setup.settings with clashApi := { port := 9090 } } }

/-- What the server puts into the section stays there when the control interface is left out, and a
test has nothing to leave out. -/
theorem exported_of_runs_annotated :
    (∃ (shown exported : Output) (s' : BuildState MemoryRuleSets),
      Build.run (Build.profile Setting.controlled ({} : Request) Setting.annotated)
        Setting.start = (.ok shown, s') ∧
      Build.run (Build.profile Setting.controlled { exporting := true } Setting.annotated)
        Setting.start = (.ok exported, s') ∧
      (shown.document.at? ["experimental", "clash_api"]).isSome = true ∧
      exported.document.get? "experimental" = some (.object [("cache_file", .bool true)])) ∧
    Build.run (Build.profile Setting.controlled { test := true, exporting := true }
        Setting.annotated) Setting.start =
      Build.run (Build.profile Setting.controlled { test := true } Setting.annotated)
        Setting.start := by
  refine ⟨?_, (exported_of_runs Setting.controlled { test := true } Setting.annotated
    Setting.start).2.2 (.inl rfl)⟩
  obtain ⟨shown, s', hr⟩ := Build.exists_run_eq_ok
    (b := Build.profile Setting.controlled {} Setting.annotated) (s := Setting.start) (by decide)
  have hapi : (Build.run (Build.profile Setting.controlled {} Setting.annotated)
      Setting.start).1.map (fun o => (o.document.at? ["experimental", "clash_api"]).isSome) =
        .ok true := rfl
  rw [hr] at hapi
  obtain ⟨hstate, hend, -⟩ := exported_of_runs Setting.controlled {} Setting.annotated Setting.start
  rw [show Request.forExport {} false = {} from rfl, hr] at hstate hend
  rcases hr' : Build.run (Build.profile Setting.controlled (Request.forExport {} true)
    Setting.annotated) Setting.start with ⟨result, t⟩
  rw [hr'] at hstate hend
  cases hstate
  cases hend with
  | ok h => exact ⟨shown, _, s', hr, hr', Except.ok.inj hapi, h.experimental rfl (.object []) rfl⟩

end Detour
