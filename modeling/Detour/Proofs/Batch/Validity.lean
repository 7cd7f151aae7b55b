import Detour.Proofs.Hops
import Detour.Proofs.Batch.Outcome
/-!
# What passes for valid

A profile that is not valid is left out of a batch, so one that is should have an outbound or be
refused for its parameters. For the protocols that the core speaks by itself, `native_of_valid` proves
that this is so but for one configuration: an `internal` one that is an object without fields
(`IsBlank`). It passes for valid, has no outbound, and no batch gets past it.
-/

namespace Detour

namespace Protocol

variable {settings : Settings} {p : Protocol} {e : BuildError}

/-- An `internal` configuration is an object without fields. -/
def IsBlank (p : Protocol) : Prop :=
  ∃ c, p = .custom c ∧ c.core = Custom.internalCore ∧ c.configObject? = some []

/-- A protocol comes to an outbound with fields, or to a complaint about its parameters. -/
def HasNative (settings : Settings) (p : Protocol) : Prop :=
  (∃ fields, p.nativeOutbound settings = .ok fields ∧ fields ≠ []) ∨
    ∃ e, p.nativeOutbound settings = .error e ∧ e.kind = .policy

/-! ## Outbounds of servers -/

/-- A protocol with a server has entries, or is refused for its parameters. -/
theorem entries_or_policy (settings : Settings) (hcustom : ∀ c, p ≠ .custom c)
    (hchain : ∀ ids, p ≠ .chain ids) :
    (∃ entries, p.outboundEntries settings = .ok entries ∧ entries ≠ []) ∨
      ∃ e, p.outboundEntries settings = .error e ∧ e.kind = .policy := by
  cases p with
  | custom c => exact absurd rfl (hcustom c)
  | chain ids => exact absurd rfl (hchain ids)
  | shadowsocks p =>
    rw [outboundEntries]
    split
    · exact .inl ⟨_, rfl, by simp [head]⟩
    · exact .inr ⟨_, rfl, rfl⟩
  | vless p =>
    rw [outboundEntries]
    split
    · exact .inl ⟨_, rfl, by simp [head]⟩
    · exact .inr ⟨_, rfl, rfl⟩
  | tuic p =>
    rw [outboundEntries]
    split
    · exact .inr ⟨_, rfl, rfl⟩
    · split
      · exact .inr ⟨_, rfl, rfl⟩
      · exact .inl ⟨_, rfl, by simp [head]⟩
  | _ => exact .inl ⟨_, rfl, by simp [head]⟩

theorem hasNative_of_server (hcustom : ∀ c, p ≠ .custom c) (hchain : ∀ ids, p ≠ .chain ids) :
    p.HasNative settings := by
  rw [HasNative, nativeOutbound_eq_map hcustom]
  rcases entries_or_policy settings hcustom hchain with ⟨entries, hentries, hne⟩ | ⟨e, he, hkind⟩
  · exact .inl ⟨_, by rw [hentries]; rfl, Fields.ofList_ne_nil hne⟩
  · exact .inr ⟨e, by rw [he]; rfl, hkind⟩

/-! ## Configurations -/

theorem IsBlank.nativeOutbound_eq (h : p.IsBlank) : p.nativeOutbound settings = .ok [] := by
  obtain ⟨c, rfl, hcore, hconfig⟩ := h
  rw [nativeOutbound, if_pos hcore, hconfig]
  rfl

theorem IsBlank.not_hasNative (h : p.IsBlank) : ¬ p.HasNative settings := by
  rw [HasNative, h.nativeOutbound_eq]
  simp

theorem IsBlank.isValid (h : p.IsBlank) : p.isValid = true := by
  obtain ⟨c, rfl, hcore, hconfig⟩ := h
  simp [Protocol.isValid, Custom.isInternal, hcore, hconfig]

theorem IsBlank.bridging_eq {nearest vpn : Bool} (h : p.IsBlank) :
    p.bridging nearest vpn = .native := by
  obtain ⟨c, rfl, hcore, -⟩ := h
  simp [bridging, Custom.isInternal, hcore]

/-- A configuration that the core takes as it is is an outbound with the fields that it has. -/
theorem hasNative_or_blank {c : Custom} (hcore : c.core = Custom.internalCore)
    (hvalid : c.configObject?.isSome = true) :
    (custom c).HasNative settings ∨ (custom c).IsBlank := by
  obtain ⟨fields, hfields⟩ := Option.isSome_iff_exists.1 hvalid
  cases fields with
  | nil => exact .inr ⟨c, rfl, hcore, hfields⟩
  | cons kv rest =>
    refine .inl (.inl ⟨kv :: rest, ?_, by simp⟩)
    rw [nativeOutbound, if_pos hcore, hfields]
    rfl

/-- A valid protocol of the core's own has an outbound or is refused, unless it is blank. -/
theorem hasNative_iff {nearest vpn : Bool} (hvalid : p.isValid = true)
    (hfull : p.isFullDocument = false) (hnative : p.bridging nearest vpn = .native) :
    p.HasNative settings ↔ ¬ p.IsBlank := by
  refine ⟨fun h hblank => hblank.not_hasNative h, fun h => ?_⟩
  cases p with
  | custom c =>
    have hinternal : c.isInternal = true := by
      by_contra hext
      rw [bridging, if_neg hext] at hnative
      split at hnative
      · cases hnative
      · split at hnative <;> cases hnative
    have hcore : c.core = Custom.internalCore := by
      rw [isFullDocument] at hfull
      simpa [Custom.isInternal, hfull] using hinternal
    rw [isValid, if_pos hinternal] at hvalid
    exact (hasNative_or_blank hcore hvalid).resolve_right h
  | chain ids => cases hnative
  | _ => exact hasNative_of_server (by simp) (by simp)

/-- An interface of the system is asked for without the privileges for it. -/
def LacksElevation (settings : Settings) (p : Protocol) : Prop :=
  ∃ w, p = .wireguard w ∧ w.systemInterface = true ∧ settings.elevated = false

end Protocol

/-! ## Compiled profiles -/

section Compiled

variable {settings : Settings} {p : Profile} {tag : String} {e : BuildError}

/-- A profile is not compiled for want of privileges, for its parameters, or for want of fields. -/
theorem compileNative_eq_error_iff : compileNative settings p tag = .error e ↔
    p.protocol.LacksElevation settings ∧ e = .needsElevation ∨
      ¬ p.protocol.LacksElevation settings ∧ (p.protocol.nativeOutbound settings = .error e ∨
        p.protocol.nativeOutbound settings = .ok [] ∧ e = .unsupportedOutbound) := by
  unfold compileNative
  extract_lets needsElevation
  have hiff : needsElevation = true ↔ p.protocol.LacksElevation settings := by
    simp only [needsElevation, Protocol.LacksElevation]
    cases p.protocol <;> simp
  by_cases hneeds : needsElevation = true
  · rw [if_pos hneeds]
    simp [hiff.1 hneeds, eq_comm (a := e)]
  · rw [if_neg hneeds]
    have hnot : ¬ p.protocol.LacksElevation settings := fun h => hneeds (hiff.2 h)
    split
    · rename_i hown
      simp [hnot, hown, eq_comm (a := e)]
    · rename_i hown
      simp [hnot, hown, eq_comm (a := e)]
    · rename_i hne hown
      simpa [hnot, hown] using fun h : _ = [] => absurd h hne

/-- A blank configuration is not compiled for want of fields. -/
theorem compileNative_of_blank (h : p.protocol.IsBlank) :
    compileNative settings p tag = .error .unsupportedOutbound := by
  refine compileNative_eq_error_iff.2 (.inr ⟨?_, .inr ⟨h.nativeOutbound_eq, rfl⟩⟩)
  rintro ⟨w, hw, -⟩
  obtain ⟨c, hc, -⟩ := h
  cases hw.symm.trans hc

/-- What has an outbound or is refused for its parameters is compiled, or refused as policy or for
want of privileges. -/
theorem refusal_of_hasNative (h : p.protocol.HasNative settings)
    (he : compileNative settings p tag = .error e) :
    e.kind = .policy ∨ e = .needsElevation ∧ p.protocol.LacksElevation settings := by
  rcases compileNative_eq_error_iff.1 he with ⟨helevation, rfl⟩ | ⟨-, herror | ⟨hnil, rfl⟩⟩
  · exact .inr ⟨rfl, helevation⟩
  · rcases h with ⟨fields, hfields, -⟩ | ⟨e', he', hkind⟩
    · cases herror.symm.trans hfields
    · cases herror.symm.trans he'
      exact .inl hkind
  · rcases h with ⟨fields, hfields, hne⟩ | ⟨e', he', -⟩
    · cases hnil.symm.trans hfields
      exact absurd rfl hne
    · cases hnil.symm.trans he'

end Compiled

/-! ## Batches -/

section Runs

variable {σ : Type} [RuleSetService σ] {setup : Setup} {seq : Nat} {profiles : List Profile}
  {q : Profile} {s : BuildState σ}

theorem not_isFullDocument_of_blank (h : q.protocol.IsBlank) : q.isFullDocument = false := by
  obtain ⟨c, hc, hcore, -⟩ := h
  rw [Profile.isFullDocument, hc]
  exact Custom.not_isInternalFull hcore

omit [RuleSetService σ] in
theorem run_compile_of_blank {tag : String} {nearest : Bool} (h : q.protocol.IsBlank) :
    Build.run (Hop.compile setup.settings q tag nearest) s = (.error .unsupportedOutbound, s) := by
  have hown : Build.run (Build.ofExcept (compileNative setup.settings q tag)) s =
      (.error .unsupportedOutbound, s) :=
    Build.run_ofExcept_eq_error.2 ⟨compileNative_of_blank h, rfl⟩
  rw [Hop.compile, h.bridging_eq]
  simp only [Build.run_map, Hop.compileDirect, Build.run_bind, hown]
  rfl

/-- A blank profile cannot be built as a test, and is refused for what the core cannot do. -/
theorem run_profile_of_blank {group : Group} (h : q.protocol.IsBlank)
    (hgroup : setup.store.group? q.gid = some group) :
    Build.run (Build.profile setup { test := true, seq := seq } q) s =
      (.error .unsupportedOutbound, s) := by
  have hchain : q.isChain = false := by
    obtain ⟨c, hc, -⟩ := h
    simp [Profile.isChain, hc, Protocol.isChain]
  have hhops : setup.store.hops q false = .ok [q] := by
    rw [Store.hops_of_group hgroup, Store.expand_of_not_chain hchain]
    rfl
  have hgenerate : Build.run (Build.generate setup { test := true, seq := seq } q) s =
      (.error .unsupportedOutbound, s) := by
    have hresolved : Build.run (Build.ofExcept (setup.store.hops q (!true))) s = (.ok [q], s) :=
      Build.run_ofExcept_eq_ok.2 ⟨hhops, rfl⟩
    simp only [Build.generate, Build.run_bind, hresolved, Hop.compileAll, Hop.compileFrom,
      run_compile_of_blank h]
  rw [Build.profile, Build.plain_eq_generate (not_isFullDocument_of_blank h), Build.run_bind,
    hgenerate]

/-- No batch gets past a blank profile. -/
theorem exists_error_of_blank (hq : q ∈ profiles) (h : q.protocol.IsBlank) :
    ∃ e, (Build.run (Build.batch setup profiles) s).1 = .error e := by
  have houtcome := Batch.outcome_of_batch setup profiles s
  cases hresult : (Build.run (Build.batch setup profiles) s).1 with
  | error e => exact ⟨e, rfl⟩
  | ok out =>
    rw [hresult] at houtcome
    cases houtcome with
    | completed hpassed =>
      -- all tests were passed, and a blank profile is valid, so it had one
      have hmem : q ∈ profiles.filter fun p => p.protocol.isValid :=
        List.mem_filter.2 ⟨hq, h.isValid⟩
      obtain ⟨t, ht, rfl⟩ : ∃ t ∈ Batch.tests setup profiles s, t.root = q :=
        Batch.exists_test_of_mem hmem
      obtain ⟨s₁, s₂, hr⟩ := Batch.exists_run_of_mem_testsFrom ht
      have hfailure := hpassed t ht
      unfold Batch.Test.failure? at hfailure
      split at hfailure
      · cases hfailure
      · rename_i o ho
        rw [ho] at hr
        obtain ⟨ps, hops, r, hb⟩ := built_of_run (not_isFullDocument_of_blank h) hr
        obtain ⟨group, hgroup, -⟩ := Store.hops_bare_eq_ok.1 hb.resolved
        rw [run_profile_of_blank h hgroup] at hr
        cases hr

end Runs

/-- **The gate lets one protocol through that the builders refuse.** A valid protocol that the core
speaks by itself has an outbound or is refused for its parameters, and its profiles are refused for
nothing else but privileges, unless it is a blank configuration. That one is always refused for what
the core cannot do, and ends every batch. -/
theorem native_of_valid {settings : Settings} {p : Protocol} {nearest : Bool}
    (hvalid : p.isValid = true) (hfull : p.isFullDocument = false)
    (hnative : p.bridging nearest settings.vpn.enabled = .native) :
    (p.HasNative settings ↔ ¬ p.IsBlank) ∧
    (∀ (q : Profile) (tag : String), q.protocol = p →
      ((∀ e, compileNative settings q tag = .error e →
        e.kind = .policy ∨ e = .needsElevation ∧ p.LacksElevation settings) ↔ ¬ p.IsBlank) ∧
      (compileNative settings q tag = .error .unsupportedOutbound ↔ p.IsBlank)) ∧
    ∀ {σ : Type} [RuleSetService σ] (setup : Setup) (profiles : List Profile) (s : BuildState σ),
      (∃ q ∈ profiles, q.protocol = p) → p.IsBlank →
        ∃ e, (Build.run (Build.batch setup profiles) s).1 = .error e := by
  have hiff : p.HasNative settings ↔ ¬ p.IsBlank := Protocol.hasNative_iff hvalid hfull hnative
  refine ⟨hiff, ?_, ?_⟩
  · rintro q tag rfl
    -- what is refused for neither reason is not refused for want of fields
    have hsupported : ∀ e : BuildError, e.kind = .policy ∨
        e = .needsElevation ∧ q.protocol.LacksElevation settings → e ≠ .unsupportedOutbound := by
      rintro e (hkind | ⟨rfl, -⟩) he
      · rw [he] at hkind
        cases hkind
      · cases he
    refine ⟨⟨fun h hblank => hsupported _ (h _ (compileNative_of_blank hblank)) rfl,
      fun h e he => refusal_of_hasNative (hiff.2 h) he⟩, fun h => ?_, compileNative_of_blank⟩
    by_contra hblank
    exact hsupported _ (refusal_of_hasNative (hiff.2 hblank) h) rfl
  · rintro σ _ setup profiles s ⟨q, hq, rfl⟩ hblank
    exact exists_error_of_blank hq hblank

/-- An `internal` configuration without fields. -/
def Setting.blank : Profile :=
  { id := 8
    protocol := .custom {
      core := "internal", config := ⟨.object [], by simp [Tree.Ordered, Tree.OrderedFields]⟩ } }

/-- It is valid, and takes the server down that is in a batch with it. -/
theorem native_of_valid_blank :
    (Setting.blank.protocol.isValid = true ∧ Setting.blank.protocol.isFullDocument = false ∧
      Setting.blank.protocol.bridging true Setting.setup.settings.vpn.enabled = .native) ∧
    ¬ Setting.blank.protocol.HasNative Setting.setup.settings ∧
    (∀ tag, compileNative Setting.setup.settings Setting.blank tag = .error .unsupportedOutbound) ∧
    ∃ e, (Build.run (Build.batch Setting.setup [Setting.native, Setting.blank])
      Setting.start).1 = .error e := by
  have hblank : Setting.blank.protocol.IsBlank := ⟨_, rfl, rfl, rfl⟩
  obtain ⟨hhas, hcompiled, hbatch⟩ :=
    @native_of_valid Setting.setup.settings Setting.blank.protocol true rfl rfl rfl
  exact ⟨⟨rfl, rfl, rfl⟩, fun h => hhas.1 h hblank, fun tag => (hcompiled _ tag rfl).2.2 hblank,
    hbatch Setting.setup _ Setting.start ⟨Setting.blank, by simp, rfl⟩ hblank⟩

end Detour
