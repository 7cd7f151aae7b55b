import Detour.Proofs.Probe.Order
import Detour.Session
/-!
# Requests for ports

All steps of a session draw on one counter of ports. `Asks` writes down the requests that a run makes,
each with its answer, in the order in which they are made, also where the run fails in the end. The
counter and nothing else decides how they are answered: `Asks.answers` says so of a build, and
`AsksAlong.answers` of a whole session.
-/

namespace Detour

/-! ## The counter -/

namespace PortCounter

variable {c c₁ c₂ : PortCounter} {k n : Nat} {log more : List (Except BuildError Nat)}

/-- The counter after some requests. -/
def after : Nat → PortCounter → PortCounter
  | 0, c => c
  | n + 1, c => after n c.request.2

/-- What a request is answered with that comes after some others. -/
def answer (c : PortCounter) (k : Nat) : Except BuildError Nat :=
  if 1 ≤ c.next ∧ c.next + k ≤ 65535 then .ok (c.next + k) else .error .portsExhausted

/-- A counter either has no ports, or it gives the next one and goes on to the one behind it. -/
theorem request_cases (c : PortCounter) :
    (c.request = (.error .portsExhausted, c) ∧ ∀ k, c.answer k = .error .portsExhausted) ∨
      (1 ≤ c.next ∧ c.next ≤ 65535 ∧ c.request = (.ok c.next, ⟨c.next + 1⟩)) := by
  by_cases h : c.next = 0 ∨ 65535 < c.next
  · refine .inl ⟨request_of_exhausted h, fun k => ?_⟩
    have hnone : ¬ (1 ≤ c.next ∧ c.next + k ≤ 65535) := by omega
    rw [answer, if_neg hnone]
  · have hlow : 1 ≤ c.next := by omega
    have hhigh : c.next ≤ 65535 := by omega
    exact .inr ⟨hlow, hhigh, request_of_available hlow hhigh⟩

/-- The first answer is that of the next request. -/
theorem fst_request (c : PortCounter) : c.request.1 = c.answer 0 := by
  rcases request_cases c with ⟨hreq, hnone⟩ | ⟨hlow, hhigh, hreq⟩
  · rw [hreq, hnone]
  · rw [hreq, answer, if_pos (by omega)]
    rfl

/-- After a request the answers are those that were still to come. -/
theorem answer_request (c : PortCounter) (k : Nat) : c.request.2.answer k = c.answer (k + 1) := by
  rcases request_cases c with ⟨hreq, hnone⟩ | ⟨hlow, hhigh, hreq⟩
  · rw [hreq, hnone, hnone]
  · rw [hreq, answer, answer]
    have hnext : c.next + 1 + k = c.next + (k + 1) := by omega
    have hiff : (1 ≤ c.next + 1 ∧ c.next + (k + 1) ≤ 65535) ↔
        (1 ≤ c.next ∧ c.next + (k + 1) ≤ 65535) := by omega
    simp only [hnext, hiff]

/-- So a series of requests is answered by counting up. -/
theorem requests_eq_map (n : Nat) (c : PortCounter) : requests n c = (List.range n).map c.answer := by
  induction n generalizing c with
  | zero => rfl
  | succ n ih =>
    have hshift : c.request.2.answer = fun k => c.answer (k + 1) := funext (answer_request c)
    rw [requests, ih, hshift, fst_request, List.range_succ_eq_map, List.map_cons, List.map_map]
    rfl

/-- Two series of requests leave the counter as one. -/
theorem after_add (m n : Nat) (c : PortCounter) : after (m + n) c = after n (after m c) := by
  induction m generalizing c with
  | zero => rw [Nat.zero_add, after]
  | succ m ih => rw [Nat.add_right_comm, after, after, ih]

theorem requests_add (m n : Nat) (c : PortCounter) :
    requests (m + n) c = requests m c ++ requests n (after m c) := by
  induction m generalizing c with
  | zero => rw [Nat.zero_add, requests, after, List.nil_append]
  | succ m ih => rw [Nat.add_right_comm, requests, requests, after, ih, List.cons_append]

/-- The ports from one counter up to another. -/
def between (c c' : PortCounter) : List Nat :=
  List.range' c.next (c'.next - c.next)

/-- From one counter to another and on to a third, the ports follow each other. -/
theorem between_append (h : c.next ≤ c₁.next) (h' : c₁.next ≤ c₂.next) :
    between c c₁ ++ between c₁ c₂ = between c c₂ := by
  have hstart : c₁.next = c.next + (c₁.next - c.next) := by omega
  have hlength : c₁.next - c.next + (c₂.next - c₁.next) = c₂.next - c.next := by omega
  have happend : List.range' c.next (c₁.next - c.next) ++
      List.range' (c.next + (c₁.next - c.next)) (c₂.next - c₁.next) =
        List.range' c.next (c₁.next - c.next + (c₂.next - c₁.next)) := List.range'_append_1
  rwa [← hstart, hlength] at happend

/-- The ports among some answers. -/
def granted (log : List (Except BuildError Nat)) : List Nat :=
  log.filterMap Except.toOption

/-- Some requests, one after the other, are answered so and leave the counter so. -/
def Answers (c : PortCounter) (log : List (Except BuildError Nat)) (c' : PortCounter) : Prop :=
  ∃ n, log = requests n c ∧ c' = after n c

namespace Answers

/-- No request leaves the counter as it is. -/
theorem nil (c : PortCounter) : Answers c [] c := ⟨0, rfl, rfl⟩

theorem request (c : PortCounter) : Answers c [c.request.1] c.request.2 := ⟨1, rfl, rfl⟩

/-- Requests that follow each other are answered one after the other. -/
theorem append (h : Answers c log c₁) (h' : Answers c₁ more c₂) : Answers c (log ++ more) c₂ := by
  obtain ⟨m, rfl, rfl⟩ := h
  obtain ⟨n, rfl, rfl⟩ := h'
  exact ⟨m + n, (requests_add m n c).symm, (after_add m n c).symm⟩

/-- **Each request is answered by its place among them.** -/
theorem getElem?_eq (h : Answers c log c₁) {a : Except BuildError Nat} (hk : log[k]? = some a) :
    a = c.answer k := by
  obtain ⟨n, rfl, rfl⟩ := h
  rw [requests_eq_map, List.getElem?_map, Option.map_eq_some_iff] at hk
  obtain ⟨i, hi, rfl⟩ := hk
  obtain ⟨hlt, he⟩ := List.getElem?_eq_some_iff.1 hi
  rw [List.getElem_range] at he
  rw [he]

/-- What is granted are the numbers that the counter has passed. -/
theorem granted_eq (h : Answers c log c₁) :
    c.next ≤ c₁.next ∧ granted log = between c c₁ := by
  obtain ⟨n, rfl, rfl⟩ := h
  induction n generalizing c with
  | zero => simp [after, requests, granted, between]
  | succ n ih =>
    rw [after, requests]
    rcases request_cases c with ⟨hreq, -⟩ | ⟨-, -, hreq⟩
    · -- a refusal leaves the counter where it is, and adds nothing to what is granted
      rw [hreq]
      exact ih
    · rw [hreq]
      obtain ⟨hle, hgranted⟩ := ih (c := ⟨c.next + 1⟩)
      have hle' : c.next + 1 ≤ (after n ⟨c.next + 1⟩).next := hle
      have hspan : (after n ⟨c.next + 1⟩).next - c.next =
          (after n ⟨c.next + 1⟩).next - (c.next + 1) + 1 := by omega
      refine ⟨Nat.le_of_succ_le hle', ?_⟩
      change _ = List.range' c.next ((after n ⟨c.next + 1⟩).next - c.next)
      rw [between] at hgranted
      rw [hspan, List.range'_succ, ← hgranted]
      rfl

theorem nodup_granted (h : Answers c log c₁) : (granted log).Nodup := by
  rw [h.granted_eq.2]
  exact List.nodup_range'

/-- A port that is granted can be used as one. -/
theorem valid_of_granted (h : Answers c log c₁) {port : Nat} (hport : port ∈ granted log) :
    1 ≤ port ∧ port ≤ 65535 := by
  obtain ⟨a, ha, hok⟩ := List.mem_filterMap.1 hport
  obtain ⟨k, hk⟩ := List.mem_iff_getElem?.1 ha
  rw [h.getElem?_eq hk, answer] at hok
  split at hok
  · cases hok
    omega
  · cases hok

/-- And no request is granted after one that was not. -/
theorem refused_after (h : Answers c log c₁) {j k : Nat} {e : BuildError}
    {a : Except BuildError Nat} (hj : log[j]? = some (.error e)) (hjk : j ≤ k)
    (hk : log[k]? = some a) : a = .error e := by
  have hfirst := h.getElem?_eq hj
  have hlater := h.getElem?_eq hk
  rw [answer] at hfirst
  split at hfirst
  · cases hfirst
  · rw [hlater, answer, if_neg (by omega), hfirst]

end Answers

end PortCounter

/-! ## Requests of builds -/

namespace Build

variable {σ : Type} [RuleSetService σ]

/-- The requests that a run makes, each with its answer. A step that fails is the last one. -/
inductive Asks : {α : Type} → Build σ α → BuildState σ → List (Except BuildError Nat) → Prop
  | pure {α : Type} (a : α) (s : BuildState σ) : Asks (pure a) s []
  | throw {α : Type} (e : BuildError) (s : BuildState σ) : Asks (throw e : Build σ α) s []
  | read (s : BuildState σ) : Asks get s []
  | ensureRuleSet (name : String) (s : BuildState σ) : Asks (ensureRuleSet name) s []
  | onLedger (f : Ledger → Ledger) (s : BuildState σ) : Asks (onLedger f) s []
  | requestPort (s : BuildState σ) : Asks requestPort s [(run requestPort s).1]
  | bind {α β : Type} {x : Build σ α} {f : α → Build σ β} {a : α} {s s₁ : BuildState σ}
      {log more : List (Except BuildError Nat)} : run x s = (.ok a, s₁) → Asks x s log →
      Asks (f a) s₁ more → Asks (x >>= f) s (log ++ more)
  | stop {α β : Type} {x : Build σ α} {f : α → Build σ β} {e : BuildError} {s s₁ : BuildState σ}
      {log : List (Except BuildError Nat)} : run x s = (.error e, s₁) → Asks x s log →
      Asks (x >>= f) s log

/-- **The counter answers the requests of a build.** -/
theorem Asks.answers {α : Type} {b : Build σ α} {s : BuildState σ}
    {log : List (Except BuildError Nat)} (h : Asks b s log) :
    s.ports.Answers log (run b s).2.ports := by
  induction h with
  | pure a s => exact .nil _
  | throw e s => exact .nil _
  | read s => exact .nil _
  | ensureRuleSet name s =>
    have hports : (run (Build.ensureRuleSet name) s).2.ports = s.ports := by
      rw [run_ensureRuleSet]
      split <;> rfl
    rw [hports]
    exact .nil _
  | onLedger f s => exact .nil _
  | requestPort s =>
    rw [run_requestPort]
    exact .request s.ports
  | bind hx _ _ ihx ihf =>
    rw [run_bind, hx]
    rw [hx] at ihx
    exact ihx.append ihf
  | stop hx _ ihx =>
    -- nothing behind a failure is run, so the counter stays as the failure left it
    rw [run_bind, hx]
    rwa [hx] at ihx

/-- From every state, it can be said what a build asks. -/
def Traced {α : Type} (b : Build σ α) : Prop :=
  ∀ s, ∃ log, Asks b s log

/-- A step that fails keeps the next one from asking. -/
theorem Traced.bind {α β : Type} {x : Build σ α} {f : α → Build σ β} (hx : Traced x)
    (hf : ∀ a, Traced (f a)) : Traced (x >>= f) := by
  intro s
  obtain ⟨log, hlog⟩ := hx s
  rcases hr : run x s with ⟨e | a, s₁⟩
  · exact ⟨log, .stop hr hlog⟩
  · obtain ⟨more, hmore⟩ := hf a s₁
    exact ⟨log ++ more, .bind hr hlog hmore⟩

/-- All that builds are composed of can be traced, and so can they. -/
theorem Composed.traced {α : Type} {b : Build σ α} (hb : Composed b) : Traced b := by
  induction hb with
  | pure a => exact fun s => ⟨[], .pure a s⟩
  | throw e => exact fun s => ⟨[], .throw e s⟩
  | bind _ _ ihx ihf => exact ihx.bind ihf
  | requestPort => exact fun s => ⟨_, .requestPort s⟩
  | ensureRuleSet name => exact fun s => ⟨[], .ensureRuleSet name s⟩
  | readRuleSets _ _ ih => exact Traced.bind (fun s => ⟨[], .read s⟩) ih
  | bindCounter id tag => exact fun s => ⟨[], .onLedger _ s⟩

/-- A batch does nothing but build, mark and have rule sets compiled. -/
theorem traced_batch (setup : Setup) (profiles : List Profile) :
    Traced (batch setup profiles : Build σ Batch.Output) := by
  have hitems : ∀ seq,
      Traced (Batch.Item.buildFrom setup seq profiles : Build σ (List Batch.Item)) := by
    -- marking is no step of a composed build, so a batch is taken apart turn by turn
    induction profiles with
    | nil => exact fun _ => (Composed.pure _).traced
    | cons p rest ih =>
      intro seq
      rw [Batch.Item.buildFrom]
      split
      · exact (composed_profile setup _ p).traced.bind fun _ =>
          (composed_ofExcept _).traced.bind fun _ => (ih _).bind fun _ => (Composed.pure _).traced
      · exact Traced.bind (fun s => ⟨[], .onLedger _ s⟩) fun _ =>
          (ih _).bind fun _ => (Composed.pure _).traced
  exact (hitems 1).bind fun _ =>
    (composed_ruleSetEntries _).traced.bind fun _ => (Composed.pure _).traced

end Build

/-! ## Requests of probes -/

namespace Probe

variable {σ : Type} [RuleSetService σ] {setup : Setup}

/-- The requests of a probe are those of the builds of its valid profiles. -/
inductive Asks (setup : Setup) :
    Nat → List Profile → BuildState σ → List (Except BuildError Nat) → Prop
  | nil {seq : Nat} {s : BuildState σ} : Asks setup seq [] s []
  | built {seq : Nat} {p : Profile} {rest : List Profile} {s : BuildState σ}
      {log more : List (Except BuildError Nat)} : p.protocol.isValid = true →
      Build.Asks (Build.profile setup { test := true, seq := seq } p) s log →
      Asks setup (seq + 1) rest
        (Build.run (Build.profile setup { test := true, seq := seq } p) s).2 more →
      Asks setup seq (p :: rest) s (log ++ more)
  | skipped {seq : Nat} {p : Profile} {rest : List Profile} {s : BuildState σ}
      {log : List (Except BuildError Nat)} : p.protocol.isValid = false →
      Asks setup (seq + 1) rest
        { s with ledger := s.ledger.setLatency p.id Account.unavailable } log →
      Asks setup seq (p :: rest) s log

/-- One turn of a probe, and then the others. -/
theorem snd_allFrom_cons (setup : Setup) (seq : Nat) (p : Profile) (rest : List Profile)
    (s : BuildState σ) :
    (allFrom setup seq (p :: rest) s).2 =
      (allFrom setup (seq + 1) rest (if p.protocol.isValid then
          (Build.run (Build.profile setup { test := true, seq := seq } p) s).2
        else { s with ledger := s.ledger.setLatency p.id Account.unavailable })).2 := by
  have hturn : (allFrom setup seq (p :: rest) s).2 =
      (allFrom setup (seq + 1) rest (one setup seq p s).2).2 := rfl
  rw [hturn]
  cases hvalid : p.protocol.isValid with
  | true => rw [one_of_valid (w := (p, seq)) hvalid, if_pos rfl, build]
  | false => rw [one_of_invalid (w := (p, seq)) hvalid, if_neg (by simp)]

/-- The counter answers the requests of a probe, build after build. -/
theorem Asks.answers {seq : Nat} {profiles : List Profile} {s : BuildState σ}
    {log : List (Except BuildError Nat)} (h : Asks setup seq profiles s log) :
    s.ports.Answers log (allFrom setup seq profiles s).2.ports := by
  induction h with
  | nil => exact .nil _
  | built hvalid hbuild _ ih =>
    rw [snd_allFrom_cons, if_pos hvalid]
    exact hbuild.answers.append ih
  | skipped hvalid _ ih =>
    rw [snd_allFrom_cons, if_neg (by simp [hvalid])]
    exact ih

/-- And from every state, it can be said what they are. -/
theorem exists_asks (setup : Setup) (seq : Nat) (profiles : List Profile) (s : BuildState σ) :
    ∃ log, Asks setup seq profiles s log := by
  induction profiles generalizing seq s with
  | nil => exact ⟨[], .nil⟩
  | cons p rest ih =>
    cases hvalid : p.protocol.isValid with
    | true =>
      obtain ⟨log, hlog⟩ :=
        (Build.composed_profile setup { test := true, seq := seq } p).traced s
      obtain ⟨more, hmore⟩ := ih (seq + 1) _
      exact ⟨log ++ more, .built hvalid hlog hmore⟩
    | false =>
      obtain ⟨log, hlog⟩ := ih (seq + 1) _
      exact ⟨log, .skipped hvalid hlog⟩

end Probe

/-! ## Requests of sessions -/

namespace World

variable {w : World} {step : Step} {log : List (Except BuildError Nat)}

/-- The requests of a step. -/
def Asks (w : World) (log : List (Except BuildError Nat)) : Step → Prop
  | .build id request =>
    match w.profile id with
    | .ok p => Build.Asks (Build.profile w.setup request p) w.state log
    | .error _ => log = []
  | .batch ids =>
    match w.select ids with
    | .ok ps => Build.Asks (Build.batch w.setup ps) w.state log
    | .error _ => log = []
  | .probe ids =>
    match w.select ids with
    | .ok ps => Probe.Asks w.setup 1 ps w.state log
    | .error _ => log = []
  | .allocPort => Build.Asks Build.requestPort w.state log
  | _ => log = []

/-- The requests of a session. -/
inductive AsksAlong : World → List Step → List (Except BuildError Nat) → Prop
  | nil {w : World} : AsksAlong w [] []
  | cons {w : World} {step : Step} {rest : List Step} {log more : List (Except BuildError Nat)} :
      w.Asks log step → AsksAlong (w.step step).2 rest more →
      AsksAlong w (step :: rest) (log ++ more)

/-- A build in a session leaves its state behind, whether or not it succeeds. -/
theorem state_run {α : Type} (w : World) (result : α → StepResult)
    (b : Build MemoryRuleSets α) : (w.run result b).2 = { w with state := (Build.run b w.state).2 } := by
  rw [World.run, Build.run]
  rcases b w.state with ⟨_ | a, s⟩ <;> rfl

/-- A build leaves its state behind also where it fails, and nothing without a profile. -/
theorem snd_step_build (w : World) (id : Int64) (request : Request) :
    (w.step (.build id request)).2 =
      match w.profile id with
      | .ok p => { w with state := (Build.run (Build.profile w.setup request p) w.state).2 }
      | .error _ => w := by
  rw [World.step, withProfile]
  cases w.profile id with
  | ok p => exact state_run w .built _
  | error e => rfl

theorem snd_step_batch (w : World) (ids : Option (List Int64)) :
    (w.step (.batch ids)).2 =
      match w.select ids with
      | .ok ps => { w with state := (Build.run (Build.batch w.setup ps) w.state).2 }
      | .error _ => w := by
  rw [World.step, withProfiles]
  cases w.select ids with
  | ok ps => exact state_run w .batched _
  | error e => rfl

theorem snd_step_probe (w : World) (ids : Option (List Int64)) :
    (w.step (.probe ids)).2 =
      match w.select ids with
      | .ok ps => { w with state := (Probe.all w.setup ps w.state).2 }
      | .error _ => w := by
  rw [World.step, withProfiles]
  cases w.select ids <;> rfl

/-- Looking at hops changes nothing. -/
theorem snd_step_resolve (w : World) (id : Int64) (wrappers : Bool) :
    (w.step (.resolve id wrappers)).2 = w := by
  rw [World.step, withProfile]
  cases w.profile id with
  | ok p =>
    dsimp only
    cases w.setup.store.hops p wrappers <;> rfl
  | error e => rfl

/-- What is done to the account of a profile changes nothing but the ledger. -/
theorem snd_withLedger (w : World) (id : Int64) (f : Profile → Ledger → Ledger) :
    (w.withProfile id fun p => (.ok .done, w.onLedger (f p))).2 =
      match w.profile id with
      | .ok p => w.onLedger (f p)
      | .error _ => w := by
  rw [withProfile]
  cases w.profile id <;> rfl

theorem ports_withLedger (w : World) (id : Int64) (f : Profile → Ledger → Ledger) :
    (w.withProfile id fun p => (.ok .done, w.onLedger (f p))).2.state.ports = w.state.ports := by
  rw [snd_withLedger]
  cases w.profile id <;> rfl

/-- A session is its first step, and then the others. -/
theorem steps_cons (w : World) (step : Step) (rest : List Step) :
    w.steps (step :: rest) =
      ((w.step step).1 :: ((w.step step).2.steps rest).1, ((w.step step).2.steps rest).2) := rfl

/-- The counter answers the requests of a step, whatever becomes of the step. -/
theorem Asks.answers (h : w.Asks log step) :
    w.state.ports.Answers log (w.step step).2.state.ports := by
  cases step with
  | build id request =>
    rw [snd_step_build]
    rw [Asks] at h
    cases hp : w.profile id with
    | ok p =>
      rw [hp] at h
      exact h.answers
    | error e =>
      rw [hp] at h
      subst h
      exact .nil _
  | batch ids =>
    rw [snd_step_batch]
    rw [Asks] at h
    cases hps : w.select ids with
    | ok ps =>
      rw [hps] at h
      exact h.answers
    | error e =>
      rw [hps] at h
      subst h
      exact .nil _
  | probe ids =>
    rw [snd_step_probe]
    rw [Asks] at h
    cases hps : w.select ids with
    | ok ps =>
      rw [hps] at h
      exact h.answers
    | error e =>
      rw [hps] at h
      subst h
      exact .nil _
  | allocPort =>
    rw [World.step, state_run]
    exact Build.Asks.answers h
  | resolve id wrappers =>
    subst h
    rw [snd_step_resolve]
    exact .nil _
  | setLatency id ms =>
    subst h
    rw [World.step, ports_withLedger]
    exact .nil _
  | addTraffic id up down =>
    subst h
    rw [World.step, ports_withLedger]
    exact .nil _
  | bindTraffic id tag bound =>
    subst h
    rw [World.step, ports_withLedger]
    exact .nil _
  | insert p | settings s | ruleSets s =>
    subst h
    exact .nil _

/-- Of every step it can be said what it asks. -/
theorem exists_asks (w : World) (step : Step) : ∃ log, w.Asks log step := by
  cases step with
  | build id request =>
    simp only [Asks]
    split
    · exact (Build.composed_profile w.setup request _).traced w.state
    · exact ⟨[], rfl⟩
  | batch ids =>
    simp only [Asks]
    split
    · exact Build.traced_batch w.setup _ w.state
    · exact ⟨[], rfl⟩
  | probe ids =>
    simp only [Asks]
    split
    · exact Probe.exists_asks w.setup 1 _ w.state
    · exact ⟨[], rfl⟩
  | allocPort => exact ⟨_, .requestPort w.state⟩
  | _ => exact ⟨[], rfl⟩

/-- And of every session. -/
theorem exists_asksAlong (w : World) (steps : List Step) : ∃ log, AsksAlong w steps log := by
  induction steps generalizing w with
  | nil => exact ⟨[], .nil⟩
  | cons step rest ih =>
    obtain ⟨log, hlog⟩ := w.exists_asks step
    obtain ⟨more, hmore⟩ := ih (w.step step).2
    exact ⟨log ++ more, .cons hlog hmore⟩

/-- **The counter answers the requests of a session.** -/
theorem AsksAlong.answers {steps : List Step} (h : AsksAlong w steps log) :
    w.state.ports.Answers log (w.steps steps).2.state.ports := by
  induction h with
  | nil => exact .nil _
  | cons hstep _ ih => exact hstep.answers.append ih

end World

end Detour
