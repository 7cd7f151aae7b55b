import Detour.Store
import Mathlib.Data.List.Basic
/-!
# The chain for batches and the look-up of chains

A store answers two questions about chains. `defaultChain` is the chain for batches, which is chosen
in the order of the file; `chain?` is the chain with an id, which is the last one that has it. The
active chain of a build is looked up, so a build and a batch route alike only if both answers are the
same. `agree_iff_settled` says when they are: the chain for batches must stand in the file, and no
chain behind it may have its id.
-/

namespace Detour

section Last

variable {α : Type} {p : α → Bool} {xs : List α} {x : α}

/-- The last match is a match behind which there is none. -/
theorem lastWhere?_eq_some_iff :
    lastWhere? p xs = some x ↔
      p x = true ∧ ∃ before after, xs = before ++ x :: after ∧ ∀ y ∈ after, p y = false := by
  rw [lastWhere?, List.find?_eq_some_iff_append]
  refine and_congr_right fun _ => ⟨?_, ?_⟩
  · rintro ⟨after, before, hxs, hnone⟩
    refine ⟨before.reverse, after.reverse, ?_, fun y hy => ?_⟩
    · rw [← List.reverse_reverse xs, hxs]
      simp
    · simpa using hnone y (List.mem_reverse.1 hy)
  · rintro ⟨before, after, rfl, hnone⟩
    exact ⟨after.reverse, before.reverse, by simp, fun y hy => by
      simpa using hnone y (List.mem_reverse.1 hy)⟩

theorem lastWhere?_eq_none_iff : lastWhere? p xs = none ↔ ∀ y ∈ xs, p y = false := by
  simp [lastWhere?]

end Last

namespace RuleChain

variable {id : Int64} {c : RuleChain}

theorem id_of_preset? (h : preset? id = some c) : c.id = id := by
  unfold preset? at h
  split at h
  · rename_i hid
    cases h
    exact hid.symm
  · split at h
    · rename_i hid
      cases h
      exact hid.symm
    · cases h

/-- The chain in the place of one that is not stored is none of the built-in ones of regions. -/
theorem preset?_default : preset? default.id = none := by
  decide

end RuleChain

namespace Database

variable {d : Database} {id : Int64}

/-- The chain for batches is stored, and no chain behind it has its id. -/
def Settled (d : Database) : Prop :=
  ∃ before after, d.chains = before ++ d.defaultChain :: after ∧
    ∀ c ∈ after, c.id ≠ d.defaultChain.id

/-! ## The choice in the order of the file -/

theorem defaultChain_of_stored (hid : d.defaultChainId = some id)
    (hstored : ∃ c ∈ d.chains, c.id = id) : d.defaultChain ∈ d.chains ∧ d.defaultChain.id = id := by
  obtain ⟨c, hc, he⟩ := hstored
  unfold defaultChain
  rw [hid, Option.bind_some]
  cases hfind : d.chains.find? fun c => c.id == id with
  | none => exact absurd (List.find?_eq_none.1 hfind c hc) (by simp [he])
  | some c' => exact ⟨List.mem_of_find?_eq_some hfind, by simpa using List.find?_some hfind⟩

/-- Without a stored chain that has the chosen id, the first one is taken. -/
theorem defaultChain_of_missing (hid : d.defaultChainId = some id)
    (hmissing : ∀ c ∈ d.chains, c.id ≠ id) :
    d.defaultChain = d.chains.head?.getD .default := by
  have hfind : (d.chains.find? fun c => c.id == id) = none := by
    simpa using hmissing
  rw [defaultChain, hid, Option.bind_some, hfind]

theorem defaultChain_of_nil (h : d.chains = []) : d.defaultChain = .default := by
  unfold defaultChain
  rw [h]
  cases d.defaultChainId <;> rfl

/-- The chain for batches is stored as soon as any chain is. -/
theorem defaultChain_mem (h : d.chains ≠ []) : d.defaultChain ∈ d.chains := by
  have hhead : d.chains.head?.getD .default ∈ d.chains := by
    obtain ⟨c, rest, hc⟩ := List.exists_cons_of_ne_nil h
    rw [hc]
    exact List.mem_cons_self
  cases hid : d.defaultChainId with
  | none =>
    rw [defaultChain, hid]
    exact hhead
  | some id =>
    by_cases hstored : ∃ c ∈ d.chains, c.id = id
    · exact (defaultChain_of_stored hid hstored).1
    · rw [defaultChain_of_missing hid fun c hc he => hstored ⟨c, hc, he⟩]
      exact hhead

end Database

namespace Store

variable {d : Database} {id : Int64} {c : RuleChain}

/-! ## The look-up -/

/-- A stored chain hides a built-in one. -/
theorem chain?_of_stored (hstored : ∃ c ∈ d.chains, c.id = id) :
    (ofDatabase d).chain? id = some c ↔
      ∃ before after, d.chains = before ++ c :: after ∧ c.id = id ∧ ∀ c' ∈ after, c'.id ≠ id := by
  have hlast : (ofDatabase d).chain? id = lastWhere? (fun c => c.id == id) d.chains := by
    cases hfound : lastWhere? (fun c : RuleChain => c.id == id) d.chains with
    | none =>
      obtain ⟨c', hc', he⟩ := hstored
      exact absurd (lastWhere?_eq_none_iff.1 hfound c' hc') (by simp [he])
    | some c' => simp [chain?, ofDatabase, hfound]
  rw [hlast, lastWhere?_eq_some_iff]
  constructor
  · rintro ⟨he, before, after, hchains, hnone⟩
    exact ⟨before, after, hchains, by simpa using he, fun c' hc' => by simpa using hnone c' hc'⟩
  · rintro ⟨before, after, hchains, he, hnone⟩
    exact ⟨by simpa using he, before, after, hchains, fun c' hc' => by simpa using hnone c' hc'⟩

/-- Without a stored one, the built-in one is found. -/
theorem chain?_of_missing (hmissing : ∀ c ∈ d.chains, c.id ≠ id) :
    (ofDatabase d).chain? id = RuleChain.preset? id := by
  have hnone : lastWhere? (fun c : RuleChain => c.id == id) d.chains = none :=
    lastWhere?_eq_none_iff.2 fun c hc => by simpa using hmissing c hc
  simp [chain?, ofDatabase, hnone]

/-- The look-up of the chain for batches finds it exactly if it is settled. -/
theorem chain?_defaultChain_iff :
    (ofDatabase d).chain? d.defaultChain.id = some d.defaultChain ↔ d.Settled := by
  by_cases hnil : d.chains = []
  · -- nothing is stored, and no built-in chain of a region has the id
    have hdefault := Database.defaultChain_of_nil hnil
    refine iff_of_false (fun h => ?_) ?_
    · rw [chain?_of_missing (by simp [hnil]), hdefault, RuleChain.preset?_default] at h
      cases h
    · rintro ⟨before, after, hchains, -⟩
      rw [hnil] at hchains
      simp at hchains
  · rw [chain?_of_stored ⟨_, Database.defaultChain_mem hnil, rfl⟩, Database.Settled]
    simp

/-- **When a build and a batch have the same chain.** A look-up of the chain for batches finds it
exactly if it is settled. If an id is chosen for batches and found by the look-up, the two agree
exactly if a stored chain has the id and the chain for batches is settled. With no stored chain at
all, batches have the chain for want of one, and a build does not find it. -/
theorem agree_iff_settled (d : Database) :
    ((ofDatabase d).chain? (ofDatabase d).defaultChain.id = some (ofDatabase d).defaultChain ↔
      d.Settled) ∧
    (∀ id c, d.defaultChainId = some id → (ofDatabase d).chain? id = some c →
      ((ofDatabase d).defaultChain = c ↔ (∃ c' ∈ d.chains, c'.id = id) ∧ d.Settled)) ∧
    (d.chains = [] → (ofDatabase d).defaultChain = .default ∧
      (ofDatabase d).chain? RuleChain.default.id = none) := by
  refine ⟨chain?_defaultChain_iff, fun id c hid hc => ?_, fun hnil => ?_⟩
  · change d.defaultChain = c ↔ _
    by_cases hstored : ∃ c' ∈ d.chains, c'.id = id
    · obtain ⟨-, he⟩ := Database.defaultChain_of_stored hid hstored
      rw [← chain?_defaultChain_iff, he, hc]
      constructor
      · exact fun h => ⟨hstored, by rw [h]⟩
      · exact fun h => (Option.some.inj h.2).symm
    · refine iff_of_false (fun h => ?_) fun h => hstored h.1
      have hmissing : ∀ c' ∈ d.chains, c'.id ≠ id := fun c' hc' he => hstored ⟨c', hc', he⟩
      rw [chain?_of_missing hmissing] at hc
      have hce := RuleChain.id_of_preset? hc
      -- the chain for batches is stored or the one for want of any, and neither is built in
      by_cases hnil : d.chains = []
      · rw [Database.defaultChain_of_nil hnil] at h
        rw [← hce, ← h, RuleChain.preset?_default] at hc
        cases hc
      · exact hmissing _ (Database.defaultChain_mem hnil) (h ▸ hce)
  · refine ⟨Database.defaultChain_of_nil hnil, ?_⟩
    rw [chain?_of_missing (by simp [hnil]), RuleChain.preset?_default]

/-- Without stored chains the chain for batches is not found under its id. -/
theorem agree_iff_settled_empty :
    (ofDatabase {}).chain? (ofDatabase {}).defaultChain.id ≠ some (ofDatabase {}).defaultChain := by
  obtain ⟨-, -, hnone⟩ := agree_iff_settled {}
  obtain ⟨hdefault, hmissing⟩ := hnone rfl
  rw [hdefault, hmissing]
  exact fun h => by cases h

end Store

end Detour
