import Detour.Proofs.Route.Rules
import Mathlib.Tactic.ByContra
/-!
# Rules that take all traffic

A written rule without a predicate takes everything that reaches it, and the rules behind it are never
asked. So rules without predicates are not written. What is asked for that is the stored rule, and
what counts is the written one: ports and the version of the addresses are stored as texts and are
lost if they are no numbers. `predicated_iff_legible` says that this is the only way to lose the
predicates of a rule.
-/

namespace Detour

namespace Tree

/-- A written rule has a predicate if a key has a value that is neither its target nor its
inversion. -/
def HasPredicate (t : Tree) : Prop :=
  ∃ key, key ≠ "outbound" ∧ key ≠ "invert" ∧ t.get? key ≠ none

end Tree

namespace Rule

variable {r : Rule} {outbound : String}

/-- The written predicates: the entries of a rule apart from its target and its inversion. -/
def predicates (r : Rule) : Fields :=
  Entry.present "ip_version" ((number? UInt8.size r.ipVersion).map fun n => .int (Int.ofNat n)) ++
    Entry.nonEmpty "network" r.network ++ Entry.nonEmpty "protocol" r.protocol ++
    r.textLists.flatMap (fun kv => Entry.nonEmptyList kv.1 kv.2) ++
    portEntry "source_port" r.sourcePort ++ portEntry "port" r.port ++
    Entry.onlyIf r.sourceIpIsPrivate "source_ip_is_private" (.bool true) ++
    Entry.onlyIf r.ipIsPrivate "ip_is_private" (.bool true)

/-- A rule without the predicates that are stored as texts of numbers. -/
def unnumbered (r : Rule) : Rule :=
  { r with ipVersion := "", sourcePort := [], port := [] }

/-- The numbers that can be read from the texts of a rule. -/
def numbers (r : Rule) : List Nat :=
  (number? UInt8.size r.ipVersion).toList ++ ports r.sourcePort ++ ports r.port

/-- A rule is illegible if it has predicates, but only such as are stored as texts of numbers, and no
number can be read from any of them. -/
def Illegible (r : Rule) : Prop :=
  r.isEmpty = false ∧ r.unnumbered.isEmpty = true ∧ r.numbers = []

instance : Decidable r.Illegible :=
  inferInstanceAs (Decidable (_ ∧ _ ∧ _))

theorem entries_eq : r.entries = r.predicates ++ Entry.onlyIf r.invert "invert" (.bool true) := rfl

/-- No predicate stands under the key of the target or of the inversion. -/
theorem lacks_predicates {key : String} (h : key = "outbound" ∨ key = "invert") :
    Fields.Lacks key r.predicates := by
  rcases h with rfl | rfl <;> simp [predicates, textLists, portEntry]

/-- A written rule has a predicate exactly if an entry is written for one. -/
theorem hasPredicate_toTree_iff : (r.toTree outbound).HasPredicate ↔ r.predicates ≠ [] := by
  constructor
  · rintro ⟨key, houtbound, hinvert, hvalue⟩ hnil
    refine hvalue (Fields.get?_ofList_of_lacks ?_)
    simp [entries_eq, hnil, Ne.symm houtbound, Ne.symm hinvert]
  · intro hne
    obtain ⟨kv, rest, hkv⟩ := List.exists_cons_of_ne_nil hne
    have hmem : kv ∈ r.predicates := hkv ▸ List.mem_cons_self
    refine ⟨kv.1, fun he => lacks_predicates (.inl he) kv hmem rfl,
      fun he => lacks_predicates (.inr he) kv hmem rfl, fun hnone => ?_⟩
    have hlacks := Fields.get?_ofList_eq_none_iff.1 hnone
    exact (Fields.lacks_append.1 (Fields.lacks_append.1 hlacks).1).1 kv hmem rfl

/-- A rule is empty if it has none of the predicates that are written as they are, and no texts of
numbers. -/
theorem isEmpty_iff :
    r.isEmpty = true ↔ (r.network = "" ∧ r.protocol = "" ∧ r.sourceIpIsPrivate = false ∧
        r.ipIsPrivate = false ∧ ∀ kv ∈ r.textLists, kv.2 = []) ∧
      r.ipVersion = "" ∧ r.sourcePort = [] ∧ r.port = [] := by
  simp only [isEmpty, Bool.and_eq_true, String.isEmpty_iff, Bool.not_eq_true', List.isEmpty_iff,
    List.all_eq_true]
  constructor
  · rintro ⟨⟨⟨⟨⟨⟨⟨hversion, hnetwork⟩, hprotocol⟩, hsource⟩, hip⟩, hfrom⟩, hport⟩, hlists⟩
    exact ⟨⟨hnetwork, hprotocol, hsource, hip, hlists⟩, hversion, hfrom, hport⟩
  · rintro ⟨⟨hnetwork, hprotocol, hsource, hip, hlists⟩, hversion, hfrom, hport⟩
    exact ⟨⟨⟨⟨⟨⟨⟨hversion, hnetwork⟩, hprotocol⟩, hsource⟩, hip⟩, hfrom⟩, hport⟩, hlists⟩

theorem unnumbered_isEmpty_iff :
    r.unnumbered.isEmpty = true ↔ r.network = "" ∧ r.protocol = "" ∧
      r.sourceIpIsPrivate = false ∧ r.ipIsPrivate = false ∧ ∀ kv ∈ r.textLists, kv.2 = [] :=
  isEmpty_iff.trans (and_iff_left ⟨rfl, rfl, rfl⟩)

/-- No numbers can be read from an empty rule. -/
theorem numbers_of_isEmpty (h : r.isEmpty = true) : r.numbers = [] := by
  obtain ⟨-, hversion, hfrom, hport⟩ := isEmpty_iff.1 h
  rw [numbers, hversion, hfrom, hport]
  decide

/-- Nothing is written for exactly the rules that have no more than texts of numbers, none of which
can be read. -/
theorem predicates_eq_nil_iff :
    r.predicates = [] ↔ r.unnumbered.isEmpty = true ∧ r.numbers = [] := by
  have hversion : Entry.present "ip_version"
      ((number? UInt8.size r.ipVersion).map fun n => .int (Int.ofNat n)) = [] ↔
        number? UInt8.size r.ipVersion = none := by
    cases number? UInt8.size r.ipVersion <;> simp [Entry.present]
  have hlists : (r.textLists.flatMap fun kv => Entry.nonEmptyList kv.1 kv.2) = [] ↔
      ∀ kv ∈ r.textLists, kv.2 = [] := by
    simp [List.flatMap_eq_nil_iff, Entry.nonEmptyList, Entry.onlyIf]
  have honly : ∀ {condition : Bool} {key : String} {value : Tree},
      Entry.onlyIf condition key value = [] ↔ condition = false := by
    intro condition key value
    cases condition <;> simp [Entry.onlyIf]
  simp only [predicates, numbers, portEntry, Entry.nonEmpty, List.append_eq_nil_iff, hversion,
    hlists, honly, Bool.not_eq_false', String.isEmpty_iff, List.isEmpty_iff,
    Option.toList_eq_nil_iff, unnumbered_isEmpty_iff]
  constructor
  · rintro ⟨⟨⟨⟨⟨⟨⟨hversion, hnetwork⟩, hprotocol⟩, hlists⟩, hfrom⟩, hport⟩, hsource⟩, hip⟩
    exact ⟨⟨hnetwork, hprotocol, hsource, hip, hlists⟩, ⟨hversion, hfrom⟩, hport⟩
  · rintro ⟨⟨hnetwork, hprotocol, hsource, hip, hlists⟩, ⟨hversion, hfrom⟩, hport⟩
    exact ⟨⟨⟨⟨⟨⟨⟨hversion, hnetwork⟩, hprotocol⟩, hlists⟩, hfrom⟩, hport⟩, hsource⟩, hip⟩

/-- A written rule is without a predicate if the stored one is empty or illegible. -/
theorem not_hasPredicate_toTree_iff :
    ¬ (r.toTree outbound).HasPredicate ↔ r.isEmpty = true ∨ r.Illegible := by
  rw [hasPredicate_toTree_iff, not_not, predicates_eq_nil_iff, Illegible]
  cases hempty : r.isEmpty with
  | true =>
    have hunnumbered := unnumbered_isEmpty_iff.2 (isEmpty_iff.1 hempty).1
    simp [hunnumbered, numbers_of_isEmpty hempty]
  | false => simp

/-- An illegible rule names its target, and whether it is inverted, and nothing else. -/
theorem toTree_of_illegible (h : r.Illegible) :
    r.toTree outbound =
      .ofFields (Entry.onlyIf r.invert "invert" (.bool true) ++ [("outbound", .str outbound)]) := by
  rw [toTree, entries_eq, predicates_eq_nil_iff.2 h.2, List.nil_append]

end Rule

namespace RuleChain

/-- **When no written rule takes all traffic.** The rules of a chain are written with a predicate each
exactly if none of those that have a tag is illegible. For a single rule, being empty and being
written without a predicate are the same exactly if it is not illegible; what is written for an
illegible one is its target, behind an inversion at most. -/
theorem predicated_iff_legible (c : RuleChain) (tags : TagMap) :
    ((∀ t ∈ c.routeRules tags, t.HasPredicate) ↔
      ∀ r ∈ c.rules, r.Illegible → TagMap.get? r.outboundId tags = none) ∧
    (∀ (r : Rule) (outbound : String),
      (r.isEmpty = true ↔ ¬ (r.toTree outbound).HasPredicate) ↔ ¬ r.Illegible) ∧
    (∀ (r : Rule) (outbound : String), r.Illegible → r.toTree outbound =
      .ofFields (Entry.onlyIf r.invert "invert" (.bool true) ++
        [("outbound", .str outbound)])) := by
  refine ⟨⟨fun hall r hr hillegible => ?_, fun hall t ht => ?_⟩, fun r outbound => ?_,
    fun r outbound hillegible => Rule.toTree_of_illegible hillegible⟩
  · -- an illegible rule with a tag would be among the written ones
    by_contra htag
    obtain ⟨tag, htag⟩ := Option.ne_none_iff_exists'.1 htag
    have hmem : r.toTree tag ∈ c.routeRules tags :=
      mem_routeRules.2 ⟨r, hr, hillegible.1, tag, htag, rfl⟩
    exact Rule.not_hasPredicate_toTree_iff.2 (.inr hillegible) (hall _ hmem)
  · obtain ⟨r, hr, hempty, tag, htag, rfl⟩ := mem_routeRules.1 ht
    by_contra hnone
    rcases Rule.not_hasPredicate_toTree_iff.1 hnone with h | h
    · rw [hempty] at h
      cases h
    · rw [hall r hr h] at htag
      cases htag
  · rw [Rule.not_hasPredicate_toTree_iff]
    constructor
    · intro hiff hillegible
      have hempty := hiff.2 (.inr hillegible)
      rw [hillegible.1] at hempty
      cases hempty
    · intro hlegible
      exact ⟨.inl, fun h => h.resolve_right hlegible⟩

/-- A rule for a port that is no number is written for all traffic. -/
theorem predicated_iff_legible_unread :
    ¬ ∀ t ∈ ({ rules := [{ port := ["x"], outboundId := sentinelProxy }] } : RuleChain).routeRules
      [(sentinelProxy, "proxy")], t.HasPredicate := by
  intro hall
  have hread := (predicated_iff_legible _ _).1.1 hall _ List.mem_cons_self (by decide)
  cases hread

end RuleChain

end Detour
