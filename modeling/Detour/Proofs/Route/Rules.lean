import Detour.Route.Dns
import Detour.Proofs.Tree.Fields
/-!
# What rules refer to

A written rule refers to an outbound, by the tag that a map gives to its target, and to rule sets by
their names.
-/

namespace Detour

/-- Collecting first occurrences adds those that are not among the elements seen. -/
theorem foldl_firstOccurrences {α : Type} [DecidableEq α] (seen xs : List α) :
    xs.foldl (fun seen x => if x ∈ seen then seen else seen ++ [x]) seen =
      seen ++ (xs.filter fun x => x ∉ seen).eraseDups := by
  induction xs generalizing seen with
  | nil => simp
  | cons x rest ih =>
    rw [List.foldl_cons, ih]
    by_cases hx : x ∈ seen
    · rw [if_pos hx, List.filter_cons_of_neg (by simpa using hx)]
    · rw [if_neg hx, List.filter_cons_of_pos (by simpa using hx), List.eraseDups_cons,
        List.filter_filter, List.append_assoc, List.singleton_append]
      congr 4
      funext y
      rw [Bool.eq_iff_iff]
      simp [and_comm]

theorem firstOccurrences_eq_eraseDups {α : Type} [DecidableEq α] (xs : List α) :
    firstOccurrences xs = xs.eraseDups := by
  rw [firstOccurrences, foldl_firstOccurrences, List.nil_append, List.filter_eq_self.2 (by simp)]

theorem mem_firstOccurrences {α : Type} [DecidableEq α] {x : α} {xs : List α} :
    x ∈ firstOccurrences xs ↔ x ∈ xs := by
  rw [firstOccurrences_eq_eraseDups, List.mem_eraseDups]

/-- The first occurrences of some values are without repetitions. -/
theorem nodup_firstOccurrences {α : Type} [DecidableEq α] (xs : List α) :
    (firstOccurrences xs).Nodup := by
  have hfold : ∀ seen : List α, seen.Nodup →
      (xs.foldl (fun seen y => if y ∈ seen then seen else seen ++ [y]) seen).Nodup := by
    induction xs with
    | nil => exact fun _ hseen => hseen
    | cons y rest ih =>
      intro seen hseen
      rw [List.foldl_cons]
      refine ih _ ?_
      by_cases hy : y ∈ seen
      · rwa [if_pos hy]
      · rw [if_neg hy]
        refine List.nodup_append.2 ⟨hseen, List.pairwise_singleton _ _, ?_⟩
        rintro a ha b hb rfl
        exact hy (List.mem_singleton.1 hb ▸ ha)
  exact hfold [] List.Pairwise.nil

namespace TagMap

variable {id : Int64} {tag : String} {m n : TagMap}

theorem mem_of_get? (h : get? id m = some tag) : (id, tag) ∈ m := by
  obtain ⟨e, he, rfl⟩ := Option.map_eq_some_iff.1 h
  have hid : e.1 = id := by
    have := List.find?_some he
    simpa using this
  subst hid
  exact List.mem_reverse.1 (List.mem_of_find?_eq_some he)

/-- What stands later in a map decides. -/
theorem get?_append : get? id (m ++ n) = (get? id n).or (get? id m) := by
  simp only [get?, List.reverse_append, List.find?_append]
  cases n.reverse.find? fun e => e.1 == id <;> rfl

/-- Of the fixed targets, all but the chain have reserved tags. -/
theorem get?_sentinels (h : get? id Tag.sentinels = some tag) :
    (id = sentinelProxy ∧ tag = Tag.proxy) ∨ Tag.isReserved tag = true := by
  have hmem := mem_of_get? h
  simp only [Tag.sentinels, List.mem_cons, List.not_mem_nil, or_false, Prod.mk.injEq] at hmem
  rcases hmem with h | ⟨-, rfl⟩ | ⟨-, rfl⟩ | ⟨-, rfl⟩
  · exact .inl h
  · exact .inr rfl
  · exact .inr rfl
  · exact .inr rfl

end TagMap

namespace Rule

variable (r : Rule) (outbound : String)

theorem get?_outbound_toTree : (r.toTree outbound).get? "outbound" = some (.str outbound) := by
  simp [toTree]

theorem get?_ruleSet_toTree :
    (r.toTree outbound).get? "rule_set" =
      if r.ruleSet = [] then none else some (.ofStrings r.ruleSet) := by
  simp [toTree, entries, textLists, portEntry, Fields.get?_set]

end Rule

namespace RuleChain

variable {c : RuleChain} {tags : TagMap} {t : Tree} {name : String}

/-- The written rules are those with a predicate whose target has a tag. -/
theorem mem_routeRules :
    t ∈ c.routeRules tags ↔ ∃ r ∈ c.rules, r.isEmpty = false ∧
      ∃ tag, TagMap.get? r.outboundId tags = some tag ∧ t = r.toTree tag := by
  rw [routeRules, List.mem_filterMap]
  refine exists_congr fun r => and_congr_right fun _ => ?_
  cases hr : r.isEmpty with
  | true => simp
  | false =>
    rw [if_neg (by simp), Option.map_eq_some_iff]
    simp [eq_comm]

theorem mem_usedRuleSets : name ∈ c.usedRuleSets ↔ ∃ r ∈ c.rules, name ∈ r.ruleSet := by
  rw [usedRuleSets, mem_firstOccurrences, List.mem_flatMap]

end RuleChain

namespace Dns.DirectSites

variable {word site v : String}

theorem strip?_eq_some_iff : strip? word site = some v ↔ site = word ++ v := by
  rw [strip?, Option.map_eq_some_iff]
  constructor
  · rintro ⟨r, hr, rfl⟩
    rw [← String.toList_inj, String.toList_append, Text.eq_append_of_afterPrefix? hr,
      String.toList_ofList]
  · rintro rfl
    exact ⟨v.toList, by rw [String.toList_append, Text.afterPrefix?_append], String.ofList_toList⟩

end Dns.DirectSites

end Detour
