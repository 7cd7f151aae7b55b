import Detour.Proofs.Route.Rules
import Mathlib.Data.List.Infix
/-!
# Names that go out directly

What the direct rules of a chain name is handed to the resolver as plain texts, each behind the word
for its kind, and sorted by these words again. A name may look like a word itself. That does no harm,
since no word starts with another one: `classify_directSites` says that what comes out is what the
rules name, kind by kind and in their order.
-/

namespace Detour

theorem Text.contains_iff {pat s : List Char} : contains pat s = true ↔ pat <:+: s := by
  induction s with
  | nil => cases pat <;> simp [contains]
  | cons c s ih => rw [contains, Bool.or_eq_true, List.isPrefixOf_iff_prefix, ih, List.infix_cons_iff]

/-- A rule set is one of addresses exactly if its name says so. -/
theorem RuleSetKind.ofName_eq_ip_iff {name : String} :
    ofName name = ip ↔ "_IP".toList <:+: name.toList := by
  rw [ofName, ← Text.contains_iff]
  split <;> simp_all

namespace RuleChain

/-- The rules that send out directly what they name. -/
def directRules (c : RuleChain) : List Rule :=
  c.rules.filter fun r => r.outboundId = sentinelDirect ∧ r.invert = false

theorem mem_directRules {c : RuleChain} {r : Rule} :
    r ∈ c.directRules ↔ r ∈ c.rules ∧ r.outboundId = sentinelDirect ∧ r.invert = false := by
  simp [directRules]

end RuleChain

namespace Dns.DirectSites

variable {d : DirectSites} {word other v : String}

/-- The names of some rules, behind those that there are. Rule sets that say to be of addresses are
passed over. -/
def withRules (d : DirectSites) (rules : List Rule) : DirectSites where
  ruleSet := d.ruleSet ++
    (rules.flatMap Rule.ruleSet).filter fun name => ¬ "_IP".toList <:+: name.toList
  domain := d.domain ++ rules.flatMap Rule.domain
  domainSuffix := d.domainSuffix ++ rules.flatMap Rule.domainSuffix
  domainKeyword := d.domainKeyword ++ rules.flatMap Rule.domainKeyword
  domainRegex := d.domainRegex ++ rules.flatMap Rule.domainRegex

/-! ## Words -/

/-- The words for the kinds of names, in the order in which a site is tried for them. -/
def words : List String := ["ruleset:", "domain:", "suffix:", "keyword:", "regex:"]

/-- No word starts with another one. -/
theorem words_apart : ∀ word ∈ words, ∀ other ∈ words,
    word.toList <+: other.toList → word = other := by
  decide

@[simp] theorem strip?_append (word v : String) : strip? word (word ++ v) = some v :=
  strip?_eq_some_iff.2 rfl

/-- So only one word stands before a site, whatever is behind it. -/
theorem strip?_append_of_ne (hword : word ∈ words) (hother : other ∈ words) (hne : word ≠ other)
    (v : String) : strip? word (other ++ v) = none := by
  rw [Option.eq_none_iff_forall_ne_some]
  intro rest hrest
  have he := congrArg String.toList (strip?_eq_some_iff.1 hrest)
  rw [String.toList_append, String.toList_append] at he
  rcases List.prefix_or_prefix_of_prefix (List.prefix_append other.toList v.toList)
    (he ▸ List.prefix_append word.toList rest.toList) with hp | hp
  · exact hne (words_apart other hother word hword hp).symm
  · exact hne (words_apart word hword other hother hp)

/-- Names of one kind are taken in one after the other. -/
theorem foldl_add_map (word : String) (put : List String → DirectSites → DirectSites)
    (hnil : ∀ d, put [] d = d) (hcons : ∀ v vs d, put vs (d.add (word ++ v)) = put (v :: vs) d)
    (names : List String) (d : DirectSites) :
    (names.map (word ++ ·)).foldl add d = put names d := by
  induction names generalizing d with
  | nil => exact (hnil d).symm
  | cons v vs ih => rw [List.map_cons, List.foldl_cons, ih, hcons]

/-- What a rule names is taken in kind by kind. -/
theorem foldl_add_sitesOf (d : DirectSites) (r : Rule) :
    (RuleChain.sitesOf r).foldl add d = d.withRules [r] := by
  have hdomain := foldl_add_map "domain:" (fun vs d => { d with domain := d.domain ++ vs })
    (by simp) (by simp (disch := decide) [add, strip?_append_of_ne])
  have hsuffix := foldl_add_map "suffix:"
    (fun vs d => { d with domainSuffix := d.domainSuffix ++ vs })
    (by simp) (by simp (disch := decide) [add, strip?_append_of_ne])
  have hkeyword := foldl_add_map "keyword:"
    (fun vs d => { d with domainKeyword := d.domainKeyword ++ vs })
    (by simp) (by simp (disch := decide) [add, strip?_append_of_ne])
  have hregex := foldl_add_map "regex:"
    (fun vs d => { d with domainRegex := d.domainRegex ++ vs })
    (by simp) (by simp (disch := decide) [add, strip?_append_of_ne])
  have hruleSet := foldl_add_map "ruleset:" (fun vs d => { d with ruleSet := d.ruleSet ++ vs })
    (by simp) (by simp [add])
  have hsite : (r.ruleSet.filter fun s => RuleSetKind.ofName s == .site) =
      r.ruleSet.filter fun name => ¬ "_IP".toList <:+: name.toList := by
    refine List.filter_congr fun name _ => ?_
    rw [Bool.eq_iff_iff, beq_iff_eq, decide_eq_true_eq, ← RuleSetKind.ofName_eq_ip_iff]
    cases RuleSetKind.ofName name <;> simp
  simp only [RuleChain.sitesOf, List.foldl_append, hdomain, hsuffix, hkeyword, hregex, hruleSet,
    hsite, withRules, List.flatMap_singleton]

@[simp] theorem withRules_nil : d.withRules [] = d := by
  simp [withRules]

theorem withRules_cons (r : Rule) (rules : List Rule) :
    (d.withRules [r]).withRules rules = d.withRules (r :: rules) := by
  simp [withRules, List.filter_append]

/-- **The resolver is told what the direct rules name.** Behind the names of servers come those of
the rules, whatever texts they are. -/
theorem classify_directSites (servers : List String) (c : RuleChain) :
    classify servers c.directSites = { domain := servers : DirectSites }.withRules c.directRules := by
  have hfold : ∀ (rules : List Rule) (d : DirectSites),
      (rules.flatMap RuleChain.sitesOf).foldl add d = d.withRules rules := by
    intro rules
    induction rules with
    | nil => exact fun d => withRules_nil.symm
    | cons r rest ih =>
      intro d
      rw [List.flatMap_cons, List.foldl_append, foldl_add_sitesOf, ih, withRules_cons]
  have hrules : c.directRules =
      c.rules.filter fun r => r.outboundId == sentinelDirect && !r.invert := by
    refine List.filter_congr fun r _ => ?_
    rw [Bool.decide_and]
    cases r.invert <;> rfl
  rw [classify, RuleChain.directSites, hfold, hrules]

end Dns.DirectSites

namespace RuleChain

variable {c : RuleChain} {servers : List String} {v : String}

/-- The names that the resolver is told are those of servers and of direct rules. -/
theorem mem_domain_classify : v ∈ (Dns.DirectSites.classify servers c.directSites).domain ↔
    v ∈ servers ∨ ∃ r ∈ c.rules, r.outboundId = sentinelDirect ∧ r.invert = false ∧
      v ∈ r.domain := by
  rw [Dns.DirectSites.classify_directSites]
  simp [Dns.DirectSites.withRules, mem_directRules, and_assoc]

/-- The rule sets that the direct resolver answers for are rule sets of the chain. -/
theorem mem_usedRuleSets_of_classify
    (h : v ∈ (Dns.DirectSites.classify servers c.directSites).ruleSet) : v ∈ c.usedRuleSets := by
  rw [Dns.DirectSites.classify_directSites] at h
  obtain ⟨r, hr, hv⟩ := List.mem_flatMap.1 (List.mem_filter.1 h).1
  exact mem_usedRuleSets.2 ⟨r, (mem_directRules.1 hr).1, hv⟩

end RuleChain

end Detour
