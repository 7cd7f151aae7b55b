import Detour.Text.Search
/-!
# Replacing occurrences

`Text.replaceAll` is a scan from left to right. The equations here say what it does at the place where
it stands: an occurrence gives way to the new text, any other character is kept. A text in which no
occurrence starts (`StartsIn`) is passed over as a whole, and where some do, the first one of them is
found.
-/

namespace Detour

namespace Text

variable {pat new l r s : List Char} {c : Char}

theorem replaceFrom_eq_drop (pat new : List Char) (n : Nat) (s : List Char) :
    replaceFrom pat new n s = replaceAll pat new (s.drop n) := by
  induction s generalizing n with
  | nil => cases n <;> rfl
  | cons c s ih =>
    cases n with
    | zero => rfl
    | succ n => exact ih n

@[simp] theorem replaceAll_nil : replaceAll pat new [] = [] := rfl

/-- An occurrence at the front is replaced, and the scan goes on behind it. -/
theorem replaceAll_append_self (h : pat ≠ []) :
    replaceAll pat new (pat ++ r) = new ++ replaceAll pat new r := by
  obtain ⟨p, rest, rfl⟩ := List.exists_cons_of_ne_nil h
  have hstart : (p :: rest).isPrefixOf (p :: (rest ++ r)) = true := by
    rw [List.isPrefixOf_iff_prefix]
    exact List.prefix_append (p :: rest) r
  rw [List.cons_append, replaceAll, replaceFrom, if_pos hstart, replaceFrom_eq_drop]
  simp

/-- A character that no occurrence starts with is kept. -/
theorem replaceAll_cons (h : ¬ pat <+: c :: s) :
    replaceAll pat new (c :: s) = c :: replaceAll pat new s := by
  rw [replaceAll, replaceFrom, if_neg (by rwa [List.isPrefixOf_iff_prefix])]
  rfl

/-- An occurrence of a pattern starts in a text that another one follows. -/
def StartsIn (pat : List Char) : List Char → List Char → Prop
  | [], _ => False
  | c :: l, r => pat <+: c :: (l ++ r) ∨ StartsIn pat l r

instance decidableStartsIn (pat : List Char) : (l r : List Char) → Decidable (StartsIn pat l r)
  | [], _ => inferInstanceAs (Decidable False)
  | c :: l, r =>
    have := decidableStartsIn pat l r
    inferInstanceAs (Decidable (pat <+: c :: (l ++ r) ∨ StartsIn pat l r))

/-- What starts in a text of two halves starts in one of them. -/
theorem startsIn_append : StartsIn pat (l ++ s) r ↔ StartsIn pat l (s ++ r) ∨ StartsIn pat s r := by
  induction l with
  | nil => simp [StartsIn]
  | cons c l ih => simp [StartsIn, ih, or_assoc]

/-- A text in which no occurrence starts is passed over. -/
theorem replaceAll_append (h : ¬ StartsIn pat l r) :
    replaceAll pat new (l ++ r) = l ++ replaceAll pat new r := by
  induction l with
  | nil => rfl
  | cons c l ih =>
    rw [StartsIn, not_or] at h
    rw [List.cons_append, replaceAll_cons h.1, ih h.2, List.cons_append]

/-- A text without the first character of a pattern has no place where an occurrence starts. -/
theorem not_startsIn_of_notMem (h : c ∉ l) : ¬ StartsIn (c :: pat) l r := by
  induction l with
  | nil => exact id
  | cons d l ih =>
    rw [List.mem_cons, not_or] at h
    rintro (hstart | hlater)
    · exact h.1 (List.cons_prefix_cons.1 hstart).1
    · exact ih h.2 hlater

/-- Of the occurrences that start in a text, one is the first. -/
theorem StartsIn.exists_first (h : StartsIn pat l r) :
    ∃ x y rest, l = x ++ y ∧ y ≠ [] ∧ y ++ r = pat ++ rest ∧ ¬ StartsIn pat x (pat ++ rest) := by
  induction l with
  | nil => exact h.elim
  | cons c l ih =>
    by_cases hstart : pat <+: c :: (l ++ r)
    · obtain ⟨rest, hrest⟩ := hstart
      exact ⟨[], c :: l, rest, rfl, by simp, hrest.symm, id⟩
    · obtain ⟨x, y, rest, rfl, hy, hrest, hfirst⟩ := ih (h.resolve_left hstart)
      refine ⟨c :: x, y, rest, rfl, hy, hrest, ?_⟩
      rintro (hx | hx)
      · rw [← hrest, ← List.append_assoc] at hx
        exact hstart hx
      · exact hfirst hx

/-- The first occurrence is replaced, whatever stands around it. -/
theorem StartsIn.exists_replaced (h : StartsIn pat l r) (hpat : pat ≠ []) (new : List Char) :
    ∃ x y rest, l = x ++ y ∧ y ≠ [] ∧ y ++ r = pat ++ rest ∧
      replaceAll pat new (l ++ r) = x ++ (new ++ replaceAll pat new rest) := by
  obtain ⟨x, y, rest, rfl, hy, hrest, hfirst⟩ := h.exists_first
  refine ⟨x, y, rest, rfl, hy, hrest, ?_⟩
  rw [List.append_assoc, hrest, replaceAll_append hfirst, replaceAll_append_self hpat]

end Text

end Detour
