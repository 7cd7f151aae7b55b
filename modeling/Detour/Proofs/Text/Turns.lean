import Detour.Proofs.Text.Marks
/-!
# Filling in marks in turn

What all turns come to, one after the other. Without clashes each turn but the last fills in what it
should (`fillIn_eq_iff_of_unclashing`), so it is up to the last one. With a clash a turn goes wrong, and
that no later one makes up for it is shown by what is left over of percent signs and underscores
(`fillIn_eq_iff_of_unmarked`).
-/

namespace Detour

namespace Bridge

/-! ## All turns -/

/-- The slots filled in one after the other. -/
def fillIn (value : Slot → List Char) (text : List Char) : List Char :=
  Slot.all.foldl (fun text k => Text.replaceAll k.mark (value k) text) text

/-- What holds of a template, and is carried on by each turn, holds of what it comes to. -/
theorem fillIn_induction {value : Slot → List Char} {P : Nat → List Char → Prop} {text : List Char}
    (hzero : P 0 text)
    (hturn : ∀ k text, P k.turn text → P (k.turn + 1) (Text.replaceAll k.mark (value k) text)) :
    P 4 (fillIn value text) :=
  hturn .serverPort _ (hturn .serverAddr _ (hturn .socksPort _ (hturn .mappingPort _ hzero)))

section

variable {value : Slot → List Char} {pieces : List Piece}

theorem atTurn_zero (value : Slot → List Char) : atTurn value 0 = Slot.mark :=
  rfl

theorem atTurn_four (value : Slot → List Char) : atTurn value 4 = value := by
  funext k
  cases k <;> rfl

/-- No name is taken for the slot of the last turn: the only slots that are still there are its own. -/
theorem not_encloses_serverPort : ¬ Encloses .serverPort pieces := by
  induction pieces with
  | nil => exact id
  | cons p rest ih =>
    cases p with
    | text s => exact ih
    | slot a =>
      rintro (⟨hlt, -⟩ | hlater)
      · cases a <;> exact absurd hlt (by decide)
      · exact ih hlater

/-- An address without percent signs does not spill. -/
theorem not_spills_of_notMem (h : '%' ∉ value .serverAddr) : ¬ Spills value pieces := by
  induction pieces with
  | nil => exact id
  | cons p rest ih =>
    cases p with
    | text s => exact ih
    | slot k =>
      rintro (⟨rfl, hstarts⟩ | hlater)
      · exact Text.not_startsIn_of_notMem h hstarts
      · exact ih hlater

variable (hvalue : ∀ a : Slot, a ≠ .serverAddr → IsNumber (value a))
  (hplain : ∀ p ∈ pieces, p.Plain)
include hvalue hplain

theorem strays_iff_encloses_of_ne {k : Slot} (hk : k ≠ .serverPort) :
    Strays (atTurn value k.turn) k pieces ↔ Encloses k pieces := by
  refine strays_iff_encloses (fun a ha => hvalue a ?_) hplain
  rintro rfl
  cases k <;> first | exact hk rfl | exact absurd ha (by decide)

/-- Without clashes, the text has its slots filled in turn by turn, but for the last turn if an address
spills. -/
theorem fillIn_eq_iff_of_unclashing (h : ∀ k, ¬ Encloses k pieces) :
    fillIn value (fill Slot.mark pieces) = fill value pieces ↔ ¬ Spills value pieces := by
  have hrun : fillIn value (fill Slot.mark pieces) = fill (atTurn value 4) pieces ↔
      (3 < 4 → ¬ Spills value pieces) := by
    refine fillIn_induction (P := fun n text =>
      text = fill (atTurn value n) pieces ↔ (3 < n → ¬ Spills value pieces)) (by simp [atTurn_zero])
      fun k text hturn => ?_
    have htext : text = fill (atTurn value k.turn) pieces :=
      hturn.2 fun hlt => absurd hlt (by cases k <;> decide)
    rw [htext]
    by_cases hk : k = .serverPort
    · subst hk
      rw [← strays_iff_spills hvalue hplain]
      refine ⟨fun he _ hstray => ?_, fun hstray => replaceAll_fill (hstray (by decide))⟩
      exact replaceAll_fill_ne (hvalue _ (by decide)) hstray he
    · have hstray := mt (strays_iff_encloses_of_ne hvalue hplain hk).1 (h k)
      refine iff_of_true (replaceAll_fill hstray) fun hlt => absurd hlt ?_
      cases k <;> first | exact absurd rfl hk | decide
  rwa [atTurn_four, imp_iff_right (by decide)] at hrun

end

/-! ## What a clash leaves behind

A slot has one underscore, and that stands between two percent signs. A turn that fills in a slot where
it does not stand takes a percent sign from either side of it. Fewer of them are left then than the
underscores between them ask for, and no later turn makes up for that. -/

/-- Two for each underscore behind an odd number of percent signs, less one for each percent sign. -/
def surplus : Bool → List Char → Int
  | _, [] => 0
  | within, c :: l =>
    if c = '%' then surplus (!within) l - 1
    else if c = '_' ∧ within = true then surplus within l + 2
    else surplus within l

section

variable {value : Slot → List Char} {pieces : List Piece} {k : Slot} {p : Piece}
  {l r new : List Char} {b : Bool} {n : Nat}

/-- A plain text counts for nothing outside of percent signs. -/
theorem surplus_append_of_notMem (h : '%' ∉ l) : surplus false (l ++ r) = surplus false r := by
  induction l with
  | nil => rfl
  | cons c l ih =>
    rw [List.mem_cons, not_or] at h
    simp [surplus, Ne.symm h.1, ih h.2]

theorem surplus_le_append (h : '%' ∉ l) : surplus b r ≤ surplus b (l ++ r) := by
  induction l with
  | nil => exact Int.le_refl _
  | cons c l ih =>
    rw [List.mem_cons, not_or] at h
    have hl := ih h.2
    simp only [List.cons_append, surplus, if_neg (Ne.symm h.1)]
    split <;> omega

@[simp] theorem surplus_name : surplus true (k.name.toList ++ r) = surplus true r + 2 := by
  cases k <;> simp [Slot.name, surplus]

/-- A slot counts for nothing where it stands. -/
@[simp] theorem surplus_mark : surplus false (k.mark ++ r) = surplus false r := by
  simp only [Slot.mark, List.cons_append, List.append_assoc, surplus, if_true, Bool.not_false,
    List.nil_append, surplus_name, Bool.not_true]
  omega

theorem surplus_mark_within : surplus true (k.mark ++ r) = surplus true r - 2 := by
  simp only [Slot.mark, List.cons_append, List.append_assoc, surplus, if_true, Bool.not_true,
    List.nil_append, surplus_append_of_notMem k.percent_notMem_name, Bool.not_false]
  omega

/-- No turn makes it less. -/
theorem surplus_le_replaceAll (h : '%' ∉ new) (b : Bool) (l : List Char) :
    surplus b l ≤ surplus b (Text.replaceAll k.mark new l) := by
  by_cases hstart : k.mark <+: l
  · obtain ⟨rest, hl⟩ := hstart
    have hlt : rest.length < l.length := by
      rw [← hl, List.length_append]
      simp [Slot.mark]
    rw [← hl, Text.replaceAll_append_self k.mark_ne_nil]
    have hrest := surplus_le_replaceAll h b rest
    have hnew := surplus_le_append (b := b) (r := Text.replaceAll k.mark new rest) h
    cases b with
    | false => rw [surplus_mark]; omega
    | true => rw [surplus_mark_within]; omega
  · cases l with
    | nil => exact Int.le_refl _
    | cons c l =>
      have hl := surplus_le_replaceAll h b l
      have hl' := surplus_le_replaceAll h (!b) l
      rw [Text.replaceAll_cons hstart]
      simp only [surplus]
      split
      · omega
      · split <;> omega
termination_by l.length

/-- A piece counts for nothing, filled in or not. -/
theorem surplus_piece (hplain : p.Plain) (hvalue : ∀ a, '%' ∉ value a) :
    surplus false (p.fill (atTurn value n) ++ r) = surplus false r := by
  cases p with
  | text s => exact surplus_append_of_notMem hplain
  | slot a =>
    rw [Piece.fill, atTurn]
    split
    · exact surplus_append_of_notMem (hvalue a)
    · exact surplus_mark

theorem surplus_fill (hplain : ∀ p ∈ pieces, p.Plain) (hvalue : ∀ a, '%' ∉ value a) :
    surplus false (fill (atTurn value n) pieces) = 0 := by
  induction pieces with
  | nil => rfl
  | cons p rest ih =>
    rw [List.forall_mem_cons] at hplain
    rw [fill_cons, surplus_piece hplain.1 hvalue, ih hplain.2]

/-- Where only slots have percent signs, a slot is read elsewhere as the end of another one, its own
name and a further percent sign. -/
theorem exists_of_startsIn_fill (hplain : p.Plain) (hvalue : ∀ a, '%' ∉ value a) (hp : p ≠ .slot k)
    (h : Text.StartsIn k.mark (p.fill (atTurn value k.turn)) r) :
    ∃ a rest, a ≠ k ∧ p.fill (atTurn value k.turn) ++ r = '%' :: (a.name.toList ++ (k.mark ++ rest)) := by
  cases p with
  | text s => exact absurd h (Text.not_startsIn_of_notMem hplain)
  | slot a =>
    have ha : a ≠ k := fun he => hp (by rw [he])
    rw [Piece.fill, atTurn] at h ⊢
    split at h
    · exact absurd h (Text.not_startsIn_of_notMem (hvalue a))
    · obtain ⟨rest, rfl⟩ := (Slot.startsIn_mark_iff ha).1 h
      rw [if_neg ‹_›]
      exact ⟨a, rest, ha, by simp [Slot.mark]⟩

/-- A turn that fills in a slot where it does not stand makes it more than nothing. -/
theorem surplus_pos_of_strays (hplain : ∀ p ∈ pieces, p.Plain) (hvalue : ∀ a, '%' ∉ value a)
    (h : Strays (atTurn value k.turn) k pieces) :
    0 < surplus false (Text.replaceAll k.mark (value k) (fill (atTurn value k.turn) pieces)) := by
  induction pieces with
  | nil => exact h.elim
  | cons p rest ih =>
    have hfill := surplus_fill (n := k.turn) hplain hvalue
    rw [List.forall_mem_cons] at hplain
    rw [fill_cons] at hfill ⊢
    by_cases hstray : p ≠ .slot k ∧
        Text.StartsIn k.mark (p.fill (atTurn value k.turn)) (fill (atTurn value k.turn) rest)
    · -- The occurrence lies within the percent signs of another slot, where it counts for less than
      -- nothing, and what takes its place does not.
      obtain ⟨hp, hstarts⟩ := hstray
      obtain ⟨a, after, ha, htext⟩ := exists_of_startsIn_fill hplain.1 hvalue hp hstarts
      have hafter := surplus_le_replaceAll (k := k) (hvalue k) true after
      have hnew := surplus_le_append (b := true) (r := Text.replaceAll k.mark (value k) after)
        (hvalue k)
      have hname : ¬ Text.StartsIn k.mark ('%' :: a.name.toList) (k.mark ++ after) :=
        Slot.not_startsIn_name ha
      rw [htext] at hfill ⊢
      rw [← List.cons_append, Text.replaceAll_append hname,
        Text.replaceAll_append_self k.mark_ne_nil, List.cons_append]
      simp only [surplus, if_true, Bool.not_false, surplus_name, surplus_mark_within] at hfill ⊢
      omega
    · rw [replaceAll_piece hstray, surplus_piece hplain.1 hvalue]
      exact ih hplain.2 (h.resolve_left hstray)

/-- Without percent signs in the address, a clash leaves something behind, and there is none exactly if
the text has all slots filled in. -/
theorem fillIn_eq_iff_of_unmarked (hvalue : ∀ a : Slot, a ≠ .serverAddr → IsNumber (value a))
    (hplain : ∀ p ∈ pieces, p.Plain) (haddr : '%' ∉ value .serverAddr) :
    fillIn value (fill Slot.mark pieces) = fill value pieces ↔ ∀ k, ¬ Encloses k pieces := by
  have hmark (a : Slot) : '%' ∉ value a := by
    by_cases ha : a = .serverAddr
    · rwa [ha]
    · exact (hvalue a ha).percent_notMem
  -- Up to the first clash the text is that of the pieces, and from there on it has a surplus.
  have hrun : 0 < surplus false (fillIn value (fill Slot.mark pieces)) ∨
      fillIn value (fill Slot.mark pieces) = fill (atTurn value 4) pieces ∧
        ∀ k : Slot, k.turn < 4 → ¬ Encloses k pieces := by
    refine fillIn_induction (P := fun n text => 0 < surplus false text ∨
      text = fill (atTurn value n) pieces ∧ ∀ k : Slot, k.turn < n → ¬ Encloses k pieces)
      (.inr ⟨rfl, fun k hk => absurd hk (Nat.not_lt_zero _)⟩) fun k text hturn => ?_
    obtain hmore | ⟨rfl, hearlier⟩ := hturn
    · exact .inl (Int.lt_of_lt_of_le hmore (surplus_le_replaceAll (hmark k) false text))
    · by_cases hstray : Strays (atTurn value k.turn) k pieces
      · exact .inl (surplus_pos_of_strays hplain hmark hstray)
      · refine .inr ⟨replaceAll_fill hstray, fun a ha => ?_⟩
        by_cases hak : a = k
        · subst hak
          by_cases hlast : a = .serverPort
          · rw [hlast]
            exact not_encloses_serverPort
          · exact mt (strays_iff_encloses_of_ne hvalue hplain hlast).2 hstray
        · have hne : a.turn ≠ k.turn := mt Slot.turn_injective hak
          exact hearlier a (by omega)
  constructor
  · intro he k
    obtain hmore | ⟨-, hall⟩ := hrun
    · have hnone := surplus_fill (n := 4) hplain hmark
      rw [he, ← atTurn_four value, hnone] at hmore
      exact absurd hmore (by decide)
    · exact hall k k.turn_lt
  · intro hall
    exact (fillIn_eq_iff_of_unclashing hvalue hplain hall).2 (not_spills_of_notMem haddr)

end

end Bridge

end Detour
