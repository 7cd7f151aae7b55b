import Detour.Proofs.Tag
import Detour.Proofs.Text.Replacement
/-!
# Texts with marks

A template is text without percent signs between slots, each of them written as its name between percent
signs. The slots are filled in one after the other, each in the text that the one before has left, so a
turn may find its mark where no slot stands: where the name of a slot stands alone between two other ones
(`Encloses`), and where an address with percent signs of its own reads like the beginning of a mark
(`Spills`). One turn is what this module is about: `replaceAll_fill` and `replaceAll_fill_ne` say what it
comes to, and `strays_iff_encloses` and `strays_iff_spills` where it goes wrong.
-/

namespace Detour

namespace Bridge

/-- The placeholders of a template. -/
inductive Slot where
  | mappingPort
  | socksPort
  | serverAddr
  | serverPort
deriving DecidableEq, Repr

namespace Slot

/-- What a slot is called. -/
def name : Slot → String
  | mappingPort => "mapping_port"
  | socksPort => "socks_port"
  | serverAddr => "server_addr"
  | serverPort => "server_port"

/-- A slot as it is written: its name between percent signs. -/
def mark (k : Slot) : List Char :=
  '%' :: (k.name.toList ++ ['%'])

/-- The turn at which a slot is filled in. -/
def turn : Slot → Nat
  | mappingPort => 0
  | socksPort => 1
  | serverAddr => 2
  | serverPort => 3

/-- The slots in the order of their turns. -/
def all : List Slot := [mappingPort, socksPort, serverAddr, serverPort]

end Slot

/-- A piece of a template. -/
inductive Piece where
  | text (s : String)
  | slot (k : Slot)
deriving DecidableEq, Repr

namespace Piece

/-- A text has no percent signs. -/
def Plain : Piece → Prop
  | text s => '%' ∉ s.toList
  | slot _ => True

/-- What a piece reads with something in the place of each slot. -/
def fill (f : Slot → List Char) : Piece → List Char
  | text s => s.toList
  | slot k => f k

end Piece

/-- What some pieces read with something in the place of each slot. -/
def fill (f : Slot → List Char) (pieces : List Piece) : List Char :=
  pieces.flatMap (Piece.fill f)

/-- A command argument or a configuration, made of texts without percent signs and of slots. -/
structure Template where
  pieces : List Piece
  plain : ∀ p ∈ pieces, p.Plain

/-! ## What can go wrong -/

/-- The text in front of the next slot, with that slot. -/
def nextSlot? : List Piece → Option (List Char × Slot)
  | [] => none
  | .text s :: rest => (nextSlot? rest).map fun next => (s.toList ++ next.1, next.2)
  | .slot k :: _ => some ([], k)

/-- The name of a slot stands alone between two slots that are still there at its turn, the first of
them another one. Together with the percent signs around it, it reads like the slot itself. -/
def Encloses (k : Slot) : List Piece → Prop
  | [] => False
  | .text _ :: rest => Encloses k rest
  | .slot a :: rest =>
    (k.turn < a.turn ∧ ∃ b, nextSlot? rest = some (k.name.toList, b) ∧ k.turn ≤ b.turn) ∨
      Encloses k rest

/-- What stands for a slot once the slots of some turns are filled in. -/
def atTurn (value : Slot → List Char) (n : Nat) (k : Slot) : List Char :=
  if k.turn < n then value k else k.mark

/-- With all other slots filled in, the last one can be read at a place within an address. -/
def Spills (value : Slot → List Char) : List Piece → Prop
  | [] => False
  | .text _ :: rest => Spills value rest
  | .slot k :: rest =>
    (k = .serverAddr ∧
      Text.StartsIn Slot.serverPort.mark (value k) (fill (atTurn value 3) rest)) ∨
      Spills value rest

namespace Template

/-- A template as it is stored. -/
def written (t : Template) : String :=
  String.ofList (fill Slot.mark t.pieces)

/-- A template with all slots filled in at once. -/
def filled (t : Template) (value : Slot → List Char) : String :=
  String.ofList (fill value t.pieces)

/-- The names of slots stand alone in places where they are taken for slots. -/
def Clashes (t : Template) : Prop :=
  ∃ k, Encloses k t.pieces

/-- What a template comes to. Where no names of slots clash, each slot is filled in as it should be
exactly if no address spills. Where the address has no percent sign, exactly if no names clash. -/
structure ComesTo (t : Template) (value : Slot → List Char) (text : String) : Prop where
  unclashing : ¬ t.Clashes → (text = t.filled value ↔ ¬ Spills value t.pieces)
  unmarked : '%' ∉ value .serverAddr → (text = t.filled value ↔ ¬ t.Clashes)

end Template

/-! ## Slots and their values -/

/-- A number as it is written. -/
def IsNumber (l : List Char) : Prop :=
  l ≠ [] ∧ ∀ c ∈ l, c.isDigit = true

theorem isNumber_toString (n : Nat) : IsNumber (toString n).toList := by
  refine ⟨by simp, fun c hc => ?_⟩
  have hdigit : c ∈ Nat.toDigits 10 n := by simpa using hc
  exact Nat.isDigit_of_mem_toDigits (by decide) (by decide) hdigit

section

variable {l r s v w : List Char}

theorem IsNumber.percent_notMem (h : IsNumber l) : '%' ∉ l :=
  fun hmem => absurd (h.2 _ hmem) (by decide)

/-- No text without digits stands where a number does. -/
theorem IsNumber.not_percent_prefix_append (h : IsNumber l) (hw : ∀ c ∈ w, c.isDigit = false) :
    ¬ w ++ ['%'] <+: l ++ r := by
  obtain ⟨d, l, rfl⟩ := List.exists_cons_of_ne_nil h.1
  have hd := h.2 d List.mem_cons_self
  cases w with
  | nil =>
    rintro hstart
    rw [← (List.cons_prefix_cons.1 hstart).1] at hd
    exact absurd hd (by decide)
  | cons c w =>
    rintro hstart
    rw [← (List.cons_prefix_cons.1 hstart).1, hw c List.mem_cons_self] at hd
    exact absurd hd (by decide)

/-- A percent sign behind a text stands behind the plain text that it begins with. -/
theorem percent_prefix_append_iff (h : '%' ∉ s) :
    w ++ ['%'] <+: s ++ r ↔ ∃ v, w = s ++ v ∧ v ++ ['%'] <+: r := by
  induction s generalizing w with
  | nil => simp
  | cons c s ih =>
    rw [List.mem_cons, not_or] at h
    cases w with
    | nil => simp [List.cons_prefix_cons, h.1]
    | cons d w => simp [List.cons_prefix_cons, ih h.2, and_assoc]

end

namespace Slot

variable {k a : Slot} {r : List Char}

theorem mark_ne_nil (k : Slot) : k.mark ≠ [] :=
  List.cons_ne_nil _ _

theorem turn_injective (h : k.turn = a.turn) : k = a := by
  cases k <;> cases a <;> first | rfl | cases h

theorem turn_lt (k : Slot) : k.turn < 4 := by
  cases k <;> decide

/-- A name has neither percent signs nor digits. -/
theorem plain_name (k : Slot) : ∀ c ∈ k.name.toList, c ≠ '%' ∧ c.isDigit = false := by
  cases k <;> simp [name]

theorem percent_notMem_name (k : Slot) : '%' ∉ k.name.toList :=
  fun h => (k.plain_name _ h).1 rfl

theorem name_injective (h : k.name.toList = a.name.toList) : k = a := by
  cases k <;> cases a <;> first | rfl | exact absurd h (by decide)

/-- In front of the percent sign behind a name, no other slot begins. -/
theorem not_startsIn_name (h : a ≠ k) : ¬ Text.StartsIn k.mark ('%' :: a.name.toList) ('%' :: r) := by
  rintro (hstart | hname)
  · rw [mark, List.cons_prefix_cons] at hstart
    obtain ⟨rest, hrest⟩ := hstart.2
    rw [List.append_assoc] at hrest
    exact h (name_injective
      (Text.eq_and_eq_of_first_sep k.percent_notMem_name a.percent_notMem_name hrest).1.symm)
  · exact Text.not_startsIn_of_notMem a.percent_notMem_name hname

/-- So one can only begin with that sign, and go on with what follows. -/
theorem startsIn_mark_iff (h : a ≠ k) :
    Text.StartsIn k.mark a.mark r ↔ k.name.toList ++ ['%'] <+: r := by
  have hmark : a.mark = ('%' :: a.name.toList) ++ ['%'] := rfl
  rw [hmark, Text.startsIn_append, List.singleton_append, or_iff_right (not_startsIn_name h)]
  simp [Text.StartsIn, mark, List.cons_prefix_cons]

end Slot

/-! ## One turn -/

section

variable {value : Slot → List Char} {f : Slot → List Char} {k : Slot} {p : Piece}
  {pieces : List Piece} {r w : List Char} {n : Nat}

@[simp] theorem fill_cons : fill f (p :: pieces) = p.fill f ++ fill f pieces :=
  List.flatMap_cons

@[simp] theorem atTurn_self : atTurn value k.turn k = k.mark := by
  simp [atTurn]

@[simp] theorem atTurn_succ_self : atTurn value (k.turn + 1) k = value k := by
  simp [atTurn]

/-- A turn is about one slot only. -/
theorem fill_atTurn_succ (h : p ≠ .slot k) :
    p.fill (atTurn value (k.turn + 1)) = p.fill (atTurn value k.turn) := by
  cases p with
  | text s => rfl
  | slot a =>
    have ha : a.turn ≠ k.turn := fun he => h (by rw [Slot.turn_injective he])
    have hlt : a.turn < k.turn + 1 ↔ a.turn < k.turn := by omega
    simp [Piece.fill, atTurn, hlt]

/-- A slot can be read where it does not stand. -/
def Strays (f : Slot → List Char) (k : Slot) : List Piece → Prop
  | [] => False
  | p :: rest => (p ≠ .slot k ∧ Text.StartsIn k.mark (p.fill f) (fill f rest)) ∨ Strays f k rest

/-- A piece in which the slot is not read elsewhere is passed, with the slot filled in if it is one. -/
theorem replaceAll_piece
    (h : ¬ (p ≠ .slot k ∧ Text.StartsIn k.mark (p.fill (atTurn value k.turn)) r)) :
    Text.replaceAll k.mark (value k) (p.fill (atTurn value k.turn) ++ r) =
      p.fill (atTurn value (k.turn + 1)) ++ Text.replaceAll k.mark (value k) r := by
  by_cases hp : p = .slot k
  · subst hp
    rw [Piece.fill, Piece.fill, atTurn_self, atTurn_succ_self,
      Text.replaceAll_append_self k.mark_ne_nil]
  · rw [Text.replaceAll_append (not_and.1 h hp), fill_atTurn_succ hp]

/-- A slot that can only be read where it stands is filled in there and nowhere else. -/
theorem replaceAll_fill (h : ¬ Strays (atTurn value k.turn) k pieces) :
    Text.replaceAll k.mark (value k) (fill (atTurn value k.turn) pieces) =
      fill (atTurn value (k.turn + 1)) pieces := by
  induction pieces with
  | nil => rfl
  | cons p rest ih =>
    rw [Strays, not_or] at h
    rw [fill_cons, fill_cons, replaceAll_piece h.1, ih h.2]

/-- One that can be read elsewhere is filled in there too, and a number shows it. -/
theorem replaceAll_fill_ne (hvalue : IsNumber (value k))
    (h : Strays (atTurn value k.turn) k pieces) :
    Text.replaceAll k.mark (value k) (fill (atTurn value k.turn) pieces) ≠
      fill (atTurn value (k.turn + 1)) pieces := by
  induction pieces with
  | nil => exact h.elim
  | cons p rest ih =>
    rw [fill_cons, fill_cons]
    intro he
    by_cases hstray : p ≠ .slot k ∧
        Text.StartsIn k.mark (p.fill (atTurn value k.turn)) (fill (atTurn value k.turn) rest)
    · -- The number comes to stand where the piece has the percent sign of the occurrence.
      obtain ⟨hp, hstarts⟩ := hstray
      obtain ⟨x, y, after, hxy, hy, hmark, hreplaced⟩ :=
        hstarts.exists_replaced k.mark_ne_nil (value k)
      obtain ⟨c, y, rfl⟩ := List.exists_cons_of_ne_nil hy
      obtain ⟨d, v, hv⟩ := List.exists_cons_of_ne_nil hvalue.1
      have hc : c = '%' := (List.cons.inj hmark).1
      rw [fill_atTurn_succ hp, hreplaced, hxy, List.append_assoc, hv] at he
      have hd : d = c := (List.cons.inj (List.append_cancel_left he)).1
      have hmem : '%' ∈ value k := by
        rw [hv, hd, hc]
        exact List.mem_cons_self
      exact hvalue.percent_notMem hmem
    · rw [replaceAll_piece hstray] at he
      exact ih (h.resolve_left hstray) (List.append_cancel_left he)

/-- A text and a percent sign can be read in front of some pieces where the text stands alone in front
of a slot that is still there. -/
theorem percent_prefix_fill_iff (hvalue : ∀ a : Slot, a.turn < n → IsNumber (value a))
    (hplain : ∀ p ∈ pieces, p.Plain) (hw : ∀ c ∈ w, c ≠ '%' ∧ c.isDigit = false) :
    w ++ ['%'] <+: fill (atTurn value n) pieces ↔
      ∃ b, nextSlot? pieces = some (w, b) ∧ n ≤ b.turn := by
  -- Each text in front of the slot takes its part of `w`, so `w` changes along the way.
  induction pieces generalizing w with
  | nil => simp [fill, nextSlot?]
  | cons p rest ih =>
    rw [List.forall_mem_cons] at hplain
    rw [fill_cons]
    cases p with
    | text s =>
      rw [Piece.fill, percent_prefix_append_iff hplain.1]
      constructor
      · rintro ⟨v, rfl, hv⟩
        obtain ⟨b, hb, hn⟩ := (ih hplain.2 fun c hc => hw c (List.mem_append_right _ hc)).1 hv
        exact ⟨b, by simp [nextSlot?, hb], hn⟩
      · rintro ⟨b, hb, hn⟩
        simp only [nextSlot?, Option.map_eq_some_iff, Prod.mk.injEq, Prod.exists] at hb
        obtain ⟨v, b, hnext, rfl, rfl⟩ := hb
        exact ⟨v, rfl, (ih hplain.2 fun c hc => hw c (List.mem_append_right _ hc)).2 ⟨b, hnext, hn⟩⟩
    | slot a =>
      by_cases ha : a.turn < n
      · rw [Piece.fill, atTurn, if_pos ha]
        refine iff_of_false ((hvalue a ha).not_percent_prefix_append fun c hc => (hw c hc).2) ?_
        rintro ⟨b, hb, hn⟩
        cases hb
        omega
      · rw [Piece.fill, atTurn, if_neg ha]
        cases w with
        | nil => simp [nextSlot?, Slot.mark, List.cons_prefix_cons, Nat.not_lt.1 ha]
        | cons c w => simp [nextSlot?, Slot.mark, List.cons_prefix_cons, (hw c List.mem_cons_self).1]

/-- Before the address is filled in, a slot can be read elsewhere only where its name stands alone. -/
theorem strays_iff_encloses (hvalue : ∀ a : Slot, a.turn < k.turn → IsNumber (value a))
    (hplain : ∀ p ∈ pieces, p.Plain) :
    Strays (atTurn value k.turn) k pieces ↔ Encloses k pieces := by
  induction pieces with
  | nil => rfl
  | cons p rest ih =>
    rw [List.forall_mem_cons] at hplain
    rw [Strays, ih hplain.2]
    cases p with
    | text s => simp [Encloses, Piece.fill, Slot.mark, Text.not_startsIn_of_notMem hplain.1]
    | slot a =>
      refine or_congr_left ?_
      rw [Piece.fill]
      rcases Nat.lt_trichotomy a.turn k.turn with ha | ha | ha
      · -- A slot that is filled in has no percent sign left.
        rw [atTurn, if_pos ha]
        refine iff_of_false (fun hstray => ?_) fun hname => absurd hname.1 (by omega)
        exact Text.not_startsIn_of_notMem (hvalue a ha).percent_notMem hstray.2
      · refine iff_of_false (fun hstray => ?_) fun hname => absurd hname.1 (by omega)
        exact hstray.1 (by rw [Slot.turn_injective ha])
      · -- One that is still there lends its second percent sign to a name behind it.
        have hne : a ≠ k := fun he => absurd ha (by rw [he]; omega)
        rw [atTurn, if_neg (by omega), Slot.startsIn_mark_iff hne,
          percent_prefix_fill_iff hvalue hplain.2 k.plain_name]
        simp [hne, ha]

/-- At the last turn, a slot can be read elsewhere only from within an address on. -/
theorem strays_iff_spills (hvalue : ∀ a : Slot, a ≠ .serverAddr → IsNumber (value a))
    (hplain : ∀ p ∈ pieces, p.Plain) :
    Strays (atTurn value Slot.serverPort.turn) .serverPort pieces ↔ Spills value pieces := by
  induction pieces with
  | nil => rfl
  | cons p rest ih =>
    rw [List.forall_mem_cons] at hplain
    rw [Strays, ih hplain.2]
    cases p with
    | text s => simp [Spills, Piece.fill, Slot.mark, Text.not_startsIn_of_notMem hplain.1]
    | slot a =>
      refine or_congr_left ?_
      by_cases ha : a = .serverAddr
      · subst ha
        simp [Piece.fill, atTurn, Slot.turn]
      · refine iff_of_false (fun hstray => ?_) fun hspill => ha hspill.1
        have hlt : a.turn < Slot.serverPort.turn := by
          cases a with
          | serverPort => exact absurd rfl hstray.1
          | _ => decide
        rw [Piece.fill, atTurn, if_pos hlt] at hstray
        exact Text.not_startsIn_of_notMem (hvalue a ha).percent_notMem hstray.2

end

end Bridge

end Detour
