import Detour.Command.Reach
/-!
# What work on files leaves alone

A path leads to one location, whatever the files are, unless following it fails. So writing puts a text
at the location of the path and nowhere else (`Files.write_eq`), where it is read again
(`Files.read_of_write`), and seeing to the folders around it adds folders along the path and changes no
file (`Files.furnished_ensureFolders`). `Files.Written` says all this of the two together.
-/

namespace Detour

namespace Path

variable {p : Path} {l : Location}

/-- Idle pieces are only taken from the end. -/
theorem isPrefix_trimEnd (pieces : List String) : trimEnd pieces <+: pieces := by
  have hsuffix : pieces.reverse.dropWhile isIdle <:+ pieces.reverse := List.dropWhile_suffix _
  simpa [trimEnd] using List.reverse_prefix.2 hsuffix

theorem isPrefix_significant (p : Path) : p.significant <+: p.pieces := by
  unfold significant
  split
  · exact (List.cons_prefix_cons).2 ⟨rfl, isPrefix_trimEnd _⟩
  · exact isPrefix_trimEnd _

/-- The steps of the parent are the first steps of the path. -/
theorem isPrefix_steps_parent (p : Path) : p.parent.steps <+: p.steps :=
  ((isPrefix_significant _).trans ((List.dropLast_prefix _).trans (isPrefix_significant p))).filter _

/-- The trail of a path is what its first steps lead to. -/
theorem mem_trail_iff :
    l ∈ p.trail ↔ ∃ steps, steps <+: p.steps ∧ steps ≠ [] ∧ l = steps.foldl Location.step p.origin := by
  have hlocation : ∀ k, ({ p with pieces := p.steps.take k } : Path).location =
      (p.steps.take k).foldl Location.step p.origin := by
    intro k
    have hsteps : ({ p with pieces := p.steps.take k } : Path).steps = p.steps.take k :=
      List.filter_eq_self.2 fun piece hpiece => (List.mem_filter.1 (List.mem_of_mem_take hpiece)).2
    rw [location, hsteps]
    rfl
  simp only [trail, List.mem_map, List.mem_range, hlocation]
  constructor
  · rintro ⟨k, hk, rfl⟩
    refine ⟨_, List.take_prefix _ _, ?_, rfl⟩
    intro hnil
    have := congrArg List.length hnil
    rw [List.length_take, List.length_nil] at this
    omega
  · rintro ⟨steps, hprefix, hne, rfl⟩
    have := List.length_pos_iff.2 hne
    have := hprefix.length_le
    refine ⟨steps.length - 1, by omega, ?_⟩
    rw [Nat.sub_add_cancel (by omega), ← List.prefix_iff_eq_take.1 hprefix]

theorem location_mem_trail (h : p.steps ≠ []) : p.location ∈ p.trail :=
  mem_trail_iff.2 ⟨p.steps, List.prefix_rfl, h, rfl⟩

/-- The trail of the parent is part of the trail. -/
theorem trail_parent_subset (p : Path) : p.parent.trail ⊆ p.trail := by
  intro l hl
  obtain ⟨steps, hprefix, hne, rfl⟩ := mem_trail_iff.1 hl
  exact mem_trail_iff.2 ⟨steps, hprefix.trans (isPrefix_steps_parent p), hne, rfl⟩

end Path

/-- Where something is that a path leads to. -/
def Place.location : Place → Location
  | file l _ | folder l | vacant l => l

namespace Files

variable {fs fs' fs₁ : Files} {p : Path} {l k : Location} {name text : String} {names : List String}

/-! ## Where paths lead -/

theorem location_placeAt (fs : Files) (l : Location) : (fs.placeAt l).location = l := by
  unfold placeAt
  split
  · rfl
  · split <;> rfl

/-- A name leads one step on, whatever is found there. -/
theorem location_of_lookUp {place : Place} (h : fs.lookUp l name = .ok place) :
    place.location = l.step name := by
  unfold lookUp at h
  split at h
  · cases h
    exact location_placeAt fs _
  · cases h

/-- Walking through folders is taking the steps. -/
theorem walk_eq (h : fs.walk l names = .ok k) : k = names.foldl Location.step l := by
  induction names generalizing l with
  | nil =>
    cases h
    rfl
  | cons name rest ih =>
    rw [walk] at h
    split at h
    · rename_i hfolder
      obtain rfl := location_of_lookUp hfolder
      exact ih h
    all_goals cases h

/-- The last step leads to where the path leads. -/
theorem approach_eq {last : String} (h : fs.approach p = .ok (l, some last)) :
    p.steps ≠ [] ∧ l.step last = p.location := by
  unfold approach at h
  split at h
  · cases h
  split at h
  · cases h
  split at h
  · split at h <;> cases h
  · rename_i hlast
    obtain ⟨first, hsteps⟩ := List.getLast?_eq_some_iff.1 hlast
    cases hwalk : fs.walk p.origin p.steps.dropLast with
    | error e =>
      rw [hwalk] at h
      cases h
    | ok k =>
      rw [hwalk] at h
      cases h
      rw [walk_eq hwalk, Path.location, hsteps, List.dropLast_concat, List.foldl_append]
      exact ⟨by simp, rfl⟩

/-- An entry that is missing is missing where the path leads. -/
theorem location_of_vacant (h : fs.place p = .ok (.vacant l)) :
    p.steps ≠ [] ∧ l = p.location := by
  unfold place at h
  split at h
  · rename_i happroach
    obtain ⟨hne, hlocation⟩ := approach_eq happroach
    exact ⟨hne, (location_of_lookUp h).trans hlocation⟩
  all_goals cases h

/-- All that lets a file be written: the folders before the last step are there, the path does not mean
a folder, and none is where it leads. -/
theorem exists_approach_of_target (h : fs.target p = .ok l) :
    ∃ k last, fs.approach p = .ok (k, some last) ∧ p.endsWithSlash = false ∧
      last.utf8ByteSize ≤ 255 ∧ fs.isFolderAt p.location = false ∧ l = p.location := by
  unfold target at h
  split at h
  · rename_i k last happroach
    have hlocation : k.step last = p.location := (approach_eq happroach).2
    split at h
    · cases h
    rename_i hslash
    refine ⟨k, last, happroach, by simpa using hslash, ?_⟩
    unfold lookUp placeAt at h
    rw [hlocation] at h
    by_cases hlength : last.utf8ByteSize ≤ 255
    · rw [if_pos hlength] at h
      cases hfolder : fs.isFolderAt p.location with
      | true => simp [hfolder] at h
      | false =>
        cases htext : fs.text? p.location <;>
          simp only [hfolder, htext, Bool.false_eq_true, if_false, Except.ok.injEq] at h <;>
          exact ⟨hlength, rfl, h.symm⟩
    · simp [hlength] at h
  all_goals cases h

/-- The only place where a path lets a file be written is where it leads. -/
theorem target_eq (h : fs.target p = .ok l) : l = p.location := by
  obtain ⟨_, _, _, _, _, _, hl⟩ := exists_approach_of_target h
  exact hl

/-- **A file is written where its path leads.** -/
theorem write_eq (h : fs.write p text = .ok fs') : fs' = fs.put p.location text := by
  rw [write] at h
  cases htarget : fs.target p with
  | error e =>
    rw [htarget] at h
    cases h
  | ok l =>
    rw [htarget] at h
    cases h
    rw [target_eq htarget]

/-! ## Reading what was written -/

/-- A folder stays one when a file is written. -/
theorem isFolderAt_put (h : fs.isFolderAt k) : (fs.put l text).isFolderAt k := by
  simp only [isFolderAt, Bool.or_eq_true, List.any_eq_true] at h ⊢
  rcases h with h | ⟨e, he, hbelow⟩
  · exact .inl h
  · right
    by_cases hl : e.1 = l
    · -- what made it a folder is the file that is written
      exact ⟨(l, text), List.mem_cons_self, hl ▸ hbelow⟩
    · exact ⟨e, List.mem_cons_of_mem _ (List.mem_filter.2 ⟨he, by simpa using hl⟩), hbelow⟩

/-- A file that is written is no folder. -/
theorem isFolderAt_put_self (h : fs.isFolderAt l = false) :
    (fs.put l text).isFolderAt l = false := by
  simp only [isFolderAt, Bool.or_eq_false_iff, List.any_eq_false] at h ⊢
  refine ⟨h.1, fun e he => ?_⟩
  rcases List.mem_cons.1 he with rfl | he
  · simp
  · exact h.2 e (List.mem_filter.1 he).1

/-- What a name leads to, if that is a folder. -/
theorem lookUp_eq_folder_iff :
    fs.lookUp l name = .ok (.folder k) ↔
      name.utf8ByteSize ≤ 255 ∧ fs.isFolderAt (l.step name) ∧ k = l.step name := by
  unfold lookUp placeAt
  split
  · rename_i hlength
    split
    · rename_i hfolder
      simp [hlength, hfolder, eq_comm]
    · rename_i hfolder
      split <;> simp [hfolder]
  · rename_i hlength
    simp [hlength]

/-- Steps through folders can still be taken when a file has been written. -/
theorem walk_put {m : Location} (h : fs.walk k names = .ok m) :
    (fs.put l text).walk k names = .ok m := by
  induction names generalizing k with
  | nil => exact h
  | cons name rest ih =>
    rw [walk] at h ⊢
    split at h
    · rename_i hlook
      obtain ⟨hlength, hfolder, rfl⟩ := lookUp_eq_folder_iff.1 hlook
      rw [lookUp_eq_folder_iff.2 ⟨hlength, isFolderAt_put hfolder, rfl⟩]
      exact ih h
    all_goals cases h

theorem approach_put {place : Location × Option String} (h : fs.approach p = .ok place) :
    (fs.put l text).approach p = .ok place := by
  unfold approach at h ⊢
  split at h
  · cases h
  rename_i hnul
  split at h
  · cases h
  rename_i hlength
  rw [if_neg hnul, if_neg hlength]
  split at h
  · exact h
  · cases hwalk : fs.walk p.origin p.steps.dropLast with
    | error e =>
      rw [hwalk] at h
      cases h
    | ok k =>
      rw [hwalk] at h
      rw [walk_put hwalk]
      exact h

/-- **What was written is read again.** -/
theorem read_of_write (h : fs.write p text = .ok fs') : fs'.read p = .ok text := by
  obtain rfl := write_eq h
  cases htarget : fs.target p with
  | error e =>
    rw [write, htarget] at h
    cases h
  | ok l =>
    obtain ⟨k, last, happroach, hslash, hlength, hfolder, rfl⟩ := exists_approach_of_target htarget
    have hplaceAt : (fs.put p.location text).placeAt p.location = .file p.location text := by
      simp [placeAt, isFolderAt_put_self hfolder]
    have hplace : (fs.put p.location text).place p = .ok (.file p.location text) := by
      rw [place, approach_put happroach]
      dsimp only
      rw [lookUp, if_pos hlength, (approach_eq happroach).2, hplaceAt]
    rw [read, hplace]
    simp [hslash]

/-! ## Folders -/

/-- Folders along a path have been added, and nothing else has changed. -/
def Furnished (p : Path) (fs fs' : Files) : Prop :=
  ∃ folders, fs' = { fs with folders := folders ++ fs.folders } ∧ ∀ l ∈ folders, l ∈ p.trail

theorem Furnished.refl (p : Path) (fs : Files) : Furnished p fs fs := ⟨[], rfl, by simp⟩

/-- Folders along one path, and then more along a path that goes on from there. -/
theorem Furnished.trans {q : Path} (h : Furnished q fs fs₁) (h' : Furnished p fs₁ fs')
    (htrail : q.trail ⊆ p.trail) : Furnished p fs fs' := by
  obtain ⟨folders, rfl, hfolders⟩ := h
  obtain ⟨more, rfl, hmore⟩ := h'
  refine ⟨more ++ folders, by simp, fun l hl => ?_⟩
  rcases List.mem_append.1 hl with hl | hl
  · exact hmore l hl
  · exact htrail (hfolders l hl)

/-- Seeing to one folder adds that folder, or nothing. -/
theorem furnished_ensureFolder (h : fs.ensureFolder p = .ok fs') : Furnished p fs fs' := by
  unfold ensureFolder createFolder at h
  cases hplace : fs.place p with
  | error e =>
    simp only [hplace] at h
    split at h
    · cases h
      exact .refl p fs
    · cases h
  | ok place =>
    simp only [hplace] at h
    cases place with
    | vacant l =>
      cases h
      obtain ⟨hne, rfl⟩ := location_of_vacant hplace
      exact ⟨[p.location], rfl, by simpa using Path.location_mem_trail hne⟩
    | file l text | folder l =>
      dsimp only at h
      split at h
      · cases h
        exact .refl p fs
      · cases h

/-- **Seeing to a folder adds folders along its path, and nothing else**, also where it fails. -/
theorem furnished_ensureFolders (fs : Files) (p : Path) :
    Furnished p fs (fs.ensureFolders p).2 := by
  fun_induction ensureFolders fs p with
  | case2 => exact furnished_ensureFolder ‹_›
  | case3 p _ _ _ fs₁ hparent fs₂ hfolder ih =>
    -- the folders around it come first
    rw [hparent] at ih
    exact ih.trans (furnished_ensureFolder hfolder) (Path.trail_parent_subset p)
  | case4 p _ _ _ fs₁ hparent _ _ ih | case5 p _ _ _ _ fs₁ hparent ih =>
    -- and remain where it cannot be added
    rw [hparent] at ih
    exact ih.trans (.refl p fs₁) (Path.trail_parent_subset p)
  | case1 | case6 | case7 => exact .refl _ _

/-! ## Files that are written -/

/-- A text has been written where a path leads. All other files are as they were, and all that may have
been added are folders along the path. -/
structure Written (p : Path) (text : String) (fs fs' : Files) : Prop where
  held : fs'.read p = .ok text
  others : ∀ l, l ≠ p.location → fs'.text? l = fs.text? l
  folders : ∃ added, fs'.folders = added ++ fs.folders ∧ ∀ l ∈ added, l ∈ p.trail
  runnable : fs'.runnable = fs.runnable

/-- What is left behind when a file is written once the folders along its path are there. -/
theorem Furnished.written (h : Furnished p fs fs₁) (hwrite : fs₁.write p text = .ok fs') :
    Written p text fs fs' := by
  obtain ⟨added, rfl, hadded⟩ := h
  have hread := read_of_write hwrite
  obtain rfl := write_eq hwrite
  exact ⟨hread, fun l hl => text?_put_of_ne hl, ⟨added, rfl, hadded⟩, rfl⟩

end Files

end Detour
