import Detour.Command.Basic
/-!
# Options that are added to a line of arguments

Arguments are read from left to right, and what one of them means depends on the option before it. So
an option that is added somewhere may do more than add a use: it cuts off the values of the option
before it, is a value itself behind an option that takes such values, and is no option at all behind
two dashes. `exists_withUse` says that nothing of this goes unnoticed: where the line is still accepted,
with the positionals that it had, it is read as before with one more use in it.
-/

namespace Detour

namespace Arguments

variable {known : List CommandOption} {awaiting awaiting' : Option CommandOption}
  {a a' r r' : Arguments} {o : CommandOption} {s : String} {before after rest : List String}

/-! ## What one argument does -/

/-- What an argument is taken for. -/
inductive Action where
  | value (s : String)
  | positional (s : String)
  | use (o : CommandOption) (values : List String)

/-- What an argument does to those before it. -/
def Action.apply : Action → Arguments → Arguments
  | value s, a => a.addValue s
  | positional s, a => a.addPositional s
  | use o values, a => a.addUse o values

/-- The use of an option with the value attached to it, and the option that waits after that. -/
def useOf? (o : CommandOption) (value : Option String) : Option (Option CommandOption × Action) :=
  match o.arity, value with
  | .none, none => some (none, .use o [])
  | .none, some _ => none
  | _, some v => some (none, .use o [v])
  | _, none => some (some o, .use o [])

/-- What an argument is taken for, and the option that waits after it. The arguments before it have no
part in this but for the option that waits. -/
def action? (known : List CommandOption) (awaiting : Option CommandOption) (s : String) :
    Option (Option CommandOption × Action) :=
  if isValue awaiting s then some (awaiting.bind stillAwaiting, .value s)
  else
    match Argument.ofText s with
    | .bare => some (none, .positional s)
    | .named name value => (known.find? fun o => o.name == name).bind fun o => useOf? o value
    | .lettered letter value =>
      (known.find? fun o => o.letter == some letter).bind fun o => useOf? o value
    | .separator => none

/-- Taking an argument is to say what it means, and to do that. -/
theorem take_eq (known : List CommandOption) (awaiting : Option CommandOption) (s : String)
    (a : Arguments) :
    a.take known awaiting s = (action? known awaiting s).map fun q => (q.1, q.2.apply a) := by
  have huse : ∀ o value, a.useWith o value = (useOf? o value).map fun q => (q.1, q.2.apply a) := by
    intro o value
    unfold useWith useOf?
    cases o.arity <;> cases value <;> rfl
  have hbind : ∀ (found : Option CommandOption) (value : Option String),
      (found.bind fun o => a.useWith o value) =
        (found.bind fun o => useOf? o value).map fun q => (q.1, q.2.apply a) := by
    intro found value
    cases found with
    | none => rfl
    | some o => exact huse o value
  unfold take action?
  split
  · rfl
  · cases Argument.ofText s with
    | separator | bare => rfl
    | named name value | lettered letter value => exact hbind _ value

/-- **What an argument can be**: a value of the option that waits, a positional, or the use of a known
option. Only a use without a value makes its option wait, and only an option that takes several values
goes on waiting. -/
theorem action?_cases {act : Action} (h : action? known awaiting s = some (awaiting', act)) :
    (act = .value s ∧ ∃ o, awaiting = some o ∧ awaiting' = stillAwaiting o) ∨
    (act = .positional s ∧ awaiting' = none) ∨
    ∃ o ∈ known, ∃ values, act = .use o values ∧
      (awaiting' = none ∨ awaiting' = some o ∧ values = [] ∧ o.arity ≠ .none) := by
  have huse : ∀ {found : Option CommandOption} {value}, (∀ o ∈ found, o ∈ known) →
      (found.bind fun o => useOf? o value) = some (awaiting', act) →
        ∃ o ∈ known, ∃ values, act = .use o values ∧
          (awaiting' = none ∨ awaiting' = some o ∧ values = [] ∧ o.arity ≠ .none) := by
    intro found value hknown h
    obtain ⟨o, ho, h⟩ := Option.bind_eq_some_iff.1 h
    refine ⟨o, hknown o ho, ?_⟩
    unfold useOf? at h
    split at h <;> cases h
    · exact ⟨_, rfl, .inl rfl⟩
    · exact ⟨_, rfl, .inl rfl⟩
    · exact ⟨_, rfl, .inr ⟨rfl, rfl, by assumption⟩⟩
  unfold action? at h
  split at h
  · rename_i hvalue
    cases h
    cases awaiting with
    | none => cases hvalue
    | some o => exact .inl ⟨rfl, o, rfl, rfl⟩
  · right
    split at h
    · cases h
      exact .inl ⟨rfl, rfl⟩
    · exact .inr (huse (fun _ ho => List.mem_of_find?_eq_some ho) h)
    · exact .inr (huse (fun _ ho => List.mem_of_find?_eq_some ho) h)
    · cases h

/-! ## What some arguments do -/

/-- The option that waits is the last one that is used; it takes values, and has none yet unless it
takes several. -/
def Waiting (awaiting : Option CommandOption) (a : Arguments) : Prop :=
  ∀ o, awaiting = some o → o.arity ≠ .none ∧ ∃ uses values, a.options = uses ++ [(o, values)] ∧
    (o.arity ≠ .several → values = [])

/-- Where no option waits for a value, there is nothing to ask for. -/
theorem waiting_none (a : Arguments) : Waiting none a := fun _ h => by cases h

theorem addValue_eq {uses : List (CommandOption × List String)} {values : List String}
    (h : a.options = uses ++ [(o, values)]) (s : String) :
    a.addValue s = { a with options := uses ++ [(o, values ++ [s])] } := by
  simp [addValue, h]

/-- An action leaves the option at the end that is waiting behind it. -/
theorem Waiting.action (hw : Waiting awaiting a) {act : Action}
    (h : action? known awaiting s = some (awaiting', act)) : Waiting awaiting' (act.apply a) := by
  rcases action?_cases h with ⟨rfl, o, rfl, rfl⟩ | ⟨rfl, rfl⟩ | ⟨o, -, values, rfl, hstill⟩
  · intro o' ho'
    unfold stillAwaiting at ho'
    split at ho'
    · rename_i hseveral
      cases ho'
      obtain ⟨harity, uses, values, huses, -⟩ := hw o rfl
      exact ⟨harity, uses, values ++ [s], by rw [Action.apply, addValue_eq huses],
        fun hne => absurd hseveral hne⟩
    · cases ho'
  · exact waiting_none _
  · rcases hstill with rfl | ⟨rfl, rfl, harity⟩
    · exact waiting_none _
    · intro o' ho'
      cases ho'
      exact ⟨harity, a.options, [], rfl, fun _ => rfl⟩

/-- One argument, and then the others: behind a bare separator all of them are positionals. -/
theorem sort_cons (known : List CommandOption) (awaiting : Option CommandOption) (a : Arguments)
    (s : String) (rest : List String) :
    sort known awaiting a (s :: rest) =
      if !isValue awaiting s && Argument.ofText s == .separator then
        some { a with positionals := a.positionals ++ rest }
      else (action? known awaiting s).bind fun q => sort known q.1 (q.2.apply a) rest := by
  rw [sort, take_eq]
  cases action? known awaiting s <;> rfl

/-- What was read before other arguments stays: the positionals, the options that are used, and the
values of all uses but that of the option that still waits. What is added are uses of known options. -/
structure Extends (known : List CommandOption) (awaiting : Option CommandOption)
    (a r : Arguments) : Prop where
  positionals : a.positionals <+: r.positionals
  used : a.options.map Prod.fst <+: r.options.map Prod.fst
  finished : (if awaiting = none then a.options else a.options.dropLast) <+: r.options
  new : ∀ o ∈ r.options.map Prod.fst, o ∈ a.options.map Prod.fst ∨ o ∈ known

/-- More positionals keep what was read before. -/
theorem extends_positionals (known : List CommandOption) (awaiting : Option CommandOption)
    (a : Arguments) (more : List String) :
    Extends known awaiting a { a with positionals := a.positionals ++ more } := by
  refine ⟨List.prefix_append _ _, List.prefix_rfl, ?_, fun o ho => .inl ho⟩
  split
  · exact List.prefix_rfl
  · exact List.dropLast_prefix _

/-- What extends the result of an action extends what the action started from. -/
theorem Extends.action (hw : Waiting awaiting a) {act : Action}
    (h : action? known awaiting s = some (awaiting', act))
    (hr : Extends known awaiting' (act.apply a) r) : Extends known awaiting a r := by
  obtain ⟨hpositionals, hused, hfinished, hnew⟩ := hr
  rcases action?_cases h with ⟨rfl, o, rfl, -⟩ | ⟨rfl, rfl⟩ | ⟨o, ho, values, rfl, -⟩
  · -- the last use is given a value, and those before it are finished
    obtain ⟨-, uses, values, huses, -⟩ := hw o rfl
    rw [Action.apply, addValue_eq huses] at hpositionals hused hfinished hnew
    refine ⟨hpositionals, by simpa [huses] using hused, ?_, by simpa [huses] using hnew⟩
    have hbefore : uses <+: r.options := by
      split at hfinished
      · exact (List.prefix_append _ _).trans hfinished
      · simpa using hfinished
    simpa [huses] using hbefore
  · -- a positional leaves the uses as they are
    refine ⟨(List.prefix_append _ _).trans hpositionals, hused, ?_, hnew⟩
    rw [if_pos rfl] at hfinished
    split
    · exact hfinished
    · exact (List.dropLast_prefix _).trans hfinished
  · -- another use finishes those before it
    have hall : a.options <+: r.options := by
      split at hfinished
      · exact (List.prefix_append _ _).trans hfinished
      · simpa [Action.apply, addUse] using hfinished
    refine ⟨hpositionals, hall.map _, ?_, fun o' ho' => ?_⟩
    · split
      · exact hall
      · exact (List.dropLast_prefix _).trans hall
    · rcases hnew o' ho' with hold | hknown
      · rw [Action.apply, addUse, List.map_append, List.mem_append, List.map_singleton,
          List.mem_singleton] at hold
        rcases hold with hold | rfl
        · exact .inl hold
        · exact .inr ho
      · exact .inr hknown

/-- Whatever is read, it is added behind what was read already. -/
theorem extends_of_sort {args : List String} (hw : Waiting awaiting a)
    (h : sort known awaiting a args = some r) : Extends known awaiting a r := by
  induction args generalizing awaiting a with
  | nil =>
    cases h
    simpa using extends_positionals known awaiting _ []
  | cons s rest ih =>
    rw [sort_cons] at h
    split at h
    · cases h
      exact extends_positionals known awaiting a rest
    · obtain ⟨⟨awaiting', act⟩, haction, hrest⟩ := Option.bind_eq_some_iff.1 h
      exact .action hw haction (ih (hw.action haction) hrest)

/-! ## One more use -/

/-- Arguments with one more use of an option, behind the first ones. -/
def withUse (n : Nat) (use : CommandOption × List String) (a : Arguments) : Arguments :=
  { a with options := a.options.take n ++ use :: a.options.drop n }

variable {n : Nat} {use : CommandOption × List String}

/-- A use that stands further in front makes no difference to one that is added behind. -/
theorem addUse_withUse (hn : n ≤ a.options.length) (o : CommandOption) (values : List String) :
    (a.withUse n use).addUse o values = (a.addUse o values).withUse n use := by
  simp [withUse, addUse, List.take_append_of_le_length hn, List.drop_append_of_le_length hn]

theorem addValue_withUse (hw : Waiting awaiting a) (ho : awaiting = some o)
    (hn : n < a.options.length) (s : String) :
    (a.withUse n use).addValue s = (a.addValue s).withUse n use := by
  obtain ⟨-, uses, values, huses, -⟩ := hw o ho
  have hn' : n ≤ uses.length := by
    rw [huses, List.length_append, List.length_singleton] at hn
    omega
  have hwith : (a.withUse n use).options = uses.take n ++ use :: uses.drop n ++ [(o, values)] := by
    simp [withUse, huses, List.take_append_of_le_length hn', List.drop_append_of_le_length hn']
  rw [addValue_eq huses, addValue_eq hwith]
  simp [withUse, List.take_append_of_le_length hn', List.drop_append_of_le_length hn']

/-- What is read behind a use does not depend on it. -/
theorem sort_withUse {args : List String} (hw : Waiting awaiting a) (hn : n ≤ a.options.length)
    (hlt : awaiting.isSome = true → n < a.options.length) :
    sort known awaiting (a.withUse n use) args =
      (sort known awaiting a args).map (withUse n use) := by
  induction args generalizing awaiting a with
  | nil => rfl
  | cons s rest ih =>
    rw [sort_cons, sort_cons]
    split
    · rfl
    · cases haction : action? known awaiting s with
      | none => rfl
      | some q =>
        obtain ⟨awaiting', act⟩ := q
        have hnext := hw.action haction
        rw [Option.bind_some, Option.bind_some]
        rcases action?_cases haction with ⟨rfl, o, rfl, -⟩ | ⟨rfl, rfl⟩ | ⟨o, ho, values, rfl, -⟩
        · -- a value goes to the last use, which is behind the one that is added
          have hlength : (a.addValue s).options.length = a.options.length := by
            obtain ⟨-, uses, values, huses, -⟩ := hw o rfl
            simp [addValue_eq huses, huses]
          have hbefore := hlt rfl
          simp only [Action.apply] at hnext ⊢
          rw [addValue_withUse hw rfl hbefore]
          exact ih hnext (by omega) (by omega)
        · exact ih (a := a.addPositional s) hnext hn (by simp)
        · simp only [Action.apply] at hnext ⊢
          rw [addUse_withUse hn]
          refine ih hnext ?_ fun _ => ?_
          · simp only [addUse, List.length_append]
            omega
          · simp only [addUse, List.length_append, List.length_singleton]
            omega

/-- A use at the end is one behind all others. -/
theorem addUse_eq_withUse (a : Arguments) (use : CommandOption × List String) :
    a.addUse use.1 use.2 = a.withUse a.options.length use := by
  simp [addUse, withUse]

/-- Where reading some arguments leads. -/
inductive Reading where
  | refused
  /-- Behind two dashes, where everything is a positional. -/
  | ended (a : Arguments)
  | going (awaiting : Option CommandOption) (a : Arguments)

/-- What is made of the arguments that come next. -/
def Reading.finish (known : List CommandOption) (rest : List String) : Reading → Option Arguments
  | refused => none
  | ended a => some { a with positionals := a.positionals ++ rest }
  | going awaiting a => sort known awaiting a rest

/-- Read some arguments in front of others. -/
def read (known : List CommandOption) :
    Option CommandOption → Arguments → List String → Reading
  | awaiting, a, [] => .going awaiting a
  | awaiting, a, s :: rest =>
    if !isValue awaiting s && Argument.ofText s == .separator then
      .ended { a with positionals := a.positionals ++ rest }
    else
      match action? known awaiting s with
      | some (awaiting, act) => read known awaiting (act.apply a) rest
      | none => .refused

/-- Two halves of a line are read one after the other. -/
theorem sort_append (known : List CommandOption) (awaiting : Option CommandOption) (a : Arguments)
    (before rest : List String) :
    sort known awaiting a (before ++ rest) = (read known awaiting a before).finish known rest := by
  induction before generalizing awaiting a with
  | nil => rfl
  | cons s before ih =>
    rw [List.cons_append, sort_cons, read]
    split
    · simp [Reading.finish]
    · cases action? known awaiting s with
      | none => rfl
      | some q => exact ih q.1 (q.2.apply a)

/-- And behind the first half, the option that waits is the last one. -/
theorem waiting_of_read (hw : Waiting awaiting a)
    (h : read known awaiting a before = .going awaiting' a') : Waiting awaiting' a' := by
  induction before generalizing awaiting a with
  | nil =>
    cases h
    exact hw
  | cons s before ih =>
    rw [read] at h
    split at h
    · cases h
    · split at h
      · rename_i haction
        exact ih (hw.action haction) h
      · cases h

/-- Behind an option that does not take it as a value, an argument is read as behind none. -/
theorem sort_of_not_value (h : isValue awaiting s = false) :
    sort known awaiting a (s :: rest) = sort known none a (s :: rest) := by
  rw [sort_cons, sort_cons, action?, action?, h]
  rfl

/-! ## An option that is added -/

/-- Behind a complete line, no option lacks the value that it asks for. -/
theorem values_of_isComplete (h : a.isComplete = true) {e : CommandOption × List String}
    (he : e ∈ a.options) (harity : e.1.arity ≠ .none) : e.2 ≠ [] := by
  have hall := List.all_eq_true.1 h e he
  rintro hnil
  simp [hnil, harity] at hall

/-- Some arguments spell the use of an option, where all options get the values that they need, unless
they are values of the option before them. -/
def Spells (known : List CommandOption) (words : List String)
    (use : CommandOption × List String) : Prop :=
  ∀ {awaiting a rest r}, (∀ o, awaiting = some o → o.dashed = false) →
    sort known awaiting a (words ++ rest) = some r → r.isComplete = true →
      sort known none (a.addUse use.1 use.2) rest = some r

variable {words : List String}

/-- With as many positionals as before, nothing has been added behind two dashes. -/
theorem exists_going (h : sort known none {} (before ++ after) = some r)
    (h' : sort known none {} (before ++ (words ++ after)) = some r') (hne : words ≠ [])
    (hlength : r'.positionals.length = r.positionals.length) :
    ∃ awaiting a, read known none {} before = .going awaiting a := by
  rw [sort_append] at h h'
  cases hread : read known none {} before with
  | refused =>
    rw [hread] at h
    cases h
  | ended a =>
    rw [hread] at h h'
    cases h
    cases h'
    have := List.length_pos_iff.2 hne
    simp only [List.length_append] at hlength
    omega
  | going awaiting a => exact ⟨awaiting, a, rfl⟩

/-- There is one use more, and no other change. -/
theorem mem_withUse {e : CommandOption × List String} :
    e ∈ (a.withUse n use).options ↔ e = use ∨ e ∈ a.options := by
  rw [withUse, List.mem_append, List.mem_cons]
  constructor
  · rintro (h | h | h)
    · exact .inr (List.mem_of_mem_take h)
    · exact .inl h
    · exact .inr (List.mem_of_mem_drop h)
  · rintro (h | h)
    · exact .inr (.inl h)
    · rw [← List.take_append_drop n a.options, List.mem_append] at h
      exact h.imp_right .inr

/-- **An option that is cut off from its values is missed.** Where the rest of a line is read without
the option that waits for values, and every use has its values all the same, nothing in the rest was a
value; only an option of several values could have gone without, and then what was its value is a
positional. -/
theorem eq_of_cut (hw : Waiting (some o) a) (hdashed : o.dashed = false)
    (h : sort known (some o) a after = some r) (h' : sort known none a after = some r')
    (hvalues : ∀ e ∈ r'.options, e.1.arity ≠ .none → e.2 ≠ [])
    (hseveral : r'.positionals = [] ∨ o.arity ≠ .several) : r' = r := by
  obtain ⟨harity, uses, values, huses, hfresh⟩ := hw o rfl
  have hgrown := extends_of_sort (waiting_none a) h'
  by_cases hmany : o.arity = .several
  · have hnone : r'.positionals = [] := hseveral.resolve_right (not_not_intro hmany)
    -- the next argument is a value, and so a positional where none waits for it
    cases after with
    | nil =>
      cases h
      cases h'
      rfl
    | cons s rest =>
      cases hvalue : isValue (some o) s with
      | false =>
        rw [sort_of_not_value hvalue, h'] at h
        exact Option.some.inj h
      | true =>
        have hbare : Argument.ofText s = .bare := by
          simpa [isValue, hdashed] using hvalue
        have hpositional : sort known none a (s :: rest) =
            sort known none (a.addPositional s) rest := by
          rw [sort_cons, action?, hbare]
          rfl
        rw [hpositional] at h'
        have hmem : s ∈ r'.positionals :=
          (extends_of_sort (waiting_none _) h').positionals.subset
            (List.mem_append_right _ (List.mem_singleton_self s))
        rw [hnone] at hmem
        cases hmem
  · -- an option of one value stays without it, and that is missed
    have hlast : (o, []) ∈ r'.options := by
      refine hgrown.finished.subset ?_
      rw [if_pos rfl, huses, hfresh hmany]
      simp
    exact absurd rfl (hvalues _ hlast harity)

/-- **An option that is added is one more use, and nothing else changes.** It must not stand where the
option before it would take it as a value; that a line with it is accepted, with the positionals that
it had, is enough for the rest. -/
theorem exists_withUse (hspells : Spells known words use) (hne : words ≠ [])
    (h : sort known none {} (before ++ after) = some r)
    (h' : sort known none {} (before ++ (words ++ after)) = some r')
    (hcomplete : r'.isComplete = true) (hdashed : ∀ e ∈ r.options, e.1.dashed = false)
    (hlength : r'.positionals.length = r.positionals.length)
    (hseveral : r'.positionals = [] ∨ ∀ o ∈ known, o.arity ≠ .several) :
    ∃ n, r' = r.withUse n use := by
  obtain ⟨awaiting, a, hread⟩ := exists_going h h' hne hlength
  have hw := waiting_of_read (waiting_none {}) hread
  have hnew := (extends_of_sort (waiting_none {}) h).new
  rw [sort_append, hread, Reading.finish] at h h'
  -- the option that waits is among those of the line
  have hused : ∀ o, awaiting = some o → o.dashed = false ∧ o ∈ known := by
    intro o ho
    obtain ⟨-, uses, values, huses, -⟩ := hw o ho
    have hmem : o ∈ r.options.map Prod.fst := by
      refine (extends_of_sort hw h).used.subset ?_
      rw [huses]
      simp
    obtain ⟨e, he, rfl⟩ := List.mem_map.1 hmem
    exact ⟨hdashed e he, (hnew e.1 hmem).resolve_left (by simp)⟩
  -- with the added option in between, the rest is read as behind no option
  replace h' := hspells (fun o ho => (hused o ho).1) h' hcomplete
  rw [addUse_eq_withUse,
    sort_withUse (waiting_none a) (Nat.le_refl _) (fun h => by cases h)] at h'
  obtain ⟨r₀, h₀, rfl⟩ := Option.map_eq_some_iff.1 h'
  refine ⟨a.options.length, congrArg _ ?_⟩
  cases awaiting with
  | none =>
    rw [h₀] at h
    exact Option.some.inj h
  | some o =>
    obtain ⟨hundashed, hknown⟩ := hused o rfl
    exact eq_of_cut hw hundashed h h₀
      (fun e he => values_of_isComplete hcomplete (mem_withUse.2 (.inr he)))
      (hseveral.imp_right fun hall => hall o hknown)

/-- An option that may not be repeated is used nowhere else. -/
theorem ne_of_isComplete (h : (a.withUse n use).isComplete = true)
    (hrepeatable : use.1.repeatable = false) {e : CommandOption × List String}
    (he : e ∈ a.options) : e.1 ≠ use.1 := by
  intro heq
  have hcount := List.all_eq_true.1 h use (mem_withUse.2 (.inl rfl))
  simp only [hrepeatable, Bool.false_or, Bool.and_eq_true, beq_iff_eq] at hcount
  replace hcount := hcount.2
  rw [withUse, List.filter_append, List.filter_cons_of_pos (by simp), List.length_append,
    List.length_cons] at hcount
  have hnone : a.options.filter (fun e => e.1 == use.1) = [] := by
    rw [← List.take_append_drop n a.options, List.filter_append]
    refine List.eq_nil_of_length_eq_zero ?_
    rw [List.length_append]
    omega
  exact List.filter_eq_nil_iff.1 hnone e he (beq_iff_eq.2 heq)

/-! ## Ways to spell an option -/

/-- A dash starts another option where the waiting one takes no dashed values. -/
theorem isValue_of_undashed (h : ∀ o, awaiting = some o → o.dashed = false)
    (hs : Argument.ofText s ≠ .bare) : isValue awaiting s = false := by
  cases awaiting with
  | none => rfl
  | some o => simp [isValue, h o rfl, hs]

/-- The name of an option that takes no value spells it. -/
theorem spells_flag {name : String} (hs : Argument.ofText s = .named name none)
    (hknown : ∀ o' ∈ known.find? fun o => o.name == name, o' = o) (harity : o.arity = .none) :
    Spells known [s] (o, []) := by
  intro awaiting a rest r hundashed h _
  have hvalue : isValue awaiting s = false := isValue_of_undashed hundashed (by simp [hs])
  rw [List.singleton_append, sort_cons, action?, hvalue, hs] at h
  cases hfind : known.find? fun o => o.name == name with
  | none => simp [hfind] at h
  | some o' =>
    cases hknown o' hfind
    simpa [hfind, useOf?, harity, Action.apply] using h

/-- The letter of an option that takes one value spells it, with the next argument. -/
theorem spells_lettered {letter : Char} {v : String}
    (hs : Argument.ofText s = .lettered letter none)
    (hknown : ∀ o' ∈ known.find? fun o => o.letter == some letter, o' = o)
    (harity : o.arity = .one) : Spells known [s, v] (o, [v]) := by
  intro awaiting a rest r hundashed h hcomplete
  have hvalue : isValue awaiting s = false := isValue_of_undashed hundashed (by simp [hs])
  rw [List.cons_append, List.singleton_append, sort_cons, action?, hvalue, hs] at h
  cases hfind : known.find? fun o => o.letter == some letter with
  | none => simp [hfind] at h
  | some o' =>
    cases hknown o' hfind
    replace h : sort known (some o) (a.addUse o []) (v :: rest) = some r := by
      simpa [hfind, useOf?, harity, Action.apply] using h
    cases hv : isValue (some o) v with
    | false =>
      -- no value comes, and none will
      rw [sort_of_not_value hv] at h
      have hmem : (o, []) ∈ r.options := by
        refine (extends_of_sort (waiting_none _) h).finished.subset ?_
        rw [if_pos rfl, addUse]
        exact List.mem_append_right _ (List.mem_singleton_self _)
      exact absurd rfl (values_of_isComplete hcomplete hmem (by simp [harity]))
    | true =>
      rw [sort_cons, action?, hv] at h
      simpa [stillAwaiting, harity, Action.apply, addValue, addUse] using h

/-! ## Looking values up beside one more use -/

section Values

variable {name : String}

/-- The values of one more use come in between the others. -/
theorem exists_values_withUse (a : Arguments) (n : Nat) (use : CommandOption × List String)
    (name : String) :
    ∃ first last, a.values name = first ++ last ∧
      (a.withUse n use).values name =
        first ++ (if use.1.name = name then use.2 else []) ++ last := by
  refine ⟨({ a with options := a.options.take n } : Arguments).values name,
    ({ a with options := a.options.drop n } : Arguments).values name, ?_, ?_⟩
  · simp only [values]
    rw [← List.flatMap_append, ← List.filter_append, List.take_append_drop]
  · by_cases h : use.1.name = name <;> simp [values, withUse, h]

/-- Other options have the values that they had. -/
theorem values_withUse_of_ne (h : use.1.name ≠ name) :
    (a.withUse n use).values name = a.values name := by
  obtain ⟨first, last, hall, hwith⟩ := exists_values_withUse a n use name
  rw [hwith, if_neg h, List.append_nil, hall]

/-- An option that was not used has those of the use. -/
theorem values_withUse_self (h : a.values use.1.name = []) :
    (a.withUse n use).values use.1.name = use.2 := by
  obtain ⟨first, last, hall, hwith⟩ := exists_values_withUse a n use use.1.name
  obtain ⟨rfl, rfl⟩ := List.append_eq_nil_iff.1 (hall.symm.trans h)
  rw [hwith, if_pos rfl, List.nil_append, List.append_nil]

/-- What another option reads is the same. -/
theorem value?_withUse_of_ne {α : Type} (h : use.1.name ≠ name) (read : String → Option α) :
    (a.withUse n use).value? name read = a.value? name read := by
  rw [value?, value?, values_withUse_of_ne h]

/-- The option of the use is there, beside those that were. -/
theorem has_withUse : (a.withUse n use).has name = (use.1.name == name || a.has name) := by
  rw [has, has, Bool.eq_iff_iff]
  simp only [List.any_eq_true, mem_withUse, Bool.or_eq_true]
  constructor
  · rintro ⟨e, rfl | he, hname⟩
    · exact .inl hname
    · exact .inr ⟨e, he, hname⟩
  · rintro (hname | ⟨e, he, hname⟩)
    · exact ⟨use, .inl rfl, hname⟩
    · exact ⟨e, .inr he, hname⟩

end Values

end Arguments

end Detour
