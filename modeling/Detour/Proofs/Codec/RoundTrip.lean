import Detour.Proofs.Codec.Stored
import Detour.Proofs.Tree.Ordered
import Mathlib.Data.List.Nodup
/-!
# What is written is read back

A record writes its fields under names of their own, so what it writes is a stored form of it, and so
is what its protocol, its lists and its sections write inside. The types that are kept between runs
are built from such records: they are read back from whatever is stored for them.
-/

namespace Detour

namespace Fields

variable {key : String} {new fields : Fields} {t : Tree}

theorem mem_of_get?_ofList (h : (ofList new).get? key = some t) : (key, t) ∈ new := by
  rw [ofList, get?_setAll, get?_nil, Option.or_none] at h
  obtain ⟨⟨k, t'⟩, hfound, rfl⟩ := Option.map_eq_some_iff.1 h
  have hkey : k = key := by simpa using List.find?_some hfound
  exact hkey ▸ List.mem_reverse.1 (List.mem_of_find?_eq_some hfound)

/-- Keys in order are free of repetitions. -/
theorem Sorted.distinct (h : fields.Sorted) : fields.Distinct :=
  List.pairwise_map.2 (h.imp fun hlt => String.ne_of_lt hlt)

end Fields

/-! ## Writing stored forms -/

/-- What is written for a value is a stored form of it. -/
def Codec.Writes {α : Type} (c : Codec α) : Prop :=
  ∀ x, Stored c x (c.encode x)

/-- What is written for a value is an object, and a stored form of it, even with something else put
under a key. -/
def Codec.WritesBeside {α : Type} (key : String) (c : Codec α) : Prop :=
  ∀ x value, ∃ fields : Fields, c.encode x = .object fields ∧ (fields.set key value).Distinct ∧
    Stored c x (.object (fields.set key value))

namespace Field

variable {ρ α : Type} {fields rest : List (Field ρ)} {d r acc : ρ} {f : Field ρ}
variable {name : String} {c : Codec α} {get : ρ → α} {put : α → ρ → ρ}

/-- A field writes stored forms, and where it writes nothing, it has its default. -/
def Writes (d : ρ) (f : Field ρ) : Prop :=
  f.codec.Writes ∧ ∀ r, f.omits (f.get r) → f.required = false ∧ f.get r = f.get d

/-- A field keeps the name that it is declared with. -/
@[simp] theorem name_opt : (opt name c get put).name = name := rfl

@[simp] theorem required_opt : (opt name c get put).required = false := rfl

@[simp] theorem get_opt_inj {s : ρ} :
    (opt name c get put).get r = (opt name c get put).get s ↔ get r = get s := Iff.rfl

/-- Its codec is the one that it is declared with. -/
@[simp] theorem stored_opt {t : Tree} :
    Stored (opt name c get put).codec ((opt name c get put).get r) t ↔ Stored c (get r) t := Iff.rfl

/-- An optional field writes stored forms if its codec does: it is left out only at its default. -/
@[simp] theorem writes_opt : (opt name c get put).Writes d ↔ c.Writes := by
  simp [Writes, opt]

/-- A required field is never left out, so its codec decides as well. -/
@[simp] theorem writes_req : (req name c get put).Writes d ↔ c.Writes := by
  simp [Writes, req, opt]

/-- A field that is left out where it holds nothing has to hold nothing by default. -/
@[simp] theorem writes_maybe {get : ρ → Option α} {put : Option α → ρ → ρ} :
    (maybe name c get put).Writes d ↔
      c.optional.Writes ∧ ∀ r, get r = none → get r = get d := by
  simp [Writes, maybe, opt]

/-- Without fields, the accumulator has to be the record already. -/
@[simp] theorem rebuilds_nil : Rebuilds d r [] acc ↔ acc = r := Iff.rfl

/-- A field has to put back what it gets, and to leave a record with its default alone. -/
@[simp] theorem rebuilds_opt : Rebuilds d r (opt name c get put :: rest) acc ↔
    put (get d) acc = acc ∧ Rebuilds d r rest (put (get r) acc) := Iff.rfl

@[simp] theorem rebuilds_req : Rebuilds d r (req name c get put :: rest) acc ↔
    put (get d) acc = acc ∧ Rebuilds d r rest (put (get r) acc) := Iff.rfl

@[simp] theorem rebuilds_maybe {get : ρ → Option α} {put : Option α → ρ → ρ} :
    Rebuilds d r (maybe name c get put :: rest) acc ↔
      put (get d) acc = acc ∧ Rebuilds d r rest (put (get r) acc) := Iff.rfl

/-- **What a record holds under the name of a field is what the field writes.** -/
theorem get?_ofList_encodeAll (hnames : (fields.map Field.name).Nodup) (hf : f ∈ fields) :
    (Fields.ofList (encodeAll fields r)).get? f.name = f.encode r := by
  cases hget : (Fields.ofList (encodeAll fields r)).get? f.name with
  | some t =>
    obtain ⟨g, hg, hwritten⟩ := List.mem_filterMap.1 (Fields.mem_of_get?_ofList hget)
    obtain ⟨t', hencode, heq⟩ := Option.map_eq_some_iff.1 hwritten
    obtain ⟨hname, rfl⟩ := Prod.mk.inj heq
    rw [List.inj_on_of_nodup_map hnames hf hg hname.symm, hencode]
  | none =>
    cases hencode : f.encode r with
    | none => rfl
    | some t =>
      have hwritten : (f.name, t) ∈ encodeAll fields r :=
        List.mem_filterMap.2 ⟨f, hf, by rw [hencode, Option.map_some]⟩
      exact absurd rfl (Fields.get?_ofList_eq_none_iff.1 hget _ hwritten)

/-- An object that holds what the fields of a record write is a stored form of the record, whatever
else it holds. -/
theorem stored_of_get? {entries : Fields} (faithful : Faithful fields d)
    (hwrites : ∀ f ∈ fields, f.Writes d) (distinct : entries.Distinct)
    (hentries : ∀ f ∈ fields, entries.get? f.name = f.encode r) :
    Stored (.record fields d) r (.object entries) := by
  refine .record faithful distinct (fun f hf t ht => ?_) fun f hf ht => ?_
  · rw [hentries f hf, encode] at ht
    split at ht
    · cases ht
    · exact Option.some.inj ht ▸ (hwrites f hf).1 (f.get r)
  · rw [hentries f hf, encode] at ht
    split at ht
    · rename_i homits
      exact (hwrites f hf).2 r homits
    · cases ht

end Field

namespace Codec

variable {ρ α : Type} {fields : List (Field ρ)} {d : ρ} {c : Codec α}

attribute [simp] Leaf.bool Leaf.text Leaf.int64 Leaf.uint8 Leaf.uint16 Leaf.uint32 Leaf.freeForm
  Leaf.muxState Leaf.sniffing Leaf.table

/-- A leaf has one stored form, the one that is written. -/
@[simp] theorem Leaf.writes (h : c.Leaf) : c.Writes :=
  .leaf h

@[simp] theorem Writes.list (h : c.Writes) : c.list.Writes := by
  intro xs
  induction xs with
  | nil => exact .nil
  | cons x xs ih => exact .cons (h x) ih

/-- A missing value is written as `null`, which must not be the form of another one. -/
theorem Writes.optional (h : c.Writes) (hnull : ∀ x, c.encode x ≠ .null) : c.optional.Writes
  | none => .absent
  | some x => .present (hnull x) (h x)

@[simp] theorem writes_optional_int64 : int64.optional.Writes :=
  Writes.optional (Leaf.writes .int64) fun _ h => by cases h

@[simp] theorem writes_optional_text : text.optional.Writes :=
  Writes.optional (Leaf.writes .text) fun _ h => by cases h

/-- **A record writes stored forms if its fields do.** -/
theorem Writes.record (faithful : Field.Faithful fields d) (hwrites : ∀ f ∈ fields, f.Writes d) :
    (Codec.record fields d).Writes := fun _ =>
  Field.stored_of_get? faithful hwrites (Fields.sorted_setAll List.Pairwise.nil).distinct
    fun _ hf => Field.get?_ofList_encodeAll faithful.distinct hf

/-- A key that is no field may stand beside the fields. -/
theorem WritesBeside.record {key : String} (faithful : Field.Faithful fields d)
    (hwrites : ∀ f ∈ fields, f.Writes d) (hkey : ∀ f ∈ fields, f.name ≠ key) :
    (Codec.record fields d).WritesBeside key := by
  intro r value
  have hsorted : (Fields.ofList (Field.encodeAll fields r)).Sorted :=
    Fields.sorted_setAll List.Pairwise.nil
  refine ⟨_, rfl, (hsorted.set key value).distinct, ?_⟩
  refine Field.stored_of_get? faithful hwrites (hsorted.set key value).distinct fun f hf => ?_
  rw [Fields.get?_set_of_ne (hkey f hf), Field.get?_ofList_encodeAll faithful.distinct hf]

end Codec

/-! ## The records -/

/-- The transport settings of a server are a record of leaves. -/
@[simp] theorem Stream.writes : Stream.codec.Writes :=
  .record ⟨by decide, by simp⟩ (by simp)

namespace Protocol

/-- The fields of a protocol are written beside its name. -/
theorem payload_writesBeside (p : Protocol) : p.payload.codec.WritesBeside "type" := by
  cases p
  all_goals
    dsimp only [payload]
    exact .record ⟨by decide, by simp [Endpoint.fields]⟩ (by simp [Endpoint.fields])
      (by simp [Endpoint.fields])

/-- The fields of a protocol are those of its payload. -/
theorem encodeFields_eq (p : Protocol) : p.encodeFields = p.payload.codec.encode p.payload.value := by
  cases p <;> rfl

/-- Whatever its kind is, a protocol is told by its name and its payload. -/
@[simp] theorem writes : Protocol.codec.Writes := by
  intro p
  obtain ⟨fields, hfields, hdistinct, hstored⟩ :=
    p.payload_writesBeside p.payload.value (.str p.name)
  have hencode : Protocol.codec.encode p = .object (fields.set "type" (.str p.name)) := by
    rw [← encodeFields_eq] at hfields
    show tagged p.name p.encodeFields = _
    rw [hfields, tagged]
  rw [hencode]
  exact .protocol hdistinct (Fields.get?_set_self ..) hstored

/-- **A protocol is written with its name under `type`.** -/
theorem get?_type_encode (p : Protocol) :
    (Protocol.codec.encode p).get? "type" = some (.str p.name) := by
  cases p <;> exact Fields.get?_set_self ..

end Protocol

/-- A profile has its protocol as one of its fields. -/
@[simp] theorem Profile.writes : Profile.codec.Writes :=
  .record ⟨by decide, by simp⟩ (by simp)

/-- A group names its first and last profiles or leaves them out. -/
@[simp] theorem Group.writes : Group.codec.Writes :=
  .record ⟨by decide, by simp⟩ (by simp)

/-- A rule is made of texts, lists of texts and a target. -/
@[simp] theorem Rule.writes : Rule.codec.Writes :=
  .record ⟨by decide, by simp⟩ (by simp)

@[simp] theorem RuleChain.writes : RuleChain.codec.Writes :=
  .record ⟨by decide, by simp⟩ (by simp)

/-- A database lists profiles, groups and chains. -/
theorem Database.writes : Database.codec.Writes :=
  .record ⟨by decide, by simp⟩ (by simp)

/-- The settings come in parts, each of them a record of leaves. -/
@[simp] theorem RoutingSettings.writes : RoutingSettings.codec.Writes :=
  .record ⟨by decide, by simp⟩ (by simp)

@[simp] theorem MuxSettings.writes : MuxSettings.codec.Writes :=
  .record ⟨by decide, by simp⟩ (by simp)

@[simp] theorem VpnSettings.writes : VpnSettings.codec.Writes :=
  .record ⟨by decide, by simp⟩ (by simp)

@[simp] theorem NtpSettings.writes : NtpSettings.codec.Writes :=
  .record ⟨by decide, by simp⟩ (by simp)

@[simp] theorem ClashApiSettings.writes : ClashApiSettings.codec.Writes :=
  .record ⟨by decide, by simp⟩ (by simp)

/-- The parts are fields of the settings like the others. -/
theorem Settings.writes : Settings.codec.Writes :=
  .record ⟨by decide, by simp⟩ (by simp)

/-- A descriptor has required fields but for its configuration, which may be missing. -/
theorem Descriptor.writes : Descriptor.codec.Writes :=
  .record ⟨by decide, by simp [fields]⟩ (by simp [fields])

/-- A failure is a record under the label of its kind. -/
theorem Failure.writes : Failure.codec.Writes := by
  intro failure
  have hmessage : (Codec.record fields "").Writes :=
    .record ⟨by decide, by simp [fields]⟩ (by simp [fields])
  exact .failure (hmessage failure.message)

/-! ## The types that are kept -/

namespace Codec

/-- The types whose values are kept between runs, or handed over. -/
inductive Persistent : {α : Type} → Codec α → Prop
  | protocol : Persistent Protocol.codec
  | profile : Persistent Profile.codec
  | rule : Persistent Rule.codec
  | ruleChain : Persistent RuleChain.codec
  | group : Persistent Group.codec
  | database : Persistent Database.codec
  | settings : Persistent Settings.codec
  | descriptor : Persistent Descriptor.codec
  | failure : Persistent Failure.codec

/-- So whatever is stored is written as a stored form of it. -/
theorem Persistent.writes {α : Type} {c : Codec α} (h : c.Persistent) : c.Writes := by
  cases h with
  | protocol => exact Protocol.writes
  | profile => exact Profile.writes
  | rule => exact Rule.writes
  | ruleChain => exact RuleChain.writes
  | group => exact Group.writes
  | database => exact Database.writes
  | settings => exact Settings.writes
  | descriptor => exact Descriptor.writes
  | failure => exact Failure.writes

/-- **The stored format round-trips.** What is written for a value is a stored form of it, and every
stored form of a value, with defaults left out and unknown keys put in at any depth, is read back as
that value; a protocol is written with its name. So whatever a value was read from, what is written
for it is read and written again without a change. -/
theorem Persistent.round_trips {α : Type} {c : Codec α} (h : c.Persistent) :
    (∀ x, Stored c x (c.encode x)) ∧
    (∀ x t, Stored c x t → c.decode (.ofTree t) = some x) ∧
    (∀ x, c.decode (.ofTree (c.encode x)) = some x) ∧
    (∀ p : Protocol, (Protocol.codec.encode p).get? "type" = some (.str p.name)) ∧
    ∀ n x, c.decode n = some x →
      (c.decode (.ofTree (c.encode x))).map c.encode = some (c.encode x) := by
  have hreads : ∀ x, c.decode (.ofTree (c.encode x)) = some x := fun x => (h.writes x).reads
  refine ⟨h.writes, fun x t ht => ht.reads, hreads, Protocol.get?_type_encode, fun n x _ => ?_⟩
  rw [hreads x, Option.map_some]

/-- A database of one group, with most of both left out and a key in each that is no field. -/
theorem Persistent.round_trips_sparse_group :
    ∃ t : Tree, t.get? "profiles" = none ∧ t.get? "note" = some .null ∧
      Stored Database.codec { groups := [{ id := 4 }] } t ∧
      Database.codec.decode (.ofTree t) = some { groups := [{ id := 4 }] } := by
  have hgroup : Stored Group.codec { id := 4 }
      (.object [("colour", .str "red"), ("id", .int 4)]) := by
    refine .record ⟨by decide, by simp⟩ (by simp [Fields.Distinct]) ?_ (by simp [Fields.get?])
    have hid : Stored .int64 4 (.int 4) := .leaf .int64 4
    simpa [Fields.get?] using hid
  have hdatabase : Stored Database.codec { groups := [{ id := 4 }] }
      (.object [("groups", .list [.object [("colour", .str "red"), ("id", .int 4)]]),
        ("note", .null)]) := by
    refine .record ⟨by decide, by simp⟩ (by simp [Fields.Distinct]) ?_ (by simp [Fields.get?])
    have hgroups : Stored Group.codec.list [{ id := 4 }] _ := .cons hgroup .nil
    simpa [Fields.get?] using hgroups
  exact ⟨_, rfl, rfl, hdatabase, (Persistent.round_trips .database).2.1 _ _ hdatabase⟩

end Codec

end Detour
