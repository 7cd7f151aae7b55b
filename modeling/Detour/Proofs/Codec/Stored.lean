import Detour.Store
import Detour.Proofs.Codec.Leaf
import Detour.Proofs.Tree.Fields
/-!
# Stored forms

A record need not be stored the way it is written. A field that has its default may lack, at any
depth, and an object may hold keys that are no field. `Stored c x t` says that `t` is such a form of
`x`; it speaks of what is written only, not of how it is read. Whatever is stored for a value is read
back as that value (`Stored.reads`).

Reading takes the fields in one after the other, from the record of defaults on. That this arrives at
the right record is a property of the fields, `Field.Faithful`.
-/

namespace Detour

/-! ## Records and their fields -/

namespace Field

variable {ρ : Type}

/-- When the rest of the fields of `r` are put into `acc` one after the other, the result is `r`, and
each field has the value of `d` until its turn. -/
def Rebuilds (d r : ρ) : List (Field ρ) → ρ → Prop
  | [], acc => acc = r
  | f :: rest, acc => f.put (f.get d) acc = acc ∧ Rebuilds d r rest (f.put (f.get r) acc)

/-- The fields, each under a name of its own, hold all that there is to a record. -/
structure Faithful (fields : List (Field ρ)) (d : ρ) : Prop where
  distinct : (fields.map Field.name).Nodup
  rebuilds (r : ρ) : Rebuilds d r fields d

end Field

/-- The fields of a protocol, beside its name. -/
structure Payload where
  {Value : Type}
  codec : Codec Value
  value : Value
  protocol : Value → Protocol

/-- What is stored for a protocol beside its name. -/
def Protocol.payload : Protocol → Payload
  | socks p => ⟨Socks.codec, p, socks⟩
  | http p => ⟨Http.codec, p, http⟩
  | shadowsocks p => ⟨Shadowsocks.codec, p, shadowsocks⟩
  | vmess p => ⟨Vmess.codec, p, vmess⟩
  | vless p => ⟨Vless.codec, p, vless⟩
  | trojan p => ⟨Trojan.codec, p, trojan⟩
  | hysteria2 p => ⟨Hysteria2.codec, p, hysteria2⟩
  | tuic p => ⟨Tuic.codec, p, tuic⟩
  | wireguard p => ⟨Wireguard.codec, p, wireguard⟩
  | ssh p => ⟨Ssh.codec, p, ssh⟩
  | custom p => ⟨Custom.codec, p, custom⟩
  | chain members => ⟨chainCodec, members, chain⟩

/-- The keys of an object stand there once each. -/
def Fields.Distinct (fields : Fields) : Prop :=
  (fields.map Prod.fst).Nodup

/-! ## The relation -/

/-- A tree is a stored form of a value: the tree that is written for it, except that at any depth

* a field that is not required may lack if its value is the default, and
* an object may hold other keys than the fields of its record, with any values. -/
inductive Stored : {α : Type} → Codec α → α → Tree → Prop
  | leaf {α : Type} {c : Codec α} (hc : c.Leaf) (x : α) : Stored c x (c.encode x)
  | nil {α : Type} {c : Codec α} : Stored c.list [] (.list [])
  | cons {α : Type} {c : Codec α} {x : α} {xs : List α} {t : Tree} {ts : List Tree}
      (head : Stored c x t) (tail : Stored c.list xs (.list ts)) :
      Stored c.list (x :: xs) (.list (t :: ts))
  | absent {α : Type} {c : Codec α} : Stored c.optional none .null
  | present {α : Type} {c : Codec α} {x : α} {t : Tree} (hnull : t ≠ .null) (h : Stored c x t) :
      Stored c.optional (some x) t
  | record {ρ : Type} {fields : List (Field ρ)} {d r : ρ} {entries : Fields}
      (faithful : Field.Faithful fields d) (distinct : entries.Distinct)
      (kept : ∀ f ∈ fields, ∀ t, entries.get? f.name = some t → Stored f.codec (f.get r) t)
      (dropped : ∀ f ∈ fields, entries.get? f.name = none →
        f.required = false ∧ f.get r = f.get d) :
      Stored (.record fields d) r (.object entries)
  | protocol {p : Protocol} {entries : Fields} (distinct : entries.Distinct)
      (named : entries.get? "type" = some (.str p.name))
      (h : Stored p.payload.codec p.payload.value (.object entries)) :
      Stored Protocol.codec p (.object entries)
  | failure {kind : ErrorClass} {message : String} {entries : Fields}
      (h : Stored (.record Failure.fields "") message (.object entries)) :
      Stored Failure.codec ⟨kind, message⟩ (.object [(Failure.label kind, .object entries)])

/-! ## Reading stored forms -/

namespace Field

variable {ρ : Type} {fields : List (Field ρ)} {d r acc : ρ}

/-- The entries of a document that spells an object, by the texts of their keys. -/
def spelled (entries : Fields) : List (String × Node) :=
  entries.map fun e => (e.1, Node.ofTree e.2)

theorem nameOf?_text (s : String) : nameOf? fields (.text s) = some s := rfl

theorem named?_ofFields (entries : Fields) :
    named? fields (Node.ofFields entries) = some (spelled entries) := by
  induction entries with
  | nil => rfl
  | cons e rest ih =>
    simp only [named?, Node.ofFields, List.mapM_cons, nameOf?_text] at ih ⊢
    rw [ih]
    rfl

/-- What stands under a name in an object is what the name is looked up as. -/
theorem valuesOf_spelled {name : String} {entries : Fields} (h : entries.Distinct) :
    valuesOf name (spelled entries) = ((entries.get? name).map Node.ofTree).toList := by
  induction entries with
  | nil => rfl
  | cons e rest ih =>
    obtain ⟨hnot, hrest⟩ := List.nodup_cons.1 h
    have hvalues := ih hrest
    simp only [valuesOf, spelled] at hvalues ⊢
    by_cases he : e.1 = name
    · have hlacks : Fields.Lacks name rest := fun kv hkv hname =>
        hnot (List.mem_map.2 ⟨kv, hkv, hname.trans he.symm⟩)
      rw [Fields.get?_eq_none_iff.2 hlacks] at hvalues
      simpa [Fields.get?, he] using hvalues
    · simpa [Fields.get?, he] using hvalues

/-- **Fields that are read with the values of a record, or are missing with their defaults, are read
as that record.** -/
theorem decodeAll_of_rebuilds {entries : List (String × Node)} (h : Rebuilds d r fields acc)
    (hfields : ∀ f ∈ fields,
      (∃ n, valuesOf f.name entries = [n] ∧ f.codec.decode n = some (f.get r)) ∨
      (valuesOf f.name entries = [] ∧ f.required = false ∧ f.get r = f.get d)) :
    decodeAll fields entries acc = some r := by
  induction fields generalizing acc with
  | nil => exact congrArg some h
  | cons f rest ih =>
    obtain ⟨hunset, hnext⟩ := h
    have hrest := ih hnext fun g hg => hfields g (List.mem_cons_of_mem _ hg)
    rcases hfields f List.mem_cons_self with ⟨n, hvalues, hn⟩ | ⟨hvalues, hrequired, hdefault⟩
    · simp [decodeAll, hvalues, decode, hn, hrest]
    · rw [hdefault, hunset] at hrest
      simp [decodeAll, hvalues, hrequired, hrest]

end Field

namespace Protocol

/-- The fields of a protocol are read by its name. -/
theorem decodeNamed?_name (p : Protocol) (n : Node) :
    decodeNamed? p.name n = (p.payload.codec.decode n).map p.payload.protocol := by
  cases p <;> rfl

@[simp] theorem payload_protocol (p : Protocol) : p.payload.protocol p.payload.value = p := by
  cases p <;> rfl

theorem names_ofFields (entries : Fields) :
    names (Node.ofFields entries) = Field.valuesOf "type" (Field.spelled entries) := by
  induction entries with
  | nil => rfl
  | cons e rest ih =>
    by_cases he : e.1 = "type"
    · simp_all [names, Node.ofFields, Field.valuesOf, Field.spelled]
    · simp_all [names, Node.ofFields, Field.valuesOf, Field.spelled]

end Protocol

theorem Failure.ofLabel?_label (kind : ErrorClass) : ofLabel? (label kind) = some kind := by
  cases kind <;> decide

namespace Codec

/-- An object is read as a record by the names of its entries. -/
theorem decode_record_object {ρ : Type} {fields : List (Field ρ)} {d : ρ} (entries : Fields) :
    (record fields d).decode (.ofTree (.object entries)) =
      Field.decodeAll fields (Field.spelled entries) d := by
  simp [record, Node.ofTree, decodeEntries, entries?, Field.named?_ofFields]

theorem decode_optional_of_ne_null {α : Type} {c : Codec α} {t : Tree} (h : t ≠ .null) :
    c.optional.decode (.ofTree t) = (c.decode (.ofTree t)).map some := by
  cases t with
  | null => exact absurd rfl h
  | _ => rfl

end Codec

/-- **A stored form of a value is read back as that value.** -/
theorem Stored.reads {α : Type} {c : Codec α} {x : α} {t : Tree} (h : Stored c x t) :
    c.decode (.ofTree t) = some x := by
  induction h with
  | leaf hc x => exact hc.reads x
  | nil => rfl
  | @cons _ c x xs t ts _ _ ihhead ihtail =>
    have htail : Codec.decodeAll c (Node.ofTrees ts) = some xs := ihtail
    simp [Codec.list, Node.ofTree, Node.ofTrees, Codec.decodeAll, ihhead, htail]
  | absent => rfl
  | present hnull _ ih => rw [Codec.decode_optional_of_ne_null hnull, ih, Option.map_some]
  | @record _ fields d r entries faithful distinct _ dropped ih =>
    rw [Codec.decode_record_object]
    refine Field.decodeAll_of_rebuilds (faithful.rebuilds r) fun f hf => ?_
    rw [Field.valuesOf_spelled distinct]
    cases hget : entries.get? f.name with
    | none => exact .inr ⟨rfl, dropped f hf hget⟩
    | some t => exact .inl ⟨_, rfl, ih f hf t hget⟩
  | @protocol p entries distinct named _ ih =>
    -- the name decides which payload is looked for
    have hnames : Protocol.names (Node.ofFields entries) = [.text p.name] := by
      rw [Protocol.names_ofFields, Field.valuesOf_spelled distinct, named]
      rfl
    have hfields : Protocol.decodeNamed? p.name (.object (Node.ofFields entries)) = some p := by
      rw [Protocol.decodeNamed?_name, ← Node.ofTree, ih, Option.map_some, Protocol.payload_protocol]
    have hsettled := Node.settle?_ofTree (.object entries)
    rw [Node.ofTree] at hsettled
    simp only [Protocol.codec, Codec.settled, Node.ofTree, hsettled, Option.bind_some, hnames,
      hfields]
  | @failure kind message entries _ ih =>
    have hmessage : Codec.decodeEntries Failure.fields "" (.object (Node.ofFields entries)) =
      some message := ih
    simp only [Failure.codec, Node.ofTree, Node.ofFields, Failure.ofLabel?_label, hmessage]

end Detour
