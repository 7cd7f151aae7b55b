import Detour.Tree.FreeForm
/-!
# Codecs between values and documents

A `Codec` writes a value as a tree and reads it back from a document. Records are described by their
`Field`s: reading starts from the record of defaults and takes in each field that is present, in the
order of the description; a required field that is absent, or any field that is present twice, is
refused, and entries that are no field are passed over. A record is read from a list as well (but not
from a sequence), which holds its fields in the order of the description; fields at the end that are
not required may lack.

Unquoted scalars give way to what is asked of them: to a text as they are written, to a number or a
truth value by the rules of `Plain`, and an empty one counts as the empty list or record.
-/

namespace Detour

/-- How values of a type are written and read. -/
structure Codec (α : Type) where
  encode : α → Tree
  decode : Node → Option α

namespace Codec

/-- Truth values. -/
def bool : Codec Bool where
  encode := .bool
  decode
    | .bool b => some b
    | .plain s => Plain.bool? s
    | _ => none

/-- Texts. -/
def text : Codec String where
  encode := .str
  decode
    | .text s => some s
    | .plain s => some s
    | _ => none

/-- An integer within bounds. -/
def intWithin? (low high : Int) (n : Int) : Option Int :=
  if low ≤ n ∧ n ≤ high then some n else none

/-- Signed integers of 64 bits. -/
def int64 : Codec Int64 where
  encode n := .int n.toInt
  decode
    | .int n => (intWithin? Int64.minValue.toInt Int64.maxValue.toInt n).map Int64.ofInt
    | .plain s =>
      ((Plain.int? s.toList).bind
        (intWithin? Int64.minValue.toInt Int64.maxValue.toInt)).map Int64.ofInt
    | _ => none

/-- Signed integers of 32 bits. -/
def int32 : Codec Int32 where
  encode n := .int n.toInt
  decode
    | .int n => (intWithin? Int32.minValue.toInt Int32.maxValue.toInt n).map Int32.ofInt
    | .plain s =>
      ((Plain.int? s.toList).bind
        (intWithin? Int32.minValue.toInt Int32.maxValue.toInt)).map Int32.ofInt
    | _ => none

/-- A natural number below a bound. -/
def natBelow? (bound : Nat) : Node → Option Nat
  | .int (.ofNat n) => if n < bound then some n else none
  | .plain s => (Plain.unsigned? s.toList).bind fun n => if n < bound then some n else none
  | _ => none

/-- Unsigned integers of 8 bits. -/
def uint8 : Codec UInt8 where
  encode n := .int n.toNat
  decode n := (natBelow? UInt8.size n).map UInt8.ofNat

/-- Unsigned integers of 16 bits. -/
def uint16 : Codec UInt16 where
  encode n := .int n.toNat
  decode n := (natBelow? UInt16.size n).map UInt16.ofNat

/-- Unsigned integers of 32 bits. -/
def uint32 : Codec UInt32 where
  encode n := .int n.toNat
  decode n := (natBelow? UInt32.size n).map UInt32.ofNat

/-- Unsigned integers of 64 bits. -/
def uint64 : Codec UInt64 where
  encode n := .int n.toNat
  decode n := (natBelow? UInt64.size n).map UInt64.ofNat

/-- Trees, as they are. -/
def freeForm : Codec FreeForm where
  encode t := t.tree
  decode := FreeForm.ofNode?

/-- Read every element. -/
def decodeAll {α : Type} (c : Codec α) : List Node → Option (List α)
  | [] => some []
  | n :: rest =>
    match c.decode n, decodeAll c rest with
    | some x, some xs => some (x :: xs)
    | _, _ => none

/-- Lists. -/
def list {α : Type} (c : Codec α) : Codec (List α) where
  encode xs := .list (xs.map c.encode)
  decode
    | .list ns => decodeAll c ns
    | .sequence ns => decodeAll c ns
    | .plain s => if s.isEmpty then some [] else none
    | _ => none

/-- Values that may be absent, then written as null. -/
def optional {α : Type} (c : Codec α) : Codec (Option α) where
  encode
    | some x => c.encode x
    | none => .null
  decode
    | .null => some none
    | .plain s => if s.isEmpty || Plain.isNull s then some none else (c.decode (.plain s)).map some
    | n => (c.decode n).map some

/-- Values that are read with the meaning of unquoted scalars settled first. -/
def settled {α : Type} (c : Codec α) : Codec α where
  encode := c.encode
  decode n := n.settle?.bind c.decode

end Codec

/-- One field of a record. -/
structure Field (ρ : Type) where
  name : String
  {Value : Type}
  codec : Codec Value
  get : ρ → Value
  put : Value → ρ → ρ
  /-- Reading a record without this field is refused. -/
  required : Bool
  /-- The values that are not written. -/
  omits : Value → Bool

namespace Field

/-- A field that may be absent. -/
def opt {ρ α : Type} (name : String) (c : Codec α) (get : ρ → α) (put : α → ρ → ρ) : Field ρ where
  name := name
  codec := c
  get := get
  put := put
  required := false
  omits _ := false

/-- A field that must be present. -/
def req {ρ α : Type} (name : String) (c : Codec α) (get : ρ → α) (put : α → ρ → ρ) : Field ρ :=
  { opt name c get put with required := true }

/-- A field that is left out when it has no value. -/
def maybe {ρ α : Type} (name : String) (c : Codec α) (get : ρ → Option α)
    (put : Option α → ρ → ρ) : Field ρ :=
  { opt name c.optional get put with omits := Option.isNone }

/-- The field as it is written; none if it is left out. -/
def encode {ρ : Type} (f : Field ρ) (r : ρ) : Option Tree :=
  if f.omits (f.get r) then none else some (f.codec.encode (f.get r))

/-- Take the field in from what is written under its name. -/
def decode {ρ : Type} (f : Field ρ) (n : Node) (r : ρ) : Option ρ :=
  (f.codec.decode n).map fun x => f.put x r

/-- What is written under a name. -/
def valuesOf (name : String) (entries : List (String × Node)) : List Node :=
  (entries.filter fun e => e.1 == name).map Prod.snd

/-- The name that a key stands for: that of its text, or that of the field at its number. A number
without a field stands for no name. -/
def nameOf? {ρ : Type} (fields : List (Field ρ)) : Node → Option String
  | .text s => some s
  | .plain s => some s
  | .int (.ofNat n) => some ((fields[n]?.map Field.name).getD "")
  | _ => none

/-- Entries with the names that their keys stand for. -/
def named? {ρ : Type} (fields : List (Field ρ)) (entries : List (Node × Node)) :
    Option (List (String × Node)) :=
  entries.mapM fun e => (nameOf? fields e.1).map fun name => (name, e.2)

/-- Take the fields in, one after the other. -/
def decodeAll {ρ : Type} : List (Field ρ) → List (String × Node) → ρ → Option ρ
  | [], _, r => some r
  | f :: rest, entries, r =>
    match valuesOf f.name entries with
    | [] => if f.required then none else decodeAll rest entries r
    | [n] => (f.decode n r).bind (decodeAll rest entries)
    | _ => none

/-- Take the fields in from a list that holds them in order. -/
def decodeInOrder {ρ : Type} : List (Field ρ) → List Node → ρ → Option ρ
  | [], [], r => some r
  | [], _ :: _, _ => none
  | f :: rest, [], r => if f.required then none else decodeInOrder rest [] r
  | f :: rest, n :: ns, r => (f.decode n r).bind (decodeInOrder rest ns)

/-- The entries of a record. -/
def encodeAll {ρ : Type} (fields : List (Field ρ)) (r : ρ) : List (String × Tree) :=
  fields.filterMap fun f => (f.encode r).map fun t => (f.name, t)

end Field

namespace Codec

/-- The entries of a document that is asked for a record or a table. -/
def entries? : Node → Option (List (Node × Node))
  | .object entries => some entries
  | .plain s => if s.isEmpty then some [] else none
  | _ => none

/-- Read a record from entries, each under the name of its field. -/
def decodeEntries {ρ : Type} (fields : List (Field ρ)) (default : ρ) (n : Node) : Option ρ :=
  ((entries? n).bind (Field.named? fields)).bind fun es => Field.decodeAll fields es default

/-- Records, from the record of defaults. -/
def record {ρ : Type} (fields : List (Field ρ)) (default : ρ) : Codec ρ where
  encode r := .ofFields (Field.encodeAll fields r)
  decode
    | .list items => Field.decodeInOrder fields items default
    | n => decodeEntries fields default n

end Codec

end Detour
