/-!
# Text: byte strings

A byte string is a text each character of which stands for a byte. `encode` gives the byte string of
a text in UTF-8. Byte strings that spell no text are read all the same: with a replacement character
for each longest run of bytes that starts a character without completing it, and for each byte that no
character starts with.
-/

namespace Detour

namespace Utf8

/-- The byte string of a text. -/
def encode (s : String) : String :=
  String.ofList ((s.toList.flatMap String.utf8EncodeChar).map fun b => Char.ofNat b.toNat)

/-- What stands for bytes that spell no character. -/
def replacement : Char := '\uFFFD'

/-- The number of bytes that follow the first one of a character; none if no character starts so. -/
def following? (first : UInt8) : Option Nat :=
  if first < 0x80 then some 0
  else if first < 0xC2 then none
  else if first < 0xE0 then some 1
  else if first < 0xF0 then some 2
  else if first < 0xF5 then some 3
  else none

/-- The least and the greatest second byte of a character. The bounds leave out what is too long, too
large, or half of a pair. -/
def second (first : UInt8) : UInt8 × UInt8 :=
  if first = 0xE0 then (0xA0, 0xBF)
  else if first = 0xED then (0x80, 0x9F)
  else if first = 0xF0 then (0x90, 0xBF)
  else if first = 0xF4 then (0x80, 0x8F)
  else (0x80, 0xBF)

/-- The bits of the first byte of a character that count. -/
def leading (first : UInt8) (following : Nat) : Nat :=
  match following with
  | 0 => first.toNat
  | 1 => first.toNat % 32
  | 2 => first.toNat % 16
  | _ => first.toNat % 8

/-- Read the bytes that a character still needs, the first of them within bounds. -/
def complete : Nat → UInt8 × UInt8 → Nat → List UInt8 → Char × List UInt8
  | 0, _, value, bytes => (Char.ofNat value, bytes)
  | _ + 1, _, _, [] => (replacement, [])
  | needed + 1, (low, high), value, b :: bytes =>
    if low ≤ b ∧ b ≤ high then complete needed (0x80, 0xBF) (value * 64 + b.toNat % 64) bytes
    else (replacement, b :: bytes)

theorem length_complete_le (needed : Nat) (bounds : UInt8 × UInt8) (value : Nat) (bytes : List UInt8) :
    (complete needed bounds value bytes).2.length ≤ bytes.length := by
  induction needed generalizing bounds value bytes with
  | zero => simp [complete]
  | succ needed ih =>
    cases bytes with
    | nil => simp [complete]
    | cons b bytes =>
      simp only [complete]
      split
      · exact Nat.le_succ_of_le (ih _ _ _)
      · simp

/-- The characters that bytes spell. -/
def characters (bytes : List UInt8) : List Char :=
  match bytes with
  | [] => []
  | first :: rest =>
    match following? first with
    | none => replacement :: characters rest
    | some n =>
      (complete n (second first) (leading first n) rest).1 ::
        characters (complete n (second first) (leading first n) rest).2
termination_by bytes.length
decreasing_by
  · exact Nat.lt_succ_self _
  · exact Nat.lt_succ_of_le (length_complete_le _ _ _ _)

/-- The text that a byte string spells. -/
def decode (s : String) : String :=
  String.ofList (characters (s.toList.map fun c => UInt8.ofNat c.toNat))

end Utf8

end Detour
