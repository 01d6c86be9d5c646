/-!
# Text from any bytes

Bytes are decoded as UTF-8. Where they are not the beginning of a character, or a character breaks
off, a replacement character stands for what was read of it.
-/
namespace PositionOverlay.Text

/-- What stands for bytes that are no character. -/
def replacement : Char := '\ufffd'

/-- The bytes that may continue a character in most places. -/
def anyTail : Nat × Nat := (0x80, 0xBF)

/-- The ranges of the bytes that continue a character, by its first byte. The second byte is
restricted where a shorter form, a surrogate or a number beyond the last character would follow. -/
def tailsOf (b : Nat) : List (Nat × Nat) :=
  if 0xC2 ≤ b ∧ b ≤ 0xDF then [anyTail]
  else if b = 0xE0 then [(0xA0, 0xBF), anyTail]
  else if b = 0xED then [(0x80, 0x9F), anyTail]
  else if 0xE1 ≤ b ∧ b ≤ 0xEF then [anyTail, anyTail]
  else if b = 0xF0 then [(0x90, 0xBF), anyTail, anyTail]
  else if 0xF1 ≤ b ∧ b ≤ 0xF3 then [anyTail, anyTail, anyTail]
  else if b = 0xF4 then [(0x80, 0x8F), anyTail, anyTail]
  else []

/-- A decoder: what it has read of a character and the ranges of the bytes that are due. -/
structure Decoder where
  value : Nat
  due : List (Nat × Nat)

namespace Decoder

/-- The decoder between two characters. -/
def idle : Decoder := ⟨0, []⟩

/-- Takes the first byte of a character. -/
def begin (b : Nat) : List Char × Decoder :=
  if b < 0x80 then ([Char.ofNat b], idle)
  else
    let due := tailsOf b
    if due.isEmpty then ([replacement], idle)
    else ([], ⟨b % Nat.pow 2 (6 - due.length), due⟩)

/-- Takes one byte. -/
def step (d : Decoder) (b : Nat) : List Char × Decoder :=
  match d.due with
  | [] => begin b
  | (least, most) :: due =>
    if least ≤ b ∧ b ≤ most then
      let value := d.value * 64 + b % 64
      if due.isEmpty then ([Char.ofNat value], idle) else ([], ⟨value, due⟩)
    else
      let (cs, d) := begin b
      (replacement :: cs, d)

/-- Takes the rest of the bytes. -/
def run (d : Decoder) : List UInt8 → List Char
  | [] => if d.due.isEmpty then [] else [replacement]
  | b :: bs =>
    let (cs, d) := d.step b.toNat
    cs ++ d.run bs

end Decoder

/-- The text of some bytes. -/
def decodeLossy (bytes : List UInt8) : String := String.ofList (Decoder.idle.run bytes)

end PositionOverlay.Text
