import Mathlib.Tactic.SplitIfs
import PositionOverlay.Text.Lossy

/-! # Decoded text

Bytes that are text are decoded as that text: the replacement character only stands for bytes that
are not.
-/
namespace PositionOverlay.Text

namespace Decoder

variable {b n value : Nat} {due : List (Nat × Nat)} {range : Nat × Nat} (bs : List UInt8)

theorem run_ofNat (d : Decoder) (h : b < 0x100) :
    d.run (.ofNat b :: bs) = (d.step b).1 ++ (d.step b).2.run bs := by
  rw [run, UInt8.toNat_ofNat_of_lt' h]

theorem run_alone (h : b < 0x80) : idle.run (.ofNat b :: bs) = Char.ofNat b :: idle.run bs := by
  have hstep : idle.step b = ([Char.ofNat b], idle) := if_pos h
  rw [run_ofNat bs idle (Nat.lt_trans h (by decide)), hstep]
  rfl

theorem run_first (h : 0x80 ≤ b ∧ b < 0x100) (htails : tailsOf b = range :: due) :
    idle.run (.ofNat b :: bs) = run ⟨b % Nat.pow 2 (6 - (due.length + 1)), range :: due⟩ bs := by
  have hstep : idle.step b = ([], ⟨b % Nat.pow 2 (6 - (due.length + 1)), range :: due⟩) := by
    change begin b = _
    rw [begin, if_neg (Nat.not_lt.mpr h.1), htails]
    rfl
  rw [run_ofNat bs idle h.2, hstep]
  rfl

theorem run_next {next : Nat × Nat} (h : range.1 ≤ b ∧ b ≤ range.2) (hb : b < 0x100) :
    run ⟨value, range :: next :: due⟩ (.ofNat b :: bs) =
      run ⟨value * 64 + b % 64, next :: due⟩ bs := by
  have hstep : step ⟨value, range :: next :: due⟩ b = ([], ⟨value * 64 + b % 64, next :: due⟩) :=
    if_pos h
  rw [run_ofNat bs _ hb, hstep]
  rfl

theorem run_last (h : range.1 ≤ b ∧ b ≤ range.2) (hb : b < 0x100) :
    run ⟨value, [range]⟩ (.ofNat b :: bs) = Char.ofNat (value * 64 + b % 64) :: idle.run bs := by
  have hstep : step ⟨value, [range]⟩ b = ([Char.ofNat (value * 64 + b % 64)], idle) := if_pos h
  rw [run_ofNat bs _ hb, hstep]
  rfl

/-! ## The ranges that the bytes of a character are in -/

theorem tails_two (h : 0x80 ≤ n ∧ n < 0x800) : tailsOf (n / 64 % 32 + 192) = [anyTail] :=
  if_pos (by omega)

theorem tails_three (h : 0x800 ≤ n ∧ n < 0x10000) (hvalid : n < 0xD800 ∨ 0xDFFF < n) :
    ∃ range, tailsOf (n / 4096 % 16 + 224) = [range, anyTail] ∧
      range.1 ≤ n / 64 % 64 + 128 ∧ n / 64 % 64 + 128 ≤ range.2 := by
  unfold tailsOf
  split_ifs <;> first | omega | exact ⟨_, rfl, by dsimp [anyTail]; omega, by dsimp [anyTail]; omega⟩

theorem tails_four (h : 0x10000 ≤ n ∧ n < 0x110000) :
    ∃ range, tailsOf (n / 262144 % 8 + 240) = [range, anyTail, anyTail] ∧
      range.1 ≤ n / 4096 % 64 + 128 ∧ n / 4096 % 64 + 128 ≤ range.2 := by
  unfold tailsOf
  split_ifs <;> first | omega | exact ⟨_, rfl, by dsimp [anyTail]; omega, by dsimp [anyTail]; omega⟩

theorem tail_mod (n : Nat) : anyTail.1 ≤ n % 64 + 128 ∧ n % 64 + 128 ≤ anyTail.2 := by
  dsimp [anyTail]
  omega

/-- A character is decoded from the bytes that encode it. -/
theorem run_utf8EncodeChar (c : Char) :
    idle.run (String.utf8EncodeChar c ++ bs) = c :: idle.run bs := by
  have hvalid : c.toNat < 0xD800 ∨ 0xDFFF < c.toNat ∧ c.toNat < 0x110000 := c.valid
  obtain ⟨n, hn⟩ : ∃ n, c.toNat = n := ⟨_, rfl⟩
  have hc : Char.ofNat n = c := by rw [← hn, Char.ofNat_toNat]
  have hval : c.val.toNat = n := hn
  rw [hn] at hvalid
  unfold String.utf8EncodeChar
  rw [hval, ← hc]
  dsimp only
  split_ifs with h₁ h₂ h₃
  · exact run_alone bs (by omega)
  · have hvalue : (n / 64 % 32 + 192) % 32 * 64 + (n % 64 + 128) % 64 = n := by omega
    change idle.run (.ofNat _ :: .ofNat _ :: bs) = _
    rw [run_first _ (by omega) (tails_two (by omega)), run_last bs (tail_mod n) (by omega)]
    exact congrArg (Char.ofNat · :: _) hvalue
  · have hvalue : ((n / 4096 % 16 + 224) % 16 * 64 + (n / 64 % 64 + 128) % 64) * 64 +
        (n % 64 + 128) % 64 = n := by omega
    obtain ⟨range, htails, hrange⟩ := tails_three (n := n) (by omega) (by omega)
    change idle.run (.ofNat _ :: .ofNat _ :: .ofNat _ :: bs) = _
    rw [run_first _ (by omega) htails, run_next _ hrange (by omega),
      run_last bs (tail_mod n) (by omega)]
    exact congrArg (Char.ofNat · :: _) hvalue
  · have hvalue : (((n / 262144 % 8 + 240) % 8 * 64 + (n / 4096 % 64 + 128) % 64) * 64 +
        (n / 64 % 64 + 128) % 64) * 64 + (n % 64 + 128) % 64 = n := by omega
    obtain ⟨range, htails, hrange⟩ := tails_four (n := n) (by omega)
    change idle.run (.ofNat _ :: .ofNat _ :: .ofNat _ :: .ofNat _ :: bs) = _
    rw [run_first _ (by omega) htails, run_next _ hrange (by omega),
      run_next _ (tail_mod (n / 64)) (by omega), run_last bs (tail_mod n) (by omega)]
    exact congrArg (Char.ofNat · :: _) hvalue

end Decoder

/-- Text is decoded as it is. -/
theorem decodeLossy_toUTF8 (s : String) : decodeLossy s.toUTF8.data.toList = s := by
  have hbytes : s.toUTF8.data.toList = s.toList.flatMap String.utf8EncodeChar := by
    rw [String.toUTF8_eq_toByteArray, ← String.utf8Encode_toList, List.utf8Encode,
      List.data_toByteArray]
  have hrun (cs : List Char) : Decoder.idle.run (cs.flatMap String.utf8EncodeChar) = cs := by
    induction cs with
    | nil => rfl
    | cons c cs ih => rw [List.flatMap_cons, Decoder.run_utf8EncodeChar, ih]
  rw [decodeLossy, hbytes, hrun, String.ofList_toList]

/-- A byte that begins no character, and a character that breaks off. -/
example : decodeLossy [0x61, 0xFF, 0xE2, 0x82, 0x62] = "a\ufffd\ufffdb" := by decide +kernel

end PositionOverlay.Text
