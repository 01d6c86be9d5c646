import PositionOverlay.Proofs.Json.Numerals

/-! # One line for a value

The compact text of a value has no control characters, so it stands on one line.
-/
namespace PositionOverlay.Json

open Decimal

/-- Characters that are no control characters. -/
def Printable (cs : List Char) : Prop := ∀ c ∈ cs, 32 ≤ c.toNat

-- The instance is named, since one that goes through all characters may be found first.
instance (cs : List Char) : Decidable (Printable cs) :=
  List.decidableBAll (fun c : Char => 32 ≤ c.toNat) cs

namespace Printable

variable {cs ds : List Char} {c : Char}

theorem nil : Printable [] := nofun

theorem cons (hc : 32 ≤ c.toNat) (h : Printable cs) : Printable (c :: cs) :=
  List.forall_mem_cons.mpr ⟨hc, h⟩

theorem append (h : Printable cs) (h' : Printable ds) : Printable (cs ++ ds) :=
  List.forall_mem_append.mpr ⟨h, h'⟩

theorem noBreak (h : Printable cs) : '\n' ∉ cs := fun hmem => absurd (h _ hmem) (by decide)

theorem digits (h : Digital ds) : Printable ds := by
  intro c hc
  have hdigit := Char.isDigit_iff_toNat.mp (h.digits c hc)
  have hzero : '0'.toNat = 48 := rfl
  omega

end Printable

open Printable

theorem printable_spelled {t : NumberText} (h : t.Proper) : Printable t.spelled := by
  unfold NumberText.spelled NumberText.unsigned NumberText.fractionText NumberText.powerText
  refine .append ?_ (.append (.append (.digits h.whole) ?_) ?_)
  · split
    · exact .cons (by decide) .nil
    · exact .nil
  · split
    next ds hds => exact .cons (by decide) (.digits (h.fraction ds hds))
    next => exact .nil
  · split
    next n _ =>
      refine .cons (by decide) (.cons ?_ (.digits (digital_toDigits _)))
      split <;> decide
    next => exact .nil

theorem printable_writeNumber (n : Number) : Printable (writeNumber n) := by
  have hnumeral {cs : List Char} (h : IsNumeral cs) : Printable cs := by
    obtain ⟨t, ht, rfl⟩ := h
    exact printable_spelled ht
  cases n with
  | int i => exact hnumeral (isNumeral_writeInt i)
  | float x =>
    rcases writeFloat_cases x with h | h
    · rw [writeNumber, h]
      decide
    · exact hnumeral h

theorem printable_escapeChar (c : Char) : Printable (escapeChar c) := by
  have hcode : ∀ n < 32, Printable (codeEscape (Char.ofNat n)) := by decide
  unfold escapeChar
  split_ifs with _ _ _ _ _ _ _ hcontrol
  -- Only the codes of control characters and characters that are not escaped vary.
  iterate 7 decide
  · have hprintable := hcode c.toNat hcontrol
    rwa [Char.ofNat_toNat] at hprintable
  · exact .cons (Nat.le_of_not_lt hcontrol) .nil

theorem printable_writeString (s : String) : Printable (writeString s) := by
  refine .append (.cons (by decide) ?_) (.cons (by decide) .nil)
  intro c hc
  obtain ⟨d, -, hd⟩ := List.mem_flatMap.mp hc
  exact printable_escapeChar d c hd

mutual

/-- A value is written without control characters. -/
theorem printable_write : (v : Json) → Printable v.write
  | .null => by decide
  | .bool b => by cases b <;> decide
  | .num n => printable_writeNumber n
  | .str s => printable_writeString s
  | .arr items => .append (.cons (by decide) (printable_writeItems items)) (by decide)
  | .obj members => .append (.cons (by decide) (printable_writeMembers members)) (by decide)

theorem printable_writeItems : (items : List Json) → Printable (writeItems items)
  | [] => .nil
  | [v] => printable_write v
  | v :: w :: rest =>
    .append (printable_write v) (.cons (by decide) (printable_writeItems (w :: rest)))

theorem printable_writeMembers :
    (members : List (String × Json)) → Printable (writeMembers members)
  | [] => .nil
  | [(k, v)] => .append (printable_writeString k) (.cons (by decide) (printable_write v))
  | (k, v) :: m :: rest =>
    .append (.append (printable_writeString k) (.cons (by decide) (printable_write v)))
      (.cons (by decide) (printable_writeMembers (m :: rest)))

end

end PositionOverlay.Json
