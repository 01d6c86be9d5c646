import Mathlib.Algebra.GroupWithZero.Nat
import Mathlib.Data.List.Basic
import Mathlib.Tactic.SplitIfs
import PositionOverlay.Decimal.Numeral

/-! # Written digits

The digits of a whole number are decimal digits, the first of them is no zero unless the number is
zero, and they read back as the number. The shortest digits of a positive value are not zero.
-/
namespace PositionOverlay.Decimal

/-! ## Digits of whole numbers -/

/-- Digits, at least one. -/
structure Digital (cs : List Char) : Prop where
  nonempty : cs ≠ []
  digits : ∀ c ∈ cs, c.isDigit = true

theorem digital_toDigits (n : Nat) : Digital (Nat.toDigits 10 n) :=
  ⟨Nat.toDigits_ne_nil, fun _ => Nat.isDigit_of_mem_toDigits (by decide) (Nat.le_refl 10)⟩

theorem valueOfDigits_toDigits (n : Nat) : valueOfDigits (Nat.toDigits 10 n) = n := by
  rw [valueOfDigits]
  exact Nat.ofDigitChars_toDigits (by decide) (Nat.le_refl 10)

theorem valueOfDigits_zeros_append (n : Nat) (ds : List Char) :
    valueOfDigits (List.replicate n '0' ++ ds) = valueOfDigits ds := by
  change Nat.ofDigitChars 10 _ 0 = Nat.ofDigitChars 10 ds 0
  rw [Nat.ofDigitChars_append, Nat.ofDigitChars_replicate_zero, Nat.mul_zero]

theorem valueOfDigits_append_zeros (ds : List Char) (n : Nat) :
    valueOfDigits (ds ++ List.replicate n '0') = 10 ^ n * valueOfDigits ds := by
  change Nat.ofDigitChars 10 _ 0 = 10 ^ n * Nat.ofDigitChars 10 ds 0
  rw [Nat.ofDigitChars_append, Nat.ofDigitChars_replicate_zero]

/-- A text whose first character, if there is one, is no digit. -/
def EndsDigits (rest : List Char) : Prop := ∀ c ∈ rest.head?, c.isDigit = false

theorem spanDigits_of_digital {ds rest : List Char} (h : Digital ds) (hrest : EndsDigits rest) :
    spanDigits (ds ++ rest) = (ds, rest) := by
  have hnone : rest.takeWhile Char.isDigit = [] := by
    cases rest with
    | nil => rfl
    | cons c rest => rw [List.takeWhile_cons_of_neg (by simp [hrest c rfl])]
  have hall : rest.dropWhile Char.isDigit = rest := by
    cases rest with
    | nil => rfl
    | cons c rest => rw [List.dropWhile_cons_of_neg (by simp [hrest c rfl])]
  rw [spanDigits, List.takeWhile_append_of_pos h.digits, List.dropWhile_append_of_pos h.digits,
    hnone, hall, List.append_nil]

/-- The digits of a positive number do not begin with a zero. -/
theorem head?_toDigits {n : Nat} (h : 0 < n) : (Nat.toDigits 10 n).head? ≠ some '0' := by
  induction n using Nat.strongRecOn with
  | ind n ih =>
    by_cases hlt : n < 10
    · rw [Nat.toDigits_of_lt_base hlt]
      exact (by decide : ∀ n < 10, 0 < n → [n.digitChar].head? ≠ some '0') n hlt h
    · rw [Nat.toDigits_of_base_le (by decide) (Nat.le_of_not_lt hlt),
        List.head?_append_of_ne_nil _ Nat.toDigits_ne_nil]
      exact ih (n / 10) (by omega) (by omega)

theorem lt_pow_digitCount (n : Nat) : n < 10 ^ digitCount n :=
  (Nat.length_toDigits_le_iff (by decide) Nat.length_toDigits_pos).mp (Nat.le_refl _)

theorem pow_digitCount_le {n : Nat} (h : 0 < n) : 10 ^ (digitCount n - 1) ≤ n := by
  by_cases hone : digitCount n - 1 = 0
  · rw [hone, Nat.pow_zero]
    exact h
  · rw [← Nat.not_lt, ← Nat.length_toDigits_le_iff (by decide) (Nat.pos_of_ne_zero hone)]
    have hcount : digitCount n = (Nat.toDigits 10 n).length := rfl
    omega

/-! ## Shortest digits -/

namespace Interval

variable {i : Interval}

/-- The interval lies above zero, and so does the digit of its value at a place. -/
structure Leads (i : Interval) (place : Int) : Prop where
  low : 0 < i.low
  leads : i.denominator * 10 ^ place.toNat ≤ i.value * 10 ^ (-place).toNat
  denominator : 0 < i.denominator

theorem pos_of_holds (h : 0 < i.low) {d : Nat} (hd : i.holds d = true) : 0 < d := by
  rcases Nat.eq_zero_or_pos d with rfl | hpos
  · unfold holds at hd
    cases hc : i.closed <;> simp [hc] at hd
    omega
  · exact hpos

/-- The digit at the leading place is no zero. -/
theorem leads_leadingPlace (hlow : 0 < i.low) (hvalue : 0 < i.value)
    (hdenominator : 0 < i.denominator) : i.Leads i.leadingPlace := by
  refine ⟨hlow, ?_, hdenominator⟩
  unfold leadingPlace
  split
  next h =>
    have hcount : 0 < digitCount (i.value / i.denominator) := Nat.length_toDigits_pos
    have hplace : ((digitCount (i.value / i.denominator) : Int) - 1).toNat =
        digitCount (i.value / i.denominator) - 1 := by omega
    have hnone : (-((digitCount (i.value / i.denominator) : Int) - 1)).toNat = 0 := by omega
    rw [hplace, hnone, Nat.pow_zero, Nat.mul_one]
    calc i.denominator * 10 ^ (digitCount (i.value / i.denominator) - 1)
        ≤ i.denominator * (i.value / i.denominator) :=
          Nat.mul_le_mul_left _ (pow_digitCount_le (Nat.div_pos h hdenominator))
      _ ≤ i.value := Nat.mul_div_le _ _
  next h =>
    have hlt := lt_pow_digitCount ((i.denominator - 1) / i.value)
    rw [Nat.div_lt_iff_lt_mul hvalue, Nat.mul_comm] at hlt
    have hnone : (-(digitCount ((i.denominator - 1) / i.value) : Int)).toNat = 0 := by omega
    rw [hnone, Nat.pow_zero, Int.neg_neg, Int.toNat_natCast]
    omega

/-- So many places below the leading digit, the value has at least that power of ten of units. -/
theorem Leads.pow_mul_le {place : Int} (h : i.Leads place) (n : Nat) :
    10 ^ n * (i.inUnitsOf (place - n)).denominator ≤ (i.inUnitsOf (place - n)).value := by
  change 10 ^ n * (i.denominator * 10 ^ (place - n).toNat) ≤ i.value * 10 ^ (-(place - n)).toNat
  refine Nat.le_of_mul_le_mul_right ?_ (Nat.pow_pos (n := place.toNat) (by decide : 0 < 10))
  calc 10 ^ n * (i.denominator * 10 ^ (place - n).toNat) * 10 ^ place.toNat
      = i.denominator * 10 ^ place.toNat * (10 ^ (place - n).toNat * 10 ^ n) := by ac_rfl
    _ ≤ i.value * 10 ^ (-place).toNat * (10 ^ (place - n).toNat * 10 ^ n) :=
      Nat.mul_le_mul_right _ h.leads
    _ = i.value * 10 ^ ((-place).toNat + ((place - n).toNat + n)) := by
      rw [Nat.mul_assoc, ← Nat.pow_add, ← Nat.pow_add]
    _ = i.value * 10 ^ ((-(place - n)).toNat + place.toNat) := by
      rw [show (-place).toNat + ((place - n).toNat + n) =
        (-(place - n)).toNat + place.toNat by omega]
    _ = i.value * 10 ^ (-(place - n)).toNat * 10 ^ place.toNat := by
      rw [Nat.pow_add, Nat.mul_assoc]

/-- Digits at lower places are counted in smaller units. -/
theorem Leads.inUnitsOf {place k : Int} (h : i.Leads place) (hk : k ≤ place) :
    (i.inUnitsOf k).denominator ≤ (i.inUnitsOf k).value := by
  obtain ⟨n, rfl⟩ : ∃ n : Nat, k = place - n := ⟨(place - k).toNat, by omega⟩
  exact Nat.le_trans (Nat.le_mul_of_pos_left _ (Nat.pow_pos (by decide))) (h.pow_mul_le n)

theorem Leads.search_pos {place : Int} (h : i.Leads place) (tie : Tie) {tries n : Nat}
    (hn : 0 < n) : 0 < (i.search tie place tries n).digits := by
  induction tries generalizing n with
  | zero =>
    refine Nat.div_pos (h.inUnitsOf (by omega)) ?_
    exact Nat.mul_pos h.denominator (Nat.pow_pos (by decide))
  | succ tries ih =>
    unfold search
    dsimp only
    split
    next d hd =>
      have hlow : 0 < (i.inUnitsOf (place - n + 1)).low :=
        Nat.mul_pos h.low (Nat.pow_pos (by decide))
      exact pos_of_holds hlow (holds_of_neighbour? hd)
    next => exact ih (Nat.succ_pos n)

theorem leads_ofBinary {m : Nat} (q : Int) (hm : 0 < m) :
    (ofBinary m q).Leads (ofBinary m q).leadingPlace := by
  have hscale : 0 < Nat.pow 2 (q - 2).toNat := Nat.pow_pos (by decide)
  refine leads_leadingPlace (Nat.mul_pos ?_ hscale) ?_ (Nat.pow_pos (by decide))
  · split_ifs <;> omega
  · exact Nat.mul_pos (by omega) hscale

end Interval

theorem Digits.stripZeros_pos {fuel : Nat} {d : Digits} (h : 0 < d.digits) :
    0 < (d.stripZeros fuel).digits := by
  induction fuel generalizing d with
  | zero => exact h
  | succ fuel ih =>
    unfold stripZeros
    split
    next hz => exact ih (by dsimp only; omega)
    next => exact h

/-- The shortest digits of a positive value are not zero. -/
theorem shortest_pos (tie : Tie) {m : Nat} (q : Int) (h : 0 < m) :
    0 < (shortest tie m q).digits :=
  Digits.stripZeros_pos ((Interval.leads_ofBinary q h).search_pos tie Nat.one_pos)

end PositionOverlay.Decimal
