import Mathlib.Algebra.Order.Field.Power
import Mathlib.Algebra.Order.Field.Rat
import Mathlib.Tactic.FieldSimp
import Mathlib.Tactic.Positivity
import Mathlib.Tactic.Ring
import PositionOverlay.Proofs.Decimal.Digits

/-! # Shortest digits round to their value

The digits that are found for a positive value stand for a decimal that is rounded to this value:
it lies no farther away than half way to the next values. Seventeen digits are always enough, so
the search never ends without a decimal.
-/
namespace PositionOverlay.Decimal

/-! ## Rationals that are rounded to a value -/

/-- Half way to the value below, in units of the last bit. Below a power of two the values lie
twice as close, except for the least ones. -/
def halfBelow (m : ℕ) (q : ℤ) : ℚ := if m = leadingBit ∧ leastExponent < q then 1 / 4 else 1 / 2

/-- A rational that is rounded to `m * 2 ^ q`. One that lies half way between two values is
rounded to that with the even mantissa. -/
def RoundsTo (r : ℚ) (m : ℕ) (q : ℤ) : Prop :=
  let low : ℚ := (m - halfBelow m q) * 2 ^ q
  let high : ℚ := (m + 1 / 2) * 2 ^ q
  if m % 2 = 0 then low ≤ r ∧ r ≤ high else low < r ∧ r < high

theorem roundsTo_zero (q : ℤ) : RoundsTo 0 0 q := by
  have hbelow : 0 ≤ halfBelow 0 q := by
    unfold halfBelow
    split_ifs <;> positivity
  unfold RoundsTo
  dsimp only
  rw [if_pos (Nat.zero_mod 2)]
  constructor
  · rw [Nat.cast_zero, zero_sub, neg_mul, neg_nonpos]
    positivity
  · positivity

/-- The mantissa of a float has 53 bits. -/
theorem Binary.mantissa_lt {bits m : ℕ} {negative : Bool} {q : ℤ}
    (h : ofBits bits = .finite negative m q) : m < 2 * leadingBit := by
  have hfraction : bits % leadingBit < leadingBit := Nat.mod_lt _ (by decide)
  unfold ofBits at h
  dsimp only at h
  split_ifs at h
  · cases h
    omega
  · cases h
    omega

/-- The value of digits. -/
def Digits.value (d : Digits) : ℚ := d.digits * 10 ^ d.exponent

/-- A power with a whole exponent as a quotient of powers. -/
theorem pow_toNat_div (x : ℚ) (n : ℤ) : x ^ n.toNat / x ^ (-n).toNat = x ^ n := by
  obtain ⟨k, rfl | rfl⟩ := n.eq_nat_or_neg
  · simp
  · simp

namespace Interval

variable {m d : ℕ} {q k : ℤ}

/-- What the whole numbers of an interval are counted in. -/
def unit (q k : ℤ) : ℚ := 2 ^ (2 - q).toNat * 10 ^ (-k).toNat

theorem unit_pos (q k : ℤ) : 0 < unit q k := by
  unfold unit
  positivity

theorem cast_scaled (a : ℕ) (q k : ℤ) :
    ((a * Nat.pow 2 (q - 2).toNat * Nat.pow 10 (-k).toNat : ℕ) : ℚ) =
      a / 4 * 2 ^ q * unit q k := by
  have hpow : (2 : ℚ) ^ (q - 2).toNat = 2 ^ q / 4 * 2 ^ (2 - q).toNat := by
    have hquotient := pow_toNat_div 2 (q - 2)
    rw [zpow_sub₀ two_ne_zero, Int.neg_sub, div_eq_iff (by positivity)] at hquotient
    rw [hquotient]
    norm_num
  rw [unit, Nat.pow_eq, Nat.pow_eq]
  push_cast
  rw [hpow]
  ring

theorem cast_counted (d : ℕ) (q k : ℤ) :
    ((d * (Nat.pow 2 (2 - q).toNat * Nat.pow 10 k.toNat) : ℕ) : ℚ) = d * 10 ^ k * unit q k := by
  have hpow : (10 : ℚ) ^ k.toNat = 10 ^ k * 10 ^ (-k).toNat := by
    rw [← div_eq_iff (by positivity), pow_toNat_div]
  rw [unit, Nat.pow_eq, Nat.pow_eq]
  push_cast
  rw [hpow]
  ring

theorem cast_low (hm : 0 < m) : (((ofBinary m q).inUnitsOf k).low : ℚ) =
    (m - halfBelow m q) * 2 ^ q * unit q k := by
  refine (cast_scaled _ q k).trans ?_
  unfold halfBelow
  split_ifs
  · rw [Nat.cast_sub (by omega)]
    push_cast
    ring
  · rw [Nat.cast_sub (by omega)]
    push_cast
    ring

theorem cast_high : (((ofBinary m q).inUnitsOf k).high : ℚ) = (m + 1 / 2) * 2 ^ q * unit q k := by
  refine (cast_scaled _ q k).trans ?_
  push_cast
  ring

/-- The whole numbers that an interval holds, counted in units of a power of ten, are those whose
decimals round to the value. -/
theorem holds_ofBinary_iff (hm : 0 < m) :
    ((ofBinary m q).inUnitsOf k).holds d = true ↔ RoundsTo (d * 10 ^ k) m q := by
  have hunit := unit_pos q k
  have hcount : ((d * ((ofBinary m q).inUnitsOf k).denominator : ℕ) : ℚ) =
      d * 10 ^ k * unit q k := cast_counted d q k
  have hclosed : ((ofBinary m q).inUnitsOf k).closed = (m % 2 == 0) := rfl
  unfold holds RoundsTo
  dsimp only
  rw [hclosed]
  by_cases heven : m % 2 = 0
  · rw [if_pos (by simpa using heven), if_pos heven, Bool.and_eq_true, decide_eq_true_eq,
      decide_eq_true_eq, ← Nat.cast_le (α := ℚ), ← Nat.cast_le (α := ℚ), cast_low hm, cast_high,
      hcount, mul_le_mul_iff_left₀ hunit, mul_le_mul_iff_left₀ hunit]
  · rw [if_neg (by simpa using heven), if_neg heven, Bool.and_eq_true, decide_eq_true_eq,
      decide_eq_true_eq, ← Nat.cast_lt (α := ℚ), ← Nat.cast_lt (α := ℚ), cast_low hm, cast_high,
      hcount, mul_lt_mul_iff_left₀ hunit, mul_lt_mul_iff_left₀ hunit]

/-! ## The search -/

variable {i : Interval} {tie : Tie} {place : ℤ}

theorem holds_of_between (hlow : i.low < d * i.denominator) (hhigh : d * i.denominator < i.high) :
    i.holds d = true := by
  unfold holds
  split <;> simp [hlow, hhigh, hlow.le, hhigh.le]

theorem exists_neighbour?_of_holds (tie : Tie)
    (h : i.holds (i.value / i.denominator) = true ∨
      i.holds (i.value / i.denominator + 1) = true) :
    ∃ d, i.neighbour? tie = some d := by
  cases hdown : i.holds (i.value / i.denominator) <;>
    cases hup : i.holds (i.value / i.denominator + 1) <;> simp only [neighbour?, hdown, hup]
  · simp [hdown, hup] at h
  · exact ⟨_, rfl⟩
  · exact ⟨_, rfl⟩
  · cases tie <;> split_ifs <;> exact ⟨_, rfl⟩

/-- An interval around its value that is longer than the unit holds one of the neighbours. -/
theorem exists_neighbour? (tie : Tie) (hdenominator : 0 < i.denominator) (hlow : i.low < i.value)
    (hhigh : i.value < i.high) (hlong : i.low + i.denominator < i.high) :
    ∃ d, i.neighbour? tie = some d := by
  have hdown : i.value / i.denominator * i.denominator ≤ i.value := Nat.div_mul_le_self _ _
  have hup : i.value < (i.value / i.denominator + 1) * i.denominator :=
    Nat.mul_comm _ i.denominator ▸ Nat.lt_mul_div_succ _ hdenominator
  refine exists_neighbour?_of_holds tie ?_
  by_cases hnear : i.low < i.value / i.denominator * i.denominator
  · exact .inl (holds_of_between hnear (hdown.trans_lt hhigh))
  · refine .inr (holds_of_between (hlow.trans hup) ?_)
    rw [Nat.succ_mul]
    omega

theorem holds_search (tries n : ℕ)
    (h : ∃ j < tries, ∃ d, (i.inUnitsOf (place - ↑(n + j) + 1)).neighbour? tie = some d) :
    (i.inUnitsOf (i.search tie place tries n).exponent).holds (i.search tie place tries n).digits =
      true := by
  induction tries generalizing n with
  | zero =>
    obtain ⟨j, hj, -⟩ := h
    exact absurd hj (Nat.not_lt_zero j)
  | succ tries ih =>
    unfold search
    dsimp only
    split
    next d hd => exact holds_of_neighbour? hd
    next hnone =>
      refine ih (n + 1) ?_
      obtain ⟨_ | j, hj, d, hd⟩ := h
      · rw [Nat.add_zero, hnone] at hd
        cases hd
      · exact ⟨j, by omega, d, by rwa [Nat.add_right_comm, Nat.add_assoc]⟩

end Interval

theorem Digits.value_stripZeros (fuel : ℕ) (d : Digits) : (d.stripZeros fuel).value = d.value := by
  induction fuel generalizing d with
  | zero => rfl
  | succ fuel ih =>
    unfold stripZeros
    split
    next h =>
      have hdigits : (d.digits : ℚ) = ↑(d.digits / 10) * 10 := by
        exact_mod_cast (Nat.div_mul_cancel (Nat.dvd_of_mod_eq_zero h.2)).symm
      rw [ih, value, value, zpow_add_one₀ (by norm_num), hdigits]
      ring
    next => rfl

/-- The value of an interval and its ends, counted in units of a power of ten. -/
theorem Interval.ofBinary_inUnitsOf (m : ℕ) (q k : ℤ) : ∃ s below, 0 < s ∧
    (below = 1 ∧ m = leadingBit ∨ below = 2) ∧
    ((ofBinary m q).inUnitsOf k).value = 4 * (m * s) ∧
    ((ofBinary m q).inUnitsOf k).low = 4 * (m * s) - below * s ∧
    ((ofBinary m q).inUnitsOf k).high = 4 * (m * s) + 2 * s := by
  refine ⟨Nat.pow 2 (q - 2).toNat * Nat.pow 10 (-k).toNat,
    if m = leadingBit ∧ leastExponent < q then 1 else 2,
    Nat.mul_pos (Nat.pow_pos (by decide)) (Nat.pow_pos (by decide)), ?_, ?_, ?_, ?_⟩
  · split_ifs with h
    · exact .inl ⟨rfl, h.1⟩
    · exact .inr rfl
  · rw [← Nat.mul_assoc 4, ← Nat.mul_assoc]
    rfl
  · rw [← Nat.mul_assoc 4, ← Nat.sub_mul, ← Nat.mul_assoc]
    rfl
  · rw [← Nat.mul_assoc 4, ← Nat.add_mul, ← Nat.mul_assoc]
    rfl

/-- Seventeen digits are enough: their unit is shorter than the interval. -/
theorem Interval.exists_neighbour?_seventeen (tie : Tie) {m : ℕ} {q place : ℤ} (hm : 0 < m)
    (hsize : m < 2 * leadingBit) (hplace : (ofBinary m q).Leads place) :
    ∃ d, ((ofBinary m q).inUnitsOf (place - (16 : ℕ))).neighbour? tie = some d := by
  obtain ⟨s, below, hs, hbelow, hvalue, hlow, hhigh⟩ :=
    ofBinary_inUnitsOf m q (place - (16 : ℕ))
  have hbit : leadingBit = 4503599627370496 := rfl
  have hfine := hplace.pow_mul_le 16
  have hms : s ≤ m * s := Nat.le_mul_of_pos_left s hm
  refine exists_neighbour? tie (Nat.mul_pos hplace.denominator (Nat.pow_pos (by decide))) ?_ ?_ ?_
  · rw [hlow, hvalue]
    rcases hbelow with ⟨rfl, -⟩ | rfl <;> omega
  · rw [hvalue, hhigh]
    omega
  · rw [hvalue] at hfine
    rw [hlow, hhigh]
    rcases hbelow with ⟨rfl, hleading⟩ | rfl
    · rw [hleading, hbit] at hfine ⊢
      omega
    · have hmost : m * s ≤ 9007199254740991 * s := Nat.mul_le_mul_right s (by omega)
      omega

/-- The shortest digits of a positive value round to it. -/
theorem shortest_roundsTo (tie : Tie) {m : ℕ} (q : ℤ) (hm : 0 < m) (hsize : m < 2 * leadingBit) :
    RoundsTo (shortest tie m q).value m q := by
  obtain ⟨d, hd⟩ :=
    Interval.exists_neighbour?_seventeen tie hm hsize (Interval.leads_ofBinary q hm)
  have hunit (place : ℤ) : place - (1 + 16 : ℕ) + 1 = place - (16 : ℕ) := by omega
  have hholds := Interval.holds_search 17 1 ⟨16, by decide, d, by rwa [hunit]⟩
  rw [shortest, Digits.value_stripZeros]
  exact (Interval.holds_ofBinary_iff hm).mp hholds

end PositionOverlay.Decimal
