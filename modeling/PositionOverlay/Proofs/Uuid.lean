import Mathlib.Algebra.GroupWithZero.Nat
import PositionOverlay.Uuid

/-! # Written order identifiers

An identifier is written as digits in groups, and the groups are found again between the hyphens.
-/
namespace PositionOverlay.Uuid

/-! ## Digits -/

theorem hexNumber?_append (cs ds : List Char) :
    hexNumber? (cs ++ ds) = (hexNumber? cs).bind fun n =>
      ds.foldlM (fun n c => (hexDigit? c).map (16 * n + ·)) n :=
  List.foldlM_append

theorem hexDigit?_digitChar : ∀ {n : Nat}, n < 16 → hexDigit? n.digitChar = some n := by decide

theorem hexNumber?_toDigits (n : Nat) : hexNumber? (Nat.toDigits 16 n) = some n := by
  induction n using Nat.strongRecOn with
  | ind n ih =>
    by_cases hlt : n < 16
    · rw [Nat.toDigits_of_lt_base hlt]
      change (((hexDigit? n.digitChar).map (16 * 0 + ·)).bind some) = some n
      rw [hexDigit?_digitChar hlt]
      simp
    · have hmod : n % 16 < 16 := Nat.mod_lt n (by decide)
      rw [Nat.toDigits_of_base_le (by decide) (Nat.le_of_not_lt hlt), hexNumber?_append,
        ih (n / 16) (by omega)]
      change (((hexDigit? (n % 16).digitChar).map (16 * (n / 16) + ·)).bind some) = some n
      rw [hexDigit?_digitChar hmod]
      simp [Nat.div_add_mod]

theorem hexNumber?_zeros (k : Nat) : hexNumber? (List.replicate k '0') = some 0 := by
  induction k with
  | zero => rfl
  | succ k ih => exact ih

theorem hexNumber?_digits (u : Uuid) : hexNumber? u.digits = some u.bits.toNat := by
  rw [digits, hexNumber?_append, hexNumber?_zeros]
  exact hexNumber?_toDigits _

theorem length_digits (u : Uuid) : u.digits.length = 32 := by
  have hle : (Nat.toDigits 16 u.bits.toNat).length ≤ 32 :=
    (Nat.length_toDigits_le_iff (by decide) (by decide)).mpr u.bits.isLt
  rw [digits, List.length_append, List.length_replicate]
  omega

/-! ## Groups -/

theorem flatten_cut {ns : List Nat} {cs : List Char} (h : cs.length ≤ ns.sum) :
    (cut ns cs).flatten = cs := by
  induction ns generalizing cs with
  | nil => exact (List.length_eq_zero_iff.mp (Nat.le_zero.mp h)).symm
  | cons n ns ih =>
    rw [List.sum_cons] at h
    rw [cut, List.flatten_cons, ih (by rw [List.length_drop]; omega), List.take_append_drop]

theorem intercalate_cut_cons (n m : Nat) (ns : List Nat) (cs : List Char) :
    ['-'].intercalate (cut (n :: m :: ns) cs) =
      cs.take n ++ '-' :: ['-'].intercalate (cut (m :: ns) (cs.drop n)) := by
  rw [cut, cut]
  simp [List.intercalate]

/-- One hyphen stands before each group but the first. -/
theorem length_intercalate_cut {n : Nat} {ns : List Nat} {cs : List Char}
    (h : cs.length = (n :: ns).sum) :
    (['-'].intercalate (cut (n :: ns) cs)).length = cs.length + ns.length := by
  induction ns generalizing n cs with
  | nil => simp [cut, List.intercalate] at h ⊢; omega
  | cons m ns ih =>
    rw [List.sum_cons] at h
    have htail := @ih m (cs.drop n) (by rw [List.length_drop]; omega)
    rw [intercalate_cut_cons, List.length_append, List.length_cons, htail, List.length_take,
      List.length_drop, List.length_cons]
    omega

theorem splitGroups?_cut {n : Nat} {ns : List Nat} {cs : List Char}
    (h : cs.length = (n :: ns).sum) :
    splitGroups? (n :: ns) (['-'].intercalate (cut (n :: ns) cs)) = some (cut (n :: ns) cs) := by
  induction ns generalizing n cs with
  | nil =>
    have htake : cs.take n = cs := List.take_of_length_le (by simp at h; omega)
    have hcut : ['-'].intercalate (cut [n] cs) = cs := by simp [cut, List.intercalate, htake]
    rw [hcut, splitGroups?, if_pos (by simpa using h), cut, htake, cut]
  | cons m ns ih =>
    rw [List.sum_cons] at h
    have htail := @ih m (cs.drop n) (by rw [List.length_drop]; omega)
    have hlength : (cs.take n).length = n := by
      rw [List.length_take]
      omega
    rw [intercalate_cut_cons, splitGroups?, List.drop_left' hlength, List.take_left' hlength]
    · refine (if_pos hlength).trans ?_
      rw [htail]
      rfl
    · exact nofun

/-- An identifier is read back from its written form. -/
theorem parse_render (u : Uuid) : parse u.render = .ok u := by
  have hsum : u.digits.length = groupLengths.sum := length_digits u
  have hlength : (['-'].intercalate (cut groupLengths u.digits)).length = 36 :=
    (length_intercalate_cut hsum).trans (by rw [length_digits]; rfl)
  have hgroups : splitGroups? groupLengths (['-'].intercalate (cut groupLengths u.digits)) =
      some (cut groupLengths u.digits) := splitGroups?_cut hsum
  have hread : read? u.render.toList = some u := by
    rw [render, String.toList_ofList, read?, hlength, unwrap, hlength]
    simp only [Nat.reduceEqDiff, if_false, decide_false, Bool.false_and, Bool.false_eq_true]
    rw [hgroups, Option.map_some, flatten_cut (Nat.le_of_eq hsum), Option.bind_some,
      hexNumber?_digits, Option.map_some, BitVec.ofNat_toNat, BitVec.setWidth_eq]
  rw [parse, hread]

end PositionOverlay.Uuid
