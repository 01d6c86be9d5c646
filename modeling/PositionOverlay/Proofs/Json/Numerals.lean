import PositionOverlay.Json.Printer
import PositionOverlay.Json.Reader
import PositionOverlay.Proofs.Decimal.Rounding
import PositionOverlay.Proofs.Work

/-! # Numerals as they are written

Every number with digits is written as a sign, whole digits, and perhaps a fraction and a signed
exponent. The outline of such a numeral is read back from any text that begins with it.
-/
namespace PositionOverlay.Json

open Decimal

/-- A text that does not go on with a numeral. -/
def Delimits (rest : List Char) : Prop :=
  ∀ c ∈ rest.head?, c.isDigit = false ∧ c ≠ '.' ∧ c ≠ 'e' ∧ c ≠ 'E'

theorem delimits_nil : Delimits [] := nofun

theorem delimits_cons {c : Char} (rest : List Char)
    (h : c.isDigit = false ∧ c ≠ '.' ∧ c ≠ 'e' ∧ c ≠ 'E') : Delimits (c :: rest) := by
  rintro _ ⟨⟩
  exact h

theorem Delimits.endsDigits {rest : List Char} (h : Delimits rest) : EndsDigits rest :=
  fun c hc => (h c hc).1

theorem readDigits_of_digital {ds rest : List Char} (h : Digital ds) (hrest : EndsDigits rest)
    (atEnd : Fault) : readDigits atEnd (ds ++ rest) = .ok (ds, rest) := by
  have hds : ds.isEmpty = false := by simpa using h.nonempty
  simp only [readDigits, spanDigits_of_digital h hrest, hds, Bool.false_eq_true, if_false]

namespace NumberText

/-- The fraction as it is written. -/
def fractionText (t : NumberText) : List Char :=
  match t.fraction with
  | some ds => '.' :: ds
  | none => []

/-- The exponent as it is written, with its sign. -/
def powerText (t : NumberText) : List Char :=
  match t.power with
  | some n => 'e' :: (if n < 0 then '-' else '+') :: Nat.toDigits 10 n.natAbs
  | none => []

/-- A numeral without its sign, as it is written. -/
def unsigned (t : NumberText) : List Char := t.whole ++ t.fractionText ++ t.powerText

/-- A numeral as it is written. -/
def spelled (t : NumberText) : List Char := (if t.negative then ['-'] else []) ++ t.unsigned

/-- The value of a numeral without its sign. -/
def magnitude (t : NumberText) : ℚ :=
  valueOfDigits (t.whole ++ t.fraction.getD []) *
    10 ^ (t.power.getD 0 - (t.fraction.getD []).length : ℤ)

/-- An outline that can be written: there are digits where digits belong, and no zeros in front. -/
structure Proper (t : NumberText) : Prop where
  whole : Digital t.whole
  leading : t.whole = ['0'] ∨ t.whole.head? ≠ some '0'
  fraction : ∀ ds ∈ t.fraction, Digital ds

variable {t : NumberText} {rest : List Char}

theorem endsDigits_powerText (hrest : Delimits rest) : EndsDigits (t.powerText ++ rest) := by
  unfold powerText
  split
  · rintro _ ⟨⟩
    rfl
  · exact hrest.endsDigits

theorem endsDigits_fractionText (hrest : Delimits rest) :
    EndsDigits (t.fractionText ++ (t.powerText ++ rest)) := by
  unfold fractionText
  split
  · rintro _ ⟨⟩
    rfl
  · exact endsDigits_powerText hrest

theorem Proper.readWhole (h : t.Proper) (hrest : EndsDigits rest) (atEnd : Fault) :
    readWhole atEnd (t.whole ++ rest) = .ok (t.whole, rest) := by
  rw [Json.readWhole, readDigits_of_digital h.whole hrest]
  simp only [bind, Except.bind]
  split
  next c cs hzero =>
    rcases h.leading with h | h
    · rw [h] at hzero
      exact nomatch hzero
    · rw [hzero] at h
      exact absurd rfl h
  next => rfl

theorem Proper.readFraction (h : t.Proper) (hrest : Delimits rest) (atEnd : Fault) :
    readFraction atEnd (t.fractionText ++ (t.powerText ++ rest)) =
      .ok (t.fraction, t.powerText ++ rest) := by
  unfold fractionText
  cases hf : t.fraction with
  | some ds =>
    simp only [List.cons_append, Json.readFraction,
      readDigits_of_digital (h.fraction ds hf) (endsDigits_powerText hrest)]
    rfl
  | none =>
    rw [List.nil_append]
    unfold Json.readFraction
    split
    next cs hpoint =>
      -- Neither an exponent nor what follows the numeral begins with a point.
      unfold powerText at hpoint
      split at hpoint
      · exact nomatch hpoint
      · rw [List.nil_append] at hpoint
        exact absurd rfl (hrest '.' (by rw [hpoint]; rfl)).2.1
    next => rfl

theorem readSign_powerSign (n : Int) (cs : List Char) :
    readSign ((if n < 0 then '-' else '+') :: cs) = (decide (n < 0), cs) := by
  by_cases hn : n < 0
  · rw [if_pos hn, decide_eq_true hn, readSign]
  · rw [if_neg hn, decide_eq_false hn, readSign]

theorem readPower_powerText (hrest : Delimits rest) (atEnd : Fault) :
    readPower atEnd (t.powerText ++ rest) = .ok (t.power, rest) := by
  unfold powerText
  cases t.power with
  | some n =>
    have hvalue : (if decide (n < 0) then -(n.natAbs : Int) else n.natAbs) = n := by
      split_ifs with hn
      · have := of_decide_eq_true hn
        omega
      · have := of_decide_eq_false (Bool.not_eq_true _ ▸ hn)
        omega
    simp only [List.cons_append, readPower, true_or, if_true, readSign_powerSign,
      readDigits_of_digital (digital_toDigits n.natAbs) hrest.endsDigits, bind, Except.bind,
      valueOfDigits_toDigits, hvalue]
    rfl
  | none =>
    rcases rest with _ | ⟨c, rest⟩
    · rfl
    · have hc := (hrest c rfl).2.2
      rw [List.nil_append, readPower, if_neg (by simp [hc])]
      rfl

/-- A numeral without its sign begins with a digit. -/
theorem Proper.unsigned (h : t.Proper) :
    ∃ d cs, d.isDigit = true ∧ t.unsigned = d :: cs := by
  obtain ⟨d, ds, hds⟩ := List.exists_cons_of_ne_nil h.whole.nonempty
  refine ⟨d, ds ++ t.fractionText ++ t.powerText, h.whole.digits d (by simp [hds]), ?_⟩
  rw [NumberText.unsigned, hds]
  rfl

/-- The outline of a numeral is read back. -/
theorem Proper.read (h : t.Proper) (hrest : Delimits rest) (atEnd : Fault) :
    readNumberText atEnd (t.spelled ++ rest) = .ok (t, rest) := by
  have hparts : t.unsigned ++ rest =
      t.whole ++ (t.fractionText ++ (t.powerText ++ rest)) := by
    simp only [NumberText.unsigned, List.append_assoc]
  have hsign : readMinus (t.spelled ++ rest) = (t.negative, t.unsigned ++ rest) := by
    unfold spelled
    cases t.negative with
    | true => rfl
    | false =>
      obtain ⟨d, cs, hd, hcs⟩ := h.unsigned
      simp only [hcs, Bool.false_eq_true, if_false, List.nil_append, List.cons_append]
      unfold readMinus
      split
      next heq =>
        obtain ⟨rfl, -⟩ := List.cons.inj heq
        exact absurd hd (by decide)
      next => rfl
  unfold readNumberText
  rw [hsign, hparts]
  simp only [h.readWhole (endsDigits_fractionText hrest), h.readFraction hrest,
    readPower_powerText hrest, bind, Except.bind]
  rfl

end NumberText

/-! ## Numbers -/

/-- A text that is the numeral of some outline. -/
def IsNumeral (cs : List Char) : Prop := ∃ t : NumberText, t.Proper ∧ cs = t.spelled

/-- A text without a sign that is the numeral of a value. -/
def Spells (cs : List Char) (v : ℚ) : Prop :=
  ∃ t : NumberText, t.Proper ∧ cs = t.unsigned ∧ t.magnitude = v

theorem spells_of_parts (whole ds : List Char) (hwhole : Digital whole)
    (hleading : whole = ['0'] ∨ whole.head? ≠ some '0') (hds : Digital ds) :
    Spells (whole ++ '.' :: ds) (valueOfDigits (whole ++ ds) * 10 ^ (-ds.length : ℤ)) := by
  refine ⟨⟨false, whole, some ds, none⟩, ⟨hwhole, hleading, ?_⟩, (List.append_nil _).symm, ?_⟩
  · rintro _ ⟨⟩
    exact hds
  · rw [NumberText.magnitude, Option.getD_none, Option.getD_some, zero_sub]

theorem isNumeral_writeInt (i : Int) : IsNumeral (writeInt i) := by
  refine ⟨⟨decide (i < 0), Nat.toDigits 10 i.natAbs, none, none⟩,
    ⟨digital_toDigits _, ?_, nofun⟩, ?_⟩
  · rcases Nat.eq_zero_or_pos i.natAbs with hzero | hpos
    · exact .inl (by rw [hzero]; rfl)
    · exact .inr (head?_toDigits hpos)
  · unfold writeInt NumberText.spelled NumberText.unsigned
    by_cases hi : i < 0
    · simp [hi, NumberText.fractionText, NumberText.powerText]
    · simp [hi, NumberText.fractionText, NumberText.powerText]

section Layout

open Layout

variable {ds : List Char} (hds : Digital ds) (hleading : ds.head? ≠ some '0')

include hds

theorem digital_zeros_append (n : Nat) : Digital (List.replicate n '0' ++ ds) :=
  ⟨List.append_ne_nil_of_right_ne_nil _ hds.nonempty, List.forall_mem_append.mpr
    ⟨fun _ hc => List.eq_of_mem_replicate hc ▸ rfl, hds.digits⟩⟩

theorem digital_append_zeros (n : Nat) : Digital (ds ++ List.replicate n '0') :=
  ⟨List.append_ne_nil_of_left_ne_nil hds.nonempty _, List.forall_mem_append.mpr
    ⟨hds.digits, fun _ hc => List.eq_of_mem_replicate hc ▸ rfl⟩⟩

/-- Digits behind the point and behind zeros. -/
theorem spells_below (n : Nat) : Spells ('0' :: '.' :: (List.replicate n '0' ++ ds))
    (valueOfDigits ds * 10 ^ (-(n + ds.length : ℤ))) := by
  have hspells := spells_of_parts ['0'] (List.replicate n '0' ++ ds) ⟨nofun, by simp⟩ (.inl rfl)
    (digital_zeros_append hds n)
  have hvalue : valueOfDigits (['0'] ++ (List.replicate n '0' ++ ds)) = valueOfDigits ds :=
    valueOfDigits_zeros_append (n + 1) ds
  rwa [hvalue, List.length_append, List.length_replicate, Nat.cast_add] at hspells

include hleading

/-- Digits and zeros before the point. -/
theorem spells_padded (n : Nat) : Spells (ds ++ List.replicate n '0' ++ ['.', '0'])
    (valueOfDigits ds * 10 ^ (n : ℤ)) := by
  have hspells := spells_of_parts (ds ++ List.replicate n '0') ['0'] (digital_append_zeros hds n)
    (.inr (by rwa [List.head?_append_of_ne_nil _ hds.nonempty])) ⟨nofun, by simp⟩
  have hvalue : (valueOfDigits (ds ++ List.replicate n '0' ++ ['0']) : ℚ) *
      10 ^ (-['0'].length : ℤ) = valueOfDigits ds * 10 ^ (n : ℤ) := by
    rw [List.append_assoc, ← List.replicate_succ', valueOfDigits_append_zeros, zpow_natCast,
      List.length_singleton, Nat.cast_one, zpow_neg_one]
    push_cast
    rw [pow_succ]
    field_simp
  rwa [hvalue] at hspells

/-- Digits on both sides of the point. -/
theorem spells_cut {n : Nat} (hn : 0 < n) (hlong : n < ds.length) :
    Spells (ds.take n ++ '.' :: ds.drop n) (valueOfDigits ds * 10 ^ (n - ds.length : ℤ)) := by
  have hspells := spells_of_parts (ds.take n) (ds.drop n)
    ⟨by simp [List.take_eq_nil_iff, hds.nonempty, hn.ne'],
      fun c hc => hds.digits c (List.mem_of_mem_take hc)⟩
    (.inr (by rwa [List.head?_take, if_neg hn.ne']))
    ⟨by simpa using hlong, fun c hc => hds.digits c (List.mem_of_mem_drop hc)⟩
  have hexponent : -((ds.drop n).length : ℤ) = n - ds.length := by
    rw [List.length_drop]
    omega
  rwa [List.take_append_drop, hexponent] at hspells

theorem spells_writePositional (place : Int) : Spells (writePositional true ds place)
    (valueOfDigits ds * 10 ^ (place + 1 - ds.length)) := by
  unfold writePositional
  split
  next hplace =>
    have hexponent : place + 1 - (ds.length : ℤ) =
        -(((-place).toNat - 1 : ℕ) + ds.length : ℤ) := by omega
    rw [hexponent]
    exact spells_below hds _
  next hplace =>
    dsimp only
    split
    next hshort =>
      have hexponent : place + 1 - (ds.length : ℤ) = (place.toNat + 1 - ds.length : ℕ) := by omega
      rw [hexponent]
      exact spells_padded hds hleading _
    next hlong =>
      have hexponent : place + 1 - (ds.length : ℤ) = (place.toNat + 1 : ℕ) - ds.length := by omega
      rw [hexponent]
      exact spells_cut hds hleading (Nat.succ_pos _) (Nat.not_le.mp hlong)

theorem spells_writeExponent (place : Int) : Spells (writeExponent true ds place)
    (valueOfDigits ds * 10 ^ (place + 1 - ds.length)) := by
  have hone {d : Char} {cs : List Char} (h : Digital (d :: cs)) : Digital [d] :=
    ⟨nofun, List.forall_mem_singleton.mpr (h.digits d List.mem_cons_self)⟩
  have hsign : (if place < 0 then ['-'] else if true then ['+'] else []) =
      [if place < 0 then '-' else '+'] := by
    by_cases hplace : place < 0 <;> simp [hplace]
  unfold writeExponent
  rw [hsign]
  rcases ds with _ | ⟨d, _ | ⟨d', ds⟩⟩
  · exact absurd rfl hds.nonempty
  · refine ⟨⟨false, [d], none, some place⟩, ⟨hds, .inr hleading, nofun⟩, ?_, ?_⟩
    · simp [NumberText.unsigned, NumberText.fractionText, NumberText.powerText]
    · simp [NumberText.magnitude]
  · refine ⟨⟨false, [d], some (d' :: ds), some place⟩, ⟨hone hds, .inr hleading, ?_⟩, ?_, ?_⟩
    · rintro _ ⟨⟩
      exact ⟨nofun, fun c hc => hds.digits c (List.mem_cons_of_mem _ hc)⟩
    · simp [NumberText.unsigned, NumberText.fractionText, NumberText.powerText]
    · simp [NumberText.magnitude]

end Layout

open Layout in
theorem spells_writePositive {m : Nat} (q : Int) (hm : 0 < m) :
    Spells (Layout.data.writePositive m q) (shortest Layout.data.tie m q).value := by
  have hpos := shortest_pos Layout.data.tie q hm
  rw [Layout.writePositive]
  generalize shortest Layout.data.tie m q = d at hpos ⊢
  have hvalue : d.value = valueOfDigits (Nat.toDigits 10 d.digits) *
      10 ^ (d.exponent + ((Nat.toDigits 10 d.digits).length : ℤ) - 1 + 1 -
        (Nat.toDigits 10 d.digits).length) := by
    rw [valueOfDigits_toDigits, sub_add_cancel, add_sub_cancel_right]
    rfl
  rw [hvalue]
  generalize d.exponent + _ - 1 = place
  change Spells (if (-5 ≤ place && place ≤ 15) then writePositional true _ place
    else writeExponent true _ place) _
  split
  · exact spells_writePositional (digital_toDigits _) (head?_toDigits hpos) place
  · exact spells_writeExponent (digital_toDigits _) (head?_toDigits hpos) place

/-- A text that a float is written as: a numeral with the sign of the float whose value rounds to
it, or `null` if the float has no digits. -/
def IsFloat (x : Float) (cs : List Char) : Prop :=
  match Binary.ofFloat x with
  | .finite negative m q =>
    ∃ t : NumberText, t.Proper ∧ cs = t.spelled ∧ t.negative = negative ∧ RoundsTo t.magnitude m q
  | _ => cs = "null".toList

theorem isFloat_writeFloat (x : Float) : IsFloat x (writeFloat x) := by
  unfold IsFloat writeFloat
  cases hx : Binary.ofFloat x with
  | nan => rfl
  | infinite => rfl
  | finite negative m q =>
    have hspells : ∃ t : NumberText, t.Proper ∧
        (if m = 0 then ['0', '.', '0'] else Layout.data.writePositive m q) = t.unsigned ∧
        RoundsTo t.magnitude m q := by
      split_ifs with hm
      · obtain ⟨t, ht, hcs, hvalue⟩ := spells_of_parts ['0'] ['0'] ⟨nofun, by simp⟩ (.inl rfl)
          ⟨nofun, by simp⟩
        refine ⟨t, ht, hcs, hvalue ▸ hm ▸ ?_⟩
        simpa [valueOfDigits] using roundsTo_zero q
      · obtain ⟨t, ht, hcs, hvalue⟩ := spells_writePositive q (Nat.pos_of_ne_zero hm)
        refine ⟨t, ht, hcs, hvalue ▸ ?_⟩
        exact shortest_roundsTo _ q (Nat.pos_of_ne_zero hm) (Binary.mantissa_lt hx)
    obtain ⟨t, ht, hcs, hvalue⟩ := hspells
    exact ⟨{ t with negative }, ⟨ht.whole, ht.leading, ht.fraction⟩,
      congrArg ((if negative then ['-'] else []) ++ ·) hcs, rfl, hvalue⟩

/-- Every float is written as a numeral, or as `null` if it has no digits. -/
theorem writeFloat_cases (x : Float) : writeFloat x = "null".toList ∨ IsNumeral (writeFloat x) := by
  have h := isFloat_writeFloat x
  unfold IsFloat at h
  split at h
  · obtain ⟨t, ht, hcs, -⟩ := h
    exact .inr ⟨t, ht, hcs⟩
  · exact .inl h

end PositionOverlay.Json
