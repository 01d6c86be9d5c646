import Mathlib.Data.List.Forall2
import Mathlib.Tactic.SplitIfs
import PositionOverlay.Proofs.Marker.Glyph

/-! # Arrows turned over

A downward arrow is an upward one turned over: its ordinates are those of the upward arrow with the
other sign. Products, differences and comparisons of floats respect that to the last bit, so both
arrows have one extent at any size, also where that overflows or is undefined.
-/
namespace PositionOverlay

open Float.Model UnpackedFloat

/-! ## Floats of the other sign -/

namespace Mirror

variable {spec : Format}

theorem unpackSign_packComponents (s : Sign) (exponent : BitVec spec.exponentBits)
    (mantissa : BitVec spec.mantissaBitsWithoutImplicit) :
    unpackSign (packComponents spec s exponent mantissa) = s.toBitVec := by
  change BitVec.cast _ (BitVec.extractLsb _ _ (s.toBitVec ++ exponent ++ mantissa)) = s.toBitVec
  ext i hi
  obtain rfl : i = 0 := by omega
  simp [BitVec.getLsbD_append, BitVec.getElem_append]

theorem ofBitVec_toBitVec (s : Sign) : Sign.ofBitVec s.toBitVec = s := by cases s <;> rfl

section Unpack

variable {b b' : BitVec spec.numBits}

theorem unpack_infinity (he : unpackExponent b = -1#_) (hm : unpackMantissa b = 0#_) :
    UnpackedFloat.unpack spec b = infinity (.ofBitVec (unpackSign b)) :=
  (if_pos he).trans (if_pos hm)

theorem unpack_notANumber (he : unpackExponent b = -1#_) (hm : unpackMantissa b ≠ 0#_) :
    UnpackedFloat.unpack spec b = notANumber :=
  (if_pos he).trans (if_neg hm)

theorem unpack_zero (hfull : unpackExponent b ≠ -1#_) (he : unpackExponent b = 0#_)
    (hm : unpackMantissa b = 0#_) :
    UnpackedFloat.unpack spec b = zero (.ofBitVec (unpackSign b)) :=
  (if_neg hfull).trans ((if_pos he).trans (dif_pos hm))

theorem unpack_subnormal (hfull : unpackExponent b ≠ -1#_) (he : unpackExponent b = 0#_)
    (hm : unpackMantissa b ≠ 0#_) :
    ∃ hpos, UnpackedFloat.unpack spec b =
      finite (.ofBitVec (unpackSign b)) (unpackMantissa b).toNat ((unpackExponent b).toNat -
        (spec.exponentBias + spec.mantissaBitsWithoutImplicit : Int) + 1) hpos :=
  ⟨_, (if_neg hfull).trans ((if_pos he).trans (dif_neg hm))⟩

theorem unpack_normal (hfull : unpackExponent b ≠ -1#_) (he : unpackExponent b ≠ 0#_) :
    ∃ hpos, UnpackedFloat.unpack spec b =
      finite (.ofBitVec (unpackSign b)) (1#1 ++ unpackMantissa b).toNat ((unpackExponent b).toNat -
        (spec.exponentBias + spec.mantissaBitsWithoutImplicit : Int)) hpos :=
  ⟨_, (if_neg hfull).trans (if_neg he)⟩

theorem finite_congr {s s' : Sign} {m m' : Nat} {e e' : Int} {hm : 0 < m} {hm' : 0 < m'}
    (hs : s = s') (hmm : m = m') (he : e = e') : finite s m e hm = finite s' m' e' hm' := by
  subst hs hmm he
  rfl

/-- The sign stands apart from all else. -/
theorem unpack_neg_of_parts (hs : Sign.ofBitVec (unpackSign b) = -Sign.ofBitVec (unpackSign b'))
    (he : unpackExponent b = unpackExponent b') (hm : unpackMantissa b = unpackMantissa b') :
    UnpackedFloat.unpack spec b = (UnpackedFloat.unpack spec b').neg := by
  by_cases hfull : unpackExponent b' = -1#_
  · by_cases hzero : unpackMantissa b' = 0#_
    · rw [unpack_infinity (he.trans hfull) (hm.trans hzero), unpack_infinity hfull hzero, hs]
      rfl
    · rw [unpack_notANumber (he.trans hfull) (hm ▸ hzero), unpack_notANumber hfull hzero]
      rfl
  · by_cases hleast : unpackExponent b' = 0#_
    · by_cases hzero : unpackMantissa b' = 0#_
      · rw [unpack_zero (he ▸ hfull) (he.trans hleast) (hm.trans hzero),
          unpack_zero hfull hleast hzero, hs]
        rfl
      · obtain ⟨_, hb⟩ := unpack_subnormal (he ▸ hfull) (he.trans hleast) (hm ▸ hzero)
        obtain ⟨_, hb'⟩ := unpack_subnormal hfull hleast hzero
        rw [hb, hb']
        exact finite_congr hs (by rw [hm]) (by rw [he])
    · obtain ⟨_, hb⟩ := unpack_normal (he ▸ hfull) (he ▸ hleast)
      obtain ⟨_, hb'⟩ := unpack_normal hfull hleast
      rw [hb, hb']
      exact finite_congr hs (by rw [hm]) (by rw [he])

end Unpack

theorem unpack_packComponents_neg (s : Sign) (exponent : BitVec spec.exponentBits)
    (mantissa : BitVec spec.mantissaBitsWithoutImplicit) :
    UnpackedFloat.unpack spec (packComponents spec (-s) exponent mantissa) =
      (UnpackedFloat.unpack spec (packComponents spec s exponent mantissa)).neg :=
  unpack_neg_of_parts
    (by rw [unpackSign_packComponents, unpackSign_packComponents, ofBitVec_toBitVec,
      ofBitVec_toBitVec])
    (by rw [unpackExponent_packComponents, unpackExponent_packComponents])
    (by rw [unpackMantissa_packComponents, unpackMantissa_packComponents])

theorem pack_finite (s : Sign) (m : Nat) (e : Int) (hm : 0 < m) :
    UnpackedFloat.pack spec (finite s m e hm) =
      if Nat.pow 2 spec.exponentBits ≤
          (e + spec.exponentBias + spec.mantissaBitsWithoutImplicit).toNat + 1 then
        packedInfinity spec s
      else if m.log2 + 1 = spec.mantissaBits then
        packComponents spec s
          (BitVec.ofNat _ (e + spec.exponentBias + spec.mantissaBitsWithoutImplicit).toNat)
          (BitVec.ofNat _ m)
      else packComponents spec s 0#_ (BitVec.ofNat _ m) := rfl

theorem unpack_pack_neg (f : UnpackedFloat) :
    UnpackedFloat.unpack .binary64 (UnpackedFloat.pack .binary64 f.neg) =
      (UnpackedFloat.unpack .binary64 (UnpackedFloat.pack .binary64 f)).neg := by
  cases f with
  | notANumber => rfl
  | infinity s => exact unpack_packComponents_neg s _ _
  | zero s => exact unpack_packComponents_neg s _ _
  | finite s m e hm =>
    change UnpackedFloat.unpack _ (UnpackedFloat.pack _ (finite (-s) m e hm)) = _
    rw [pack_finite, pack_finite]
    split
    · exact unpack_packComponents_neg s _ _
    · split <;> exact unpack_packComponents_neg s _ _

theorem sign_neg_mul (s t : Sign) : -s * t = -(s * t) := by cases s <;> cases t <;> rfl

theorem roundWithAccuracy_eq (s : Sign) (m : Nat) (e : Int) (accuracy : Accuracy) :
    roundWithAccuracy spec s m e accuracy =
      let r := shiftToTargetExponent spec m e accuracy
      let r' := shiftToTargetExponent spec r.1.roundedMantissa r.2 .exact
      if h : r'.1.mantissa = 0 then zero s
      else finite s r'.1.mantissa r'.2 (Nat.pos_of_ne_zero h) := rfl

theorem roundWithAccuracy_neg (s : Sign) (m : Nat) (e : Int) (accuracy : Accuracy) :
    roundWithAccuracy spec (-s) m e accuracy = (roundWithAccuracy spec s m e accuracy).neg := by
  rw [roundWithAccuracy_eq, roundWithAccuracy_eq, apply_dite UnpackedFloat.neg]
  rfl

theorem mul_neg (f g : UnpackedFloat) :
    UnpackedFloat.mul spec f.neg g = (UnpackedFloat.mul spec f g).neg := by
  cases f with
  | notANumber => rfl
  | infinity s =>
    cases g with
    | infinity t => exact congrArg infinity (sign_neg_mul s t)
    | finite t m e hm => exact congrArg infinity (sign_neg_mul s t)
    | _ => rfl
  | zero s =>
    cases g with
    | zero t => exact congrArg zero (sign_neg_mul s t)
    | finite t m e hm => exact congrArg zero (sign_neg_mul s t)
    | _ => rfl
  | finite s m e hm =>
    cases g with
    | notANumber => rfl
    | infinity t => exact congrArg infinity (sign_neg_mul s t)
    | zero t => exact congrArg zero (sign_neg_mul s t)
    | finite t m' e' hm' =>
      change roundWithAccuracy spec (-s * t) (m * m') (e + e') .exact = _
      rw [sign_neg_mul, roundWithAccuracy_neg]
      rfl

theorem isNaN_neg (f : UnpackedFloat) : f.neg.isNaN = f.isNaN := by cases f <;> rfl

theorem compare_neg_finite (s t : Sign) (m m' : Nat) (e e' : Int) (hm : 0 < m) (hm' : 0 < m') :
    (finite s m e hm).neg.compare (finite t m' e' hm').neg =
      (finite t m' e' hm').compare (finite s m e hm) := by
  have hswap (e e' : Int) (m m' : Nat) : ((compare e e').then (compare m m')).swap =
      (compare e' e).then (compare m' m) := by
    rw [Ordering.swap_then, ← Std.OrientedCmp.eq_swap, ← Std.OrientedCmp.eq_swap]
  cases s with
  | negative =>
    cases t with
    | negative => exact congrArg some (hswap e' e m' m).symm
    | positive => rfl
  | positive =>
    cases t with
    | negative => rfl
    | positive => exact congrArg some (hswap e e' m m')

/-- Comparison runs the other way. -/
theorem compare_neg (f g : UnpackedFloat) : f.neg.compare g.neg = g.compare f := by
  cases f with
  | notANumber => cases g <;> rfl
  | infinity s =>
    cases g with
    | infinity t => cases s <;> cases t <;> rfl
    | _ => cases s <;> rfl
  | zero s =>
    cases g with
    | infinity t => cases t <;> rfl
    | finite t m e hm => cases t <;> rfl
    | _ => rfl
  | finite s m e hm =>
    cases g with
    | notANumber => rfl
    | infinity t => cases s <;> cases t <;> rfl
    | zero t => cases s <;> rfl
    | finite t m' e' hm' => exact compare_neg_finite s t m m' e e' hm hm'

theorem lt_neg (f g : UnpackedFloat) : f.neg.lt g.neg = g.lt f :=
  congrArg (· == some Ordering.lt) (compare_neg f g)

theorem apply_neg (s : Sign) (n : Int) : (-s).apply n = -s.apply n := by
  cases s with
  | negative => exact (Int.neg_neg n).symm
  | positive => rfl

theorem sub_finite (s t : Sign) (m m' : Nat) (e e' : Int) (hm : 0 < m) (hm' : 0 < m') :
    UnpackedFloat.sub spec (finite s m e hm) (finite t m' e' hm') =
      normalize spec (s.apply (decreaseExponent m e (min e e')).1 -
        t.apply (decreaseExponent m' e' (min e e')).1) (min e e') .positive := rfl

/-- Two floats of the other sign differ by as much, the other way. -/
theorem sub_neg (f g : UnpackedFloat) :
    UnpackedFloat.sub spec f.neg g.neg = UnpackedFloat.sub spec g f := by
  cases f with
  | notANumber => cases g <;> rfl
  | infinity s =>
    cases g with
    | infinity t => cases s <;> cases t <;> rfl
    | _ => cases s <;> rfl
  | zero s =>
    cases g with
    | notANumber => rfl
    | infinity t => cases t <;> rfl
    | zero t => cases s <;> cases t <;> rfl
    | finite t m e hm => cases t <;> rfl
  | finite s m e hm =>
    cases g with
    | notANumber => rfl
    | infinity t => cases t <;> rfl
    | zero t => rfl
    | finite t m' e' hm' =>
      have hdifference (n n' : Int) : -n - -n' = n' - n := by omega
      change UnpackedFloat.sub spec (finite (-s) m e hm) (finite (-t) m' e' hm') = _
      rw [sub_finite, sub_finite, apply_neg, apply_neg, hdifference, Int.min_comm e e']

end Mirror

/-- The second float is the first one with the other sign. -/
def Mirrored (x y : Float) : Prop := y.toModel.unpack = x.toModel.unpack.neg

namespace Mirrored

open Mirror

variable {x x' y y' : Float}

theorem lt_iff_unpack (x y : Float) : x < y ↔ x.toModel.unpack.lt y.toModel.unpack = true := by
  change decide (x.toModel < y.toModel) = true ↔ _
  exact decide_eq_true_iff

theorem mul (h : Mirrored x y) (z : Float) : Mirrored (x * z) (y * z) := by
  change UnpackedFloat.unpack _ (UnpackedFloat.pack _ (UnpackedFloat.mul _ y.toModel.unpack _)) = _
  rw [h, mul_neg, unpack_pack_neg]
  rfl

theorem isNaN (h : Mirrored x y) : y.isNaN = x.isNaN := by
  change y.toModel.unpack.isNaN = x.toModel.unpack.isNaN
  rw [h, isNaN_neg]

theorem lt (h : Mirrored x y) (h' : Mirrored x' y') : y < y' ↔ x' < x := by
  rw [lt_iff_unpack, lt_iff_unpack, h, h', lt_neg]

/-- What was greatest is least. -/
theorem lesser_greater (h : Mirrored x y) (h' : Mirrored x' y') :
    Mirrored (greater x x') (lesser y y') := by
  unfold lesser greater
  simp only [h.isNaN, h'.lt h]
  split_ifs <;> assumption

theorem greater_lesser (h : Mirrored x y) (h' : Mirrored x' y') :
    Mirrored (lesser x x') (greater y y') := by
  unfold lesser greater
  simp only [h.isNaN, h.lt h']
  split_ifs <;> assumption

theorem sub (h : Mirrored x y) (h' : Mirrored x' y') : y - y' = x' - x := by
  change Float.ofModel (Float.Model.pack (UnpackedFloat.sub _ y.toModel.unpack y'.toModel.unpack)) =
    Float.ofModel (Float.Model.pack (UnpackedFloat.sub _ x'.toModel.unpack x.toModel.unpack))
  rw [h, h', sub_neg]

end Mirrored

/-! ## Points turned over -/

namespace Rect

/-- The points of the second list are those of the first, turned over. -/
abbrev TurnedOver : List Point → List Point → Prop :=
  List.Forall₂ fun p q => q.x = p.x ∧ Mirrored p.y q.y

variable {ps qs : List Point}

theorem TurnedOver.abscissae (h : TurnedOver ps qs) : qs.map Point.x = ps.map Point.x := by
  induction h with
  | nil => rfl
  | cons h _ ih => simp only [List.map_cons, h.1, ih]

theorem TurnedOver.greatest (h : TurnedOver ps qs) {a b : Float} (hab : Mirrored a b) :
    Mirrored (ps.foldl (fun a p => lesser a p.y) a) (qs.foldl (fun b q => greater b q.y) b) := by
  induction h generalizing a b with
  | nil => exact hab
  | cons h _ ih => exact ih (hab.greater_lesser h.2)

theorem TurnedOver.least (h : TurnedOver ps qs) {a b : Float} (hab : Mirrored a b) :
    Mirrored (ps.foldl (fun a p => greater a p.y) a) (qs.foldl (fun b q => lesser b q.y) b) := by
  induction h generalizing a b with
  | nil => exact hab
  | cons h _ ih => exact ih (hab.lesser_greater h.2)

/-- The extent of a rectangle around points does not change when they are turned over. -/
theorem TurnedOver.bounding (h : TurnedOver ps qs) :
    ((bounding qs).map fun r => (r.w, r.h)) = (bounding ps).map fun r => (r.w, r.h) := by
  cases h with
  | nil => rfl
  | @cons p q ps qs hpq h =>
    have hfold (f : Float → Float → Float) (a : Float) :
        qs.foldl (fun a q => f a q.x) a = ps.foldl (fun a p => f a p.x) a := by
      have he := congrArg (List.foldl f a) (TurnedOver.abscissae h)
      rwa [List.foldl_map, List.foldl_map] at he
    simp only [Rect.bounding, Option.map_some, hfold, hpq.1,
      (TurnedOver.greatest h hpq.2).sub (TurnedOver.least h hpq.2)]

end Rect

namespace Arrow

theorem mirrored_upOutline : ∀ p ∈ upOutline.flatten, Mirrored p.y (-p.y) := by
  have hbar : Mirrored 0.375 (-0.375) := by rfl
  have hfoot : Mirrored 0.5 (-0.5) := by rfl
  have hpeak : Mirrored (-0.5) (- -0.5) := by rfl
  have hbase : Mirrored 0.25 (-0.25) := by rfl
  simp only [upOutline, List.flatten_cons, List.flatten_nil, List.cons_append, List.nil_append,
    List.mem_cons, List.not_mem_nil, or_false, forall_eq_or_imp, forall_eq]
  exact ⟨hbar, hbar, hfoot, hfoot, hpeak, hbase, hbase⟩

theorem turnedOver_path (size : Float) :
    Rect.TurnedOver (up.path size).flatten (down.path size).flatten := by
  simp only [path, outline, ← List.map_flatten]
  rw [Rect.TurnedOver, List.forall₂_map_left_iff, List.forall₂_map_right_iff,
    List.forall₂_map_right_iff, List.forall₂_same]
  exact fun p hp => ⟨rfl, (mirrored_upOutline p hp).mul size⟩

/-- An arrow and the same arrow turned over are as wide and as high. -/
theorem glyph_down (size : Float) :
    (down.glyph size).w = (up.glyph size).w ∧ (down.glyph size).h = (up.glyph size).h := by
  have h := (turnedOver_path size).bounding
  rw [bounding_path, bounding_path] at h
  exact ⟨congrArg Prod.fst (Option.some.inj h), congrArg Prod.snd (Option.some.inj h)⟩

theorem isEmpty_glyph (a : Arrow) (size : Float) :
    (a.glyph size).isEmpty = (up.glyph size).isEmpty := by
  cases a with
  | up => rfl
  | down => rw [Rect.isEmpty, (glyph_down size).1, (glyph_down size).2, Rect.isEmpty]

end Arrow

end PositionOverlay
