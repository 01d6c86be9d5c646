import Mathlib.Logic.Function.Iterate
import PositionOverlay.Proofs.Tracker.Depiction

/-! # Trackers that are held

While parts of a tracker are held, ticks pass over them and move the others. However that leaves the
tracker, once its parts have been let go, nothing but places has changed, and that of the marker is
published. So an assembled tracker is assembled again and depicts what it has depicted.
-/
namespace PositionOverlay

namespace Marker

variable {Link : Type} {m : Marker Link}

/-- The place of the glyph where the marker stands is published. -/
def Published (m : Marker Link) : Prop := m.placement = ⟨m.pos, m.boundsAt m.pos⟩

theorem Drawn.published {a : Arrow} (h : m.Drawn a) : m.Published := by
  rw [Published, boundsAt, h.box, h.placement]

end Marker

namespace Tracker

variable {t t' t'' : Tracker}

/-- Only places have changed, and that of the marker is published if it was before. -/
structure Drifts (t t' : Tracker) : Prop where
  moved : t.Moved t'
  published : t.marker.Published → t'.marker.Published

namespace Drifts

theorem refl (t : Tracker) : t.Drifts t := ⟨.refl t, id⟩

theorem trans (h : t.Drifts t') (h' : t'.Drifts t'') : t.Drifts t'' :=
  ⟨h.moved.trans h'.moved, h'.published ∘ h.published⟩

theorem iterate {f : Tracker → Tracker} (hf : ∀ t : Tracker, t.Drifts (f t)) (n : Nat)
    (t : Tracker) : t.Drifts (f^[n] t) := by
  induction n generalizing t with
  | zero => exact refl t
  | succ n ih => exact (hf t).trans (ih _)

theorem drawn (h : t.Drifts t') {a : Arrow} (ha : t.marker.Drawn a) : t'.marker.Drawn a := by
  have hp := h.published ha.published
  obtain ⟨pos, placement, pp, size, rfl⟩ := h.moved
  have hb : (t.shift pos placement pp size).marker.box = some (a.glyph t.marker.size) := ha.box
  refine ⟨ha.arrow, ha.path, hb, ?_⟩
  rw [hp, Marker.boundsAt, hb]
  rfl

theorem assembled (h : t.Drifts t') (ha : t.Assembled) : t'.Assembled := by
  obtain ⟨a, hd⟩ := ha.drawn
  have hd' := h.drawn hd
  obtain ⟨pos, placement, pp, size, rfl⟩ := h.moved
  exact { ha with drawn := ⟨a, hd'⟩ }

end Drifts

/-! ## Ticks -/

theorem updateLabel_marker (t : Tracker) (role : Role) :
    (t.updateLabel role).marker = t.marker := by
  unfold updateLabel
  split_ifs
  · rfl
  · cases role <;> rfl

theorem reanchored_marker (t : Tracker) : t.reanchored.marker = t.marker := by
  unfold reanchored
  generalize t.marker.links = links
  induction links generalizing t with
  | nil => rfl
  | cons role links ih => exact (ih _).trans (t.updateLabel_marker role)

theorem posted_drifts (t : Tracker) (keep : Bool) (v : View) : t.Drifts (t.posted keep v) := by
  refine ⟨t.posted_moved keep v, fun _ => ?_⟩
  rw [posted, reanchored_marker]
  rfl

theorem heard_drifts (t : Tracker) (v : View) : t.Drifts (t.heard v) := by
  unfold heard
  split_ifs
  · exact .refl t
  · exact t.posted_drifts _ v
  · exact .refl t

theorem placed_drifts (t : Tracker) (v : View) : t.Drifts (t.placed v) := by
  unfold placed
  split_ifs
  · exact t.posted_drifts _ v
  · exact .refl t

theorem repainted_drifts (t : Tracker) (v : View) : t.Drifts (t.repainted v) := by
  unfold repainted
  split_ifs
  · exact .refl t
  · exact t.placed_drifts v
  · exact .refl t

/-- An assembled tracker, which nobody holds, goes where the view wants it. -/
theorem Assembled.heard_eq (h : t.Assembled) (v : View) : t.heard v = t.onRange v := by
  have hf : ¬ t.marker.isHeld = true := by simp [Marker.isHeld, h.markerFree]
  rw [heard, if_neg hf, if_pos h.isLive, posted, (h.moved _).reanchored]
  rfl

theorem Assembled.placed_eq (h : t.Assembled) (v : View) :
    t.placed v = t.standAt (t.post t.config.keepInView v) := by
  rw [placed, if_pos h.isLive, posted, (h.moved _).reanchored, h.keepInView]
  rfl

theorem Assembled.repainted_eq (h : t.Assembled) (v : View) : t.repainted v = t.onPaint v := by
  have hf : ¬ t.marker.isHeld = true := by simp [Marker.isHeld, h.markerFree]
  rw [repainted, if_neg hf, h.placed_eq]
  rfl

/-! ## Holders -/

/-- The tracker with other numbers of holders. -/
def gripped (marker pp size : Nat → Nat) (t : Tracker) : Tracker :=
  { t with
    marker.holders := marker t.marker.holders
    ppLabel.holders := pp t.ppLabel.holders
    sizeLabel.holders := size t.sizeLabel.holders }

variable {f g h f' g' h' : Nat → Nat}

theorem gripped_iterate (f g h : Nat → Nat) (n : Nat) :
    (gripped f g h)^[n] = gripped f^[n] g^[n] h^[n] := by
  induction n with
  | zero => rfl
  | succ n ih =>
    rw [Function.iterate_succ, ih]
    rfl

/-- Whatever has drifted while parts were held has drifted when all have been let go. -/
theorem Drifts.of_gripped (hf : Function.LeftInverse f' f) (hg : Function.LeftInverse g' g)
    (hh : Function.LeftInverse h' h) (hd : (t.gripped f g h).Drifts t') :
    t.Drifts (t'.gripped f' g' h') := by
  have hp := hd.published
  obtain ⟨pos, placement, pp, size, rfl⟩ := hd.moved
  refine ⟨⟨pos, placement, pp, size, ?_⟩, hp⟩
  simp only [gripped, shift, hf _, hg _, hh _]

end Tracker

end PositionOverlay
