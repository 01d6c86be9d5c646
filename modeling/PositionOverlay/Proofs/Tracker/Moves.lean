import PositionOverlay.Proofs.Tracker.Assembly

/-! # Moves of trackers

Painting and range changes move the marker and its labels and do nothing else. Neither faults: a
marker without a glyph stays where it is, and so does one that is deleted or held. This holds of
every tracker, whatever its parts have become.
-/
namespace PositionOverlay

variable {Item Listener Link : Type}

/-- Only the journal has changed. -/
def Chart.Noted (c c' : Chart Item Listener) : Prop := ∃ journal, c' = { c with journal }

namespace Chart.Noted

variable {c c' c'' : Chart Item Listener}

theorem refl (c : Chart Item Listener) : c.Noted c := ⟨c.journal, rfl⟩

theorem trans (h : c.Noted c') (h' : c'.Noted c'') : c.Noted c'' := by
  obtain ⟨j, rfl⟩ := h
  obtain ⟨j', rfl⟩ := h'
  exact ⟨j', rfl⟩

theorem symm (h : c.Noted c') : c'.Noted c := by
  obtain ⟨j, rfl⟩ := h
  exact ⟨c.journal, rfl⟩

theorem note (c : Chart Item Listener) (source : Source) (severity : Severity) (text : String) :
    c.Noted (c.note source severity text) := ⟨_, rfl⟩

theorem view (h : c.Noted c') : c'.view = c.view := by
  obtain ⟨j, rfl⟩ := h
  rfl

theorem items (h : c.Noted c') : c'.items = c.items := by
  obtain ⟨j, rfl⟩ := h
  rfl

theorem listeners (h : c.Noted c') : c'.listeners = c.listeners := by
  obtain ⟨j, rfl⟩ := h
  rfl

end Chart.Noted

namespace Marker

variable {m : Marker Link} {box : Rect}

theorem keptOrdinate_of_box (h : m.box = some box) (v : View) (price : Float) :
    m.keptOrdinate v price = .ok (v.keptOrdinate box.h price) := by
  unfold Marker.keptOrdinate View.keptOrdinate extent
  rw [h]
  split_ifs <;> rfl

theorem placeInView_of_box (h : m.box = some box) (v : View) (price : Float) :
    m.placeInView v price = .ok (m.moveTo (v.stand true box.h price)) := by
  rw [placeInView, keptOrdinate_of_box h]
  rfl

theorem placeForPaint_of_box (h : m.box = some box) (v : View) (price : Float) :
    m.placeForPaint v price = .ok (m.moveTo (v.stand m.keepInView box.h price)) := by
  unfold placeForPaint
  cases m.keepInView
  · rfl
  · exact placeInView_of_box h v price

theorem box_of_isLive (h : m.isLive = true) : ∃ box, m.box = some box := by
  rw [isLive, Bool.and_eq_true] at h
  exact Option.isSome_iff_exists.mp h.2

end Marker

namespace Tracker

open Work

variable {t t' t'' : Tracker} {c c' : Chart Item Listener}

/-- The tracker with its marker and its labels elsewhere. -/
def shift (t : Tracker) (pos : Point) (placement : Placement) (pp size : Point) : Tracker :=
  { t with
    marker := { t.marker with pos, placement }
    ppLabel.pos := pp
    sizeLabel.pos := size }

/-- Only places have changed. -/
def Moved (t t' : Tracker) : Prop := ∃ pos placement pp size, t' = t.shift pos placement pp size

namespace Moved

theorem refl (t : Tracker) : t.Moved t := ⟨_, _, _, _, rfl⟩

theorem trans (h : t.Moved t') (h' : t'.Moved t'') : t.Moved t'' := by
  obtain ⟨_, _, _, _, rfl⟩ := h
  obtain ⟨p, g, a, b, rfl⟩ := h'
  exact ⟨p, g, a, b, rfl⟩

theorem info (h : t.Moved t') : t'.info = t.info := by
  obtain ⟨_, _, _, _, rfl⟩ := h
  rfl

theorem marker (t : Tracker) (p : Point) : t.Moved { t with marker := t.marker.moveTo p } :=
  ⟨p, _, _, _, rfl⟩

theorem updateLabel (t : Tracker) (role : Role) : t.Moved (t.updateLabel role) := by
  unfold Tracker.updateLabel
  split_ifs
  · exact refl t
  · cases role with
    | pp =>
      simp only [label, setLabel, Label.update]
      split
      · exact refl t
      · exact ⟨_, _, _, _, rfl⟩
    | size =>
      simp only [label, setLabel, Label.update]
      split
      · exact refl t
      · exact ⟨_, _, _, _, rfl⟩

theorem reanchored (t : Tracker) : t.Moved t.reanchored := by
  unfold Tracker.reanchored
  generalize t.marker.links = links
  induction links generalizing t with
  | nil => exact refl t
  | cons role links ih => exact (updateLabel t role).trans (ih _)

end Moved

/-- The tracker with its marker at its post and its labels behind it. -/
def posted (t : Tracker) (keep : Bool) (v : View) : Tracker :=
  reanchored { t with marker := t.marker.moveTo (t.post keep v) }

/-- The tracker once its marker has been painted, shown or not. -/
def placed (v : View) (t : Tracker) : Tracker :=
  if t.marker.isLive then t.posted t.marker.keepInView v else t

/-- The tracker once it has heard of a change to a view. -/
def heard (v : View) (t : Tracker) : Tracker :=
  if t.marker.isHeld then t else if t.marker.isLive then t.posted true v else t

/-- The tracker after a paint cycle. -/
def repainted (v : View) (t : Tracker) : Tracker :=
  if t.marker.isHeld then t else if t.marker.visible then t.placed v else t

theorem posted_moved (t : Tracker) (keep : Bool) (v : View) : t.Moved (t.posted keep v) :=
  (Moved.marker t _).trans (.reanchored _)

theorem placed_moved (t : Tracker) (v : View) : t.Moved (t.placed v) := by
  unfold placed
  split_ifs
  · exact t.posted_moved _ v
  · exact .refl t

theorem heard_moved (t : Tracker) (v : View) : t.Moved (t.heard v) := by
  unfold heard
  split_ifs
  · exact .refl t
  · exact t.posted_moved _ v
  · exact .refl t

theorem repainted_moved (t : Tracker) (v : View) : t.Moved (t.repainted v) := by
  unfold repainted
  split_ifs
  · exact .refl t
  · exact t.placed_moved v
  · exact .refl t

/-! ## What is done on a chart -/

theorem reanchor_eq (t : Tracker) (c : Chart Item Listener) :
    ∃ c', t.reanchor c = .ok (t.reanchored, c') ∧ c.Noted c' := by
  refine ⟨_, rfl, ?_⟩
  generalize t.heldLinks = links
  induction links generalizing c with
  | nil => exact .refl c
  | cons _ links ih => exact (Chart.Noted.note c _ _ _).trans (ih _)

theorem paint_eq (t : Tracker) (c : Chart Item Listener) :
    ∃ c', t.paint c = .ok (t.placed c.view, c') ∧ c.Noted c' := by
  unfold paint placed
  split_ifs with hlive
  · obtain ⟨box, hbox⟩ := Marker.box_of_isLive hlive
    have hplace := Marker.placeForPaint_of_box hbox c.view t.level
    obtain ⟨c', hr, hc⟩ := reanchor_eq
      { t with marker := t.marker.moveTo (c.view.stand t.marker.keepInView box.h t.level) } c
    refine ⟨c', ?_, hc⟩
    simp only [bind_run, get_run, lift_run, hplace, Except.map, hr, posted, post, glyph, hbox,
      Option.getD_some]
  · exact ⟨c, rfl, .refl c⟩

/-- All that painting does. -/
theorem paint_eq_ok (h : t.paint c = .ok (t', c')) : t' = t.placed c.view ∧ c.Noted c' := by
  obtain ⟨c₁, he, hc⟩ := t.paint_eq c
  rw [he] at h
  obtain ⟨rfl, rfl⟩ := Prod.mk.inj (Except.ok.inj h)
  exact ⟨rfl, hc⟩

theorem reposition_eq {t : Tracker} (hlive : t.marker.isLive = true) (c : Chart Item Listener) :
    ∃ c', t.reposition c = .ok (t.posted true c.view, c') ∧ c.Noted c' := by
  obtain ⟨box, hbox⟩ := Marker.box_of_isLive hlive
  have hplace := Marker.placeInView_of_box hbox c.view t.level
  obtain ⟨c', hr, hc⟩ := reanchor_eq
    { t with marker := t.marker.moveTo (c.view.stand true box.h t.level) } c
  refine ⟨c', ?_, hc⟩
  simp only [reposition, bind_run, get_run, lift_run, hplace, Except.map, hr, posted, post, glyph,
    hbox, Option.getD_some]

theorem rangeChanged_eq (t : Tracker) (c : Chart Item Listener) :
    ∃ c', t.rangeChanged c = .ok (t.heard c.view, c') ∧ c.Noted c' := by
  unfold rangeChanged heard
  split_ifs with hheld hlive
  · exact ⟨_, rfl, .note c _ _ _⟩
  · exact reposition_eq hlive c
  · exact ⟨c, rfl, .refl c⟩

theorem painted_eq (t : Tracker) (c : Chart Item Listener) :
    ∃ c', t.painted c = .ok (t.repainted c.view, c') ∧ c.Noted c' := by
  unfold painted repainted
  split_ifs with hheld hvisible
  · exact ⟨_, rfl, .note c _ _ _⟩
  · exact t.paint_eq c
  · exact ⟨c, rfl, .refl c⟩

end Tracker

end PositionOverlay
