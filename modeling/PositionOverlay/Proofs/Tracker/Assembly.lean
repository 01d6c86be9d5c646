import PositionOverlay.Proofs.Marker.Glyph
import PositionOverlay.Proofs.Work
import PositionOverlay.Tracker

/-! # The parts of a tracker

A tracker that is assembled has a drawn marker which nobody holds, linked to both labels, and
labels with the anchor rules that put one beside the marker and the other behind the first.
Painting and range changes then do one thing: the marker takes its place and the labels follow.
The tracker stays assembled whatever its position, its line and its visibility become.
-/
namespace PositionOverlay.Tracker

open Work

variable {Item Listener : Type} {t : Tracker} {c : Chart Item Listener}

/-- What the second label says of a size. -/
def sizeText (size : Float) : String := "x" ++ String.ofList (Template.display (.float size))

theorem fill_entrySize (v : Json) :
    Template.fill "x\x7bentry_size\x7d" [("entry_size", v)] =
      "x" ++ String.ofList (Template.display v) := by
  have hp : Template.pieces "x\x7bentry_size\x7d".toList =
      [.literal ['x'], .slot "entry_size".toList] := by cbv
  rw [Template.fill, hp]
  simp only [List.flatMap_cons, List.flatMap_nil, Template.Piece.fill, Template.Piece.source,
    String.ofList_toList, List.lookup_cons_self, List.append_nil, String.ofList_append]

/-- How the parts of a tracker belong together. -/
structure Assembled (t : Tracker) : Prop where
  drawn : ∃ a, t.marker.Drawn a
  size : t.marker.size = t.config.arrowSize
  keepInView : t.marker.keepInView = t.config.keepInView
  links : t.marker.links = [.pp, .size]
  live : t.marker.deleted = false
  markerFree : t.marker.holders = 0
  ppFree : t.ppLabel.holders = 0
  sizeFree : t.sizeLabel.holders = 0
  ppText : t.ppLabel.text = "pp"
  ppAnchor : t.ppLabel.anchor = some .besideMarker
  sizeAnchor : t.sizeLabel.anchor = some .afterPp
  template : t.sizeLabel.template = "x\x7bentry_size\x7d"
  fields : ∃ v, t.sizeLabel.fields = [("entry_size", v)]
  lineLive : ∀ l, t.line = some l → l.deleted = false

/-- The rectangle of the marker's glyph. -/
def glyph (t : Tracker) : Rect := t.marker.box.getD .zero

/-- The tracker with both labels in their places. -/
def aligned (t : Tracker) : Tracker :=
  let pp := t.config.pin.place t.marker.placement.bounds t.ppLabel.size
  { t with ppLabel.pos := pp, sizeLabel.pos := pp + ⟨t.ppLabel.size.w, 0.0⟩ }

/-- The tracker with its marker at a point and its labels beside it. -/
def standAt (t : Tracker) (p : Point) : Tracker :=
  aligned { t with marker := t.marker.moveTo p }

/-- The place of the marker in a view, kept in sight or not. -/
def post (t : Tracker) (keep : Bool) (v : View) : Point := v.stand keep t.glyph.h t.level

namespace Assembled

theorem box (h : t.Assembled) : t.marker.box = some t.glyph := by
  obtain ⟨a, ha⟩ := h.drawn
  simp [glyph, ha.box]

theorem glyph_eq (h : t.Assembled) {a : Arrow} (ha : t.marker.arrow = some a) :
    t.glyph = a.glyph t.config.arrowSize := by
  obtain ⟨b, hb⟩ := h.drawn
  obtain rfl : b = a := Option.some.inj (hb.arrow.symm.trans ha)
  simp [glyph, hb.box, h.size]

/-- The published place is that of the glyph where the marker stands. -/
theorem placement (h : t.Assembled) :
    t.marker.placement = ⟨t.marker.pos, t.glyph.translate t.marker.pos⟩ := by
  obtain ⟨a, ha⟩ := h.drawn
  simp [glyph, ha.box, ha.placement]

theorem isLive (h : t.Assembled) : t.marker.isLive = true := by
  obtain ⟨a, ha⟩ := h.drawn
  simp [Marker.isLive, h.live, ha.hasGlyph]

theorem marker_moveTo (h : t.Assembled) (p : Point) :
    t.marker.moveTo p =
      { t.marker with pos := p, placement := ⟨p, t.glyph.translate p⟩ } := by
  obtain ⟨a, ha⟩ := h.drawn
  simp [ha.moveTo_eq, glyph, ha.box]

end Assembled

/-! ## Moves -/

@[simp] theorem standAt_info (t : Tracker) (p : Point) : (t.standAt p).info = t.info := rfl

@[simp] theorem standAt_glyph (t : Tracker) (p : Point) : (t.standAt p).glyph = t.glyph := rfl

@[simp] theorem standAt_post (t : Tracker) (p : Point) (keep : Bool) (v : View) :
    (t.standAt p).post keep v = t.post keep v := rfl

theorem Assembled.aligned (h : t.Assembled) : t.aligned.Assembled := { h with }

theorem Assembled.moved (h : t.Assembled) (p : Point) :
    Assembled { t with marker := t.marker.moveTo p } := by
  obtain ⟨a, ha⟩ := h.drawn
  exact { h with drawn := ⟨a, ha.moveTo p⟩ }

theorem Assembled.standAt (h : t.Assembled) (p : Point) : (t.standAt p).Assembled :=
  (h.moved p).aligned

/-- Only the last place counts. -/
theorem Assembled.standAt_standAt (h : t.Assembled) (p q : Point) :
    (t.standAt p).standAt q = t.standAt q := by
  have hm : (t.marker.moveTo p).moveTo q = t.marker.moveTo q := by
    obtain ⟨a, ha⟩ := h.drawn
    rw [(ha.moveTo p).moveTo_eq, ha.moveTo_eq p, ha.moveTo_eq q]
  simp only [Tracker.standAt, Tracker.aligned, hm]
  rfl

theorem Assembled.reanchored (h : t.Assembled) : t.reanchored = t.aligned := by
  simp [Tracker.reanchored, h.links, updateLabel, label, setLabel, Label.isHeld, h.ppFree,
    h.sizeFree, Label.update, h.ppAnchor, h.sizeAnchor, place, Tracker.aligned, Label.size]

theorem Assembled.reanchor (h : t.Assembled) : t.reanchor c = .ok (t.aligned, c) := by
  have hl : t.heldLinks = [] := by
    simp [heldLinks, h.links, label, Label.isHeld, h.ppFree, h.sizeFree]
  simp only [Tracker.reanchor, hl, h.reanchored]
  rfl

theorem Assembled.placeForPaint (h : t.Assembled) (v : View) :
    t.marker.placeForPaint v t.level = .ok (t.marker.moveTo (t.post t.config.keepInView v)) := by
  obtain ⟨a, ha⟩ := h.drawn
  rw [ha.placeForPaint, h.keepInView, post, glyph, ha.box, Option.getD_some]

theorem Assembled.placeInView (h : t.Assembled) (v : View) :
    t.marker.placeInView v t.level = .ok (t.marker.moveTo (t.post true v)) := by
  obtain ⟨a, ha⟩ := h.drawn
  rw [ha.placeInView, post, glyph, ha.box, Option.getD_some]

/-- Painting puts the marker in its place. -/
theorem Assembled.paint (h : t.Assembled) :
    t.paint c = .ok (t.standAt (t.post t.config.keepInView c.view), c) := by
  have hr := (h.moved (t.post t.config.keepInView c.view)).reanchor (c := c)
  rw [Tracker.paint, if_pos h.isLive]
  simp only [bind_run, get_run, lift_run, h.placeForPaint, Except.map]
  exact hr

/-- The tracker after a change of the visible range, which keeps the marker in sight whether it is
to be kept or not. -/
def onRange (v : View) (t : Tracker) : Tracker := t.standAt (t.post true v)

/-- The tracker after a paint cycle, which passes over a hidden marker. -/
def onPaint (v : View) (t : Tracker) : Tracker :=
  if t.marker.visible then t.standAt (t.post t.config.keepInView v) else t

theorem Assembled.rangeChanged (h : t.Assembled) :
    t.rangeChanged c = .ok (t.onRange c.view, c) := by
  have hr := (h.moved (t.post true c.view)).reanchor (c := c)
  have hf : ¬ t.marker.isHeld = true := by simp [Marker.isHeld, h.markerFree]
  rw [Tracker.rangeChanged, if_neg hf, if_pos h.isLive, reposition]
  simp only [bind_run, get_run, lift_run, h.placeInView, Except.map]
  exact hr

theorem Assembled.painted (h : t.Assembled) : t.painted c = .ok (t.onPaint c.view, c) := by
  have hf : ¬ t.marker.isHeld = true := by simp [Marker.isHeld, h.markerFree]
  rw [Tracker.painted, if_neg hf, onPaint]
  split_ifs
  · exact h.paint
  · rfl

theorem Assembled.onRange (h : t.Assembled) (v : View) : (t.onRange v).Assembled := h.standAt _

theorem Assembled.onPaint (h : t.Assembled) (v : View) : (t.onPaint v).Assembled := by
  rw [Tracker.onPaint]
  split_ifs
  · exact h.standAt _
  · exact h

/-- A second change to the same range changes nothing. -/
theorem Assembled.onRange_onRange (h : t.Assembled) (v : View) :
    (t.onRange v).onRange v = t.onRange v := h.standAt_standAt _ _

/-- A second paint cycle in the same view changes nothing. -/
theorem Assembled.onPaint_onPaint (h : t.Assembled) (v : View) :
    (t.onPaint v).onPaint v = t.onPaint v := by
  by_cases hv : t.marker.visible = true
  · have hp : t.onPaint v = t.standAt (t.post t.config.keepInView v) := if_pos hv
    have hv' : (t.standAt (t.post t.config.keepInView v)).marker.visible = true := hv
    rw [hp, Tracker.onPaint, if_pos hv']
    exact h.standAt_standAt _ _
  · have hp : t.onPaint v = t := if_neg hv
    rw [hp, hp]

end PositionOverlay.Tracker
