import Mathlib.Tactic.SplitIfs
import PositionOverlay.Marker

/-! # Glyphs of markers

The glyph of an arrow depends on its shape and its size alone. A marker is drawn as an arrow if
outline, rectangle and published place are those of the glyph at the place of the marker; a drawn
marker stays drawn when it moves or changes its arrow, and it can be placed in any view.
-/
namespace PositionOverlay

namespace Arrow

/-- The outline of an arrow of the given size. -/
def path (a : Arrow) (size : Float) : List (List Point) :=
  a.outline.map fun polygon => polygon.map fun p => ⟨p.x * size, p.y * size⟩

/-- The smallest rectangle around the outline. -/
def glyph (a : Arrow) (size : Float) : Rect := (Rect.bounding (a.path size).flatten).getD .zero

theorem bounding_path (a : Arrow) (size : Float) :
    Rect.bounding (a.path size).flatten = some (a.glyph size) := by
  cases a <;> rfl

end Arrow

namespace View

/-- The ordinate of a kept marker of the given height: its price, or the edge behind which the
price lies. -/
def keptOrdinate (v : View) (height price : Float) : Float :=
  if v.yMax < price then height / 3.0
  else if price < v.yMin then v.height - 4.0 / 3.0 * height
  else v.ordinate price

/-- The place of a marker of the given height, kept in view or not. -/
def stand (v : View) (keep : Bool) (height price : Float) : Point :=
  ⟨v.markerX, if keep then v.keptOrdinate height price else v.ordinate price⟩

end View

namespace Marker

variable {Link : Type} {m : Marker Link} {a b : Arrow}

/-- The marker shows the glyph of an arrow, published where the marker stands. -/
structure Drawn (m : Marker Link) (a : Arrow) : Prop where
  arrow : m.arrow = some a
  path : m.path = a.path m.size
  box : m.box = some (a.glyph m.size)
  placement : m.placement = ⟨m.pos, (a.glyph m.size).translate m.pos⟩

/-- The marker with the glyph of an arrow. -/
def redraw (m : Marker Link) (a : Arrow) : Marker Link :=
  { m with
    arrow := some a
    path := a.path m.size
    box := some (a.glyph m.size)
    placement := ⟨m.pos, (a.glyph m.size).translate m.pos⟩ }

theorem redraw_drawn (m : Marker Link) (a : Arrow) : (m.redraw a).Drawn a := ⟨rfl, rfl, rfl, rfl⟩

theorem Drawn.redraw_self (h : m.Drawn a) : m.redraw a = m := by
  obtain ⟨ha, hp, hb, hg⟩ := h
  cases m
  simp_all [redraw]

theorem setArrow_eq_redraw (h : m.arrow ≠ some a) : m.setArrow a = m.redraw a := by
  rw [setArrow, if_neg h]
  have hb : Rect.bounding (List.flatten (a.outline.map fun polygon =>
      polygon.map fun p => (⟨p.x * m.size, p.y * m.size⟩ : Point))) = some (a.glyph m.size) :=
    a.bounding_path m.size
  simp only [publish, boundsAt, hb]
  rfl

/-- A drawn marker takes any arrow, also the one that it has. -/
theorem Drawn.setArrow (h : m.Drawn b) (a : Arrow) : m.setArrow a = m.redraw a := by
  by_cases he : b = a
  · subst he
    rw [Marker.setArrow, if_pos h.arrow, h.redraw_self]
  · exact setArrow_eq_redraw (by simp [h.arrow, he])

theorem Drawn.setArrow? (h : m.Drawn b) (o : Option Arrow) :
    m.setArrow? o = m.redraw (o.getD b) := by
  cases o with
  | none => exact h.redraw_self.symm
  | some a => exact h.setArrow a

theorem Drawn.hasGlyph (h : m.Drawn a) : m.hasGlyph = true := by simp [Marker.hasGlyph, h.box]

theorem Drawn.moveTo_eq (h : m.Drawn a) (p : Point) :
    m.moveTo p = { m with pos := p, placement := ⟨p, (a.glyph m.size).translate p⟩ } := by
  simp [moveTo, publish, boundsAt, h.box]

theorem Drawn.moveTo (h : m.Drawn a) (p : Point) : (m.moveTo p).Drawn a := by
  rw [h.moveTo_eq]
  exact ⟨h.arrow, h.path, h.box, rfl⟩

theorem Drawn.keptOrdinate (h : m.Drawn a) (v : View) (price : Float) :
    m.keptOrdinate v price = .ok (v.keptOrdinate (a.glyph m.size).h price) := by
  unfold Marker.keptOrdinate View.keptOrdinate extent
  rw [h.box]
  split_ifs <;> rfl

theorem Drawn.placeInView (h : m.Drawn a) (v : View) (price : Float) :
    m.placeInView v price = .ok (m.moveTo (v.stand true (a.glyph m.size).h price)) := by
  rw [Marker.placeInView, h.keptOrdinate]
  rfl

theorem Drawn.placeForPaint (h : m.Drawn a) (v : View) (price : Float) :
    m.placeForPaint v price = .ok (m.moveTo (v.stand m.keepInView (a.glyph m.size).h price)) := by
  unfold Marker.placeForPaint
  cases m.keepInView
  · rfl
  · exact h.placeInView v price

/-- A new marker is drawn as the arrow that was asked for, at the origin. -/
theorem make_eq {size : Float} {keep : Bool} (h : make (some a) size keep = .ok m) :
    m = (blank size keep).redraw a := by
  have he : (blank size keep : Marker Link).setArrow a = (blank size keep).redraw a :=
    setArrow_eq_redraw nofun
  unfold make at h
  simp only [he] at h
  split at h
  · exact (Except.ok.inj h).symm
  · exact nomatch h

/-- A new marker shows what was asked for, if anything was, and is otherwise blank. -/
theorem make_eq_elim {o : Option Arrow} {size : Float} {keep : Bool}
    (h : make o size keep = .ok m) :
    m = o.elim (blank size keep) (blank size keep).redraw := by
  cases o with
  | none => exact (Except.ok.inj h).symm
  | some a => exact make_eq h

end Marker

end PositionOverlay
