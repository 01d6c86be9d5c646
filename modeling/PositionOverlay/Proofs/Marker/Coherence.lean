import PositionOverlay.Proofs.Marker.Glyph

/-! # What a marker keeps of its glyph

A marker keeps the outline of its glyph and the rectangle around it, and publishes that rectangle
where it stands. All this agrees with its arrow, its size and its place from the beginning, and
whatever changes one of them changes the others as well.
-/
namespace PositionOverlay

/-- The extent of an arrow of the given size. -/
def Arrow.extent (a : Arrow) (size : Float) : Size := ⟨(a.glyph size).w, (a.glyph size).h⟩

namespace Marker

variable {Link : Type} {m m' m'' : Marker Link}

/-- What the marker keeps of its glyph agrees with its arrow, its size and its place. -/
structure Coherent (m : Marker Link) : Prop where
  hasGlyph : m.hasGlyph = true ↔ m.arrow.isSome = true
  path : ∀ a, m.arrow = some a → m.path = a.path m.size
  box : ∀ a, m.arrow = some a → m.box = Rect.bounding m.path.flatten
  pos : m.placement.pos = m.pos
  bounds : m.placement.bounds =
    m.box.elim ⟨m.pos.x, m.pos.y, 0.0, 0.0⟩ fun box => box.translate m.pos

/-- The second marker is the first after some changes: the size is fixed, and what was kept of the
glyph is still in agreement. -/
structure Becomes (m m' : Marker Link) : Prop where
  size : m'.size = m.size
  coherent : m.Coherent → m'.Coherent

theorem boundsAt_eq_elim (m : Marker Link) (p : Point) :
    m.boundsAt p = m.box.elim ⟨p.x, p.y, 0.0, 0.0⟩ fun box => box.translate p := by
  unfold boundsAt
  cases m.box <;> rfl

theorem Drawn.coherent {a : Arrow} (h : m.Drawn a) : m.Coherent where
  hasGlyph := by simp [h.hasGlyph, h.arrow]
  path b hb := by
    obtain rfl := Option.some.inj (h.arrow.symm.trans hb)
    exact h.path
  box b hb := by
    obtain rfl := Option.some.inj (h.arrow.symm.trans hb)
    rw [h.box, h.path, a.bounding_path]
  pos := by rw [h.placement]
  bounds := by rw [h.placement, h.box, Option.elim_some]

theorem blank_coherent (size : Float) (keep : Bool) : (blank size keep : Marker Link).Coherent where
  hasGlyph := by simp [hasGlyph, blank]
  path _ ha := nomatch ha
  box _ ha := nomatch ha
  pos := rfl
  bounds := rfl

/-- Width and height of a glyph are those of the arrow at the fixed size. -/
theorem Coherent.extent_eq (h : m.Coherent) :
    m.extent = m.arrow.elim (.error .noGlyph) fun a => .ok (a.extent m.size) := by
  unfold Marker.extent
  cases ha : m.arrow with
  | none =>
    have hbox : m.box = none := by simpa [Marker.hasGlyph, ha] using h.hasGlyph
    rw [hbox]
    rfl
  | some a =>
    rw [h.box a ha, h.path a ha, a.bounding_path]
    rfl

namespace Becomes

theorem refl (m : Marker Link) : m.Becomes m := ⟨rfl, id⟩

theorem trans (h : m.Becomes m') (h' : m'.Becomes m'') : m.Becomes m'' :=
  ⟨h'.size.trans h.size, h'.coherent ∘ h.coherent⟩

theorem of_coherent (hsize : m'.size = m.size) (h : m'.Coherent) : m.Becomes m' :=
  ⟨hsize, fun _ => h⟩

/-- What concerns neither the glyph nor the place may be anything. -/
theorem restyled (h : m.Becomes m') {level : Float} {keepInView visible deleted : Bool}
    {pen brush : Option String} {links : List Link} {item subscription : Option Nat}
    {holders : Nat} : m.Becomes { m' with
      level, keepInView, visible, pen, brush, links, item, subscription, deleted, holders } :=
  ⟨h.size, fun hm => { h.coherent hm with }⟩

theorem moveTo (m : Marker Link) (p : Point) : m.Becomes (m.moveTo p) :=
  ⟨rfl, fun h => ⟨h.hasGlyph, h.path, h.box, rfl, m.boundsAt_eq_elim p⟩⟩

theorem setArrow (m : Marker Link) (a : Arrow) : m.Becomes (m.setArrow a) := by
  by_cases ha : m.arrow = some a
  · rw [Marker.setArrow, if_pos ha]
    exact refl m
  · rw [setArrow_eq_redraw ha]
    exact of_coherent rfl (m.redraw_drawn a).coherent

theorem setArrow? (m : Marker Link) (o : Option Arrow) : m.Becomes (m.setArrow? o) := by
  cases o with
  | none => exact refl m
  | some a => exact setArrow m a

theorem placeInView {v : View} {price : Float} (h : m.placeInView v price = .ok m') :
    m.Becomes m' := by
  unfold Marker.placeInView at h
  cases hy : m.keptOrdinate v price with
  | error f =>
    rw [hy] at h
    exact nomatch h
  | ok y =>
    rw [hy] at h
    obtain rfl : m.moveTo ⟨v.markerX, y⟩ = m' := Except.ok.inj h
    exact moveTo m _

theorem placeForPaint {v : View} {price : Float} (h : m.placeForPaint v price = .ok m') :
    m.Becomes m' := by
  unfold Marker.placeForPaint at h
  split_ifs at h
  · exact placeInView h
  · obtain rfl := Except.ok.inj h
    exact moveTo m _

end Becomes

theorem make_coherent {o : Option Arrow} {size : Float} {keep : Bool}
    (h : make o size keep = .ok m) : m.Coherent := by
  rw [make_eq_elim h]
  cases o with
  | none => exact blank_coherent size keep
  | some a => exact (redraw_drawn _ a).coherent

end Marker

end PositionOverlay
