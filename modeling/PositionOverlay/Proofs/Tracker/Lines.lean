import PositionOverlay.Proofs.Tracker.Moves
import PositionOverlay.Proofs.Tracker.Report

/-! # How a line is made and how it is moved

A price for an open position either makes a line or moves the one that is there. The marker takes
the direction of the size and is painted in both cases, but not at the same time: a line that is
moved has its price when the marker is painted, and a line that is made is stored only after that.
Whatever the labels and the marker are, the outcome has a closed form, as long as the line is not a
deleted one.
-/
namespace PositionOverlay.Tracker

open Work Line

variable {Item Listener : Type} {own : Entrance Item Listener} {t : Tracker} {l : Line}
  {price size : Float} {c : Chart Item Listener}

/-- The tracker with its marker in the direction of a size, if the size has one. -/
def aimed (t : Tracker) (size : Float) : Tracker :=
  { t with marker := t.marker.setArrow? (Arrow.ofSize? size) }

/-- The tracker with another line, or none, and its marker trimmed for a level. -/
def trimmed (t : Tracker) (line : Option Line) (level : Float) (trim : Trim) : Tracker :=
  { t with
    line
    marker := { t.marker with
      level
      pen := trim.pen
      brush := trim.brush
      visible := trim.visible
      subscription := trim.subscription } }

/-- How the marker is trimmed. -/
def trim (t : Tracker) : Trim :=
  ⟨t.marker.pen, t.marker.brush, t.marker.visible, t.marker.subscription⟩

theorem Moved.trimmed_self {t' : Tracker} (h : t.Moved t') :
    t'.trimmed t.line t.marker.level t.trim = t' := by
  obtain ⟨pos, placement, pp, size', rfl⟩ := h
  rfl

/-- The line that is made is not yet stored when the marker is painted. -/
theorem positionLine_eq (t : Tracker) (own : Entrance Item Listener) (size level : Float)
    (c : Chart Item Listener) :
    ∃ l trim trim' c',
      t.positionLine own size level c = .ok
        ((l, (((t.aimed size).trimmed t.line level trim).placed c.view).trimmed t.line level trim'),
          c') ∧
      l.level = level ∧ l.deleted = false ∧ c'.view = c.view := by
  let c₁ := (c.makeLine level t.config.color .ofPosition).2
  let l : Line := (c.makeLine level t.config.color .ofPosition).1
  let trim : Trim := ⟨some l.color, some l.color, (t.aimed size).marker.visible,
    (t.aimed size).marker.subscription⟩
  let d := (t.aimed size).trimmed t.line level trim
  obtain ⟨c₂, hp, hc₂⟩ := d.paint_eq c₁
  obtain ⟨n, c₃, hc, hg, -⟩ :=
    connect_spec own { d.placed c.view with marker := (d.placed c.view).marker.show } c₂
  have hview : c₃.view = c.view := hg.view.trans hc₂.view
  refine ⟨l, trim, ⟨some l.color, some l.color, true, some n⟩, c₃, ?_, rfl, rfl, hview⟩
  rw [positionLine]
  refine (bind_of_ok (modifyGet_run _ _) _).trans ?_
  refine (bind_of_ok hp _).trans ?_
  refine (bind_of_ok hc _).trans ?_
  obtain ⟨pos, placement, pp, size', hm⟩ := d.placed_moved c.view
  simp only [d] at hm
  simp only [d, hm]
  rfl

/-- A line that is there has its new price when the marker is painted. -/
theorem updateLine_move (hline : t.line = some l) (hlive : l.deleted = false)
    (own : Entrance Item Listener) (price : Float) (ho : (size != 0.0) = true)
    (c : Chart Item Listener) :
    ∃ c', t.updateLine own price size c = .ok
        (((t.aimed size).trimmed (some { l with level := price, visible := true }) price
          (t.aimed size).trim).placed c.view, c') ∧ c.Noted c' := by
  let l' : Line := { l with level := price, visible := true }
  obtain ⟨c', hp, hc⟩ :=
    ((t.aimed size).trimmed (some l') price (t.aimed size).trim).paint_eq c
  refine ⟨_, ?_, hc.trans (.note c' .tracker .debug
    (t.sentence ("pp line moved to " ++ numeral price)))⟩
  unfold updateLine
  simp only [hline, ho]
  have hshow := show_of_live (l := { l with level := price }) hlive
  refine (bind_of_ok (lift_of_ok (setLevel_of_live hlive price) _) _).trans ?_
  refine (bind_of_ok (lift_of_ok hshow _) _).trans ?_
  refine (bind_of_ok hp _).trans ?_
  obtain ⟨pos, placement, pp, size', hm⟩ :=
    placed_moved ((t.aimed size).trimmed (some l') price (t.aimed size).trim) c.view
  simp only [l'] at hm ⊢
  rw [hm]
  rfl

/-- For an open position there is a line at the price afterwards. The marker stands where it is
painted with that line if there was one before, and where it is painted without one otherwise. -/
theorem updateLine_open (hlive : ∀ l, t.line = some l → l.deleted = false)
    (own : Entrance Item Listener) (price : Float) (ho : (size != 0.0) = true)
    (c : Chart Item Listener) :
    ∃ l trim trim' c',
      t.updateLine own price size c = .ok
        ((((t.aimed size).trimmed (t.line.map fun _ => l) price trim).placed c.view).trimmed
          (some l) price trim', c') ∧
      l.level = price ∧ l.visible = true ∧ l.deleted = false ∧ c'.view = c.view := by
  rcases hline : t.line with _ | l
  · obtain ⟨l, trim, trim', c', hp, hlevel, hd, hview⟩ := t.positionLine_eq own size price c
    refine ⟨{ l with visible := true }, trim, trim',
      c'.note .tracker .info (t.sentence ("pp line created at " ++ numeral price)), ?_, hlevel, rfl,
      hd, hview⟩
    unfold updateLine
    simp only [hline, ho]
    refine (bind_of_ok hp _).trans ?_
    refine (bind_of_ok (lift_of_ok (show_of_live hd) _) _).trans ?_
    obtain ⟨pos, placement, pp, size', hm⟩ :=
      placed_moved ((t.aimed size).trimmed t.line price trim) c.view
    rw [hline] at hm
    rw [hline, Option.map_none, hm]
    rfl
  · have hd := hlive l hline
    obtain ⟨c', hu, hc⟩ := t.updateLine_move hline hd own price ho c
    let l' : Line := { l with level := price, visible := true }
    refine ⟨l', (t.aimed size).trim, (t.aimed size).trim, c', ?_, rfl, rfl, hd, hc.view⟩
    rw [hu, Option.map_some]
    let d := (t.aimed size).trimmed (some l') price (t.aimed size).trim
    exact congrArg (fun t' => Except.ok (t', c')) (d.placed_moved c.view).trimmed_self.symm

end PositionOverlay.Tracker
