import PositionOverlay.Proofs.Tracker.Creation
import PositionOverlay.Proofs.Tracker.Holding
import PositionOverlay.Proofs.Tracker.Lines

/-! # Trackers that may lack a glyph

A marker that has been built anew for a size without direction shows nothing until it takes an
arrow. Apart from that the parts of a tracker always belong together. A rigged tracker is one that
would be assembled with an arrow, and that either has one or has never had one. It stays rigged
whatever is done with it.
-/
namespace PositionOverlay.Tracker

open Work

variable {Item Listener : Type} {own : Entrance Item Listener} {t t' : Tracker} {symbol : String}
  {config : OverlayConfig} {a : Arrow} {c c' : Chart Item Listener}

/-- The tracker with an upward arrow. -/
def upright (t : Tracker) : Tracker := { t with marker := t.marker.redraw .up }

/-- A tracker of a symbol in which nothing is amiss but, maybe, the glyph. -/
structure Rigged (t : Tracker) (symbol : String) (config : OverlayConfig) : Prop where
  symbol : t.info.symbol = symbol
  config : t.config = config
  upright : t.upright.Assembled
  glyph : (∃ a, t.marker.Drawn a) ∨ t.marker.arrow = none ∧ t.marker.box = none
  follows : t.sizeLabel.follows = true

namespace Rigged

theorem lineLive (h : t.Rigged symbol config) : ∀ l, t.line = some l → l.deleted = false :=
  h.upright.lineLive

theorem assembled (h : t.Rigged symbol config) (ha : t.marker.Drawn a) : t.Assembled :=
  { h.upright with drawn := ⟨a, ha⟩ }

/-- A tracker without a glyph stays where it is. -/
theorem assembled_or_idle (h : t.Rigged symbol config) :
    t.Assembled ∨ t.marker.isLive = false := by
  rcases h.glyph with ⟨a, ha⟩ | ⟨-, hbox⟩
  · exact .inl (h.assembled ha)
  · exact .inr (by simp [Marker.isLive, Marker.hasGlyph, hbox])

theorem assembled_of_arrow (h : t.Rigged symbol config) (ha : t.marker.arrow = some a) :
    t.Assembled := by
  rcases h.glyph with ⟨b, hb⟩ | ⟨hnone, -⟩
  · exact h.assembled hb
  · exact absurd (ha.symm.trans hnone) nofun

theorem setArrow_eq (h : t.Rigged symbol config) (a : Arrow) :
    t.marker.setArrow a = t.marker.redraw a := by
  rcases h.glyph with ⟨b, hb⟩ | ⟨hnone, -⟩
  · exact hb.setArrow a
  · exact Marker.setArrow_eq_redraw (by simp [hnone])

/-! ## What keeps trackers rigged -/

theorem aimed (h : t.Rigged symbol config) (size : Float) :
    (t.aimed size).Rigged symbol config := by
  unfold Tracker.aimed
  cases Arrow.ofSize? size with
  | none => exact h
  | some a =>
    rw [Marker.setArrow?, h.setArrow_eq a]
    exact { h with
      upright := { h.upright with drawn := ⟨.up, Marker.redraw_drawn _ _⟩ }
      glyph := .inl ⟨a, Marker.redraw_drawn _ _⟩ }

theorem trimmed (h : t.Rigged symbol config) {line : Option Line} {level : Float}
    (hline : ∀ l, line = some l → l.deleted = false) (trim : Trim) :
    (t.trimmed line level trim).Rigged symbol config :=
  { h with
    upright := { h.upright with
      drawn := ⟨.up, Marker.redraw_drawn _ _⟩
      lineLive := hline }
    glyph := h.glyph.imp_left (.imp fun _ ha => { ha with }) }

theorem inform (h : t.Rigged symbol config) (info : Position) (hinfo : info.symbol = symbol) :
    Rigged { t with info } symbol config :=
  { h with
    symbol := hinfo
    upright := { h.upright with drawn := ⟨.up, Marker.redraw_drawn _ _⟩ } }

theorem drifts (h : t.Rigged symbol config) (hd : t.Drifts t') : t'.Rigged symbol config := by
  have hglyph : (∃ a, t'.marker.Drawn a) ∨ t'.marker.arrow = none ∧ t'.marker.box = none := by
    refine h.glyph.imp (.imp fun _ ha => hd.drawn ha) fun hnone => ?_
    obtain ⟨_, _, _, _, rfl⟩ := hd.moved
    exact hnone
  obtain ⟨_, _, _, _, rfl⟩ := hd.moved
  exact { h with
    upright := { h.upright with drawn := ⟨.up, Marker.redraw_drawn _ _⟩ }
    glyph := hglyph }

theorem placed (h : t.Rigged symbol config) (v : View) : (t.placed v).Rigged symbol config :=
  h.drifts (t.placed_drifts v)

theorem exposed (h : t.Rigged symbol config) (visible : Bool) :
    (t.exposed visible).Rigged symbol config :=
  { h with
    upright := { h.upright.exposed visible with }
    glyph := h.glyph.imp_left (.imp fun _ ha => { ha with }) }

theorem writeSize_eq (h : t.Rigged symbol config) (size : Float) :
    t.writeSize size =
      { t.labelled size with sizeLabel.pos := t.ppLabel.pos + ⟨t.ppLabel.size.w, 0.0⟩ } :=
  Tracker.writeSize_eq (t := t) h.upright.sizeAnchor h.upright.template h.upright.fields size

theorem writeSize (h : t.Rigged symbol config) (size : Float) :
    (t.writeSize size).Rigged symbol config := by
  rw [h.writeSize_eq]
  exact { h with upright := { h.upright.labelled size with } }

theorem unlined (h : t.Rigged symbol config) : Rigged { t with line := none } symbol config :=
  { h with
    upright := { h.upright with
      drawn := ⟨.up, Marker.redraw_drawn _ _⟩
      lineLive := nofun } }

theorem repriced (h : t.Rigged symbol config) (size : Float) {l : Line} (hl : l.deleted = false)
    (level : Float) (trim : Trim) :
    ((t.aimed size).trimmed (t.line.map fun _ => l) level trim).Rigged symbol config := by
  refine (h.aimed size).trimmed (fun l' hl' => ?_) trim
  obtain ⟨l₀, -, rfl⟩ := Option.map_eq_some_iff.mp hl'
  exact hl

theorem updateLine (h : t.Rigged symbol config) {price size : Float}
    (hu : t.updateLine own price size c = .ok (t', c')) : t'.Rigged symbol config := by
  by_cases ho : (size != 0.0) = true
  · obtain ⟨l, trim, trim', c₁, he, -, -, hl, -⟩ := t.updateLine_open h.lineLive own price ho c
    obtain ⟨rfl, -⟩ := Prod.mk.inj (Except.ok.inj (hu.symm.trans he))
    refine ((h.repriced size hl price trim).placed c.view).trimmed ?_ trim'
    rintro _ ⟨⟩
    exact hl
  · obtain ⟨c₁, he, -, -⟩ := t.updateLine_flat own price (by simpa using ho) c
    obtain ⟨rfl, -⟩ := Prod.mk.inj (Except.ok.inj (hu.symm.trans he))
    exact h.unlined

theorem aimed_arrow (h : t.Rigged symbol config) {size : Float} (ha : Arrow.ofSize? size = some a) :
    (t.aimed size).marker.arrow = some a := by
  rw [Tracker.aimed, ha, Marker.setArrow?, h.setArrow_eq]
  rfl

/-- The marker for a price stands where the line that was there before wants it: a line that is made
leaves it at the level zero until it is painted again. The labels are beside it in any case. -/
theorem updateLine_places (h : t.Rigged symbol config) (own : Entrance Item Listener)
    (price : Float) {size : Float} (ho : (size != 0.0) = true) (ha : Arrow.ofSize? size = some a)
    (c : Chart Item Listener) :
    ∃ t' c', t.updateLine own price size c = .ok (t', c') ∧ c'.view = c.view ∧
      t'.Rigged symbol config ∧ t'.marker.arrow = some a ∧ t'.level = price ∧
      t'.marker.pos = c.view.stand config.keepInView (a.glyph config.arrowSize).h
        (if t.line.isSome then price else 0.0) ∧
      t'.ppLabel.pos = config.pin.place t'.marker.placement.bounds t'.ppLabel.size ∧
      t'.sizeLabel.pos = t'.ppLabel.pos + ⟨t'.ppLabel.size.w, 0.0⟩ := by
  obtain ⟨l, trim, trim', c', hu, hlevel, -, hl, hview⟩ :=
    t.updateLine_open h.lineLive own price ho c
  let d := (t.aimed size).trimmed (t.line.map fun _ => l) price trim
  have hd : d.Rigged symbol config := h.repriced size hl price trim
  have harrow : d.marker.arrow = some a := h.aimed_arrow ha
  have hassembled := hd.assembled_of_arrow harrow
  have hglyph : d.glyph = a.glyph config.arrowSize := h.config ▸ hassembled.glyph_eq harrow
  -- While the marker is painted, a line that is being made is not there yet.
  have hseen : d.level = if t.line.isSome then price else 0.0 := by
    simp only [d, level, Tracker.trimmed]
    cases t.line
    · rfl
    · exact hlevel
  have hr := h.updateLine hu
  rw [hassembled.placed_eq] at hu hr
  refine ⟨_, c', hu, hview, hr, harrow, hlevel, ?_, ?_, rfl⟩
  · change c.view.stand t.config.keepInView d.glyph.h d.level = _
    rw [h.config, hglyph, hseen]
  · rw [← h.config]
    rfl

end Rigged

end PositionOverlay.Tracker
