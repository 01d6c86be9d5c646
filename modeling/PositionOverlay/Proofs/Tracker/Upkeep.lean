import PositionOverlay.Proofs.Tracker.Creation
import PositionOverlay.Proofs.Tracker.Report

/-! # What trackers keep

Invariants of assembled trackers. A consistent tracker says the same of its position in its line,
its marker and its second label. A tracker is in place in a view if its labels stand by its marker
and the marker of a line stands where the view puts the average price. A new tracker has both, and
every operation on trackers keeps them. A tracker is displayed if nothing of it is hidden, and only
hiding ends that.
-/
namespace PositionOverlay.Tracker

variable {Item Listener : Type} {own : Entrance Item Listener} {t : Tracker} {v : View}
  {u : PositionUpdate} {l : Line}

/-- Line, marker and size label agree with the position. -/
structure Consistent (t : Tracker) : Prop where
  line : t.line.isSome = (t.info.size != 0.0)
  level : ∀ l, t.line = some l → l.level = t.info.avgPrice ∧ t.marker.level = t.info.avgPrice
  arrow : t.line.isSome → ∀ a, Arrow.ofSize? t.info.size = some a → t.marker.arrow = some a
  drawn : t.marker.arrow.isSome ∧ t.marker.hasGlyph
  text : t.sizeLabel.text = sizeText t.info.size

/-- The labels stand by the marker, and the marker of a line is kept in view. -/
structure InPlace (t : Tracker) (v : View) : Prop where
  pp : t.ppLabel.pos = t.config.pin.place t.marker.placement.bounds t.ppLabel.size
  size : t.sizeLabel.pos = t.ppLabel.pos + ⟨t.ppLabel.size.w, 0.0⟩
  marker : t.line.isSome → t.marker.pos = v.stand true t.glyph.h t.info.avgPrice

/-- Nothing is hidden. -/
structure Displayed (t : Tracker) : Prop where
  line : ∀ l, t.line = some l → l.visible = true
  marker : t.marker.visible = true
  pp : t.ppLabel.visible = true
  size : t.sizeLabel.visible = true

theorem Assembled.isDrawn (h : t.Assembled) : t.marker.arrow.isSome ∧ t.marker.hasGlyph := by
  obtain ⟨a, ha⟩ := h.drawn
  exact ⟨by rw [ha.arrow]; rfl, ha.hasGlyph⟩

/-- The level of the line is the average price. -/
theorem Consistent.level_eq (h : t.Consistent) (hl : t.line.isSome) :
    t.level = t.info.avgPrice := by
  obtain ⟨l, hl⟩ := Option.isSome_iff_exists.mp hl
  rw [Tracker.level, hl]
  exact (h.level l hl).1

/-! ## New trackers -/

theorem initial_consistent (symbol : String) (config : OverlayConfig) (item : Nat) :
    (initial symbol config item).Consistent where
  line := by
    have hz : ((0.0 : Float) != 0.0) = false := by decide
    exact hz.symm
  level := nofun
  arrow := nofun
  drawn := (initial_assembled symbol config item).isDrawn
  text := rfl

theorem initial_inPlace (symbol : String) (config : OverlayConfig) (item : Nat) (v : View) :
    (initial symbol config item).InPlace v := ⟨rfl, rfl, nofun⟩

/-! ## Moves -/

theorem Consistent.standAt (h : t.Consistent) (p : Point) : (t.standAt p).Consistent :=
  ⟨h.line, h.level, h.arrow, h.drawn, h.text⟩

theorem Displayed.standAt (h : t.Displayed) (p : Point) : (t.standAt p).Displayed :=
  ⟨h.line, h.marker, h.pp, h.size⟩

/-- A tracker that keeps its marker in view is in place once it stands at its post. -/
theorem Consistent.standAt_post (h : t.Consistent) (v : View) :
    (t.standAt (t.post true v)).InPlace v where
  pp := rfl
  size := rfl
  marker hl := by
    rw [standAt_info, standAt_glyph, ← h.level_eq hl]
    rfl

/-! ## Reports -/

theorem Assembled.reported_consistent (h : t.Assembled) (ho : (u.size != 0.0) = true)
    (hlevel : l.level = u.avgPrice) (hd : l.deleted = false) (trim : Trim) :
    (t.reported u l trim).Consistent where
  line := ho.symm
  level := by
    rintro _ ⟨⟩
    exact ⟨hlevel, hlevel⟩
  arrow _ a ha := by
    change some (t.arrowFor u.size) = some a
    rw [arrowFor, show Arrow.ofSize? u.size = some a from ha]
    rfl
  drawn := (h.reported u hd trim).isDrawn
  text := rfl

theorem Assembled.emptied_assembled (h : t.Assembled) (u : PositionUpdate) :
    ((t.emptied u).writeSize u.size).hide.Assembled := by
  have hw : ((t.emptied u).writeSize u.size).Assembled := by
    rw [(h.emptied u).writeSize]
    exact { (h.emptied u).labelled u.size with }
  exact hw.exposed false

theorem Assembled.emptied_consistent (h : t.Assembled) (hz : (u.size != 0.0) = false) :
    ((t.emptied u).writeSize u.size).hide.Consistent where
  line := hz.symm
  level := nofun
  arrow := nofun
  drawn := h.isDrawn
  text := by
    rw [(h.emptied u).writeSize]
    rfl

theorem InPlace.emptied (hp : t.InPlace v) (h : t.Assembled) (u : PositionUpdate) :
    ((t.emptied u).writeSize u.size).hide.InPlace v := by
  rw [(h.emptied u).writeSize]
  exact ⟨hp.pp, rfl, nofun⟩

/-! ## Showing and hiding -/

theorem Consistent.exposed (h : t.Consistent) (visible : Bool) :
    (t.exposed visible).Consistent where
  line := by
    rw [Tracker.exposed, Option.isSome_map]
    exact h.line
  level l hl := by
    obtain ⟨l', hl', rfl⟩ := Option.map_eq_some_iff.mp hl
    exact h.level l' hl'
  arrow hl := h.arrow (by rwa [Tracker.exposed, Option.isSome_map] at hl)
  drawn := h.drawn
  text := h.text

theorem exposed_displayed (t : Tracker) : (t.exposed true).Displayed where
  line l hl := by
    obtain ⟨l', _, rfl⟩ := Option.map_eq_some_iff.mp hl
    rfl
  marker := rfl
  pp := rfl
  size := rfl

theorem InPlace.exposed (h : t.InPlace v) (visible : Bool) : (t.exposed visible).InPlace v :=
  ⟨h.pp, h.size, fun hl => h.marker (by rwa [Tracker.exposed, Option.isSome_map] at hl)⟩

end PositionOverlay.Tracker
