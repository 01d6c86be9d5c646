import PositionOverlay.Proofs.Tracker.Upkeep
import PositionOverlay.Tracker.Snapshot

/-! # What an open position looks like

A displayed tracker of an open position shows one thing for its configuration, its view, its
position and the direction of the size. Nothing else of what has been done to it can be seen.
-/
namespace PositionOverlay

/-- The snapshot of an open position in the direction of an arrow, after a paint cycle. -/
def Snapshot.ofOpen (config : OverlayConfig) (view : View) (symbol : String)
    (size avgPrice : Float) (fills : Nat) (a : Arrow) : Snapshot :=
  let glyph := a.glyph config.arrowSize
  let markerPos := view.stand config.keepInView glyph.h avgPrice
  let ppSize := Label.sizeOf "pp"
  let ppPos := config.pin.place (glyph.translate markerPos) ppSize
  { symbol, size, avgPrice, fills, markerPos, ppPos
    lineLevel := some avgPrice
    lineVisible := true
    arrow := some a
    markerLevel := avgPrice
    markerVisible := true
    ppVisible := true
    sizeText := Tracker.sizeText size
    sizePos := ppPos + ⟨ppSize.w, 0.0⟩
    sizeVisible := true }

namespace Tracker

variable {t : Tracker} {a : Arrow}

theorem Assembled.ppSize (h : t.Assembled) : t.ppLabel.size = Label.sizeOf "pp" := by
  rw [Label.size, h.ppText]

theorem snapshot_standAt (h : t.Assembled) (hc : t.Consistent) (hd : t.Displayed)
    (ho : (t.info.size != 0.0) = true) (ha : Arrow.ofSize? t.info.size = some a) (v : View) :
    (t.standAt (t.post t.config.keepInView v)).snapshot =
      .ofOpen t.config v t.info.symbol t.info.size t.info.avgPrice t.info.fills.size a := by
  obtain ⟨l, hl⟩ := Option.isSome_iff_exists.mp (hc.line.trans ho)
  have harrow := hc.arrow (by simp [hl]) a ha
  obtain ⟨hlevel, hmarker⟩ := hc.level l hl
  have hglyph := h.glyph_eq harrow
  have hpost : t.post t.config.keepInView v = v.stand t.config.keepInView
      (a.glyph t.config.arrowSize).h t.info.avgPrice := by
    rw [post, hglyph, hc.level_eq (by simp [hl])]
  simp only [snapshot, Snapshot.ofOpen, standAt, aligned, h.marker_moveTo, hl, hlevel, hmarker,
    hglyph, hpost, harrow, h.ppSize, hc.text, hd.line l hl, hd.marker, hd.pp, hd.size,
    Option.map_some, Option.any_some]

end Tracker

end PositionOverlay
