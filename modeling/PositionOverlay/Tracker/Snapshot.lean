import PositionOverlay.Tracker

/-!
# Snapshots

All that a tracker shows at one moment.
-/
namespace PositionOverlay

structure Snapshot where
  symbol : String
  size : Float
  avgPrice : Float
  fills : Nat
  lineLevel : Option Float
  lineVisible : Bool
  arrow : Option Arrow
  markerLevel : Float
  markerPos : Point
  markerVisible : Bool
  ppPos : Point
  ppVisible : Bool
  sizeText : String
  sizePos : Point
  sizeVisible : Bool
deriving Repr

def Tracker.snapshot (t : Tracker) : Snapshot where
  symbol := t.info.symbol
  size := t.info.size
  avgPrice := t.info.avgPrice
  fills := t.info.fills.size
  lineLevel := t.line.map Line.level
  lineVisible := t.line.any Line.visible
  arrow := t.marker.arrow
  markerLevel := t.marker.level
  markerPos := t.marker.pos
  markerVisible := t.marker.visible
  ppPos := t.ppLabel.pos
  ppVisible := t.ppLabel.visible
  sizeText := t.sizeLabel.text
  sizePos := t.sizeLabel.pos
  sizeVisible := t.sizeLabel.visible

namespace Snapshot

def toJson (s : Snapshot) : Json :=
  .obj [("symbol", .str s.symbol), ("size", .float s.size), ("avg_price", .float s.avgPrice),
    ("fills", .int s.fills), ("line_level", .ofOption .float s.lineLevel),
    ("line_visible", .bool s.lineVisible),
    ("marker_style", .ofOption (fun a => .str a.name) s.arrow),
    ("marker_level", .float s.markerLevel), ("marker_pos", s.markerPos.toJson),
    ("marker_visible", .bool s.markerVisible), ("pp_label_pos", s.ppPos.toJson),
    ("pp_label_visible", .bool s.ppVisible), ("size_text", .str s.sizeText),
    ("size_label_pos", s.sizePos.toJson), ("size_label_visible", .bool s.sizeVisible)]

end Snapshot

end PositionOverlay
