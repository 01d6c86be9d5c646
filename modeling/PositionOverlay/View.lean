import PositionOverlay.Geometry

/-!
# The visible range of a chart

A view maps prices to the ordinates of a scene and knows the horizontal places along its right
edge, where level lines end and markers are drawn.
-/
namespace PositionOverlay

structure View where
  /-- The lowest visible price. -/
  yMin : Float
  /-- The highest visible price. -/
  yMax : Float
  /-- The height of the scene. -/
  height : Float
  /-- The place of the right price axis. -/
  rightAxis : Float
  /-- The width that labels of the best offers take left of the axis. -/
  offersWidth : Float
deriving Repr, Inhabited

/-- The horizontal places along the right edge. -/
structure RightEdge where
  lineEnd : Float
  marker : Float
  axis : Float
deriving Repr

namespace View

/-- The least span that counts as a range. -/
def leastSpan : Float := 2.220446049250313e-16

/-- The ordinate of a price; the middle of the scene when the range has no extent. -/
def ordinate (v : View) (price : Float) : Float :=
  let span := v.yMax - v.yMin
  if span.abs < leastSpan then v.height / 2.0
  else (v.yMax - price) / span * v.height

/-- A point whose ordinate is a price, in the scene. -/
def toScene (v : View) (p : Point) : Point := ⟨p.x, v.ordinate p.y⟩

/-- The places that leave room for a marker of the given size and for the best offers. -/
def rightEdge (v : View) (markerSize : Float) : RightEdge :=
  let free := v.rightAxis - v.offersWidth
  let marker := free - 1.375 * 2.0 * markerSize
  ⟨marker - 6.0 / 16.0 * markerSize, marker, v.rightAxis⟩

/-- The marker size for which places along the edge are computed. -/
def edgeMarkerSize : Float := 20.0

/-- The abscissa of all markers. -/
def markerX (v : View) : Float := (v.rightEdge edgeMarkerSize).marker

end View

end PositionOverlay
