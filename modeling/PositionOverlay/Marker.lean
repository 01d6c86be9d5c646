import PositionOverlay.Line
import PositionOverlay.View
import PositionOverlay.Decimal.Layout

/-!
# Level markers

An arrow at the right edge that marks a price. It can be kept in view: when the price is out of
sight, it stands at the edge behind which the price lies. The place of the glyph is published
apart, for the anchor rules of labels.
-/
namespace PositionOverlay

/-- The two shapes of arrows. -/
inductive Arrow where
  | up
  | down
deriving Repr, DecidableEq

namespace Arrow

/-- The arrow of a signed quantity; none when it is neither positive nor negative. -/
def ofSize? (size : Float) : Option Arrow :=
  if 0.0 < size then some up else if size < 0.0 then some down else none

def name : Arrow → String
  | up => "|<"
  | down => ">|"

def direction : Arrow → String
  | up => "up"
  | down => "down"

def options : List (String × Arrow) := [("|<", up), (">|", down)]

theorem lookup_name (a : Arrow) : options.lookup a.name = some a := by cases a <;> rfl

def schema : Schema Arrow := .choice "MarkerStyle" options

/-- The outline of an upward arrow of size one around the origin: a bar and a triangle above. -/
def upOutline : List (List Point) :=
  [[⟨-0.5, 0.375⟩, ⟨0.5, 0.375⟩, ⟨0.5, 0.5⟩, ⟨-0.5, 0.5⟩],
    [⟨0.0, -0.5⟩, ⟨0.5, 0.25⟩, ⟨-0.5, 0.25⟩]]

/-- The outline of size one; a downward arrow is an upward one turned over. -/
def outline : Arrow → List (List Point)
  | up => upOutline
  | down => upOutline.map fun polygon => polygon.map fun p => ⟨p.x, -p.y⟩

end Arrow

/-- Where a glyph stands in the scene. -/
structure Placement where
  pos : Point
  bounds : Rect
deriving Repr

/-- A marker whose linked labels have names of type `Link`. -/
structure Marker (Link : Type) where
  arrow : Option Arrow
  size : Float
  /-- The outline in scene units around the origin. -/
  path : List (List Point)
  /-- The smallest rectangle around the outline. -/
  box : Option Rect
  /-- The level that was last assigned. -/
  level : Float
  keepInView : Bool
  pos : Point
  visible : Bool
  pen : Option String
  brush : Option String
  /-- The labels that are placed anew after every move, in this order. -/
  links : List Link
  placement : Placement
  /-- The scene item that paints the marker. -/
  item : Option Nat
  /-- The subscription through which the marker hears of range changes. -/
  subscription : Option Nat
  deleted : Bool
  /-- How many look at the marker from outside; meanwhile it cannot move. -/
  holders : Nat
deriving Repr

namespace Marker

variable {Link : Type}

def hasGlyph (m : Marker Link) : Bool := m.box.isSome

def isHeld (m : Marker Link) : Bool := m.holders != 0

/-- The rectangle of the glyph at a place; without a glyph it is empty. -/
def boundsAt (m : Marker Link) (pos : Point) : Rect :=
  match m.box with
  | some box => box.translate pos
  | none => ⟨pos.x, pos.y, 0.0, 0.0⟩

/-- Publishes the place of the glyph. -/
def publish (m : Marker Link) : Marker Link := { m with placement := ⟨m.pos, m.boundsAt m.pos⟩ }

def moveTo (m : Marker Link) (pos : Point) : Marker Link := publish { m with pos }

/-- Changes the glyph; nothing happens if it is of the wanted shape already. -/
def setArrow (m : Marker Link) (arrow : Arrow) : Marker Link :=
  if m.arrow = some arrow then m
  else
    let path := arrow.outline.map fun polygon => polygon.map fun p => ⟨p.x * m.size, p.y * m.size⟩
    publish { m with arrow := some arrow, path, box := Rect.bounding path.flatten }

/-- Changes the glyph if a shape is given. -/
def setArrow? (m : Marker Link) : Option Arrow → Marker Link
  | some arrow => m.setArrow arrow
  | none => m

/-- A marker without a glyph. -/
def blank (size : Float) (keepInView : Bool) : Marker Link where
  arrow := none
  size
  path := []
  box := none
  level := 0.0
  keepInView
  pos := .origin
  visible := false
  pen := none
  brush := none
  links := []
  placement := ⟨.origin, .zero⟩
  item := none
  subscription := none
  deleted := false
  holders := 0

/-- A new marker. A glyph that is asked for must have an extent. -/
def make (arrow : Option Arrow) (size : Float) (keepInView : Bool) : Except Fault (Marker Link) :=
  match arrow with
  | none => .ok (blank size keepInView)
  | some a =>
    let m := (blank size keepInView).setArrow a
    if m.box.any fun box => !box.isEmpty then .ok m else .error .emptyGlyph

/-- The extent of the glyph, which must be there. -/
def extent (m : Marker Link) : Except Fault Size :=
  match m.box with
  | some box => .ok ⟨box.w, box.h⟩
  | none => .error .noGlyph

/-- The ordinate at which a kept marker stands for a price: its own, or below the upper edge or
above the lower edge when the price is out of sight. -/
def keptOrdinate (m : Marker Link) (view : View) (price : Float) : Except Fault Float := do
  if view.yMax < price then return (← m.extent).h / 3.0
  else if price < view.yMin then return view.height - 4.0 / 3.0 * (← m.extent).h
  else return view.ordinate price

/-- Moves the marker to a price, or to the edge behind which it lies. -/
def placeInView (m : Marker Link) (view : View) (price : Float) : Except Fault (Marker Link) := do
  return m.moveTo ⟨view.markerX, ← m.keptOrdinate view price⟩

/-- Moves the marker to a price, even if that is out of sight. -/
def placeOnLevel (m : Marker Link) (view : View) (price : Float) : Marker Link :=
  m.moveTo ⟨view.markerX, view.ordinate price⟩

/-- Whether painting and range changes move the marker. -/
def isLive (m : Marker Link) : Bool := !m.deleted && m.hasGlyph

/-- Where a paint cycle puts the marker. -/
def placeForPaint (m : Marker Link) (view : View) (price : Float) : Except Fault (Marker Link) :=
  if m.keepInView then m.placeInView view price else .ok (m.placeOnLevel view price)

def «show» (m : Marker Link) : Marker Link := { m with visible := true }

def hide (m : Marker Link) : Marker Link := { m with visible := false }

/-- Pen and brush of one color. -/
def paintWith (m : Marker Link) (color : String) : Marker Link :=
  { m with pen := some color, brush := some color }

/-- A deleted marker is neither an item nor a subscriber, as far as it knows. -/
def delete (m : Marker Link) : Marker Link :=
  { m with item := none, subscription := none, visible := false, deleted := true }

/-- Links the given labels, and no others. -/
def relink (m : Marker Link) (links : List Link) : Marker Link := { m with links }

/-- A description for developers. -/
def describe (m : Marker Link) : String :=
  let arrow := match m.arrow with
    | none => "None"
    | some .up => "Some(Up)"
    | some .down => "Some(Down)"
  let number := Decimal.Layout.inspect.write
  let size := number m.size
  let level := number m.level
  let x := number m.pos.x
  let y := number m.pos.y
  s!"LevelMarker \x7b style: {arrow}, size: {size}, level: {level}, " ++
    s!"keep_in_view: {m.keepInView}, pos: Point \x7b x: {x}, y: {y} \x7d, " ++
    s!"visible: {m.visible}, deleted: {m.deleted} \x7d"

end Marker

end PositionOverlay
