import PositionOverlay.Label
import PositionOverlay.Marker.Membership
import PositionOverlay.Position
import PositionOverlay.Settings

/-!
# Position trackers

A tracker shows the position of one symbol: a level line while the position is open, a marker at
the level of the line, the label "pp" beside the marker, and behind it a label with the size.
-/
namespace PositionOverlay

namespace Tracker

/-- The two labels. -/
inductive Role where
  | pp
  | size
deriving Repr, DecidableEq

/-- Where a label of a tracker stands. -/
inductive Anchor where
  | besideMarker
  | afterPp
deriving Repr, DecidableEq

end Tracker

structure Tracker where
  config : OverlayConfig
  info : Position
  marker : Marker Tracker.Role
  line : Option Line
  ppLabel : Label Tracker.Anchor
  sizeLabel : Label Tracker.Anchor
  /-- How often the marker has been built anew. -/
  build : Nat
deriving Repr

/-- The item and the listener under which a build of a tracker's marker is known to its chart. -/
structure Entrance (Item Listener : Type) where
  item : (build : Nat) → Item
  listener : (build : Nat) → Listener

namespace Tracker

variable {Item Listener : Type}

/-- The level of the line, zero without one. -/
def level (t : Tracker) : Float :=
  match t.line with
  | some l => l.level
  | none => 0.0

/-- The place of a label of the given size. -/
def place (t : Tracker) : Anchor → Size → Point
  | .besideMarker, size => t.config.pin.place t.marker.placement.bounds size
  | .afterPp, _ => t.ppLabel.pos + ⟨t.ppLabel.size.w, 0.0⟩

def label (t : Tracker) : Role → Label Anchor
  | .pp => t.ppLabel
  | .size => t.sizeLabel

def setLabel (t : Tracker) : Role → Label Anchor → Tracker
  | .pp, l => { t with ppLabel := l }
  | .size, l => { t with sizeLabel := l }

/-- Moves a label to its place, unless it is held. -/
def updateLabel (t : Tracker) (role : Role) : Tracker :=
  if (t.label role).isHeld then t else t.setLabel role ((t.label role).update t.place)

/-- Moves the linked labels in the order of their links. -/
def reanchored (t : Tracker) : Tracker := t.marker.links.foldl updateLabel t

/-- The linked labels that cannot move. -/
def heldLinks (t : Tracker) : List Role := t.marker.links.filter fun role => (t.label role).isHeld

/-- Moves the linked labels and notes each that cannot move. -/
def reanchor (t : Tracker) : ChartM Item Listener Tracker := do
  modify fun c => t.heldLinks.foldl
    (fun c _ => c.note .marker .debug "marker label busy, skipping re-anchor") c
  return t.reanchored

/-- Puts the marker in its place for the current view and lets the labels follow. -/
def reposition (t : Tracker) : ChartM Item Listener Tracker := do
  let marker ← t.marker.placeInView (← get).view t.level
  { t with marker }.reanchor

/-- The part of a paint cycle that concerns the marker. -/
def paint (t : Tracker) : ChartM Item Listener Tracker := do
  if t.marker.isLive then
    let marker ← t.marker.placeForPaint (← get).view t.level
    { t with marker }.reanchor
  else return t

/-- Answers a change of the visible range. -/
def rangeChanged (t : Tracker) : ChartM Item Listener Tracker := do
  if t.marker.isHeld then
    modify (·.note .marker .debug "marker busy during range change")
    return t
  else if t.marker.isLive then t.reposition
  else return t

/-- Answers a paint cycle. -/
def painted (t : Tracker) : ChartM Item Listener Tracker := do
  if t.marker.isHeld then
    modify (·.note .chart .debug "skipping paint of item already borrowed")
    return t
  else if t.marker.visible then t.paint
  else return t

/-- Shows everything, unless the position is flat. -/
def «show» (t : Tracker) : Except Fault Tracker := do
  if t.info.isFlat then return t
  else
    let line ← t.line.mapM Line.show
    return { t with
      line
      marker := t.marker.show
      ppLabel := t.ppLabel.show
      sizeLabel := t.sizeLabel.show }

/-- Hides everything. -/
def hide (t : Tracker) : Tracker :=
  { t with
    line := t.line.map Line.hide
    marker := t.marker.hide
    ppLabel := t.ppLabel.hide
    sizeLabel := t.sizeLabel.hide }

/-- Hides the size. -/
def hideInfo (t : Tracker) : Tracker := { t with sizeLabel := t.sizeLabel.hide }

/-- Writes a size into its label. -/
def writeSize (t : Tracker) (size : Float) : Tracker :=
  { t with sizeLabel := (t.sizeLabel.setField "entry_size" (.float size)).render t.place }

/-- Anchors the first label to the marker and links both labels, the second if it follows. -/
def pinLabels (t : Tracker) : Tracker :=
  { t with
    ppLabel := t.ppLabel.setAnchor .besideMarker
    marker := t.marker.relink (.pp :: if t.sizeLabel.follows then [.size] else []) }

/-- Builds a marker for a signed size and puts it into the scene. -/
def buildMarker (own : Entrance Item Listener) (config : OverlayConfig) (build : Nat)
    (size : Float) : ChartM Item Listener (Marker Role) := do
  let arrow := Arrow.ofSize? size
  let m ← (← Marker.make arrow config.arrowSize config.keepInView).enter (own.item build)
  return if arrow.isSome then m.show else m

/-- A tracker of a flat position; nothing is shown. -/
def create (own : Entrance Item Listener) (symbol : String) (config : OverlayConfig) :
    ChartM Item Listener Tracker := do
  let marker ← buildMarker own config 0 1.0
  modify (·.countLabel.countLabel)
  let t : Tracker := {
    config, marker
    info := .flat symbol
    line := none
    ppLabel := .make "pp" [] config.color false
    sizeLabel := .make "x\x7bentry_size\x7d" [("entry_size", .int 0)] config.color true
    build := 0 }
  let t := t.pinLabels
  let t := { t with ppLabel := t.ppLabel.render t.place }
  let t := { t with sizeLabel := (t.sizeLabel.setAnchor .afterPp).render t.place }
  modify (·.note .tracker .debug s!"position tracker created for {symbol}")
  return t.hide

/-- Subscribes the marker to range changes. -/
def connect (own : Entrance Item Listener) (t : Tracker) : ChartM Item Listener Tracker := do
  return { t with marker := ← t.marker.connect (own.listener t.build) }

/-- A new line for an open position; the marker takes its arrow, color and level. -/
def positionLine (own : Entrance Item Listener) (t : Tracker) (size level : Float) :
    ChartM Item Listener (Line × Tracker) := do
  let line ← modifyGet (·.makeLine level t.config.color .ofPosition)
  let marker := { (t.marker.setArrow? (Arrow.ofSize? size)).paintWith line.color with level }
  let t ← { t with marker }.paint
  let t ← { t with marker := t.marker.show }.connect own
  return (← line.setLevel level, t)

/-- A sentence about the symbol. -/
def sentence (t : Tracker) (text : String) : String := t.info.symbol ++ ": " ++ text

/-- A number inside a sentence. -/
def numeral (x : Float) : String := Decimal.Layout.plain.write x

/-- Creates, moves or removes the line, as price and size demand. -/
def updateLine (own : Entrance Item Listener) (t : Tracker) (price size : Float) :
    ChartM Item Listener Tracker := do
  match t.line, size != 0.0 with
  | none, true =>
    let (line, t) ← t.positionLine own size price
    let line ← line.show
    modify (·.note .tracker .info (t.sentence ("pp line created at " ++ numeral price)))
    return { t with line := some line }
  | some line, true =>
    let line ← line.setLevel price
    let line ← line.show
    let marker := { t.marker.setArrow? (Arrow.ofSize? size) with level := price }
    let t ← { t with line := some line, marker }.paint
    modify (·.note .tracker .debug (t.sentence ("pp line moved to " ++ numeral price)))
    return t
  | some line, false =>
    let _ ← modifyGet (·.deleteLine line)
    modify (·.note .tracker .info (t.sentence "position flat, pp line removed"))
    return { t with line := none }
  | none, false => return t

/-- Takes a report of the broker into the position and all that shows it. -/
def update (own : Entrance Item Listener) (t : Tracker) (u : PositionUpdate) :
    ChartM Item Listener Tracker := do
  let t ← { t with info := t.info.apply u }.updateLine own u.avgPrice u.size
  let t := t.writeSize u.size
  if u.size == 0.0 then return t.hide
  else
    let t ← { t with marker.level := u.avgPrice }.paint
    t.show

/-- Takes the marker off the chart. -/
def deleteMarker (t : Tracker) : ChartM Item Listener Tracker := do
  return { t with marker := ← t.marker.withdraw }

/-- Replaces the marker by a new one for the given size. -/
def levelMarker (own : Entrance Item Listener) (t : Tracker) (size : Float) :
    ChartM Item Listener Tracker := do
  let t ← t.deleteMarker
  let build := t.build + 1
  let marker ← buildMarker own t.config build size
  let t := { t with marker, build }.pinLabels
  match t.line with
  | none => return t
  | some line =>
    let marker := { t.marker.paintWith line.color with level := t.info.avgPrice }
    { t with marker }.connect own

/-- Adds an execution to the history. -/
def recordFill (t : Tracker) (f : Fill) : ChartM Item Listener Tracker := do
  let order := f.order.render
  let size := numeral f.size
  let price := numeral f.price
  modify (·.note .tracker .debug (t.sentence s!"fill {order} {size} @ {price}"))
  return { t with info := t.info.record f }

/-- The place left of the marker that leaves room for the size; the origin without a line. -/
def alignToMarker (t : Tracker) : Point :=
  if t.line.isSome then ⟨t.marker.pos.x - t.sizeLabel.size.w, t.marker.pos.y⟩ else .origin

/-- Removes marker and line from the chart; a held marker is left where it is. -/
def drop (t : Tracker) : ChartM Item Listener Tracker := do
  let t ← if t.marker.isHeld then pure t else t.deleteMarker
  if let some line := t.line then
    let _ ← modifyGet (·.deleteLine line)
  return { t with line := none }

end Tracker

end PositionOverlay
