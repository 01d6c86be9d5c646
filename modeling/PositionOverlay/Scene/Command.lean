import PositionOverlay.Marker
import PositionOverlay.Position
import PositionOverlay.Settings

/-!
# Commands

What can be asked of a scene. Objects are named; a subscription carries the commands that it
gives whenever the visible range changes.
-/
namespace PositionOverlay

/-- What makes a chart move or paint its items. -/
inductive Tick where
  | range (yMin yMax : Float)
  | height (height : Float)
  | paint
  /-- Puts one marker in its place. -/
  | place (marker : String)

/-- The objects that someone holds on to, by name. -/
structure Holdings where
  markers : List String
  labels : List String
  trackerMarkers : List String
  ppLabels : List String
  sizeLabels : List String

inductive TrackerCommand where
  | make (symbol : String) (config : OverlayConfig)
  | drop
  | update (avgPrice size : Float)
  | updateLine (price size : Float)
  | levelMarker (size : Float)
  | «show»
  | hide
  | hideInfo
  | fill (fill : Fill)
  | snapshot
  /-- Makes a line, which is kept under a name. -/
  | positionLine (size level : Float) (keepAs : Option String)
  | level
  | align
  | info
  | marker
  | labels
  | line

inductive MarkerCommand where
  | make (arrow : Option Arrow) (price size : Float) (keepInView : Bool)
  /-- Forgets the marker without deleting it. -/
  | drop
  /-- Sets the price that the marker marks. -/
  | live (price : Float)
  | level (level : Float)
  | arrow (arrow : Arrow)
  | paint
  | «show»
  | hide
  | keep (keepInView : Bool)
  | pen (color : String)
  | brush (color : String)
  | delete
  | enter
  | connect
  | link (label : String)
  | unlink
  | state
  | extent
  | describe

/-- Where a label is asked to stand. -/
inductive AnchorCommand where
  | fixed (point : Point)
  | corner (point : Point)
  | beside (marker : String) (pin : Pin)
  | after (label : String)

inductive LabelCommand where
  | make (template : String) (fields : List (String × Json)) (color : String) (follows : Bool)
  | drop
  | set (field : String) (value : Json)
  | field (field : String)
  | render
  | update
  | «show»
  | hide
  | anchor (anchor : AnchorCommand)
  | state

inductive LineCommand where
  | make (level : Float) (color : String) (options : LineOptions)
  | level (level : Float)
  | «show»
  | hide
  | delete
  | state

/-- Commands to items that do nothing but count how often they are painted. -/
inductive CounterCommand where
  | make (visible : Bool)
  | setVisible (visible : Bool)
  | drop

inductive Command where
  | tick (tick : Tick)
  /-- A tick while some objects are held and cannot move. -/
  | hold (holdings : Holdings) (tick : Tick)
  | dump
  | map (point : Point)
  | range
  | removeItem (id : Nat)
  /-- The commands carry labels for the record of what was done. -/
  | subscribe (name : String) (actions : List (String × Command))
  | unsubscribe (name : String)
  | unsubscribeId (id : Nat)
  | tracker (name : String) (command : TrackerCommand)
  | marker (name : String) (command : MarkerCommand)
  | label (name : String) (command : LabelCommand)
  | line (name : String) (command : LineCommand)
  | counter (name : String) (command : CounterCommand)
  | unknown

mutual

/-- How deeply subscriptions are nested in a command. -/
def Command.depth : Command → Nat
  | .subscribe _ actions => actionsDepth actions + 1
  | _ => 0

def actionsDepth : List (String × Command) → Nat
  | [] => 0
  | (_, c) :: rest => max c.depth (actionsDepth rest)

end

end PositionOverlay
