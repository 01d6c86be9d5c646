import PositionOverlay.Scene.Command
import PositionOverlay.Scene.Registry
import PositionOverlay.Tracker.Snapshot

/-!
# Scenes

A chart with named objects on it: trackers, markers, labels, lines and counters. Items and
listeners of the chart refer to objects by their keys, so they outlive the objects and then do
nothing.
-/
namespace PositionOverlay

namespace Scene

inductive Item where
  | tracker (key build : Nat)
  | marker (key : Nat)
  | counter (key : Nat)
deriving Repr, DecidableEq

inductive Listener where
  | tracker (key build : Nat)
  | marker (key : Nat)
  | script (name : String) (actions : List (String × Command))

/-- Where a free label stands. -/
inductive Anchor where
  | fixed (point : Point)
  /-- The label ends at the point. -/
  | corner (point : Point)
  | beside (marker : Nat) (pin : Pin)
  | after (label : Nat)
deriving Repr

/-- A marker of its own with the price that it marks. -/
structure FreeMarker where
  marker : Marker Nat
  price : Float
deriving Repr

/-- An item that counts how often it is painted. -/
structure Counter where
  visible : Bool
  paints : Nat
deriving Repr, DecidableEq

/-- Why a command was not obeyed. -/
inductive Refusal where
  /-- There is no such object or command. -/
  | unknown
  | fault (fault : Fault)
deriving Repr, DecidableEq

/-- What all objects of a scene look like. -/
structure Dump where
  trackers : List (String × Snapshot)
  markers : List (String × Marker Nat)
  labels : List (String × Point)
  counters : List (String × Nat)

inductive Reply where
  | done
  | flag (value : Bool)
  | number (value : Nat)
  | range (yMin yMax : Float)
  | point (point : Point)
  | size (size : Size)
  | text (text : String)
  | field (value : Option Json)
  | level (level : Float) (hasLine : Bool)
  | snapshot (snapshot : Snapshot)
  | position (position : Position)
  /-- A marker of any kind, with the price it marks. -/
  | marker (marker : Marker Unit) (price : Float)
  | label (label : Label Unit)
  | labels (first second : Label Unit)
  | line (line : Option Line)
  | made (line : Line) (snapshot : Snapshot)
  | dump (dump : Dump)
  | refused (cause : Refusal)

/-- What subscriptions did during a range change. -/
inductive Firing where
  | heard (name : String)
  | acted (name action : String) (reply : Reply)

end Scene

open Scene in
structure Scene where
  chart : Chart Scene.Item Scene.Listener
  trackers : Registry Tracker
  markers : Registry FreeMarker
  labels : Registry (Label Scene.Anchor)
  lines : Registry Line
  counters : Registry Counter
  /-- The newest subscription of each name comes last. -/
  subscriptions : List (String × Nat)
  firings : Array Firing

/-- Work on a scene; a refused command changes nothing. -/
abbrev SceneM := StateT Scene (Except Scene.Refusal)

/-- The label without its anchor rule. -/
def Label.forget {Anchor : Type} (l : Label Anchor) : Label Unit :=
  { l with anchor := l.anchor.map fun _ => () }

/-- The marker without the names of its links. -/
def Marker.forget {Link : Type} (m : Marker Link) : Marker Unit :=
  { m with links := m.links.map fun _ => () }

namespace Scene

/-- A scene without objects. -/
def empty (view : View) : Scene :=
  ⟨.empty view, .empty, .empty, .empty, .empty, .empty, [], #[]⟩

/-! An object that has been dropped is still met by others as long as it is held. -/

def tracker? (s : Scene) (key : Nat) : Option Tracker :=
  s.trackers.reach? (fun t => t.marker.isHeld) key

def marker? (s : Scene) (key : Nat) : Option FreeMarker :=
  s.markers.reach? (fun m => m.marker.isHeld) key

def label? (s : Scene) (key : Nat) : Option (Label Anchor) := s.labels.reach? Label.isHeld key

/-- The place of a label of the given size. A label that is gone has no place. -/
def place (s : Scene) : Anchor → Size → Point
  | .fixed p, _ => p
  | .corner p, size => ⟨p.x - size.w, p.y - size.h⟩
  | .beside key pin, size =>
    match s.markers.get? key with
    | some m => pin.place m.marker.placement.bounds size
    | none => .origin
  | .after key, _ =>
    match s.label? key with
    | some l => l.pos + ⟨l.size.w, 0.0⟩
    | none => .origin

def dump (s : Scene) : Dump where
  trackers := s.trackers.toList.map fun (name, t) => (name, t.snapshot)
  markers := s.markers.toList.map fun (name, m) => (name, m.marker)
  labels := s.labels.toList.map fun (name, l) => (name, l.pos)
  counters := s.counters.toList.map fun (name, c) => (name, c.paints)

/-- Work on the chart alone. -/
def onChart {α : Type} (work : ChartM Item Listener α) : SceneM α := fun s =>
  match work s.chart with
  | .ok (a, chart) => .ok (a, { s with chart })
  | .error f => .error (.fault f)

/-- A result that may fault. -/
def allow {α : Type} : Except Fault α → SceneM α
  | .ok a => pure a
  | .error f => throw (.fault f)

/-- What a name belongs to. -/
def known {α : Type} : Option α → SceneM α
  | some a => pure a
  | none => throw .unknown

/-- The item and the listener of a tracker. -/
def entrance (key : Nat) : Entrance Item Listener := ⟨.tracker key, .tracker key⟩

/-! ## Free markers -/

/-- Moves a linked label, unless it is held or gone. -/
def reanchorLabel (key : Nat) : SceneM Unit := do
  match (← get).label? key with
  | none => return
  | some l =>
    if l.isHeld then
      onChart (modify (·.note .marker .debug "marker label busy, skipping re-anchor"))
    else modify fun s => { s with labels := s.labels.set key (l.update s.place) }

/-- Stores a marker that has moved and lets its labels follow. -/
def settle (key : Nat) (m : FreeMarker) : SceneM Unit := do
  modify fun s => { s with markers := s.markers.set key m }
  m.marker.links.forM reanchorLabel

/-- Puts a marker in its place for the current view. -/
def placeMarker (key : Nat) (m : FreeMarker) : SceneM Unit := do
  let marker ← allow (m.marker.placeInView (← get).chart.view m.price)
  settle key { m with marker }

/-- The part of a paint cycle that concerns a marker. -/
def paintMarker (key : Nat) (m : FreeMarker) : SceneM Unit := do
  if m.marker.isLive then
    let marker ← allow (m.marker.placeForPaint (← get).chart.view m.price)
    settle key { m with marker }

/-! ## Ticks -/

/-- Stores what a tracker has become. -/
def setTracker (key : Nat) (t : Tracker) : SceneM Unit :=
  modify fun s => { s with trackers := s.trackers.set key t }

/-- Lets a listener hear that the visible range has changed. -/
def hear (runScript : String → List (String × Command) → SceneM Unit) : Listener → SceneM Unit
  | .tracker key build => do
    match (← get).tracker? key with
    | some t => if t.build = build then setTracker key (← onChart t.rangeChanged)
    | none => return
  | .marker key => do
    match (← get).marker? key with
    | some m =>
      if m.marker.isHeld then
        onChart (modify (·.note .marker .debug "marker busy during range change"))
      else if m.marker.isLive then placeMarker key m
    | none => return
  | .script name actions => runScript name actions

/-- Lets all listeners hear of a range change, in the order of their numbers. -/
def rangeChanged (runScript : String → List (String × Command) → SceneM Unit) : SceneM Unit := do
  let running ← onChart (modifyGet (·.takeListeners))
  running.forM fun (_, l) => hear runScript l
  onChart (modify (·.putListeners running))

/-- Whether the object of an item is still there. -/
def isPresent (s : Scene) : Item → Bool
  | .tracker key build => (s.tracker? key).any fun t => t.build == build
  | .marker key => (s.marker? key).isSome
  | .counter key => (s.counters.live? key).isSome

/-- Paints an item if it is visible. -/
def paintItem : Item → SceneM Unit
  | .tracker key _ => do
    match (← get).tracker? key with
    | some t => setTracker key (← onChart t.painted)
    | none => return
  | .marker key => do
    match (← get).marker? key with
    | some m =>
      if m.marker.isHeld then
        onChart (modify (·.note .chart .debug "skipping paint of item already borrowed"))
      else if m.marker.visible then paintMarker key m
    | none => return
  | .counter key => modify fun s =>
    match s.counters.live? key with
    | some c =>
      if c.visible then
        { s with counters := s.counters.set key { c with paints := c.paints + 1 } }
      else s
    | none => s

/-- One paint cycle over the items that are there, in the order of their numbers. -/
def paint : SceneM Unit := do
  let s ← get
  (s.chart.items.filter fun e => s.isPresent e.2).forM fun e => paintItem e.2

/-- Changes the view and tells the listeners. -/
def setView (runScript : String → List (String × Command) → SceneM Unit) (f : View → View) :
    SceneM Unit := do
  modify fun s => { s with chart.view := f s.chart.view }
  rangeChanged runScript

end Scene

end PositionOverlay
