import PositionOverlay.Scene

/-!
# Running commands

A refused command leaves the scene as it was. A subscription may contain commands that change the
range again; those only reach listeners that joined during the range change in progress, which
are nested strictly deeper in their subscription, so the nesting of subscriptions bounds the
nesting of range changes.
-/
namespace PositionOverlay.Scene

/-! ## Trackers -/

/-- Changes the tracker of the given name and shows what it has become. -/
def changeTracker (name : String)
    (work : Entrance Item Listener → Tracker → ChartM Item Listener Tracker) : SceneM Reply := do
  let (key, t) ← known ((← get).trackers.find? name)
  let t ← onChart (work (entrance key) t)
  setTracker key t
  return .snapshot t.snapshot

/-- Takes a tracker off the scene. -/
def retire (t : Tracker) : SceneM Unit := do
  let _ ← onChart t.drop

/-- Adds a new tracker, which takes the name of an older one. -/
def makeTracker (name symbol : String) (config : OverlayConfig) : SceneM Reply := do
  let s ← get
  let t ← onChart (Tracker.create (entrance s.trackers.nextKey) symbol config)
  modify fun s => { s with trackers := s.trackers.add name t }
  if let some (_, old) := s.trackers.find? name then retire old
  return .snapshot t.snapshot

def dropTracker (name : String) : SceneM Reply := do
  match (← get).trackers.find? name with
  | none => return .flag false
  | some (_, t) =>
    modify fun s => { s with trackers := s.trackers.drop name }
    retire t
    return .flag true

/-- A new line for the tracker's marker, which the tracker does not keep. -/
def makeLineOf (name : String) (size level : Float) (keepAs : Option String) : SceneM Reply := do
  let (key, t) ← known ((← get).trackers.find? name)
  let (line, t) ← onChart (t.positionLine (entrance key) size level)
  setTracker key t
  if let some kept := keepAs then
    modify fun s => { s with lines := s.lines.add kept line }
  return .made line t.snapshot

def runTracker (name : String) : TrackerCommand → SceneM Reply
  | .make symbol config => makeTracker name symbol config
  | .drop => dropTracker name
  | .update avgPrice size => changeTracker name fun own t => t.update own (.ofSize avgPrice size)
  | .updateLine price size => changeTracker name fun own t => t.updateLine own price size
  | .levelMarker size => changeTracker name fun own t => t.levelMarker own size
  | .show => changeTracker name fun _ t => t.show
  | .hide => changeTracker name fun _ t => pure t.hide
  | .hideInfo => changeTracker name fun _ t => pure t.hideInfo
  | .fill f => changeTracker name fun _ t => t.recordFill f
  | .positionLine size level keepAs => makeLineOf name size level keepAs
  | .snapshot => do
    let t ← current
    return .snapshot t.snapshot
  | .level => do
    let t ← current
    return .level t.level t.line.isSome
  | .align => do
    let t ← current
    return .point t.alignToMarker
  | .info => do
    let t ← current
    return .position t.info
  | .marker => do
    let t ← current
    return .marker t.marker.forget t.level
  | .labels => do
    let t ← current
    return .labels t.ppLabel.forget t.sizeLabel.forget
  | .line => do
    let t ← current
    return .line t.line
where
  current : SceneM Tracker := do
    let (_, t) ← known ((← get).trackers.find? name)
    return t

/-! ## Markers, labels, lines and counters -/

/-- The state of a marker after a command. -/
def markerReply (key : Nat) : SceneM Reply := do
  let m ← known ((← get).markers.get? key)
  return .marker m.marker.forget m.price

def changeMarker (name : String) (f : Marker Nat → Marker Nat) : SceneM Reply := do
  let (key, m) ← known ((← get).markers.find? name)
  modify fun s => { s with markers := s.markers.set key { m with marker := f m.marker } }
  markerReply key

/-- Changes a marker together with its membership in the chart. -/
def moveMarker (name : String) (work : Nat → Marker Nat → ChartM Item Listener (Marker Nat)) :
    SceneM Reply := do
  let (key, m) ← known ((← get).markers.find? name)
  let marker ← onChart (work key m.marker)
  modify fun s => { s with markers := s.markers.set key { m with marker } }
  markerReply key

/-- Puts the marker of the given name in its place. -/
def placeNamed (name : String) : SceneM Reply := do
  let (key, m) ← known ((← get).markers.find? name)
  placeMarker key m
  markerReply key

def runMarker (name : String) : MarkerCommand → SceneM Reply
  | .make arrow price size keepInView => do
    let marker ← allow (Marker.make arrow size keepInView)
    let key := (← get).markers.nextKey
    modify fun s => { s with markers := s.markers.add name { marker, price } }
    markerReply key
  | .drop => do
    let _ ← known ((← get).markers.find? name)
    modify fun s => { s with markers := s.markers.drop name }
    return .done
  | .live price => do
    let (key, m) ← known ((← get).markers.find? name)
    modify fun s => { s with markers := s.markers.set key { m with price } }
    markerReply key
  | .level level => changeMarker name fun m => { m with level }
  | .arrow arrow => changeMarker name fun m => m.setArrow arrow
  | .paint => do
    let (key, m) ← known ((← get).markers.find? name)
    paintMarker key m
    markerReply key
  | .show => changeMarker name Marker.show
  | .hide => changeMarker name Marker.hide
  | .keep keepInView => changeMarker name fun m => { m with keepInView }
  | .pen color => changeMarker name fun m => { m with pen := some color }
  | .brush color => changeMarker name fun m => { m with brush := some color }
  | .delete => moveMarker name fun _ m => m.withdraw
  | .enter => moveMarker name fun key m => m.enter (.marker key)
  | .connect => moveMarker name fun key m => m.connect (.marker key)
  | .link label => do
    let _ ← known ((← get).markers.find? name)
    let (key, _) ← known ((← get).labels.find? label)
    changeMarker name fun m => { m with links := m.links ++ [key] }
  | .unlink => changeMarker name fun m => m.relink []
  | .state => changeMarker name id
  | .extent => do
    let (_, m) ← known ((← get).markers.find? name)
    return .size (← allow m.marker.extent)
  | .describe => do
    let (_, m) ← known ((← get).markers.find? name)
    return .text m.marker.describe

def changeLabel (name : String) (f : Scene → Label Anchor → Label Anchor) : SceneM Reply := do
  let s ← get
  let (key, l) ← known (s.labels.find? name)
  let l := f s l
  modify fun s => { s with labels := s.labels.set key l }
  return .label l.forget

/-- The rule behind an asked anchor. -/
def anchorOf (s : Scene) : AnchorCommand → Option Anchor
  | .fixed p => some (.fixed p)
  | .corner p => some (.corner p)
  | .beside marker pin => do
    let (key, _) ← s.markers.find? marker
    return .beside key pin
  | .after label => do
    let (key, _) ← s.labels.find? label
    return .after key

def runLabel (name : String) : LabelCommand → SceneM Reply
  | .make template fields color follows => do
    onChart (modify (·.countLabel))
    let l : Label Anchor := .make template (sortEntries fields) color follows
    modify fun s => { s with labels := s.labels.add name l }
    return .label l.forget
  | .drop => do
    let found := ((← get).labels.find? name).isSome
    modify fun s => { s with labels := s.labels.drop name }
    return .flag found
  | .set field value => changeLabel name fun _ l => l.setField field value
  | .field field => do
    let (_, l) ← known ((← get).labels.find? name)
    return .field (l.field? field)
  | .render => changeLabel name fun s l => l.render s.place
  | .update => changeLabel name fun s l => l.update s.place
  | .show => changeLabel name fun _ l => l.show
  | .hide => changeLabel name fun _ l => l.hide
  | .anchor anchor => do
    let _ ← known ((← get).labels.find? name)
    let rule ← known (anchorOf (← get) anchor)
    changeLabel name fun _ l => l.setAnchor rule
  | .state => changeLabel name fun _ l => l

def changeLine (name : String) (f : Line → Except Fault Line) : SceneM Reply := do
  let (key, l) ← known ((← get).lines.find? name)
  let l ← allow (f l)
  modify fun s => { s with lines := s.lines.set key l }
  return .line (some l)

def runLine (name : String) : LineCommand → SceneM Reply
  | .make level color options => do
    let l ← onChart (modifyGet (·.makeLine level color options))
    modify fun s => { s with lines := s.lines.add name l }
    return .line (some l)
  | .level level => changeLine name fun l => l.setLevel level
  | .show => changeLine name Line.show
  | .hide => changeLine name fun l => .ok l.hide
  | .delete => do
    let (key, l) ← known ((← get).lines.find? name)
    let l ← onChart (modifyGet (·.deleteLine l))
    modify fun s => { s with lines := s.lines.set key l }
    return .line (some l)
  | .state => changeLine name .ok

def runCounter (name : String) : CounterCommand → SceneM Reply
  | .make visible => do
    let key := (← get).counters.nextKey
    let id ← onChart (modifyGet (·.addItem (.counter key)))
    modify fun s => { s with counters := s.counters.add name { visible, paints := 0 } }
    return .number id
  | .setVisible visible => do
    let (key, c) ← known ((← get).counters.find? name)
    modify fun s => { s with counters := s.counters.set key { c with visible } }
    return .done
  | .drop => do
    let found := ((← get).counters.find? name).isSome
    modify fun s => { s with counters := s.counters.drop name }
    return .flag found

/-! ## Ticks and subscriptions -/

def runTick (runScript : String → List (String × Command) → SceneM Unit) : Tick → SceneM Reply
  | .range yMin yMax => do
    setView runScript fun v => { v with yMin, yMax }
    return .dump (← get).dump
  | .height height => do
    setView runScript fun v => { v with height }
    return .dump (← get).dump
  | .paint => do
    paint
    return .dump (← get).dump
  | .place marker => placeNamed marker

/-- The keys of held objects. -/
structure Grip where
  markers : List Nat
  labels : List Nat
  trackerMarkers : List Nat
  ppLabels : List Nat
  sizeLabels : List Nat

/-- The objects that are held by name. -/
def gripOf (s : Scene) (h : Holdings) : Grip where
  markers := s.markers.keysOf h.markers
  labels := s.labels.keysOf h.labels
  trackerMarkers := s.trackers.keysOf h.trackerMarkers
  ppLabels := s.trackers.keysOf h.ppLabels
  sizeLabels := s.trackers.keysOf h.sizeLabels

/-- Changes the number of those that hold each of some objects. -/
def changeHolders (g : Grip) (f : Nat → Nat) (s : Scene) : Scene :=
  { s with
    markers := s.markers.modify g.markers fun m =>
      { m with marker.holders := f m.marker.holders }
    labels := s.labels.modify g.labels fun l => { l with holders := f l.holders }
    trackers :=
      ((s.trackers.modify g.trackerMarkers fun t =>
        { t with marker.holders := f t.marker.holders }).modify g.ppLabels fun t =>
          { t with ppLabel.holders := f t.ppLabel.holders }).modify g.sizeLabels fun t =>
            { t with sizeLabel.holders := f t.sizeLabel.holders } }

/-- Runs a command; `runScript` runs the actions of a subscription. -/
def runWith (runScript : String → List (String × Command) → SceneM Unit) : Command → SceneM Reply
  | .tick t => runTick runScript t
  | .hold h t => do
    let grip := gripOf (← get) h
    modify (changeHolders grip (· + 1))
    let _ ← runTick runScript t
    modify (changeHolders grip (· - 1))
    return .dump (← get).dump
  | .dump => return .dump (← get).dump
  | .map p => return .point ((← get).chart.view.toScene p)
  | .range => do
    let v := (← get).chart.view
    return .range v.yMin v.yMax
  | .removeItem id => do
    onChart (modify (·.removeItem id))
    return .done
  | .subscribe name actions => do
    let id ← onChart (modifyGet (·.subscribe (.script name actions)))
    modify fun s => { s with subscriptions := s.subscriptions ++ [(name, id)] }
    return .number id
  | .unsubscribe name => do
    let id ← known ((← get).subscriptions.reverse.lookup name)
    onChart (modify (·.unsubscribe id))
    return .number id
  | .unsubscribeId id => do
    onChart (modify (·.unsubscribe id))
    return .number id
  | .tracker name c => runTracker name c
  | .marker name c => runMarker name c
  | .label name c => runLabel name c
  | .line name c => runLine name c
  | .counter name c => runCounter name c
  | .unknown => throw .unknown

/-- A command that is refused changes nothing, and the refusal is the reply. -/
def attempt (work : SceneM Reply) (s : Scene) : Reply × Scene :=
  match work s with
  | .ok (reply, s) => (reply, s)
  | .error cause => (.refused cause, s)

def record (f : Firing) : SceneM Unit := modify fun s => { s with firings := s.firings.push f }

/-- Runs the actions of a subscription. The first argument bounds the nesting of subscriptions. -/
def runScript : (depth : Nat) → String → List (String × Command) → SceneM Unit
  | 0, _, _ => return
  | depth + 1, name, actions => do
    record (.heard name)
    actions.forM fun (action, c) => do
      let reply ← modifyGet (attempt (runWith (runScript depth) c))
      record (.acted name action reply)

/-- How deeply subscriptions are nested in the listeners of a scene. -/
def depth (s : Scene) : Nat :=
  s.chart.listeners.foldl (fun n e =>
    match e.2 with
    | .script _ actions => max n (actionsDepth actions + 1)
    | _ => n) 0

/-- Obeys a command, or refuses it. -/
def run (s : Scene) (c : Command) : Reply × Scene := attempt (runWith (runScript s.depth) c) s

/-- Obeys a command and collects what subscriptions did meanwhile. -/
def step (s : Scene) (c : Command) : (Reply × List Firing) × Scene :=
  let (reply, s) := { s with firings := #[] }.run c
  ((reply, s.firings.toList), s)

end PositionOverlay.Scene
