import PositionOverlay.Event
import PositionOverlay.Tracker.Snapshot

/-!
# Sessions

A session is one tracker alone on a chart. Items and listeners of the chart are known by the
build of the marker they belong to.
-/
namespace PositionOverlay

structure Session where
  chart : Chart Nat Nat
  tracker : Tracker
deriving Repr

namespace Session

/-- The item and the listener of the only tracker. -/
def entrance : Entrance Nat Nat := ⟨id, id⟩

/-- A new session with a flat position. -/
def start (view : View) (overlay : OverlayConfig) (symbol : String) : Except Fault Session := do
  let (tracker, chart) ← Tracker.create entrance symbol overlay (.empty view)
  return { chart, tracker }

/-- Work on the tracker. -/
def onTracker (work : Tracker → ChartM Nat Nat Tracker) (s : Session) : Except Fault Session := do
  let (tracker, chart) ← work s.tracker s.chart
  return { chart, tracker }

/-- Lets the listener of a build hear of a range change. -/
def hear (s : Session) (build : Nat) : Except Fault Session :=
  if s.tracker.build = build then s.onTracker Tracker.rangeChanged else .ok s

/-- Lets all listeners hear of a range change. -/
def rangeChanged (s : Session) : Except Fault Session := do
  let (running, chart) := s.chart.takeListeners
  let s ← running.foldlM (fun s l => s.hear l.2) { s with chart }
  return { s with chart := s.chart.putListeners running }

/-- Changes the view. -/
def setView (f : View → View) (s : Session) : Except Fault Session :=
  { s with chart.view := f s.chart.view }.rangeChanged

/-- Paints the item of a build. -/
def paintItem (s : Session) (build : Nat) : Except Fault Session :=
  if s.tracker.build = build then s.onTracker Tracker.painted else .ok s

/-- One paint cycle. -/
def paint (s : Session) : Except Fault Session :=
  s.chart.items.foldlM (fun s e => s.paintItem e.2) s

/-- The execution that an event stands for; what it leaves open is blank. -/
def fillOf (f : FillEvent) : Fill :=
  ⟨f.order.getD .zero, f.time.getD .epoch, Fill.filled, f.size, f.price⟩

/-- Takes an event in, before the paint cycle that follows it. -/
def take (s : Session) : Event → Except Fault Session
  | .position u => s.onTracker fun t => t.update entrance u
  | .fill f => s.onTracker fun t => t.recordFill (fillOf f)
  | .view yMin yMax => s.setView fun v => { v with yMin, yMax }
  | .paint => .ok s

/-- Takes an event in and paints. -/
def apply (s : Session) (e : Event) : Except Fault Session := do (← s.take e).paint

/-- Notes what happens to the replay. -/
def note (s : Session) (severity : Severity) (text : String) : Session :=
  { s with chart := s.chart.note .replay severity text }

end Session

end PositionOverlay
