import PositionOverlay.Chart
import PositionOverlay.Marker

/-!
# Markers on a chart

A marker is on a chart as an item, which is painted, and as a listener, which hears of range
changes. Deleting the marker ends both.
-/
namespace PositionOverlay.Marker

variable {Item Listener Link : Type}

/-- Registers the marker as an item. -/
def enter (item : Item) (m : Marker Link) : ChartM Item Listener (Marker Link) := do
  let id ← modifyGet (·.addItem item)
  return { m with item := some id }

/-- Subscribes the marker to range changes, unless it is subscribed. -/
def connect (listener : Listener) (m : Marker Link) : ChartM Item Listener (Marker Link) := do
  if m.subscription.isSome then return m
  else
    let id ← modifyGet (·.subscribe listener)
    return { m with subscription := some id }

/-- Deletes the marker and takes it off the chart. -/
def withdraw (m : Marker Link) : ChartM Item Listener (Marker Link) := do
  if let some id := m.item then modify (·.removeItem id)
  if let some id := m.subscription then modify (·.unsubscribe id)
  return m.delete

end PositionOverlay.Marker
