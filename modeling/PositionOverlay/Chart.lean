import PositionOverlay.Journal
import PositionOverlay.Line
import PositionOverlay.View

/-!
# Charts

A chart has a view, items that are painted, listeners that hear of range changes, and one
counter from which items, subscriptions and level lines take their numbers. What an item or a
listener is, is left to the scene that owns the chart.
-/
namespace PositionOverlay

/-- How many objects a chart has made and deleted. -/
structure Tally where
  linesCreated : Nat
  linesDeleted : Nat
  labelsCreated : Nat
deriving Repr, DecidableEq

structure Chart (Item Listener : Type) where
  view : View
  /-- In the order of their numbers. -/
  items : List (Nat × Item)
  /-- In the order of their numbers; during a range change only those that joined since. -/
  listeners : List (Nat × Listener)
  /-- Numbers whose subscription ends with the next range change that knows them. -/
  cancelled : List Nat
  nextId : Nat
  tally : Tally
  journal : Journal
deriving Repr

/-- Work on a chart; it may fault. -/
abbrev ChartM (Item Listener : Type) := StateT (Chart Item Listener) (Except Fault)

namespace Chart

variable {Item Listener : Type}

/-- A chart without objects. -/
def empty (view : View) : Chart Item Listener := ⟨view, [], [], [], 1, ⟨0, 0, 0⟩, #[]⟩

def note (c : Chart Item Listener) (source : Source) (severity : Severity) (text : String) :
    Chart Item Listener :=
  { c with journal := c.journal.push ⟨source, severity, text⟩ }

def addItem (c : Chart Item Listener) (item : Item) : Nat × Chart Item Listener :=
  (c.nextId, { c with items := c.items ++ [(c.nextId, item)], nextId := c.nextId + 1 })

def removeItem (c : Chart Item Listener) (id : Nat) : Chart Item Listener :=
  { c with items := c.items.filter fun e => e.1 != id }

def subscribe (c : Chart Item Listener) (listener : Listener) : Nat × Chart Item Listener :=
  (c.nextId, { c with listeners := c.listeners ++ [(c.nextId, listener)], nextId := c.nextId + 1 })

/-- Ends a subscription. One that is not listed may be of a listener that is running just now, so
its number is kept until a range change has ended. -/
def unsubscribe (c : Chart Item Listener) (id : Nat) : Chart Item Listener :=
  if c.listeners.any fun e => e.1 == id then
    { c with listeners := c.listeners.filter fun e => e.1 != id }
  else { c with cancelled := id :: c.cancelled }

/-- Takes all listeners off the chart. -/
def takeListeners (c : Chart Item Listener) : List (Nat × Listener) × Chart Item Listener :=
  (c.listeners, { c with listeners := [] })

/-- Puts listeners back that have run, except those that were cancelled meanwhile. They are older
than those that joined while they ran. -/
def putListeners (c : Chart Item Listener) (ran : List (Nat × Listener)) : Chart Item Listener :=
  { c with
    listeners := (ran.filter fun e => !c.cancelled.contains e.1) ++ c.listeners
    cancelled := [] }

/-- A new line, which is hidden. -/
def makeLine (c : Chart Item Listener) (level : Float) (color : String) (options : LineOptions) :
    Line × Chart Item Listener :=
  (⟨c.nextId, level, color, options, false, false⟩,
    { c with nextId := c.nextId + 1, tally.linesCreated := c.tally.linesCreated + 1 })

/-- Deletes a line; only the first deletion counts. -/
def deleteLine (c : Chart Item Listener) (l : Line) : Line × Chart Item Listener :=
  (l.delete,
    if l.deleted then c else { c with tally.linesDeleted := c.tally.linesDeleted + 1 })

/-- Counts a new label. -/
def countLabel (c : Chart Item Listener) : Chart Item Listener :=
  { c with tally.labelsCreated := c.tally.labelsCreated + 1 }

end Chart

end PositionOverlay
