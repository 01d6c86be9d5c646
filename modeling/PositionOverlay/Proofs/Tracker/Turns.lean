import PositionOverlay.Proofs.Chart.Turns
import PositionOverlay.Tracker

/-! # Trackers take their charts through turns

All that markers and trackers do to a chart is done by operations of the chart.
-/
namespace PositionOverlay

open ByTurns

variable {Item Listener Link : Type}

/-- Work on the chart itself takes it through turns. -/
abbrev OnChart {α : Type} (x : ChartM Item Listener α) : Prop := ByTurns (fun c => c) x

theorem note_byTurns (source : Source) (severity : Severity) (text : String) :
    OnChart (modify (·.note source severity text) : ChartM Item Listener PUnit) :=
  ByTurns.modify fun c => .edit c (.note source severity text)

namespace Marker

theorem enter_byTurns (item : Item) (m : Marker Link) :
    OnChart (m.enter item : ChartM Item Listener (Marker Link)) :=
  bind (modifyGet fun c => .edit c (.addItem item)) fun _ => pure _

theorem connect_byTurns (l : Listener) (m : Marker Link) :
    OnChart (m.connect l : ChartM Item Listener (Marker Link)) := by
  unfold connect
  split
  · exact pure _
  · exact bind (modifyGet fun c => .subscribe c l) fun _ => pure _

theorem withdraw_byTurns (m : Marker Link) :
    OnChart (m.withdraw : ChartM Item Listener (Marker Link)) := by
  have hremove (id : Nat) : OnChart (modify (·.removeItem id) : ChartM Item Listener PUnit) :=
    ByTurns.modify fun c => .edit c (.removeItem id)
  have hunsubscribe (id : Nat) :
      OnChart (modify (·.unsubscribe id) : ChartM Item Listener PUnit) :=
    ByTurns.modify fun c => .unsubscribe c id
  unfold withdraw
  cases m.item <;> cases m.subscription
  · exact pure _
  · exact bind (hunsubscribe _) fun _ => pure _
  · exact bind (hremove _) fun _ => pure _
  · exact bind (hremove _) fun _ => bind (hunsubscribe _) fun _ => pure _

end Marker

namespace Tracker

variable (own : Entrance Item Listener) (t : Tracker)

theorem reanchor_byTurns : OnChart (t.reanchor : ChartM Item Listener Tracker) := by
  refine bind (ByTurns.modify fun c => ?_) fun _ => pure _
  generalize t.heldLinks = links
  induction links generalizing c with
  | nil => exact .refl c
  | cons _ links ih => exact (Chart.Reaches.edit c (.note _ _ _)).trans (ih _)

theorem reposition_byTurns : OnChart (t.reposition : ChartM Item Listener Tracker) :=
  bind get fun _ => bind (lift _) fun _ => reanchor_byTurns _

theorem paint_byTurns : OnChart (t.paint : ChartM Item Listener Tracker) := by
  unfold paint
  split
  · exact bind get fun _ => bind (lift _) fun _ => reanchor_byTurns _
  · exact pure _

theorem rangeChanged_byTurns : OnChart (t.rangeChanged : ChartM Item Listener Tracker) := by
  unfold rangeChanged
  split
  · exact bind (note_byTurns _ _ _) fun _ => pure _
  · split
    · exact t.reposition_byTurns
    · exact pure _

theorem painted_byTurns : OnChart (t.painted : ChartM Item Listener Tracker) := by
  unfold painted
  split
  · exact bind (note_byTurns _ _ _) fun _ => pure _
  · split
    · exact t.paint_byTurns
    · exact pure _

theorem buildMarker_byTurns (config : OverlayConfig) (build : Nat) (size : Float) :
    OnChart (buildMarker own config build size) :=
  bind (lift _) fun _ => bind (Marker.enter_byTurns _ _) fun _ => pure _

theorem create_byTurns (symbol : String) (config : OverlayConfig) :
    OnChart (create own symbol config) := by
  refine bind (buildMarker_byTurns own config 0 1.0) fun _ => bind (ByTurns.modify fun c => ?_)
    fun _ => bind (note_byTurns _ _ _) fun _ => pure _
  exact (Chart.Reaches.edit c .countLabel).trans (.edit _ .countLabel)

theorem connect_byTurns : OnChart (t.connect own) :=
  bind (Marker.connect_byTurns _ _) fun _ => pure _

theorem positionLine_byTurns (size level : Float) : OnChart (t.positionLine own size level) :=
  bind (modifyGet fun c => .edit c (.makeLine _ _ _)) fun _ => bind (paint_byTurns _) fun _ =>
    bind (connect_byTurns own _) fun _ => bind (lift _) fun _ => pure _

theorem deleteLine_byTurns (l : Line) :
    OnChart (MonadState.modifyGet (·.deleteLine l) : ChartM Item Listener Line) :=
  modifyGet fun c => .edit c (.deleteLine l)

theorem updateLine_byTurns (price size : Float) : OnChart (t.updateLine own price size) := by
  unfold updateLine
  split
  · exact bind (positionLine_byTurns own _ _ _) fun _ => bind (lift _) fun _ =>
      bind (note_byTurns _ _ _) fun _ => pure _
  · exact bind (lift _) fun _ => bind (lift _) fun _ => bind (paint_byTurns _) fun _ =>
      bind (note_byTurns _ _ _) fun _ => pure _
  · exact bind (deleteLine_byTurns _) fun _ => bind (note_byTurns _ _ _) fun _ => pure _
  · exact pure _

theorem update_byTurns (u : PositionUpdate) : OnChart (t.update own u) := by
  refine bind (updateLine_byTurns own _ _ _) fun t' => ?_
  dsimp only
  split
  · exact pure _
  · exact bind (paint_byTurns _) fun _ => lift _

theorem deleteMarker_byTurns : OnChart (t.deleteMarker : ChartM Item Listener Tracker) :=
  bind (Marker.withdraw_byTurns _) fun _ => pure _

theorem levelMarker_byTurns (size : Float) : OnChart (t.levelMarker own size) := by
  refine bind t.deleteMarker_byTurns fun t' => bind (buildMarker_byTurns own _ _ _) fun m => ?_
  dsimp only
  split
  · exact pure _
  · exact connect_byTurns own _

theorem recordFill_byTurns (f : Fill) :
    OnChart (t.recordFill f : ChartM Item Listener Tracker) :=
  bind (note_byTurns _ _ _) fun _ => pure _

theorem drop_byTurns : OnChart (t.drop : ChartM Item Listener Tracker) := by
  unfold drop
  split
  · refine bind (pure _) fun t' => ?_
    dsimp only
    cases t'.line with
    | none => exact pure _
    | some l => exact bind (deleteLine_byTurns l) fun _ => pure _
  · refine bind t.deleteMarker_byTurns fun t' => ?_
    dsimp only
    cases t'.line with
    | none => exact pure _
    | some l => exact bind (deleteLine_byTurns l) fun _ => pure _

end Tracker

end PositionOverlay
