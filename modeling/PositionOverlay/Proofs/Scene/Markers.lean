import PositionOverlay.Proofs.Tracker.Moves
import PositionOverlay.Scene.Run

/-! # Free markers

A free marker is put in its place only if it has a glyph, so this never faults. It concerns nothing
but the free markers, their labels and the journal.
-/
namespace PositionOverlay.Scene

open Work

/-- What is said of a scene does not depend on free markers, on free labels and on the journal. -/
structure IgnoresMarkers (I : Scene → Prop) : Prop where
  chart : ∀ s c, I s → s.chart.Noted c → I { s with chart := c }
  markers : ∀ s r, I s → I { s with markers := r }
  labels : ∀ s r, I s → I { s with labels := r }

variable {I : Scene → Prop} {E : Refusal → Prop}

theorem note_upholds (hI : IgnoresMarkers I) (source : Source) (severity : Severity)
    (text : String) :
    Upholds I E (onChart (modify (·.note source severity text))) fun _ => True :=
  fun s hs => ⟨trivial, hI.chart s _ hs (.note _ source severity text)⟩

theorem settle_upholds (hI : IgnoresMarkers I) (key : Nat) (m : FreeMarker) :
    Upholds I E (settle key m) fun _ => True := by
  refine .bind (.modify fun s hs => hI.markers s _ hs) fun _ _ => .forM fun label _ => ?_
  refine Upholds.get.bind fun s _ => ?_
  split
  · exact .pure trivial
  · split_ifs
    · exact note_upholds hI _ _ _
    · exact .modify fun s hs => hI.labels s _ hs

theorem allow_upholds {α : Type} {x : Except Fault α} {a : α} (hx : x = .ok a) :
    Upholds I E (allow x) fun _ => True := by
  subst hx
  exact .pure trivial

theorem placeMarker_upholds (hI : IgnoresMarkers I) (key : Nat) {m : FreeMarker}
    (hm : m.marker.isLive = true) : Upholds I E (placeMarker key m) fun _ => True := by
  obtain ⟨box, hbox⟩ := Marker.box_of_isLive hm
  refine Upholds.get.bind fun s _ => ?_
  refine .bind (allow_upholds (Marker.placeInView_of_box hbox s.chart.view m.price)) fun _ _ => ?_
  exact settle_upholds hI _ _

theorem paintMarker_upholds (hI : IgnoresMarkers I) (key : Nat) (m : FreeMarker) :
    Upholds I E (paintMarker key m) fun _ => True := by
  unfold paintMarker
  split_ifs with hm
  · obtain ⟨box, hbox⟩ := Marker.box_of_isLive hm
    refine Upholds.get.bind fun s _ => ?_
    refine .bind (allow_upholds (Marker.placeForPaint_of_box hbox s.chart.view m.price))
      fun _ _ => ?_
    exact settle_upholds hI _ _
  · exact .pure trivial

theorem paintItem_marker_upholds (hI : IgnoresMarkers I) (key : Nat) :
    Upholds I E (paintItem (.marker key)) fun _ => True := by
  refine Upholds.get.bind fun s _ => ?_
  split
  · split_ifs
    · exact note_upholds hI _ _ _
    · exact paintMarker_upholds hI _ _
    · exact .pure trivial
  · exact .pure trivial

theorem hear_marker_upholds (hI : IgnoresMarkers I)
    (runScript : String → List (String × Command) → SceneM Unit) (key : Nat) :
    Upholds I E (hear runScript (.marker key)) fun _ => True := by
  refine Upholds.get.bind fun s _ => ?_
  split
  · split_ifs with hheld hlive
    · exact note_upholds hI _ _ _
    · exact placeMarker_upholds hI key hlive
    · exact .pure trivial
  · exact .pure trivial

end PositionOverlay.Scene
