import PositionOverlay.Proofs.Tracker.Assembly
import PositionOverlay.Session

/-! # View changes and paint cycles

A chart may know one build of a marker more than once, and other builds besides. The tracker is
then called several times in one cycle, but every call after the first finds it where it is to be.
So a view change and a paint cycle each have a closed form, as long as the tracker is assembled.
-/
namespace PositionOverlay.Session

open Tracker

variable {s : Session}

/-- Whether some entry is of a build. -/
def names (es : List (Nat × Nat)) (build : Nat) : Bool := es.any fun e => build == e.2

theorem names_of_mem {es : List (Nat × Nat)} {n build : Nat} (h : (n, build) ∈ es) :
    names es build = true := by
  rw [names, List.any_eq_true]
  exact ⟨(n, build), h, beq_self_eq_true build⟩

/-- Work that is done for each entry of the tracker's build is done once, if a second time changes
nothing. -/
theorem foldlM_onTracker {work : Tracker → ChartM Nat Nat Tracker} {g : Tracker → Tracker}
    {c : Chart Nat Nat} (hwork : ∀ t, t.Assembled → work t c = .ok (g t, c))
    (hg : ∀ t, t.Assembled → (g t).Assembled)
    (hgg : ∀ t, t.Assembled → g (g t) = g t) (es : List (Nat × Nat)) {t : Tracker}
    (ht : t.Assembled) :
    es.foldlM (fun s e => if s.tracker.build = e.2 then s.onTracker work else .ok s)
        (⟨c, t⟩ : Session) =
      (.ok ⟨c, if names es t.build then g t else t⟩ : Except Fault Session) := by
  induction es generalizing t with
  | nil => rfl
  | cons e es ih =>
    rw [List.foldlM_cons]
    by_cases he : t.build = e.2
    · have hstep : onTracker work ⟨c, t⟩ = .ok ⟨c, g t⟩ := by
        rw [onTracker, hwork t ht]
        rfl
      have hn : names (e :: es) t.build = true := by simp [names, he]
      -- A later call changes nothing, so it does not matter whether one follows.
      simp only [if_pos he, hstep, bind, Except.bind]
      rw [ih (hg t ht), hgg t ht, ite_self, hn, if_pos rfl]
    · have hn : names (e :: es) t.build = names es t.build := by simp [names, he]
      simp only [if_neg he, bind, Except.bind]
      rw [ih ht, hn]

/-- A change of the view ends the subscriptions that were cancelled, and moves a tracker that the
chart knows as a listener. -/
theorem setView_eq (h : s.tracker.Assembled) (f : View → View) :
    s.setView f = .ok {
      chart := { s.chart with
        view := f s.chart.view
        listeners := s.chart.listeners.filter fun e => !s.chart.cancelled.contains e.1
        cancelled := [] }
      tracker := if names s.chart.listeners s.tracker.build then
        s.tracker.onRange (f s.chart.view) else s.tracker } := by
  let c : Chart Nat Nat := { s.chart with view := f s.chart.view, listeners := [] }
  have hf : s.chart.listeners.foldlM (fun s e => hear s e.2) ⟨c, s.tracker⟩ =
      Except.ok ⟨c, if names s.chart.listeners s.tracker.build then
        s.tracker.onRange (f s.chart.view) else s.tracker⟩ :=
    foldlM_onTracker (fun _ ht => ht.rangeChanged) (fun _ ht => ht.onRange c.view)
      (fun _ ht => ht.onRange_onRange c.view) s.chart.listeners h
  rw [setView, rangeChanged]
  change (s.chart.listeners.foldlM (fun s e => hear s e.2) ⟨c, s.tracker⟩ >>= _) = _
  rw [hf]
  simp only [bind, Except.bind, Chart.putListeners, c, List.append_nil]
  rfl

/-- A paint cycle moves a shown tracker that the chart knows as an item. -/
theorem paint_eq (h : s.tracker.Assembled) :
    s.paint = .ok { s with
      tracker := if names s.chart.items s.tracker.build then
        s.tracker.onPaint s.chart.view else s.tracker } :=
  foldlM_onTracker (fun _ ht => ht.painted) (fun _ ht => ht.onPaint s.chart.view)
    (fun _ ht => ht.onPaint_onPaint s.chart.view) s.chart.items h

end PositionOverlay.Session
