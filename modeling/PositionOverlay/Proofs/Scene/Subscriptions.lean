import PositionOverlay.Proofs.Chart.Cancellation
import PositionOverlay.Proofs.Scene.Turns

/-! # Subscriptions of scenes

Between commands no range change is in progress, so a subscription that a command cancels is gone,
whatever is asked of the scene later. A script has no such promise: what it cancels may be on the
chart again when the command is done.
-/
namespace PositionOverlay.Scene

/-- Commands, one after the other. -/
def runAll (s : Scene) (cs : List Command) : Scene := cs.foldl (fun s c => (s.run c).2) s

theorem runAll_reaches (s : Scene) (cs : List Command) : s.chart.Reaches (s.runAll cs).chart := by
  induction cs generalizing s with
  | nil => exact .refl _
  | cons c cs ih => exact (s.run_reaches c).trans (ih _)

/-- What a command cancels outside of range changes never comes back. -/
theorem unsubscribeId_final (view : View) (before after : List Command) (n : Nat)
    (hissued : n < ((empty view).runAll before).chart.nextId) :
    n ∉ ((((empty view).runAll before).run (.unsubscribeId n)).2.runAll after).chart.listed := by
  obtain ⟨ts, hts⟩ := (empty view).runAll_reaches before []
  have horderly : Dispatch.Orderly ⟨((empty view).runAll before).chart, []⟩ :=
    (Dispatch.orderly_empty view).run hts
  have hrun : Dispatch.run? ⟨((empty view).runAll before).chart, []⟩ [.unsubscribe n] =
      some ⟨((empty view).runAll before).chart.unsubscribe n, []⟩ := rfl
  have hsettles : Dispatch.Settles ⟨((empty view).runAll before).chart, []⟩ n [] :=
    ⟨nofun, fun _ => trivial⟩
  have hgone := horderly.gone_of_settles hissued hsettles hrun rfl
  obtain ⟨ts', hts'⟩ :=
    runAll_reaches (((empty view).runAll before).run (.unsubscribeId n)).2 after []
  exact (hgone.run hts').unlisted

/-- A script cancels another subscription and changes the range. The other subscription is on the
chart when the command is done, and hears of the next change. -/
theorem unsubscribe_lost :
    let script := [("unsubscribe", .unsubscribe "B"), ("view", .tick (.range 1.0 2.0))]
    let s := (empty .standard).runAll [.subscribe "A" script, .subscribe "B" []]
    let s' := s.runAll [.tick (.range 0.0 10.0)]
    s.subscriptions = [("A", 1), ("B", 2)] ∧ 2 ∈ s'.chart.listed ∧
      (s'.step (.tick (.range 0.0 20.0))).1.2.any (fun
        | .heard name => name == "B"
        | .acted _ _ _ => false) = true := by
  decide +kernel

/-- A number is cancelled that is not issued yet, and an item and a subscription take the next two.
The subscription that has got this number hears of one change and of no other, while without the
cancellation it hears of both. -/
theorem unsubscribeId_early :
    let commands := [.counter "K" (.make true), .subscribe "A" [], .tick (.range 0.0 10.0)]
    let told := ((empty .standard).runAll commands)
    let lost := ((empty .standard).run (.unsubscribeId 2)).2.runAll commands
    2 ∉ (empty .standard).chart.listed ∧ told.chart.listed = [2] ∧ lost.chart.listed = [] ∧
      (told.step (.tick (.range 0.0 20.0))).1.2.length = 1 ∧
      (lost.step (.tick (.range 0.0 20.0))).1.2.length = 0 := by
  decide +kernel

/-- A marker is put in its place when the range changes, and then a script changes the range once
more. The marker is still subscribed and stands where the first range has put it, which is not where
the second wants it. -/
theorem marker_left_behind :
    let script := [("view", .tick (.range 0.0 200.0)), ("unsubscribe", .unsubscribe "B")]
    let s := (empty .standard).runAll [.marker "M" (.make (some .up) 50.0 22.0 true),
      .marker "M" .connect, .subscribe "B" script]
    let s' := s.runAll [.tick (.range 0.0 400.0)]
    s.chart.listed = [1, 2] ∧ s'.chart.listed = [1] ∧ s'.chart.view.yMax = 200.0 ∧
      (s'.markers.get? 0).any (fun m => m.marker.subscription == some 1 &&
        m.marker.pos.y == 525.0 &&
        (m.marker.keptOrdinate s'.chart.view m.price).toOption == some 450.0) = true := by
  decide +kernel

end PositionOverlay.Scene
