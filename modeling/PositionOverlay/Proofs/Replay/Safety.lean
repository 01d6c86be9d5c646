import PositionOverlay.Proofs.Replay.Faults
import PositionOverlay.Proofs.Scene.Safety

/-! # Nothing faults once it has been built

A scene whose trackers can be made obeys or refuses what it is asked for, and a replay whose tracker
can be made ends with its snapshots or with an error of its file.
-/
namespace PositionOverlay.Replay

variable {settings : Settings} {symbol : String}

/-- A replay that has begun ends with snapshots or at a line, unless there is nothing to read. -/
theorem run_cases {s₀ : Session}
    (h : Session.start settings.view settings.overlay symbol = .ok s₀)
    (events : Option (List UInt8)) :
    (∃ shots, (run settings symbol events).result = .ok shots) ∨
      (∃ n cause, (run settings symbol events).result = .error (.line n cause)) ∨
        (run settings symbol events).result = .error .unreadable := by
  rcases events with _ | bytes
  · right
    right
    simp only [run, h]
  · rcases free_or_faulty (Text.byteLines bytes) with hfree | ⟨before, line, rest, cause, hlines,
      hbefore, hcause⟩
    · left
      obtain ⟨shots, hrun, -⟩ := run_of_free h hfree
      exact ⟨shots, hrun⟩
    · right
      left
      exact ⟨before.length + 1, cause, run_of_faulty h hlines hbefore hcause⟩

/-- A replay faults only where its tracker is made. -/
theorem run_fault_iff (events : Option (List UInt8)) (f : Fault) :
    (run settings symbol events).result = .error (.fault f) ↔
      Session.start settings.view settings.overlay symbol = .error f := by
  rcases h : Session.start settings.view settings.overlay symbol with g | s₀
  · simp [run, h]
  · rcases run_cases h events with ⟨shots, hrun⟩ | ⟨n, cause, hrun⟩ | hrun
    · simp [hrun]
    · simp [hrun]
    · simp [hrun]

end PositionOverlay.Replay

namespace PositionOverlay.Scene

variable (view : View) {cs : List Command}

/-- Nothing faults after trackers have been made. Whatever is asked of trackers that can be made,
in whichever order, and interleaved with changes of the view and with paint cycles, also by
scripts that hear of changes of the view, no command and no action of a script is refused because of
a fault. A replay faults if and only if its tracker cannot be made. -/
theorem runAll_safe (hcs : ∀ c ∈ cs, c.lawful = true) :
    (∀ before c after, cs = before ++ c :: after →
        (((empty view).runAll before).run c).1.isFault = false) ∧
      (∀ f ∈ ((empty view).runAll cs).firings.toList, f.isFault = false) ∧
      ∀ settings symbol events f,
        (Replay.run settings symbol events).result = .error (.fault f) ↔
          Session.start settings.view settings.overlay symbol = .error f := by
  refine ⟨?_, ?_, fun settings symbol => Replay.run_fault_iff⟩
  · rintro before c after rfl
    have hbefore := (safe_empty view).runAll fun c hc => hcs c (List.mem_append_left _ hc)
    exact (hbefore.run (hcs c (List.mem_append_right _ List.mem_cons_self))).1
  · exact ((safe_empty view).runAll hcs).firings

/-- A script changes the view while the range changes, and another one that hears of it drops the
tracker. -/
theorem runAll_safe_nested :
    let inner := [("drop", .tracker "T" .drop), ("update", .tracker "T" (.update 5.0 1.0))]
    let outer := [("update", .tracker "T" (.update 3.0 (-2.0))), ("inner", .subscribe "B" inner),
      ("view", .tick (.range 1.0 2.0))]
    let cs := [.tracker "T" (.make "X" .standard), .tracker "T" (.update 5.0 1.0),
      .subscribe "A" outer, .tick (.range 0.0 10.0)]
    (∀ c ∈ cs, c.lawful = true) ∧
      ((empty .standard).runAll cs).firings.size = 7 ∧
      ∀ f ∈ ((empty .standard).runAll cs).firings.toList, f.isFault = false := by
  intro inner outer cs
  have hcs : ∀ c ∈ cs, c.lawful = true := by decide +kernel
  exact ⟨hcs, by decide +kernel, (runAll_safe .standard hcs).2.1⟩

end PositionOverlay.Scene
