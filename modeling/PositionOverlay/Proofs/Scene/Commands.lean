import PositionOverlay.Proofs.Work
import PositionOverlay.Scene.Run

/-! # Commands to trackers

What becomes of a scene when a command to one of its trackers is obeyed, and when it is refused: the
chart is what the tracker's work has made of it, the tracker is replaced, added or dropped, and
nothing else has changed.
-/
namespace PositionOverlay.Scene

open Work

variable {s s' : Scene} {name : String} {reply : Reply}
  {work : Entrance Item Listener → Tracker → ChartM Item Listener Tracker}

theorem onChart_eq_ok {α : Type} {x : ChartM Item Listener α} {a : α} :
    onChart x s = .ok (a, s') ↔ ∃ c, x s.chart = .ok (a, c) ∧ s' = { s with chart := c } := by
  unfold onChart
  rcases x s.chart with f | ⟨b, c⟩
  · simp
  · simp only [Except.ok.injEq, Prod.mk.injEq]
    constructor
    · rintro ⟨rfl, rfl⟩
      exact ⟨c, ⟨rfl, rfl⟩, rfl⟩
    · rintro ⟨_, ⟨rfl, rfl⟩, rfl⟩
      exact ⟨rfl, rfl⟩

theorem known_eq_ok {α : Type} {x : Option α} {a : α} :
    known x s = .ok (a, s') ↔ x = some a ∧ s = s' := by
  cases x with
  | none => exact ⟨nofun, fun h => nomatch h.1⟩
  | some b =>
    change Except.ok (b, s) = .ok (a, s') ↔ _
    simp

theorem changeTracker_eq (s : Scene) (name : String) : changeTracker name work s =
    match s.trackers.find? name with
    | none => .error .unknown
    | some (key, t) =>
      match work (entrance key) t s.chart with
      | .error f => .error (.fault f)
      | .ok (t', c) => .ok (.snapshot t'.snapshot,
          { s with chart := c, trackers := s.trackers.set key t' }) := by
  refine (bind_of_ok (get_run s) _).trans ?_
  rcases s.trackers.find? name with _ | ⟨key, t⟩
  · rfl
  · refine (bind_of_ok rfl _).trans ?_
    change (onChart (work (entrance key) t) >>= _) s = _
    simp only [bind_run, onChart]
    rcases work (entrance key) t s.chart with f | ⟨t', c⟩ <;> rfl

theorem changeTracker_eq_ok (h : changeTracker name work s = .ok (reply, s')) :
    ∃ key t t' c, s.trackers.find? name = some (key, t) ∧
      work (entrance key) t s.chart = .ok (t', c) ∧
      s' = { s with chart := c, trackers := s.trackers.set key t' } := by
  rw [changeTracker_eq] at h
  rcases hf : s.trackers.find? name with _ | ⟨key, t⟩ <;> simp only [hf] at h
  · exact nomatch h
  · rcases hx : work (entrance key) t s.chart with f | ⟨t', c⟩ <;> simp only [hx] at h
    · exact nomatch h
    · exact ⟨key, t, t', c, rfl, hx, (Prod.mk.inj (Except.ok.inj h)).2.symm⟩

theorem makeTracker_eq (s : Scene) (name symbol : String) (config : OverlayConfig) :
    makeTracker name symbol config s =
      match Tracker.create (entrance s.trackers.nextKey) symbol config s.chart with
      | .error f => .error (.fault f)
      | .ok (t, c) =>
        match s.trackers.find? name with
        | none => .ok (.snapshot t.snapshot,
            { s with chart := c, trackers := s.trackers.add name t })
        | some (_, old) =>
          match old.drop c with
          | .error f => .error (.fault f)
          | .ok (_, c') => .ok (.snapshot t.snapshot,
              { s with chart := c', trackers := s.trackers.add name t }) := by
  refine (bind_of_ok (get_run s) _).trans ?_
  rw [bind_run, onChart]
  rcases Tracker.create (entrance s.trackers.nextKey) symbol config s.chart with f | ⟨t, c⟩
  · rfl
  · rcases s.trackers.find? name with _ | ⟨key, old⟩
    · rfl
    · refine (bind_of_ok rfl _).trans ?_
      simp only [retire, bind_run, onChart]
      rcases old.drop c with f | ⟨t', c'⟩ <;> rfl

/-- A new tracker is added, and an older one of its name is dropped. -/
theorem makeTracker_eq_ok {symbol : String} {config : OverlayConfig}
    (h : makeTracker name symbol config s = .ok (reply, s')) :
    ∃ t c c', Tracker.create (entrance s.trackers.nextKey) symbol config s.chart = .ok (t, c) ∧
      s' = { s with chart := c', trackers := s.trackers.add name t } ∧
      ((s.trackers.find? name = none ∧ c' = c) ∨
        ∃ key old t', s.trackers.find? name = some (key, old) ∧ old.drop c = .ok (t', c')) := by
  rw [makeTracker_eq] at h
  rcases hx : Tracker.create (entrance s.trackers.nextKey) symbol config s.chart with f | ⟨t, c⟩ <;>
    simp only [hx] at h
  · exact nomatch h
  · rcases hf : s.trackers.find? name with _ | ⟨key, old⟩ <;> simp only [hf] at h
    · exact ⟨t, c, c, rfl, (Prod.mk.inj (Except.ok.inj h)).2.symm, .inl ⟨rfl, rfl⟩⟩
    · rcases hdrop : old.drop c with f | ⟨t', c'⟩ <;> simp only [hdrop] at h
      · exact nomatch h
      · exact ⟨t, c, c', rfl, (Prod.mk.inj (Except.ok.inj h)).2.symm,
          .inr ⟨key, old, t', rfl, hdrop⟩⟩

theorem dropTracker_eq (s : Scene) (name : String) : dropTracker name s =
    match s.trackers.find? name with
    | none => .ok (.flag false, s)
    | some (_, t) =>
      match t.drop s.chart with
      | .error f => .error (.fault f)
      | .ok (_, c) => .ok (.flag true,
          { s with chart := c, trackers := s.trackers.drop name }) := by
  refine (bind_of_ok (get_run s) _).trans ?_
  rcases s.trackers.find? name with _ | ⟨key, t⟩
  · rfl
  · refine (bind_of_ok rfl _).trans ?_
    simp only [retire, bind_run, onChart]
    rcases t.drop s.chart with f | ⟨t', c⟩ <;> rfl

theorem dropTracker_eq_ok (h : dropTracker name s = .ok (reply, s')) :
    (s.trackers.find? name = none ∧ s' = s) ∨
      ∃ key t t' c, s.trackers.find? name = some (key, t) ∧ t.drop s.chart = .ok (t', c) ∧
        s' = { s with chart := c, trackers := s.trackers.drop name } := by
  rw [dropTracker_eq] at h
  rcases hf : s.trackers.find? name with _ | ⟨key, t⟩ <;> simp only [hf] at h
  · exact .inl ⟨rfl, (Prod.mk.inj (Except.ok.inj h)).2.symm⟩
  · rcases hdrop : t.drop s.chart with f | ⟨t', c⟩ <;> simp only [hdrop] at h
    · exact nomatch h
    · exact .inr ⟨key, t, t', c, rfl, hdrop, (Prod.mk.inj (Except.ok.inj h)).2.symm⟩

theorem current_eq (s : Scene) (name : String) : runTracker.current name s =
    match s.trackers.find? name with
    | none => .error .unknown
    | some (_, t) => .ok (t, s) := by
  refine (bind_of_ok (get_run s) _).trans ?_
  rcases s.trackers.find? name with _ | ⟨key, t⟩ <;> rfl

/-- Looking at a tracker changes nothing. -/
theorem current_eq_ok {t : Tracker} (h : runTracker.current name s = .ok (t, s')) : s' = s := by
  rw [current_eq] at h
  rcases hf : s.trackers.find? name with _ | ⟨key, t'⟩ <;> simp only [hf] at h
  · exact nomatch h
  · exact (Prod.mk.inj (Except.ok.inj h)).2.symm

end PositionOverlay.Scene
