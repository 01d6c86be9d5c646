import PositionOverlay.Proofs.Replay.History
import PositionOverlay.Proofs.Tracker.Moves

/-! # Journals of sessions

The journal of a chart is written and never read. So what an event makes of a session is the same,
apart from the journal, whatever has been noted there before.
-/
namespace PositionOverlay

/-! ## Journals -/

/-- Work that does the same, apart from the journal, on charts that differ in the journal. -/
def Quiet {Item Listener α : Type} (x : ChartM Item Listener α) : Prop :=
  ∀ ⦃c c' a c₁⦄, c.Noted c' → x c = .ok (a, c₁) → ∃ c₁', x c' = .ok (a, c₁') ∧ c₁.Noted c₁'

namespace Quiet

open Work

variable {Item Listener α β : Type}

theorem pure (a : α) : Quiet (Pure.pure a : ChartM Item Listener α) := by
  rintro c c' _ _ hc ⟨⟩
  exact ⟨c', rfl, hc⟩

theorem bind {x : ChartM Item Listener α} {f : α → ChartM Item Listener β} (hx : Quiet x)
    (hf : ∀ a, Quiet (f a)) : Quiet (x >>= f) := by
  intro c c' b c₂ hc h
  obtain ⟨a, c₁, h₁, h₂⟩ := bind_eq_ok.mp h
  obtain ⟨c₁', h₁', hc₁⟩ := hx hc h₁
  obtain ⟨c₂', h₂', hc₂⟩ := hf a hc₁ h₂
  exact ⟨c₂', bind_eq_ok.mpr ⟨a, c₁', h₁', h₂'⟩, hc₂⟩

theorem lift (x : Except Fault α) : Quiet (liftM x : ChartM Item Listener α) := by
  intro c c' a c₁ hc h
  obtain ⟨hx, rfl⟩ := lift_eq_ok.mp h
  exact ⟨c', lift_eq_ok.mpr ⟨hx, rfl⟩, hc⟩

theorem modifyGet {f : Chart Item Listener → α × Chart Item Listener}
    (hf : ∀ c j, (f { c with journal := j }).1 = (f c).1 ∧
      (f c).2.Noted (f { c with journal := j }).2) :
    Quiet (MonadState.modifyGet f : ChartM Item Listener α) := by
  rintro c _ a c₁ ⟨j, rfl⟩ h
  obtain ⟨rfl, rfl⟩ := Prod.mk.inj (Except.ok.inj h)
  rw [← (hf c j).1]
  exact ⟨_, rfl, (hf c j).2⟩

theorem note (source : Source) (severity : Severity) (text : String) :
    Quiet (modify (·.note source severity text) : ChartM Item Listener PUnit) :=
  modifyGet fun _ _ => ⟨rfl, _, rfl⟩

end Quiet

namespace Tracker

open Quiet

variable {Item Listener : Type} (own : Entrance Item Listener) (t : Tracker)

theorem paint_quiet : Quiet (t.paint : ChartM Item Listener Tracker) := by
  intro c c' t' c₁ hc h
  obtain ⟨rfl, hc₁⟩ := paint_eq_ok h
  obtain ⟨c₁', hp, hc₁'⟩ := t.paint_eq c'
  rw [hc.view] at hp
  exact ⟨c₁', hp, (hc₁.symm.trans hc).trans hc₁'⟩

theorem connect_quiet : Quiet (t.connect own) := by
  refine .bind ?_ fun _ => .pure _
  unfold Marker.connect
  split
  · exact .pure _
  · exact .bind (modifyGet fun _ _ => ⟨rfl, _, rfl⟩) fun _ => .pure _

theorem positionLine_quiet (size level : Float) : Quiet (t.positionLine own size level) :=
  .bind (modifyGet fun _ _ => ⟨rfl, _, rfl⟩) fun _ => .bind (paint_quiet _) fun _ =>
    .bind (connect_quiet own _) fun _ => .bind (.lift _) fun _ => .pure _

theorem updateLine_quiet (price size : Float) : Quiet (t.updateLine own price size) := by
  have hdelete (l : Line) : Quiet (MonadState.modifyGet (·.deleteLine l) :
      ChartM Item Listener Line) := by
    refine modifyGet fun c j => ⟨rfl, ?_⟩
    unfold Chart.deleteLine
    split
    · exact ⟨j, rfl⟩
    · exact ⟨j, rfl⟩
  unfold updateLine
  split
  · exact .bind (positionLine_quiet own t _ _) fun _ => .bind (.lift _) fun _ =>
      .bind (.note _ _ _) fun _ => .pure _
  · exact .bind (.lift _) fun _ => .bind (.lift _) fun _ => .bind (paint_quiet _) fun _ =>
      .bind (.note _ _ _) fun _ => .pure _
  · exact .bind (hdelete _) fun _ => .bind (.note _ _ _) fun _ => .pure _
  · exact .pure _

theorem update_quiet (u : PositionUpdate) : Quiet (t.update own u) := by
  refine .bind (updateLine_quiet own _ _ _) fun t' => ?_
  dsimp only
  split
  · exact .pure _
  · exact .bind (paint_quiet _) fun _ => .lift _

theorem recordFill_quiet (f : Fill) : Quiet (t.recordFill f : ChartM Item Listener Tracker) :=
  .bind (.note _ _ _) fun _ => .pure _

end Tracker

namespace Session

open Tracker Event

variable {settings : Settings} {symbol : String} {es : List Event} {s s' s₁ : Session}

/-- The sessions differ in their journals at most. -/
structure Noted (s s' : Session) : Prop where
  tracker : s'.tracker = s.tracker
  chart : s.chart.Noted s'.chart

theorem noted_note (s : Session) (severity : Severity) (text : String) :
    s.Noted (s.note severity text) := ⟨rfl, .note _ _ _ _⟩

theorem Noted.trans {s'' : Session} (h : s.Noted s') (h' : s'.Noted s'') : s.Noted s'' :=
  ⟨h'.tracker.trans h.tracker, h.chart.trans h'.chart⟩

theorem Noted.onTracker {work : Tracker → ChartM Nat Nat Tracker} (hwork : ∀ t, Quiet (work t))
    (h : s.Noted s') (hs : s.onTracker work = .ok s₁) :
    ∃ s₁', s'.onTracker work = .ok s₁' ∧ s₁.Noted s₁' := by
  obtain ⟨c, hw, hc⟩ := hwork s.tracker h.chart (onTracker_eq_ok hs)
  rw [← h.tracker] at hw
  exact ⟨_, onTracker_of_ok hw, rfl, hc⟩

theorem Noted.setView (h : s.Noted s') (ha : s.tracker.Assembled) {f : View → View}
    (hs : s.setView f = .ok s₁) : ∃ s₁', s'.setView f = .ok s₁' ∧ s₁.Noted s₁' := by
  obtain ⟨ht, j, hc⟩ := h
  rw [setView_eq ha] at hs
  obtain rfl := Except.ok.inj hs
  refine ⟨_, setView_eq (ht ▸ ha) f, ?_, j, ?_⟩
  · rw [ht, hc]
  · rw [hc]

theorem Noted.paint (h : s.Noted s') (ha : s.tracker.Assembled) (hs : s.paint = .ok s₁) :
    ∃ s₁', s'.paint = .ok s₁' ∧ s₁.Noted s₁' := by
  obtain ⟨ht, j, hc⟩ := h
  rw [paint_eq ha] at hs
  obtain rfl := Except.ok.inj hs
  refine ⟨_, paint_eq (ht ▸ ha), ?_, j, hc⟩
  rw [ht, hc]

theorem Noted.take (h : s.Noted s') (ha : s.tracker.Assembled) {e : Event}
    (hs : s.take e = .ok s₁) : ∃ s₁', s'.take e = .ok s₁' ∧ s₁.Noted s₁' := by
  unfold Session.take at hs ⊢
  cases e with
  | position u => exact h.onTracker (fun t => t.update_quiet entrance u) hs
  | fill f => exact h.onTracker (fun t => t.recordFill_quiet _) hs
  | view yMin yMax => exact h.setView ha hs
  | paint =>
    obtain rfl := Except.ok.inj hs
    exact ⟨s', rfl, h⟩

/-- What an event does to a session does not depend on the journal. -/
theorem Noted.apply (h : s.Noted s') (hf : s.Follows settings symbol es) {e : Event}
    (hs : s.apply e = .ok s₁) : ∃ s₁', s'.apply e = .ok s₁' ∧ s₁.Noted s₁' := by
  obtain ⟨s₂, htake, hpaint⟩ := Work.except_bind_eq_ok.mp hs
  obtain ⟨s₂', htake', h₂⟩ := h.take hf.sound.assembled htake
  have ha : s₂.tracker.Assembled := by
    obtain ⟨_, ht, hf⟩ := hf.take e
    rw [htake] at ht
    rw [Except.ok.inj ht]
    exact hf.sound.assembled
  obtain ⟨s₁', hpaint', h₁⟩ := h₂.paint ha hpaint
  exact ⟨s₁', Work.except_bind_eq_ok.mpr ⟨s₂', htake', hpaint'⟩, h₁⟩

end Session

end PositionOverlay
