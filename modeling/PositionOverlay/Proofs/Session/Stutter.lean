import PositionOverlay.Proofs.Session.Journals
import PositionOverlay.Proofs.Tracker.Executions

/-! # Events that leave the picture as it is

After each event a session has been painted, so painting it once more changes nothing. An execution
that is recorded adds to the history and changes nothing else. So paint events can be left out of a
history, executions can be left out or moved, and all other snapshots stay the same, up to the
number of executions so far.
-/
namespace PositionOverlay

/-- What is left of a list when the marked entries are struck out. -/
def unmarked {α : Type} (xs : List (α × Bool)) : List α := (xs.filter fun x => !x.2).map Prod.fst

namespace Session

open Tracker Work

variable {s s' s₁ : Session} {e : Event} {es es' : List Event} {shots shots' : List Snapshot}
  {fs : Array Fill} {f : FillEvent}

/-! ## Sessions that have been painted -/

/-- The tracker can be relied on, and another paint cycle changes nothing. -/
structure Rested (s : Session) : Prop where
  sound : s.Sound
  still : s.paint = .ok s

theorem rested_start {view : View} {overlay : OverlayConfig} {symbol : String}
    (h : start view overlay symbol = .ok s) : s.Rested := by
  obtain ⟨⟨t, c⟩, hc, hs⟩ := except_bind_eq_ok.mp h
  obtain rfl := Except.ok.inj hs
  have hsound := sound_of_create hc
  refine ⟨hsound, ?_⟩
  -- Nothing is shown of a new tracker, and a hidden marker is not painted.
  have hhidden : t.onPaint c.view = t := by
    obtain ⟨rfl, -⟩ := create_eq hc
    rfl
  rw [paint_eq hsound.assembled]
  simp only [hhidden, ite_self]

/-- A new session has a flat position. -/
theorem info_start {view : View} {overlay : OverlayConfig} {symbol : String}
    (h : start view overlay symbol = .ok s) : s.tracker.info = .flat symbol := by
  obtain ⟨⟨t, c⟩, hc, hs⟩ := except_bind_eq_ok.mp h
  obtain rfl := Except.ok.inj hs
  rw [(create_eq hc).1]
  rfl

theorem Sound.paint_rested (h : s.Sound) : ∃ s', s.paint = .ok s' ∧ s'.Rested := by
  obtain ⟨s', hs, hg⟩ := h.paint
  refine ⟨s', hs, hg.sound, ?_⟩
  rw [paint_eq h.assembled] at hs
  obtain rfl := Except.ok.inj hs
  rw [paint_eq hg.sound.assembled]
  by_cases hn : names s.chart.items s.tracker.build = true
  · have hbuild : (s.tracker.onPaint s.chart.view).build = s.tracker.build := by
      unfold onPaint
      split <;> rfl
    simp only [if_pos hn, hbuild, h.assembled.onPaint_onPaint]
  · simp only [if_neg hn]

theorem Sound.take (h : s.Sound) (e : Event) : ∃ s', s.take e = .ok s' ∧ s'.Sound := by
  cases e with
  | position u =>
    obtain ⟨s', hs, hg⟩ := h.obey (.update u)
    exact ⟨s', hs, hg.sound⟩
  | fill f =>
    obtain ⟨s', hs, hg⟩ := h.obey (.fill (fillOf f))
    exact ⟨s', hs, hg.sound⟩
  | view yMin yMax =>
    obtain ⟨s', hs, hg⟩ := h.obey (.range yMin yMax)
    exact ⟨s', hs, hg.sound⟩
  | paint => exact ⟨s, rfl, h⟩

theorem Sound.apply (h : s.Sound) (e : Event) : ∃ s', s.apply e = .ok s' ∧ s'.Rested := by
  obtain ⟨s₁, htake, h₁⟩ := h.take e
  obtain ⟨s', hpaint, h'⟩ := h₁.paint_rested
  exact ⟨s', except_bind_eq_ok.mpr ⟨s₁, htake, hpaint⟩, h'⟩

theorem Rested.apply (h : s.Rested) (hs : s.apply e = .ok s') : s'.Rested := by
  obtain ⟨s₁, hs₁, h₁⟩ := h.sound.apply e
  rw [hs] at hs₁
  rwa [Except.ok.inj hs₁]

theorem Rested.apply_paint (h : s.Rested) : s.apply .paint = .ok s := h.still

/-! ## Other executions -/

/-- The sessions differ in their executions and their journals at most. -/
structure Recounts (s s' : Session) : Prop where
  tracker : ∃ fs, s'.tracker = s.tracker.refill fs
  chart : s.chart.Noted s'.chart

theorem Recounts.refl (s : Session) : s.Recounts s := ⟨⟨s.tracker.info.fills, rfl⟩, .refl _⟩

theorem refill_assembled {t : Tracker} (h : t.Assembled) : (t.refill fs).Assembled := { h with }

/-- The session with other executions. -/
def refill (fs : Array Fill) (s : Session) : Session := { s with tracker := s.tracker.refill fs }

theorem setView_refill (h : s.tracker.Assembled) {v : View → View} (hs : s.setView v = .ok s₁) :
    (s.refill fs).setView v = .ok (s₁.refill fs) := by
  have hrefilled := setView_eq (s := s.refill fs) (refill_assembled h) v
  rw [setView_eq h] at hs
  obtain rfl := Except.ok.inj hs
  rw [hrefilled]
  simp only [refill]
  rw [apply_ite (Tracker.refill fs)]
  rfl

theorem paint_refill (h : s.tracker.Assembled) (hs : s.paint = .ok s₁) :
    (s.refill fs).paint = .ok (s₁.refill fs) := by
  have hpaint : (s.tracker.refill fs).onPaint s.chart.view =
      (s.tracker.onPaint s.chart.view).refill fs := by
    unfold onPaint
    rw [apply_ite (Tracker.refill fs)]
    rfl
  have hrefilled := paint_eq (s := s.refill fs) (refill_assembled h)
  rw [paint_eq h] at hs
  obtain rfl := Except.ok.inj hs
  rw [hrefilled]
  simp only [refill]
  rw [apply_ite (Tracker.refill fs), ← hpaint]
  rfl

/-- Events other than executions do the same whatever has been executed. -/
theorem take_refill (h : s.tracker.Assembled) (he : e.isFill = false) (hs : s.take e = .ok s₁) :
    (s.refill fs).take e = .ok (s₁.refill fs) := by
  unfold Session.take at hs ⊢
  cases e with
  | position u => exact onTracker_of_ok ((update_refill s.tracker u).run (onTracker_eq_ok hs))
  | fill f => exact nomatch he
  | view yMin yMax => exact setView_refill h hs
  | paint =>
    obtain rfl := Except.ok.inj hs
    rfl

theorem Recounts.apply (h : s.Recounts s') (hs : s.Sound) (he : e.isFill = false)
    (happly : s.apply e = .ok s₁) : ∃ s₁', s'.apply e = .ok s₁' ∧ s₁.Recounts s₁' := by
  obtain ⟨⟨fs, ht⟩, hc⟩ := h
  obtain ⟨s₂, htake, hpaint⟩ := except_bind_eq_ok.mp happly
  have h₂ : s₂.tracker.Assembled := by
    obtain ⟨_, hok, hsound⟩ := hs.take e
    rw [htake] at hok
    rw [Except.ok.inj hok]
    exact hsound.assembled
  have hn : (s.refill fs).Noted s' := ⟨ht, hc⟩
  obtain ⟨s₂', htake', hn₂⟩ :=
    hn.take (refill_assembled hs.assembled) (take_refill hs.assembled he htake)
  obtain ⟨s₁', hpaint', hn₁⟩ := hn₂.paint (refill_assembled h₂) (paint_refill h₂ hpaint)
  exact ⟨s₁', except_bind_eq_ok.mpr ⟨s₂', htake', hpaint'⟩, ⟨fs, hn₁.tracker⟩, hn₁.chart⟩

/-- A session that has been painted needs no more for an execution than to record it. -/
theorem Rested.apply_fill (h : s.Rested) (hs : s.apply (.fill f) = .ok s') :
    (s.refill (s.tracker.info.fills.push (fillOf f))).Noted s' := by
  have hassembled : (s.refill (s.tracker.info.fills.push (fillOf f))).tracker.Assembled :=
    refill_assembled h.sound.assembled
  obtain ⟨s₁, htake, hpaint⟩ := except_bind_eq_ok.mp hs
  have hnoted : (s.refill (s.tracker.info.fills.push (fillOf f))).Noted s₁ := by
    obtain rfl := Except.ok.inj htake
    exact ⟨rfl, .note _ _ _ _⟩
  obtain ⟨s₂, hpaint', h₂⟩ := hnoted.paint hassembled (paint_refill h.sound.assembled h.still)
  obtain rfl := Except.ok.inj (hpaint.symm.trans hpaint')
  exact h₂

theorem Rested.recounts_fill (h : s.Rested) (hs : s.apply (.fill f) = .ok s') : s'.Recounts s := by
  obtain ⟨ht, hc⟩ := h.apply_fill hs
  refine ⟨⟨s.tracker.info.fills, ?_⟩, hc.symm⟩
  rw [ht]
  rfl

theorem Recounts.trans {s'' : Session} (h : s.Recounts s') (h' : s'.Recounts s'') :
    s.Recounts s'' := by
  obtain ⟨fs, ht⟩ := h.tracker
  obtain ⟨fs', ht'⟩ := h'.tracker
  refine ⟨⟨fs', ?_⟩, h.chart.trans h'.chart⟩
  rw [ht', ht]
  rfl

/-! ## Films -/

/-- The snapshots of a session that takes events in, one after each event. -/
def film : Session → List Event → Except Fault (List Snapshot)
  | _, [] => .ok []
  | s, e :: es => do
    let s ← s.apply e
    return s.tracker.snapshot :: (← s.film es)

/-- Snapshots without those of executions, and without the number of executions. -/
def uncounted (es : List Event) (shots : List Snapshot) : List Snapshot :=
  ((es.zip shots).filter fun x => !x.1.isFill).map fun x => { x.2 with fills := 0 }

theorem film_cons_eq_ok : s.film (e :: es) = .ok shots ↔
    ∃ s₁ rest, s.apply e = .ok s₁ ∧ s₁.film es = .ok rest ∧
      shots = s₁.tracker.snapshot :: rest := by
  constructor
  · intro h
    obtain ⟨s₁, hs, h⟩ := except_bind_eq_ok.mp h
    obtain ⟨rest, hrest, h⟩ := except_bind_eq_ok.mp h
    exact ⟨s₁, rest, hs, hrest, (Except.ok.inj h).symm⟩
  · rintro ⟨s₁, rest, hs, hrest, rfl⟩
    exact except_bind_eq_ok.mpr ⟨s₁, hs, except_bind_eq_ok.mpr ⟨rest, hrest, rfl⟩⟩

theorem Rested.film (h : s.Rested) (es : List Event) :
    ∃ shots, s.film es = .ok shots ∧ shots.length = es.length := by
  induction es generalizing s with
  | nil => exact ⟨[], rfl, rfl⟩
  | cons e es ih =>
    obtain ⟨s₁, hs, h₁⟩ := h.sound.apply e
    obtain ⟨rest, hrest, hlength⟩ := ih h₁
    exact ⟨_, film_cons_eq_ok.mpr ⟨s₁, rest, hs, hrest, rfl⟩, by simp [hlength]⟩

/-- What an event makes of every snapshot, it makes of the one before its own. -/
theorem Rested.film_getElem? {g : Snapshot → Snapshot}
    (hg : ∀ s₁ s₂ : Session, s₁.Rested → s₁.apply e = .ok s₂ →
      s₂.tracker.snapshot = g s₁.tracker.snapshot)
    (h : s.Rested) (hs : s.film es = .ok shots) {i : Nat} (hi : es[i]? = some e) :
    shots[i]? = ((s.tracker.snapshot :: shots)[i]?).map g := by
  induction es generalizing s shots i with
  | nil => exact nomatch hi
  | cons e₁ es ih =>
    obtain ⟨s₁, rest, hs₁, hrest, rfl⟩ := film_cons_eq_ok.mp hs
    cases i with
    | zero =>
      obtain rfl := Option.some.inj hi
      exact congrArg some (hg s s₁ h hs₁)
    | succ i => exact ih (h.apply hs₁) hrest hi

theorem Rested.film_paint (h : s.Rested) (hs : s.film es = .ok shots) {i : Nat}
    (hi : es[i]? = some .paint) : shots[i]? = (s.tracker.snapshot :: shots)[i]? := by
  have hsame := h.film_getElem? (g := id) (fun s₁ s₂ h₁ hs₁ => by
    obtain rfl := Except.ok.inj (h₁.apply_paint.symm.trans hs₁)
    rfl) hs hi
  rwa [Option.map_id_apply] at hsame

theorem Rested.film_fill (h : s.Rested) (hs : s.film es = .ok shots) {i : Nat}
    (hi : es[i]? = some (.fill f)) :
    shots[i]? = ((s.tracker.snapshot :: shots)[i]?).map fun shot =>
      { shot with fills := shot.fills + 1 } := by
  refine h.film_getElem? (fun s₁ s₂ h₁ hs₁ => ?_) hs hi
  rw [(h₁.apply_fill hs₁).tracker]
  simp [Tracker.snapshot, refill, Tracker.refill]

/-- Paint events that are struck out take their snapshots with them and no others. -/
theorem Rested.film_unmarked (h : s.Rested) {marks : List (Event × Bool)}
    (hmarks : ∀ m ∈ marks, m.2 = true → m.1 = .paint)
    (hs : s.film (marks.map Prod.fst) = .ok shots) :
    s.film (unmarked marks) = .ok (unmarked (shots.zip (marks.map Prod.snd))) := by
  induction marks generalizing s shots with
  | nil =>
    obtain rfl := Except.ok.inj hs
    rfl
  | cons m marks ih =>
    obtain ⟨e, marked⟩ := m
    obtain ⟨hm, hmarks⟩ := List.forall_mem_cons.mp hmarks
    obtain ⟨s₁, rest, hs₁, hrest, rfl⟩ := film_cons_eq_ok.mp hs
    have hunmarked := ih (h.apply hs₁) hmarks hrest
    cases marked with
    | false => exact film_cons_eq_ok.mpr ⟨s₁, _, hs₁, hunmarked, rfl⟩
    | true =>
      obtain rfl : e = .paint := hm rfl
      obtain rfl := Except.ok.inj (h.apply_paint.symm.trans hs₁)
      exact hunmarked

/-- Executions that are left out take their snapshots with them, and leave all others as they are,
apart from the number of executions. -/
theorem Recounts.film (h : s.Recounts s') (hr : s.Rested) (hr' : s'.Rested)
    (hs : s.film es = .ok shots) (hs' : s'.film (es.filter fun e => !e.isFill) = .ok shots') :
    uncounted es shots = shots'.map fun shot => { shot with fills := 0 } := by
  induction es generalizing s s' shots shots' with
  | nil =>
    obtain rfl := Except.ok.inj hs'
    rfl
  | cons e es ih =>
    obtain ⟨s₁, rest, hs₁, hrest, rfl⟩ := film_cons_eq_ok.mp hs
    cases he : e.isFill with
    | true =>
      obtain ⟨f, rfl⟩ : ∃ f, e = .fill f := by
        cases e with
        | fill f => exact ⟨f, rfl⟩
        | _ => exact nomatch he
      exact ih ((hr.recounts_fill hs₁).trans h) (hr.apply hs₁) hr' hrest hs'
    | false =>
      rw [List.filter_cons_of_pos (by simp [he])] at hs'
      obtain ⟨s₁', rest', hs₁', hrest', rfl⟩ := film_cons_eq_ok.mp hs'
      obtain ⟨s₂, hs₂, h₁⟩ := h.apply hr.sound he hs₁
      obtain rfl := Except.ok.inj (hs₁'.symm.trans hs₂)
      have hshot : { s₁.tracker.snapshot with fills := 0 } =
          { s₁'.tracker.snapshot with fills := 0 } := by
        obtain ⟨fs, ht⟩ := h₁.tracker
        rw [ht]
        rfl
      have hrest := ih h₁ (hr.apply hs₁) (hr'.apply hs₁') hrest hrest'
      simp only [uncounted, List.zip_cons_cons, List.map_cons] at hrest ⊢
      rw [List.filter_cons_of_pos (by simp [he]), List.map_cons, hrest, hshot]

/-- Histories that agree apart from their executions have the same snapshots, apart from those of
executions and from the number of executions. -/
theorem Rested.uncounted_eq (h : s.Rested)
    (hes : (es'.filter fun e => !e.isFill) = es.filter fun e => !e.isFill)
    (hs : s.film es = .ok shots) (hs' : s.film es' = .ok shots') :
    uncounted es' shots' = uncounted es shots := by
  obtain ⟨shots₀, hs₀, -⟩ := h.film (es.filter fun e => !e.isFill)
  rw [(Recounts.refl s).film h h hs hs₀, (Recounts.refl s).film h h hs' (hes ▸ hs₀)]

end Session

end PositionOverlay
