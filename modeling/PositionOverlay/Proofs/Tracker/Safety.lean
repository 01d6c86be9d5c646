import PositionOverlay.Proofs.Tracker.Creation
import PositionOverlay.Proofs.Tracker.Moves
import PositionOverlay.Proofs.Tracker.Report

/-! # Trackers do not fault

The line that a tracker holds is never a deleted one, and nothing but a marker with a glyph is put
in its place. So whatever is asked of a tracker that has been built, it does not fault. This needs
no more of a tracker than that its line is whole; its labels and its marker may be anything, may be
held and may have been deleted.
-/
namespace PositionOverlay

variable {Item Listener : Type} {guest : Listener → Prop}

/-- All listeners of the chart are of a kind. -/
def Chart.Hosts (guest : Listener → Prop) (c : Chart Item Listener) : Prop :=
  ∀ e ∈ c.listeners, guest e.2

namespace Chart.Hosts

variable {c c' : Chart Item Listener} {l : Listener}

theorem congr (h : c.Hosts guest) (hc : c'.listeners = c.listeners) : c'.Hosts guest := by
  intro e he
  exact h e (hc ▸ he)

theorem noted (h : c.Hosts guest) (hc : c.Noted c') : c'.Hosts guest := by
  obtain ⟨journal, rfl⟩ := hc
  exact h.congr rfl

theorem subscribe (h : c.Hosts guest) (hl : guest l) : (c.subscribe l).2.Hosts guest :=
  List.forall_mem_append.mpr ⟨h, List.forall_mem_singleton.mpr hl⟩

theorem unsubscribe (h : c.Hosts guest) (n : Nat) : (c.unsubscribe n).Hosts guest := by
  unfold Chart.unsubscribe
  split
  · exact fun e he => h e (List.mem_filter.mp he).1
  · exact h

theorem deleteLine (h : c.Hosts guest) (l : Line) : (c.deleteLine l).2.Hosts guest := by
  refine h.congr ?_
  unfold Chart.deleteLine
  split <;> rfl

theorem putListeners (h : c.Hosts guest) {ran : List (Nat × Listener)}
    (hran : ∀ e ∈ ran, guest e.2) : (c.putListeners ran).Hosts guest :=
  List.forall_mem_append.mpr ⟨fun e he => hran e (List.mem_filter.mp he).1, h⟩

end Chart.Hosts

open Work

/-- Work on a chart with listeners of a kind that never faults. It has a result for which `Q` holds
and adds only listeners of that kind. -/
abbrev Unfailing (guest : Listener → Prop) {α : Type} (x : ChartM Item Listener α)
    (Q : α → Prop) : Prop :=
  Upholds (Chart.Hosts guest) (fun _ => False) x Q

/-- Work that never faults has a result on any chart. -/
theorem exists_of_unfailing {α : Type} {x : ChartM Item Listener α} {Q : α → Prop}
    (hx : Unfailing (fun _ => True) x Q) (c : Chart Item Listener) :
    ∃ a c', x c = .ok (a, c') ∧ Q a := by
  obtain ⟨a, c', hrun, hQ, -⟩ := hx.exists_ok (s := c) fun _ _ => trivial
  exact ⟨a, c', hrun, hQ⟩

theorem note_unfailing (source : Source) (severity : Severity) (text : String) :
    Unfailing guest (modify (·.note source severity text) : ChartM Item Listener PUnit)
      fun _ => True :=
  .modify fun c hc => hc.noted (.note c source severity text)

theorem Line.setLevel_unfailing {l : Line} (hl : l.deleted = false) (level : Float) :
    Unfailing guest (liftM (l.setLevel level) : ChartM Item Listener Line)
      fun l => l.deleted = false :=
  .lift _ (setLevel_of_live hl level) hl

theorem Line.show_unfailing {l : Line} (hl : l.deleted = false) :
    Unfailing guest (liftM l.show : ChartM Item Listener Line) fun l => l.deleted = false :=
  .lift _ (show_of_live hl) hl

namespace Marker

variable {Link : Type} (m : Marker Link)

theorem connect_unfailing {l : Listener} (hl : guest l) :
    Unfailing guest (m.connect l : ChartM Item Listener (Marker Link)) fun _ => True := by
  unfold connect
  split
  · exact .pure trivial
  · refine .bind (Q := fun _ => True) (.modifyGet fun c hc => ⟨trivial, hc.subscribe hl⟩) ?_
    exact fun _ _ => .pure trivial

theorem withdraw_unfailing :
    Unfailing guest (m.withdraw : ChartM Item Listener (Marker Link)) fun _ => True := by
  have hremove (n : Nat) : Unfailing guest
      (modify (·.removeItem n) : ChartM Item Listener PUnit) fun _ => True :=
    .modify fun c hc => hc.congr rfl
  have hunsubscribe (n : Nat) : Unfailing guest
      (modify (·.unsubscribe n) : ChartM Item Listener PUnit) fun _ => True :=
    .modify fun c hc => hc.unsubscribe n
  unfold withdraw
  cases m.item <;> cases m.subscription
  · exact .pure trivial
  · exact (hunsubscribe _).bind fun _ _ => .pure trivial
  · exact (hremove _).bind fun _ _ => .pure trivial
  · exact (hremove _).bind fun _ _ => (hunsubscribe _).bind fun _ _ => .pure trivial

end Marker

/-- A marker can be built for a tracker of this kind. -/
def OverlayConfig.isBuildable (config : OverlayConfig) : Bool :=
  (Marker.make (some .up) config.arrowSize config.keepInView :
    Except Fault (Marker Tracker.Role)).isOk

namespace Tracker

variable {own : Entrance Item Listener} {t t' : Tracker} {config : OverlayConfig}

/-- The line of the tracker, if it has one, has not been deleted. -/
def Whole (t : Tracker) : Prop := ∀ l, t.line = some l → l.deleted = false

theorem Whole.congr (h : t.Whole) (hl : t'.line = t.line) : t'.Whole := by
  intro l hl'
  exact h l (hl ▸ hl')

theorem Whole.moved (h : t.Whole) (hm : t.Moved t') : t'.Whole := by
  obtain ⟨pos, placement, pp, size, rfl⟩ := hm
  exact h.congr rfl

/-- Work that does no more than to move the tracker. -/
theorem moves_unfailing (h : t.Whole) {x : ChartM Item Listener Tracker} {f : View → Tracker}
    (hx : ∀ c, ∃ c', x c = .ok (f c.view, c') ∧ c.Noted c') (hf : ∀ v, t.Moved (f v)) :
    Unfailing guest x Whole := by
  intro c hc
  obtain ⟨c', hrun, hn⟩ := hx c
  rw [hrun]
  exact ⟨h.moved (hf c.view), hc.noted hn⟩

theorem paint_unfailing (h : t.Whole) :
    Unfailing guest (t.paint : ChartM Item Listener Tracker) Whole :=
  moves_unfailing h t.paint_eq t.placed_moved

theorem rangeChanged_unfailing (h : t.Whole) :
    Unfailing guest (t.rangeChanged : ChartM Item Listener Tracker) Whole :=
  moves_unfailing h t.rangeChanged_eq t.heard_moved

theorem painted_unfailing (h : t.Whole) :
    Unfailing guest (t.painted : ChartM Item Listener Tracker) Whole :=
  moves_unfailing h t.painted_eq t.repainted_moved

/-! ## What trackers are asked for -/

theorem make_of_isBuildable (h : config.isBuildable = true) :
    ∃ m, (Marker.make (some .up) config.arrowSize config.keepInView :
      Except Fault (Marker Role)) = .ok m := by
  unfold OverlayConfig.isBuildable at h
  cases hm : (Marker.make (some .up) config.arrowSize config.keepInView :
    Except Fault (Marker Role)) with
  | error f => simp [hm, Except.isOk, Except.toBool] at h
  | ok m => exact ⟨m, rfl⟩

/-- Whether a tracker can be made depends on its configuration alone. -/
theorem create_unfailing (own : Entrance Item Listener) (symbol : String)
    (hconfig : config.isBuildable = true) : Unfailing guest (create own symbol config) Whole := by
  have hbuild : Unfailing guest (buildMarker own config 0 1.0) fun _ => True := by
    have ha : Arrow.ofSize? 1.0 = some .up := by decide
    obtain ⟨m, hm⟩ := make_of_isBuildable hconfig
    rw [← ha] at hm
    refine .bind (.lift (fun _ => True) hm trivial) fun m _ => ?_
    refine .bind (Q := fun _ => True) ?_ fun _ _ => .pure trivial
    refine .bind (Q := fun _ => True) ?_ fun _ _ => .pure trivial
    exact .modifyGet fun c hc => ⟨trivial, hc.congr rfl⟩
  refine hbuild.bind fun m _ => .bind (.modify fun c hc => hc.congr rfl) fun _ _ => ?_
  exact (note_unfailing _ _ _).bind fun _ _ => .pure nofun

theorem create_of_not_isBuildable (own : Entrance Item Listener) (symbol : String)
    (hconfig : config.isBuildable = false) (c : Chart Item Listener) :
    create own symbol config c = .error .emptyGlyph := by
  have ha : Arrow.ofSize? 1.0 = some .up := by decide
  have hm : (Marker.make (some .up) config.arrowSize config.keepInView :
      Except Fault (Marker Role)) = .error .emptyGlyph := by
    unfold OverlayConfig.isBuildable at hconfig
    unfold Marker.make at hconfig ⊢
    dsimp only at hconfig ⊢
    split_ifs at hconfig ⊢
    · simp [Except.isOk, Except.toBool] at hconfig
    · rfl
  simp only [create, buildMarker, ha, hm, bind_run, lift_run]
  rfl

theorem connect_unfailing (hown : ∀ build, guest (own.listener build)) (h : t.Whole) :
    Unfailing guest (t.connect own) Whole :=
  (t.marker.connect_unfailing (hown t.build)).bind fun _ _ => .pure (h.congr rfl)

/-- The new line is whole, and the tracker keeps the line that it has. -/
theorem positionLine_unfailing (hown : ∀ build, guest (own.listener build)) (h : t.Whole)
    (size level : Float) : Unfailing guest (t.positionLine own size level)
      fun p => p.1.deleted = false ∧ p.2.Whole := by
  have hmake : Unfailing guest (MonadState.modifyGet (·.makeLine level t.config.color .ofPosition) :
      ChartM Item Listener Line) fun l => l.deleted = false :=
    .modifyGet fun c hc => ⟨rfl, hc.congr rfl⟩
  refine hmake.bind fun line hline => .bind (paint_unfailing ?_) fun t₁ h₁ => ?_
  · exact h.congr rfl
  · refine .bind (connect_unfailing hown ?_) fun t₂ h₂ => ?_
    · exact h₁.congr rfl
    · exact (Line.setLevel_unfailing hline level).bind fun l hl => .pure ⟨hl, h₂⟩

theorem updateLine_unfailing (hown : ∀ build, guest (own.listener build)) (h : t.Whole)
    (price size : Float) : Unfailing guest (t.updateLine own price size) Whole := by
  unfold updateLine
  split
  · -- The first report of an open position.
    refine (positionLine_unfailing hown h size price).bind fun p hp => ?_
    refine (Line.show_unfailing hp.1).bind fun l hl => ?_
    refine (note_unfailing _ _ _).bind fun _ _ => .pure (Q := Whole) ?_
    rintro _ ⟨⟩
    exact hl
  · rename_i line hline _
    have hd := h line hline
    refine (Line.setLevel_unfailing hd price).bind fun l hl => ?_
    refine (Line.show_unfailing hl).bind fun l' hl' => ?_
    refine .bind (paint_unfailing ?_) fun t₁ h₁ => ?_
    · rintro _ ⟨⟩
      exact hl'
    · exact (note_unfailing _ _ _).bind fun _ _ => .pure h₁
  · -- The deleted line is forgotten at once.
    rename_i line _ _
    have hdelete : Unfailing guest (MonadState.modifyGet (·.deleteLine line) :
        ChartM Item Listener Line) fun _ => True :=
      .modifyGet fun c hc => ⟨trivial, hc.deleteLine line⟩
    refine hdelete.bind fun _ _ => (note_unfailing _ _ _).bind fun _ _ => .pure nofun
  · exact .pure h

theorem Whole.show_eq (h : t.Whole) : ∃ t', t.show = .ok t' ∧ t'.Whole := by
  rw [Tracker.show]
  split_ifs
  · exact ⟨t, rfl, h⟩
  · rcases hl : t.line with _ | l
    · refine ⟨_, rfl, ?_⟩
      rintro _ ⟨⟩
    · have hd := h l hl
      rw [Option.mapM_some, Line.show_of_live hd]
      refine ⟨_, rfl, ?_⟩
      rintro _ ⟨⟩
      exact hd

theorem show_unfailing (h : t.Whole) :
    Unfailing guest (liftM t.show : ChartM Item Listener Tracker) Whole := by
  obtain ⟨t', hshow, h'⟩ := h.show_eq
  exact .lift Whole hshow h'

theorem Whole.hide (h : t.Whole) : t.hide.Whole := by
  intro l hl
  obtain ⟨l', hl', rfl⟩ := Option.map_eq_some_iff.mp hl
  exact h l' hl'

theorem update_unfailing (hown : ∀ build, guest (own.listener build)) (h : t.Whole)
    (u : PositionUpdate) : Unfailing guest (t.update own u) Whole := by
  have hinfo : Whole { t with info := t.info.apply u } := h.congr rfl
  refine .bind (updateLine_unfailing hown hinfo u.avgPrice u.size) fun t₁ h₁ => ?_
  dsimp only
  split_ifs
  · exact .pure (Whole.hide (h₁.congr rfl))
  · exact .bind (paint_unfailing (h₁.congr rfl)) fun _ h₂ => show_unfailing h₂

theorem recordFill_unfailing (h : t.Whole) (f : Fill) :
    Unfailing guest (t.recordFill f : ChartM Item Listener Tracker) Whole :=
  (note_unfailing _ _ _).bind fun _ _ => .pure (h.congr rfl)

theorem drop_unfailing (t : Tracker) :
    Unfailing guest (t.drop : ChartM Item Listener Tracker) fun _ => True := by
  have hdelete (line : Line) (t : Tracker) : Unfailing guest (do
      let _ ← modifyGet (·.deleteLine line)
      return t : ChartM Item Listener Tracker) fun _ => True :=
    .bind (Q := fun _ => True) (.modifyGet fun c hc => ⟨trivial, hc.deleteLine line⟩)
      fun _ _ => .pure trivial
  unfold drop
  split <;> refine .bind (Q := fun _ => True) ?_ fun t' _ => ?_
  · exact .pure trivial
  · dsimp only
    split
    · exact hdelete _ _
    · exact .pure trivial
  · exact t.marker.withdraw_unfailing.bind fun _ _ => .pure trivial
  · dsimp only
    split
    · exact hdelete _ _
    · exact .pure trivial

end Tracker

end PositionOverlay
