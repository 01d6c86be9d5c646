import PositionOverlay.Proofs.Session.Runs
import PositionOverlay.Proofs.Tracker.Moves

/-! # What can be seen of a flat position

A flat position has no line, and its labels are hidden. Its marker is hidden as well until it is
built anew for a size with a direction, which shows it. After that only a report or hiding the
tracker puts it out of sight again.
-/
namespace PositionOverlay

namespace Tracker

open Work

variable {Item Listener : Type} (own : Entrance Item Listener) (t : Tracker)

/-! ## What keeps the position -/

/-- Work on a tracker that leaves its position as it is. -/
abbrev KeepsInfo (x : ChartM Item Listener Tracker) : Prop := Yields (fun t' => t'.info = t.info) x

theorem show_info {t' : Tracker} (h : t.show = .ok t') : t'.info = t.info := by
  unfold Tracker.show at h
  split_ifs at h
  · rw [Except.ok.inj h]
  · cases hl : t.line.mapM Line.show with
    | error e =>
      rw [hl] at h
      exact nomatch h
    | ok l =>
      rw [hl] at h
      rw [← Except.ok.inj h]

theorem paint_info : t.KeepsInfo (t.paint : ChartM Item Listener Tracker) := by
  intro c t' c' h
  rw [(paint_eq_ok h).1]
  exact (t.placed_moved c.view).info

/-- Connecting changes nothing but the subscription. -/
theorem connect_yields :
    Yields (fun t' => ∃ subscription, t' = { t with marker := { t.marker with subscription } })
      (t.connect own) := by
  have hm : Yields (fun m => ∃ subscription, m = { t.marker with subscription })
      (t.marker.connect (own.listener t.build) : ChartM Item Listener (Marker Role)) := by
    unfold Marker.connect
    split
    · exact .pure ⟨_, rfl⟩
    · exact .after fun _ => .pure ⟨_, rfl⟩
  exact .bind hm fun m ⟨n, hn⟩ => .pure ⟨n, hn ▸ rfl⟩

theorem connect_info : t.KeepsInfo (t.connect own) := by
  intro c t' c' h
  obtain ⟨n, rfl⟩ := connect_yields own t h
  rfl

theorem positionLine_info (size level : Float) :
    Yields (fun r => r.2.info = t.info) (t.positionLine own size level) :=
  .after fun _ => .bind (paint_info _) fun _ h₁ => .bind (connect_info own _) fun _ h₂ =>
    .after fun _ => .pure (h₂.trans h₁)

theorem updateLine_info (price size : Float) : t.KeepsInfo (t.updateLine own price size) := by
  unfold updateLine
  split
  · exact .bind (positionLine_info own t _ _) fun _ h => .after fun _ => .after fun _ => .pure h
  · exact .after fun _ => .after fun _ => .bind (paint_info _) fun _ h => .after fun _ => .pure h
  · exact .after fun _ => .after fun _ => .pure rfl
  · exact .pure rfl

/-- The position is what was reported last. -/
theorem update_info (u : PositionUpdate) :
    Yields (fun t' => t'.info = t.info.apply u) (t.update own u) := by
  refine .bind (updateLine_info own _ _ _) fun t₁ h₁ => ?_
  dsimp only
  split
  · exact .pure h₁
  · exact .bind (paint_info _) fun t₂ h₂ => .lift fun t₃ h₃ => (show_info t₂ h₃).trans (h₂.trans h₁)

/-- A new marker can be seen if it has an arrow. -/
theorem buildMarker_visible (config : OverlayConfig) (build : Nat) (size : Float) :
    Yields (fun m => m.visible = (Arrow.ofSize? size).isSome)
      (buildMarker own config build size) := by
  intro c m c' h
  rw [(buildMarker_eq_ok h).1]

theorem deleteMarker_yields :
    Yields (fun t' => ∃ marker, t' = { t with marker })
      (t.deleteMarker : ChartM Item Listener Tracker) := .after fun m => .pure ⟨m, rfl⟩

/-- A marker is built anew without regard to the position. -/
theorem levelMarker_yields (size : Float) :
    Yields (fun t' => ∃ marker,
        t' = { t with
          marker
          ppLabel := t.ppLabel.setAnchor .besideMarker
          build := t.build + 1 } ∧
        marker.visible = (Arrow.ofSize? size).isSome) (t.levelMarker own size) := by
  refine .bind t.deleteMarker_yields ?_
  rintro _ ⟨m₀, rfl⟩
  refine .bind (buildMarker_visible own _ _ _) fun m hm => ?_
  dsimp only
  split
  · exact .pure ⟨_, rfl, hm⟩
  · refine fun c t' c' h => ?_
    obtain ⟨n, rfl⟩ := connect_yields own _ h
    exact ⟨_, rfl, hm⟩

/-- Of the tracker nothing can be seen, except for its marker, as the case may be. -/
structure Concealed (t : Tracker) (marker : Bool) : Prop where
  line : t.line = none
  marker : t.marker.visible = marker
  pp : t.ppLabel.visible = false
  size : t.sizeLabel.visible = false

theorem Concealed.moved {t t' : Tracker} {v : Bool} (h : t.Concealed v) (hm : t.Moved t') :
    t'.Concealed v := by
  obtain ⟨_, _, _, _, rfl⟩ := hm
  exact ⟨h.line, h.marker, h.pp, h.size⟩

end Tracker

namespace Session

open Tracker

variable {s s' : Session} {v : Bool}

/-- What can be done with a tracker, building its marker anew included. -/
inductive Deed where
  | request (r : Request)
  | levelMarker (size : Float)

/-- Does a deed. -/
def perform (s : Session) : Deed → Except Fault Session
  | .request r => s.obey r
  | .levelMarker size => s.onTracker fun t => t.levelMarker entrance size

/-- Whether the marker of a flat position can be seen after a deed, given whether it could be seen
before. -/
def Deed.exposes : Deed → Bool → Bool
  | .request (.update _), _ => false
  | .request .hide, _ => false
  | .levelMarker size, _ => (Arrow.ofSize? size).isSome
  | _, before => before

/-- Calls of the tracker keep what each of them keeps. -/
theorem foldlM_keeps {P : Tracker → Prop} {work : Tracker → ChartM Nat Nat Tracker}
    (hwork : ∀ t, P t → Work.Yields P (work t)) {es : List (Nat × Nat)}
    (h : es.foldlM (fun s e => if s.tracker.build = e.2 then s.onTracker work else .ok s) s =
      .ok s') (hs : P s.tracker) : P s'.tracker := by
  induction es generalizing s with
  | nil => rwa [← Except.ok.inj h]
  | cons e es ih =>
    rw [List.foldlM_cons] at h
    obtain ⟨s₁, hs₁, h⟩ := Work.except_bind_eq_ok.mp h
    refine ih h ?_
    split_ifs at hs₁
    · exact hwork _ hs (onTracker_eq_ok hs₁)
    · rwa [← Except.ok.inj hs₁]

theorem setView_keeps {P : Tracker → Prop} (hheard : ∀ t v, P t → P (t.heard v)) {f : View → View}
    (h : s.setView f = .ok s') (hs : P s.tracker) : P s'.tracker := by
  obtain ⟨s₁, hs₁, h⟩ := Work.except_bind_eq_ok.mp h
  rw [← Except.ok.inj h]
  refine (foldlM_keeps (fun t ht c t' c' h => ?_) hs₁ hs :)
  obtain ⟨c₁, he, -⟩ := t.rangeChanged_eq c
  obtain ⟨rfl, -⟩ := Prod.mk.inj (Except.ok.inj (h.symm.trans he))
  exact hheard t c.view ht

theorem paint_keeps {P : Tracker → Prop} (hrepainted : ∀ t v, P t → P (t.repainted v))
    (h : s.paint = .ok s') (hs : P s.tracker) : P s'.tracker := by
  refine foldlM_keeps (fun t ht c t' c' h => ?_) h hs
  obtain ⟨c₁, he, -⟩ := t.painted_eq c
  obtain ⟨rfl, -⟩ := Prod.mk.inj (Except.ok.inj (h.symm.trans he))
  exact hrepainted t c.view ht

theorem setView_moved {f : View → View} (h : s.setView f = .ok s') :
    s.tracker.Moved s'.tracker :=
  setView_keeps (fun t v ht => ht.trans (t.heard_moved v)) h (.refl _)

theorem paint_moved (h : s.paint = .ok s') : s.tracker.Moved s'.tracker :=
  paint_keeps (fun t v ht => ht.trans (t.repainted_moved v)) h (.refl _)

/-- What only moves the tracker leaves a flat position concealed. -/
theorem concealed_of_moved (hm : s.tracker.Moved s'.tracker)
    (hs : s.tracker.info.isFlat → s.tracker.Concealed v) (hflat : s'.tracker.info.isFlat) :
    s'.tracker.Concealed v :=
  (hs (hm.info ▸ hflat)).moved hm

theorem obey_concealed {r : Request} (h : s.obey r = .ok s')
    (hs : s.tracker.info.isFlat → s.tracker.Concealed v) (hflat : s'.tracker.info.isFlat) :
    s'.tracker.Concealed ((Deed.request r).exposes v) := by
  unfold obey at h
  cases r with
  | range yMin yMax => exact concealed_of_moved (setView_moved h) hs hflat
  | height height => exact concealed_of_moved (setView_moved h) hs hflat
  | paint => exact concealed_of_moved (paint_moved h) hs hflat
  | update u =>
    have h := onTracker_eq_ok h
    have hsize : (u.size == 0.0) = true := by
      rw [s.tracker.update_info entrance u h] at hflat
      exact hflat
    have hz : (u.size != 0.0) = false := by rw [bne, hsize, Bool.not_true]
    obtain ⟨c, he, -⟩ := s.tracker.update_flat entrance hz s.chart
    rw [(Prod.mk.inj (Except.ok.inj (h.symm.trans he))).1]
    exact ⟨rfl, rfl, rfl, rfl⟩
  | «show» =>
    obtain ⟨ht, -⟩ := Work.lift_eq_ok.mp (onTracker_eq_ok h)
    rw [show_info _ ht] at hflat
    rw [Tracker.show, if_pos hflat] at ht
    rw [← Except.ok.inj ht]
    exact hs hflat
  | hide =>
    have h := (Prod.mk.inj (Except.ok.inj (onTracker_eq_ok h))).1
    rw [← h] at hflat ⊢
    exact ⟨by rw [hide, (hs hflat).line]; rfl, rfl, rfl, rfl⟩
  | hideInfo =>
    have h := (Prod.mk.inj (Except.ok.inj (onTracker_eq_ok h))).1
    rw [← h] at hflat ⊢
    exact { hs hflat with size := rfl }
  | fill f =>
    have h := (Prod.mk.inj (Except.ok.inj (onTracker_eq_ok h))).1
    rw [← h] at hflat ⊢
    exact { hs hflat with }

/-- A deed leaves nothing of a flat position to be seen but its marker. -/
theorem perform_concealed {d : Deed} (h : s.perform d = .ok s')
    (hs : s.tracker.info.isFlat → s.tracker.Concealed v) (hflat : s'.tracker.info.isFlat) :
    s'.tracker.Concealed (d.exposes v) := by
  unfold perform at h
  cases d with
  | request r => exact obey_concealed h hs hflat
  | levelMarker size =>
    obtain ⟨m, he, hm⟩ := s.tracker.levelMarker_yields entrance size (onTracker_eq_ok h)
    rw [he] at hflat ⊢
    exact { hs hflat with marker := hm }

theorem run_keeps_concealed {ds : List Deed} (h : ds.foldlM perform s = .ok s')
    (hs : s.tracker.info.isFlat → s.tracker.Concealed v) (hflat : s'.tracker.info.isFlat) :
    s'.tracker.Concealed (ds.foldl (fun v d => d.exposes v) v) := by
  induction ds generalizing s v with
  | nil =>
    rw [Except.ok.inj h] at hs
    exact hs hflat
  | cons d ds ih =>
    rw [List.foldlM_cons] at h
    obtain ⟨s₁, hs₁, h⟩ := Work.except_bind_eq_ok.mp h
    exact ih h (perform_concealed hs₁ hs)

/-- Whatever has been done with a tracker, of a flat position there is no line, no label can be
seen, and the marker can be seen just if it was built anew for a size with a direction after the
last report and after the tracker was last hidden. -/
theorem run_concealed {symbol : String} {config : OverlayConfig} {chart c : Chart Nat Nat}
    {t : Tracker} (h : create entrance symbol config chart = .ok (t, c)) {ds : List Deed}
    (hrun : ds.foldlM perform ⟨c, t⟩ = .ok s) (hflat : s.tracker.info.size == 0.0) :
    s.tracker.line = none ∧ s.tracker.ppLabel.visible = false ∧
      s.tracker.sizeLabel.visible = false ∧
      s.tracker.marker.visible = ds.foldl (fun v d => d.exposes v) false := by
  have hstart : t.Concealed false := by
    obtain ⟨rfl, -⟩ := create_eq h
    exact ⟨rfl, rfl, rfl, rfl⟩
  have hs := run_keeps_concealed hrun (fun _ => hstart) hflat
  exact ⟨hs.line, hs.pp, hs.size, hs.marker⟩

/-- A position that has been closed, after which the marker is built anew. -/
theorem run_concealed_closed :
    let ds : List Deed := [.request (.update (.ofSize 100.0 2.0)),
      .request (.update (.ofSize 110.0 0.0)), .levelMarker (-1.0), .request .paint]
    ∃ t c s, create entrance "BTC" .standard (.empty .standard) = .ok (t, c) ∧
      ds.foldlM perform ⟨c, t⟩ = .ok s ∧ (s.tracker.info.size == 0.0) = true ∧
      s.tracker.line = none ∧ s.tracker.ppLabel.visible = false ∧
      s.tracker.sizeLabel.visible = false ∧ s.tracker.marker.visible = true := by
  intro ds
  obtain ⟨t, c, h⟩ := exists_create_standard
  have hend : ((create entrance "BTC" .standard (.empty .standard)).bind fun r =>
      ds.foldlM perform ⟨r.2, r.1⟩).toOption.any (fun s => s.tracker.info.size == 0.0) = true := by
    decide +kernel
  have hseen : ds.foldl (fun v d => d.exposes v) false = true := by decide +kernel
  simp only [h, Except.bind] at hend
  rcases hrun : ds.foldlM perform ⟨c, t⟩ with e | s
  · rw [hrun] at hend
    exact absurd hend Bool.false_ne_true
  · rw [hrun] at hend
    obtain ⟨hline, hpp, hsize, hmarker⟩ := run_concealed h hrun hend
    exact ⟨t, c, s, h, hrun, hend, hline, hpp, hsize, hmarker.trans hseen⟩

/-- A marker that is built anew for a long position, while the position is flat, can be seen. -/
theorem levelMarker_seen :
    ((start .standard .standard "BTC").bind fun s =>
      [.levelMarker 5.0].foldlM perform s).toOption.any (fun s =>
        s.tracker.info.size == 0.0 && s.tracker.marker.visible) = true := by
  decide +kernel

end Session

end PositionOverlay
