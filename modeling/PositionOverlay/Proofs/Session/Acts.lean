import PositionOverlay.Proofs.Session.Flatness
import PositionOverlay.Proofs.Tracker.Reflection
import PositionOverlay.Proofs.Tracker.Safety

/-! # What reports make of any past

A tracker can be asked for more than requests: its line can be moved without a report, and its
marker can be built anew. Others may do to the chart what they like meanwhile. The tracker stays
rigged through all that. So the next report of an open position shows what it would show of a new
tracker, and any report that comes twice in a row changes nothing the second time. A line that is
made without a report leaves the marker at the level zero until it is painted.
-/
namespace PositionOverlay

namespace Tracker

open Work

variable {Item Listener : Type} {t : Tracker} {symbol : String} {config : OverlayConfig}

/-- A new tracker is rigged. -/
theorem rigged_of_create {own : Entrance Item Listener} {c c' : Chart Item Listener}
    (h : create own symbol config c = .ok (t, c')) :
    t.Rigged symbol config ∧ c'.view = c.view := by
  obtain ⟨rfl, text, rfl⟩ := create_eq h
  have ha := initial_assembled symbol config c.nextId
  exact ⟨⟨rfl, rfl, { ha with drawn := ⟨.up, Marker.redraw_drawn _ _⟩ }, .inl ha.drawn, rfl⟩, rfl⟩

/-- A tracker can be made on any chart if it can be made on one. -/
theorem exists_create {own : Entrance Item Listener} {c c' : Chart Item Listener}
    (h : create own symbol config c = .ok (t, c')) (fresh : Chart Item Listener) :
    ∃ t₀ c₀, create own symbol config fresh = .ok (t₀, c₀) := by
  cases hconfig : config.isBuildable with
  | false => exact nomatch h.symm.trans (create_of_not_isBuildable own symbol hconfig c)
  | true =>
    obtain ⟨t₀, c₀, h₀, -⟩ := exists_of_unfailing (create_unfailing own symbol hconfig) fresh
    exact ⟨t₀, c₀, h₀⟩

/-- A marker that nobody holds, made for a configuration, with a glyph or without. -/
structure Fits (config : OverlayConfig) (m : Marker Role) : Prop where
  size : m.size = config.arrowSize
  keepInView : m.keepInView = config.keepInView
  live : m.deleted = false
  free : m.holders = 0
  glyph : (∃ a, m.Drawn a) ∨ m.arrow = none ∧ m.box = none

theorem buildMarker_fits (own : Entrance Item Listener) (config : OverlayConfig) (build : Nat)
    (size : Float) : Yields (Fits config) (buildMarker own config build size) := by
  intro c m c' h
  obtain ⟨rfl, -⟩ := buildMarker_eq_ok h
  cases Arrow.ofSize? size with
  | none => exact ⟨rfl, rfl, rfl, rfl, .inr ⟨rfl, rfl⟩⟩
  | some a => exact ⟨rfl, rfl, rfl, rfl, .inl ⟨a, rfl, rfl, rfl, rfl⟩⟩

/-- Any marker that fits can take the place of the marker. -/
theorem Rigged.rebuilt (h : t.Rigged symbol config) {m : Marker Role} (hm : Fits t.config m)
    (build : Nat) : (pinLabels { t with marker := m, build }).Rigged symbol config := by
  simp only [pinLabels, Marker.relink, h.follows, if_true]
  exact { h with
    upright := { h.upright with
      drawn := ⟨.up, Marker.redraw_drawn _ _⟩
      size := hm.size
      keepInView := hm.keepInView
      links := rfl
      live := hm.live
      markerFree := hm.free
      ppAnchor := rfl }
    glyph := hm.glyph.imp_left (.imp fun _ ha => { ha with }) }

theorem Rigged.levelMarker (h : t.Rigged symbol config) (own : Entrance Item Listener)
    (size : Float) : Yields (fun t' => t'.Rigged symbol config) (t.levelMarker own size) := by
  refine .bind t.deleteMarker_yields ?_
  rintro _ ⟨m₀, rfl⟩
  refine .bind (buildMarker_fits own _ _ _) fun m hm => ?_
  have hr := h.rebuilt hm (t.build + 1)
  dsimp only
  split
  · exact .pure hr
  · intro c t' c' hc
    obtain ⟨n, rfl⟩ := connect_yields own _ hc
    exact hr.trimmed h.lineLive ⟨_, _, _, _⟩

end Tracker

namespace Session

open Tracker

variable {s s' : Session} {symbol : String} {config : OverlayConfig} {t : Tracker}
  {chart c : Chart Nat Nat}

/-- What can be done with a tracker and its chart. -/
inductive Act where
  | deed (d : Deed)
  | updateLine (price size : Float)
  /-- Whatever is done to the chart by others. -/
  | others (f : Chart Nat Nat → Chart Nat Nat)

/-- Lets something be done. -/
def act (s : Session) : Act → Except Fault Session
  | .deed d => s.perform d
  | .updateLine price size => s.onTracker fun t => t.updateLine entrance price size
  | .others f => .ok { s with chart := f s.chart }

theorem obey_rigged {r : Request} (hs : s.obey r = .ok s')
    (h : s.tracker.Rigged symbol config) : s'.tracker.Rigged symbol config := by
  unfold obey at hs
  cases r with
  | update u => exact h.update (onTracker_eq_ok hs)
  | «show» =>
    obtain ⟨hshow, -⟩ := Work.lift_eq_ok.mp (onTracker_eq_ok hs)
    rw [show_of_lineLive h.lineLive] at hshow
    rw [← Except.ok.inj hshow]
    split_ifs
    · exact h
    · exact h.exposed true
  | hide =>
    rw [← (Prod.mk.inj (Except.ok.inj (onTracker_eq_ok hs))).1]
    exact h.exposed false
  | hideInfo =>
    rw [← (Prod.mk.inj (Except.ok.inj (onTracker_eq_ok hs))).1]
    exact { h with upright := { h.upright with } }
  | fill f =>
    rw [← (Prod.mk.inj (Except.ok.inj (onTracker_eq_ok hs))).1]
    exact h.inform _ h.symbol
  | range yMin yMax | height height =>
    exact setView_keeps (P := (·.Rigged symbol config))
      (fun t v ht => Rigged.drifts ht (t.heard_drifts v)) hs h
  | paint =>
    exact paint_keeps (P := (·.Rigged symbol config))
      (fun t v ht => Rigged.drifts ht (t.repainted_drifts v)) hs h

theorem act_rigged {a : Act} (hs : s.act a = .ok s') (h : s.tracker.Rigged symbol config) :
    s'.tracker.Rigged symbol config := by
  unfold act at hs
  cases a with
  | deed d =>
    cases d with
    | request r => exact obey_rigged hs h
    | levelMarker size =>
      change s.onTracker (fun t => t.levelMarker entrance size) = .ok s' at hs
      exact h.levelMarker entrance size (onTracker_eq_ok hs)
  | updateLine price size => exact h.updateLine (onTracker_eq_ok hs)
  | others f =>
    rw [← Except.ok.inj hs]
    exact h

theorem run_rigged {as : List Act} (hs : as.foldlM act s = .ok s')
    (h : s.tracker.Rigged symbol config) : s'.tracker.Rigged symbol config := by
  induction as generalizing s with
  | nil => rwa [← Except.ok.inj hs]
  | cons a as ih =>
    rw [List.foldlM_cons] at hs
    obtain ⟨s₁, hs₁, hs⟩ := Work.except_bind_eq_ok.mp hs
    exact ih hs (act_rigged hs₁ h)

/-- With the standard look a tracker can be made, and a run that succeeds there can be had. -/
theorem exists_run_standard (as : List Act)
    (hok : ((create entrance "BTC" .standard (.empty .standard)).bind fun r =>
      as.foldlM act ⟨r.2, r.1⟩).isOk = true) :
    ∃ t c s, create entrance "BTC" .standard (.empty .standard) = .ok (t, c) ∧
      as.foldlM act ⟨c, t⟩ = .ok s := by
  obtain ⟨t, c, h⟩ := exists_create_standard
  simp only [h, Except.bind] at hok
  rcases hrun : as.foldlM act ⟨c, t⟩ with e | s
  · rw [hrun] at hok
    exact absurd hok Bool.false_ne_true
  · exact ⟨t, c, s, h, hrun⟩

theorem obey_update {u : PositionUpdate} {t' : Tracker} {c' : Chart Nat Nat}
    (h : s.tracker.update entrance u s.chart = .ok (t', c')) :
    s.obey (.update u) = .ok ⟨c', t'⟩ := by
  change s.onTracker (fun t => t.update entrance u) = _
  exact onTracker_of_ok h

/-- Whatever has happened to a tracker, a report of an open position shows what it would show of a
new tracker of the same symbol and configuration in the same view, except for the number of
executions. -/
theorem run_update_absorbs (h : create entrance symbol config chart = .ok (t, c)) {as : List Act}
    (hrun : as.foldlM act ⟨c, t⟩ = .ok s) {u : PositionUpdate} (ho : (u.size != 0.0) = true)
    {a : Arrow} (ha : Arrow.ofSize? u.size = some a) {fresh : Chart Nat Nat}
    (hview : fresh.view = s.chart.view) :
    ∃ s' t₀ c₀ s₀, s.obey (.update u) = .ok s' ∧
      create entrance symbol config fresh = .ok (t₀, c₀) ∧
      obey ⟨c₀, t₀⟩ (.update u) = .ok s₀ ∧
      s'.tracker.snapshot = { s₀.tracker.snapshot with fills := s.tracker.info.fills.size } := by
  have hr := run_rigged hrun (rigged_of_create h).1
  obtain ⟨t₀, c₀, h₀⟩ := exists_create h fresh
  obtain ⟨hr₀, hview₀⟩ := rigged_of_create h₀
  obtain ⟨t₁, c₁, hu, hr₁, hreflects, hinfo, -⟩ := hr.update_reflects entrance ho s.chart
  obtain ⟨t₂, c₂, hu₂, hr₂, hreflects₂, -, -⟩ := hr₀.update_reflects entrance ho c₀
  refine ⟨⟨c₁, t₁⟩, t₀, c₀, ⟨c₂, t₂⟩, obey_update hu, h₀, obey_update hu₂, ?_⟩
  rw [hreflects.snapshot hr₁ ho ha, hreflects₂.snapshot hr₂ ho ha, hinfo, hview₀, hview]
  rfl

/-- A short position after a marker without a glyph, a line that was moved without a report, a
hidden tracker and a chart that has lost its listeners. -/
theorem run_update_absorbs_short :
    let as : List Act := [.deed (.request (.update (.ofSize 100.0 2.0))), .deed (.levelMarker 0.0),
      .updateLine 40.0 0.0, .updateLine 55.0 3.0, .deed (.request .hide),
      .others fun c => { c with listeners := [] }, .deed (.request (.range 0.0 50.0))]
    let u := PositionUpdate.ofSize 30.0 (-1.0)
    ∃ t c s, create entrance "BTC" .standard (.empty .standard) = .ok (t, c) ∧
      as.foldlM act ⟨c, t⟩ = .ok s ∧ (u.size != 0.0) = true ∧
      Arrow.ofSize? u.size = some .down ∧
      ∃ s' t₀ c₀ s₀, s.obey (.update u) = .ok s' ∧
        create entrance "BTC" .standard (.empty s.chart.view) = .ok (t₀, c₀) ∧
        obey ⟨c₀, t₀⟩ (.update u) = .ok s₀ ∧
        s'.tracker.snapshot =
          { s₀.tracker.snapshot with fills := s.tracker.info.fills.size } := by
  intro as u
  have ho : (u.size != 0.0) = true := by decide
  have ha : Arrow.ofSize? u.size = some .down := by decide
  obtain ⟨t, c, s, h, hrun⟩ := exists_run_standard as (by decide +kernel)
  exact ⟨t, c, s, h, hrun, ho, ha, run_update_absorbs h hrun ho ha rfl⟩

/-- Whatever has happened to a tracker, the second of two equal reports in a row changes nothing:
neither the tracker nor, apart from the journal, the chart with its objects and counters. -/
theorem run_update_twice (h : create entrance symbol config chart = .ok (t, c)) {as : List Act}
    (hrun : as.foldlM act ⟨c, t⟩ = .ok s) (u : PositionUpdate) :
    ∃ s₁ s₂, s.obey (.update u) = .ok s₁ ∧ s₁.obey (.update u) = .ok s₂ ∧
      s₂.tracker = s₁.tracker ∧ s₁.chart.Noted s₂.chart := by
  have hr := run_rigged hrun (rigged_of_create h).1
  obtain ⟨t', c', c'', hu, hu', hc⟩ := hr.update_twice entrance u s.chart
  exact ⟨⟨c', t'⟩, ⟨c'', t'⟩, obey_update hu, obey_update hu', rfl, hc⟩

/-- A report without direction, after a marker that has no glyph. -/
theorem run_update_twice_undirected :
    let as : List Act := [.deed (.request (.update (.ofSize 100.0 2.0))), .deed (.levelMarker 0.0),
      .deed (.request .hideInfo)]
    let u := PositionUpdate.ofSize 30.0 (0.0 / 0.0)
    ∃ t c s, create entrance "BTC" .standard (.empty .standard) = .ok (t, c) ∧
      as.foldlM act ⟨c, t⟩ = .ok s ∧
      ∃ s₁ s₂, s.obey (.update u) = .ok s₁ ∧ s₁.obey (.update u) = .ok s₂ ∧
        s₂.tracker = s₁.tracker ∧ s₁.chart.Noted s₂.chart := by
  intro as u
  obtain ⟨t, c, s, h, hrun⟩ := exists_run_standard as (by decide +kernel)
  exact ⟨t, c, s, h, hrun, run_update_twice h hrun u⟩

/-- Whatever has happened to a tracker, a price for an open position brings the labels to the
marker, but the marker to the price only if there was a line before. A line that has just been made
leaves it at the level zero, until it is painted. -/
theorem run_updateLine_places (h : create entrance symbol config chart = .ok (t, c))
    {as : List Act} (hrun : as.foldlM act ⟨c, t⟩ = .ok s) (price : Float) {size : Float}
    (ho : (size != 0.0) = true) {a : Arrow} (ha : Arrow.ofSize? size = some a) :
    let stand := s.chart.view.stand config.keepInView (a.glyph config.arrowSize).h
    ∃ s' t' c', s.act (.updateLine price size) = .ok s' ∧ s'.tracker.level = price ∧
      s'.tracker.marker.pos = stand (if s.tracker.line.isSome then price else 0.0) ∧
      s'.tracker.ppLabel.pos = config.pin.place s'.tracker.marker.placement.bounds
        s'.tracker.ppLabel.size ∧
      s'.tracker.sizeLabel.pos =
        s'.tracker.ppLabel.pos + ⟨s'.tracker.ppLabel.size.w, 0.0⟩ ∧
      s'.tracker.paint s'.chart = .ok (t', c') ∧ t'.marker.pos = stand price := by
  intro stand
  have hr := run_rigged hrun (rigged_of_create h).1
  obtain ⟨t₁, c₁, hu, hview, hr₁, harrow, hlevel, hpos, hpp, hsize⟩ :=
    hr.updateLine_places entrance price ho ha s.chart
  have hassembled := hr₁.assembled_of_arrow harrow
  refine ⟨⟨c₁, t₁⟩, _, c₁, ?_, hlevel, hpos, hpp, hsize, hassembled.paint, ?_⟩
  · change s.onTracker (fun t => t.updateLine entrance price size) = _
    exact onTracker_of_ok hu
  · change c₁.view.stand t₁.config.keepInView t₁.glyph.h t₁.level = _
    rw [hview, hr₁.config, hassembled.glyph_eq harrow, hr₁.config, hlevel]

/-- A line that is made, removed and made again. -/
theorem run_updateLine_places_again :
    let as : List Act := [.deed (.request (.update (.ofSize 100.0 2.0))), .updateLine 40.0 0.0]
    ∃ t c s, create entrance "BTC" .standard (.empty .standard) = .ok (t, c) ∧
      as.foldlM act ⟨c, t⟩ = .ok s ∧ ((-1.0 : Float) != 0.0) = true ∧
      Arrow.ofSize? (-1.0) = some .down ∧
      let stand := s.chart.view.stand OverlayConfig.standard.keepInView
        (Arrow.down.glyph OverlayConfig.standard.arrowSize).h
      ∃ s' t' c', s.act (.updateLine 30.0 (-1.0)) = .ok s' ∧ s'.tracker.level = 30.0 ∧
        s'.tracker.marker.pos = stand (if s.tracker.line.isSome then 30.0 else 0.0) ∧
        s'.tracker.ppLabel.pos = OverlayConfig.standard.pin.place
          s'.tracker.marker.placement.bounds s'.tracker.ppLabel.size ∧
        s'.tracker.sizeLabel.pos =
          s'.tracker.ppLabel.pos + ⟨s'.tracker.ppLabel.size.w, 0.0⟩ ∧
        s'.tracker.paint s'.chart = .ok (t', c') ∧ t'.marker.pos = stand 30.0 := by
  intro as
  have ho : ((-1.0 : Float) != 0.0) = true := by decide
  have ha : Arrow.ofSize? (-1.0) = some .down := by decide
  obtain ⟨t, c, s, h, hrun⟩ := exists_run_standard as (by decide +kernel)
  exact ⟨t, c, s, h, hrun, ho, ha, run_updateLine_places h hrun 30.0 ho ha⟩

/-- A marker that is to stand in the middle of the scene stands at the bottom once its line has been
made. -/
theorem made_line_misplaces_marker :
    ((start .standard .standard "X").bind fun s => s.act (.updateLine 50.0 1.0)).toOption.any
      (fun s => s.tracker.level == 50.0 && s.tracker.marker.pos.y == 600.0 &&
        (s.chart.view.stand true s.tracker.glyph.h 50.0).y == 300.0) = true := by
  decide +kernel

end Session

end PositionOverlay
