import PositionOverlay.Proofs.Chart.Cancellation
import PositionOverlay.Proofs.Session.Requests

/-! # Runs of requests

A tracker is made on a chart that may have been in use before. After any run of requests, position,
line, marker and labels agree, and a marker that is to be kept in view stands with its labels where
the current view wants it.
-/
namespace PositionOverlay.Session

open Tracker

variable {s : Session} {symbol : String} {config : OverlayConfig} {chart c : Chart Nat Nat}
  {t : Tracker}

/-- A run of requests is granted, and what every request keeps is kept. -/
theorem Sound.run (h : s.Sound) (rs : List Request) :
    ∃ s', rs.foldlM Session.obey s = .ok s' ∧ s'.Sound ∧ s'.tracker.config = s.tracker.config ∧
      s'.tracker.info.fills.toList = s.tracker.info.fills.toList ++ rs.filterMap Request.fill? ∧
      (s.tracker.config.keepInView = true → s.Current → s'.Current) := by
  induction rs generalizing s with
  | nil => exact ⟨s, rfl, h, rfl, by simp, fun _ hs => hs⟩
  | cons r rs ih =>
    obtain ⟨s₁, hr, hg⟩ := h.obey r
    obtain ⟨s', hrs, hs', hconfig, hfills, hcurrent⟩ := ih hg.sound
    refine ⟨s', ?_, hs', hconfig.trans hg.config, ?_, fun hk hs => ?_⟩
    · rw [List.foldlM_cons, hr]
      exact hrs
    · rw [hfills, hg.info, r.fills_info, List.append_assoc]
      cases hf : r.fill? <;> simp [hf]
    · exact hcurrent (by rw [hg.config, hk]) (hg.current hk hs)

/-- A new tracker is sound. -/
theorem sound_of_create (h : create entrance symbol config chart = .ok (t, c)) :
    Sound ⟨c, t⟩ := by
  obtain ⟨rfl, text, rfl⟩ := create_eq h
  exact ⟨initial_assembled _ _ _, initial_consistent _ _ _⟩

/-- A new tracker is current, unless the chart is to end a subscription that it has yet to issue. -/
theorem current_of_create (h : create entrance symbol config chart = .ok (t, c))
    (hissued : ∀ n ∈ chart.cancelled, n < chart.nextId) : Current ⟨c, t⟩ := by
  obtain ⟨rfl, text, rfl⟩ := create_eq h
  exact ⟨⟨nofun, nofun, fun n hn => Nat.lt_succ_of_lt (hissued n hn), nofun⟩,
    initial_inPlace _ _ _ _⟩

section Users

variable {view : View} {d : Dispatch Nat Nat} {ts : List (Turn Nat Nat)}
  (hturns : Dispatch.run? ⟨.empty view, []⟩ ts = some d)
  (hissued : Dispatch.cancelsIssued ⟨.empty view, []⟩ ts)

include hturns hissued

/-- A new tracker is current if the users of the chart have cancelled only what they were given. -/
theorem current_of_create_on (h : create entrance symbol config d.chart = .ok (t, c)) :
    Current ⟨c, t⟩ :=
  current_of_create h (Dispatch.cancelled_issued hturns hissued)

/-- On such a chart a tracker that is to be kept in view is current after any run of requests. -/
theorem run_current (h : create entrance symbol config d.chart = .ok (t, c))
    (hkeep : t.config.keepInView = true) (rs : List Request) :
    ∃ s, rs.foldlM obey ⟨c, t⟩ = .ok s ∧ s.Sound ∧ s.Current := by
  obtain ⟨s, hs, hsound, -, -, hcurrent⟩ := (sound_of_create h).run rs
  exact ⟨s, hs, hsound, hcurrent hkeep (current_of_create_on hturns hissued h)⟩

end Users

theorem config_of_create (h : create entrance symbol config chart = .ok (t, c)) :
    t.config = config := by
  rw [(create_eq h).1]
  rfl

theorem fills_of_create (h : create entrance symbol config chart = .ok (t, c)) :
    t.info.fills.toList = [] := by
  rw [(create_eq h).1]
  rfl

/-- With the standard look a tracker can be made. -/
theorem exists_create_standard :
    ∃ t c, create entrance "BTC" .standard (.empty .standard) = .ok (t, c) := by
  have hok : (create entrance "BTC" .standard (.empty .standard)).isOk = true := by
    decide +kernel
  rcases h : create entrance "BTC" .standard (.empty .standard) with e | ⟨t, c⟩
  · rw [h] at hok
    exact absurd hok Bool.false_ne_true
  · exact ⟨t, c, rfl⟩

/-- After any run of requests, line, marker and size label agree with the position, whose history
is what was recorded. -/
theorem run_consistent (h : create entrance symbol config chart = .ok (t, c))
    (rs : List Request) :
    ∃ s, rs.foldlM obey ⟨c, t⟩ = .ok s ∧ s.tracker.Consistent ∧
      s.tracker.info.fills.toList = rs.filterMap Request.fill? := by
  obtain ⟨s, hs, hsound, _, hfills, _⟩ := (sound_of_create h).run rs
  refine ⟨s, hs, hsound.consistent, ?_⟩
  rw [hfills, fills_of_create h, List.nil_append]

/-- A position that is turned over without having been flat. -/
theorem run_consistent_turned :
    ∃ t c, create entrance "BTC" .standard (.empty .standard) = .ok (t, c) ∧
      ∃ s, [.update (.ofSize 100.0 2.0), .range 0.0 50.0, .update (.ofSize 30.0 (-1.0)), .hide,
          .paint].foldlM obey ⟨c, t⟩ = .ok s ∧ s.tracker.Consistent ∧
        s.tracker.info.fills.toList = [] := by
  obtain ⟨t, c, h⟩ := exists_create_standard
  exact ⟨t, c, h, run_consistent h _⟩

/-- After any run of requests, a marker to be kept in view stands where the current view wants it,
the arrow's place is published, and the labels are beside it. Only subscriptions that the chart has
issued may have been cancelled before. -/
theorem run_inPlace (h : create entrance symbol config chart = .ok (t, c))
    (hkeep : config.keepInView = true) (hissued : ∀ n ∈ chart.cancelled, n < chart.nextId)
    (rs : List Request) :
    ∃ s box, rs.foldlM obey ⟨c, t⟩ = .ok s ∧ s.tracker.marker.box = some box ∧
      s.tracker.marker.placement =
        ⟨s.tracker.marker.pos, box.translate s.tracker.marker.pos⟩ ∧
      s.tracker.ppLabel.pos =
        config.pin.place s.tracker.marker.placement.bounds s.tracker.ppLabel.size ∧
      s.tracker.sizeLabel.pos = s.tracker.ppLabel.pos + ⟨s.tracker.ppLabel.size.w, 0.0⟩ ∧
      (s.tracker.line.isSome → s.tracker.marker.pos =
        ⟨s.chart.view.markerX, s.chart.view.keptOrdinate box.h s.tracker.info.avgPrice⟩) := by
  have hconfig := config_of_create h
  obtain ⟨s, hs, hsound, hsame, _, hcurrent⟩ := (sound_of_create h).run rs
  have hplace := (hcurrent (by rw [hconfig, hkeep]) (current_of_create h hissued)).inPlace
  refine ⟨s, s.tracker.glyph, hs, hsound.assembled.box, hsound.assembled.placement, ?_,
    hplace.size, hplace.marker⟩
  rw [hplace.pp, hsame, hconfig]

/-- A hidden line that goes out of sight, on a chart on which a subscription was cancelled twice. -/
theorem run_inPlace_hidden :
    let ts : List (Turn Nat Nat) := [.subscribe 7, .unsubscribe 1, .unsubscribe 1]
    let rs : List Request := [.update (.ofSize 100.0 2.0), .hide, .range 0.0 50.0]
    ∃ d t c, Dispatch.run? ⟨.empty .standard, []⟩ ts = some d ∧ d.chart.cancelled = [1] ∧
      OverlayConfig.standard.keepInView = true ∧
      (∀ n ∈ d.chart.cancelled, n < d.chart.nextId) ∧
      create entrance "BTC" .standard d.chart = .ok (t, c) ∧
      ∃ s box, rs.foldlM obey ⟨c, t⟩ = .ok s ∧ s.tracker.line.isSome = true ∧
        s.tracker.marker.box = some box ∧
        s.tracker.marker.placement =
          ⟨s.tracker.marker.pos, box.translate s.tracker.marker.pos⟩ ∧
        s.tracker.ppLabel.pos = OverlayConfig.standard.pin.place
          s.tracker.marker.placement.bounds s.tracker.ppLabel.size ∧
        s.tracker.sizeLabel.pos = s.tracker.ppLabel.pos + ⟨s.tracker.ppLabel.size.w, 0.0⟩ ∧
        s.tracker.marker.pos =
          ⟨s.chart.view.markerX, s.chart.view.keptOrdinate box.h s.tracker.info.avgPrice⟩ := by
  intro ts rs
  let d : Dispatch Nat Nat :=
    ⟨(((Chart.empty .standard).subscribe 7).2.unsubscribe 1).unsubscribe 1, []⟩
  have hturns : Dispatch.run? ⟨.empty .standard, []⟩ ts = some d := rfl
  have hcancels : Dispatch.cancelsIssued ⟨.empty .standard, []⟩ ts := by
    refine ⟨by rintro _ ⟨⟩, ?_⟩
    rintro _ ⟨⟩
    refine ⟨by rintro _ ⟨⟩; decide, ?_⟩
    rintro _ ⟨⟩
    refine ⟨by rintro _ ⟨⟩; decide, ?_⟩
    rintro _ ⟨⟩
    exact trivial
  have hissued := Dispatch.cancelled_issued hturns hcancels
  have hend : ((create entrance "BTC" .standard d.chart).bind fun r =>
      rs.foldlM obey ⟨r.2, r.1⟩).toOption.any (fun s => s.tracker.line.isSome) = true := by
    decide +kernel
  rcases h : create entrance "BTC" .standard d.chart with e | ⟨t, c⟩
  · rw [h] at hend
    exact absurd hend Bool.false_ne_true
  · obtain ⟨s, box, hs, hbox, hplacement, hpp, hsize, hmarker⟩ := run_inPlace h rfl hissued rs
    rw [h, Except.bind, hs] at hend
    exact ⟨d, t, c, hturns, rfl, rfl, hissued, h, s, box, hs, hend, hbox, hplacement, hpp, hsize,
      hmarker hend⟩

end PositionOverlay.Session
