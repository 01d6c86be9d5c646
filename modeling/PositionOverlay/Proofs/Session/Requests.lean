import PositionOverlay.Proofs.Session.Cycles
import PositionOverlay.Proofs.Tracker.Upkeep

/-! # Requests

What can be asked of a tracker and of its chart from outside, in any order. A session with a sound
tracker grants every request, and the tracker is sound again. If the chart attends to the tracker
and the marker is to be kept in view, then the tracker is also in place after each request.
-/
namespace PositionOverlay.Session

open Tracker

/-- What can be asked of a session. -/
inductive Request where
  | update (u : PositionUpdate)
  | «show»
  | hide
  | hideInfo
  | fill (f : Fill)
  | range (yMin yMax : Float)
  | height (height : Float)
  | paint
deriving Repr

namespace Request

/-- What a request makes of the position. -/
def info : Request → Position → Position
  | update u, p => p.apply u
  | fill f, p => p.record f
  | _, p => p

/-- What a request makes of the view. -/
def view : Request → View → View
  | range yMin yMax, v => { v with yMin, yMax }
  | height h, v => { v with height := h }
  | _, v => v

/-- Whether nothing is hidden after a request, given whether nothing was hidden before. -/
def displays : Request → Prop → Prop
  | update u, _ => (u.size != 0.0) = true
  | hide, _ => False
  | hideInfo, _ => False
  | _, before => before

/-- The execution that a request records. -/
def fill? : Request → Option Fill
  | fill f => some f
  | _ => none

theorem fills_info (r : Request) (p : Position) :
    (r.info p).fills.toList = p.fills.toList ++ r.fill?.toList := by
  cases r <;> simp [info, fill?]

end Request

/-- Does what is asked. -/
def obey (s : Session) : Request → Except Fault Session
  | .update u => s.onTracker fun t => t.update entrance u
  | .show => s.onTracker fun t => t.show
  | .hide => s.onTracker fun t => pure t.hide
  | .hideInfo => s.onTracker fun t => pure t.hideInfo
  | .fill f => s.onTracker fun t => t.recordFill f
  | .range yMin yMax => s.setView fun v => { v with yMin, yMax }
  | .height height => s.setView fun v => { v with height }
  | .paint => s.paint

variable {s s' : Session} {r : Request}

/-- The tracker can be relied on. -/
structure Sound (s : Session) : Prop where
  assembled : s.tracker.Assembled
  consistent : s.tracker.Consistent

/-- The tracker is in place and will hear of changes of the view. -/
structure Current (s : Session) : Prop where
  attends : Attends entrance s.tracker s.chart
  inPlace : s.tracker.InPlace s.chart.view

/-- What a request does to a session. -/
structure Granted (s : Session) (r : Request) (s' : Session) : Prop where
  sound : s'.Sound
  config : s'.tracker.config = s.tracker.config
  build : s'.tracker.build = s.tracker.build
  info : s'.tracker.info = r.info s.tracker.info
  items : s'.chart.items = s.chart.items
  view : s'.chart.view = r.view s.chart.view
  displayed : r.displays s.tracker.Displayed → s'.tracker.Displayed
  current : s.tracker.config.keepInView = true → s.Current → s'.Current

theorem onTracker_of_ok {work : Tracker → ChartM Nat Nat Tracker} {t : Tracker} {c : Chart Nat Nat}
    (h : work s.tracker s.chart = .ok (t, c)) : s.onTracker work = .ok ⟨c, t⟩ := by
  rw [onTracker, h]
  rfl

theorem onTracker_eq_ok {work : Tracker → ChartM Nat Nat Tracker} (h : s.onTracker work = .ok s') :
    work s.tracker s.chart = .ok (s'.tracker, s'.chart) := by
  unfold onTracker at h
  cases hw : work s.tracker s.chart with
  | error e =>
    rw [hw] at h
    exact nomatch h
  | ok r =>
    rw [hw] at h
    rw [← Except.ok.inj h]

theorem Sound.update (h : s.Sound) (u : PositionUpdate) :
    ∃ s', (s.onTracker fun t => t.update entrance u) = .ok s' ∧ s.Granted (.update u) s' := by
  by_cases ho : (u.size != 0.0) = true
  · obtain ⟨l, trim, c, hu, hlevel, hd, hg, ha⟩ := h.assembled.update_open entrance ho s.chart
    have hc := h.assembled.reported_consistent ho hlevel hd trim
    refine ⟨_, onTracker_of_ok hu, ⟨(h.assembled.reported u hd trim).standAt _, hc.standAt _⟩,
      rfl, rfl, rfl, hg.items, hg.view, fun _ => (exposed_displayed _).standAt _,
      fun hk hs => ⟨?_, ?_⟩⟩
    · exact (ha hs.attends).grow rfl rfl (ha hs.attends).lined (.refl c)
    · rw [hk, hg.view]
      exact hc.standAt_post s.chart.view
  · have hz : (u.size != 0.0) = false := by simpa using ho
    obtain ⟨c, hu, hg, ha⟩ := s.tracker.update_flat entrance hz s.chart
    refine ⟨_, onTracker_of_ok hu,
      ⟨h.assembled.emptied_assembled u, h.assembled.emptied_consistent hz⟩,
      rfl, rfl, rfl, hg.items, hg.view, fun hd => absurd hd ho,
      fun _ hs => ⟨ha hs.attends, ?_⟩⟩
    rw [hg.view]
    exact hs.inPlace.emptied h.assembled u

/-- Work that leaves the chart alone, apart from notes, and the tracker in its place. -/
theorem Granted.of_still {t : Tracker} {c : Chart Nat Nat} (ht : Sound ⟨c, t⟩)
    (hconfig : t.config = s.tracker.config) (hbuild : t.build = s.tracker.build)
    (hinfo : t.info = r.info s.tracker.info) (hview : r.view s.chart.view = s.chart.view)
    (hs : t.marker.subscription = s.tracker.marker.subscription)
    (hl : t.line.isSome = s.tracker.line.isSome) (hg : s.chart.Grows c)
    (hd : r.displays s.tracker.Displayed → t.Displayed)
    (hp : s.tracker.InPlace s.chart.view → t.InPlace s.chart.view) : s.Granted r ⟨c, t⟩ where
  sound := ht
  config := hconfig
  build := hbuild
  info := hinfo
  items := hg.items
  view := hg.view.trans hview.symm
  displayed := hd
  current _ h := by
    refine ⟨h.attends.grow hs hbuild ?_ hg, ?_⟩
    · rw [hl, hs]
      exact h.attends.lined
    · rw [hg.view]
      exact hp h.inPlace

theorem Sound.exposed (h : s.Sound) (visible : Bool) (hi : r.info = id) (hv : r.view = id)
    (hd : r.displays s.tracker.Displayed → visible = true) :
    s.Granted r ⟨s.chart, s.tracker.exposed visible⟩ :=
  .of_still ⟨h.assembled.exposed visible, h.consistent.exposed visible⟩ rfl rfl
    (by rw [hi]; rfl) (by rw [hv]; rfl) rfl Option.isSome_map (.refl _)
    (fun h' => hd h' ▸ exposed_displayed _) fun hp => hp.exposed visible

/-- A subscription that is kept outlives the end of those that were cancelled. -/
theorem attends_settle {t : Tracker} {c : Chart Nat Nat} (h : Attends entrance t c) (t' : Tracker)
    (hs : t'.marker.subscription = t.marker.subscription) (hb : t'.build = t.build)
    (hl : t'.line = t.line) (view : View) :
    Attends entrance t' { c with
      view
      listeners := c.listeners.filter fun e => !c.cancelled.contains e.1
      cancelled := [] } where
  listed n hn := by
    rw [hs] at hn
    rw [hb, List.mem_filter]
    exact ⟨h.listed n hn, by simpa using h.kept n hn⟩
  kept _ _ := List.not_mem_nil
  fresh _ hn := absurd hn List.not_mem_nil
  lined hl' := by
    rw [hs]
    exact h.lined (hl ▸ hl')

/-- A change of the view leaves every tracker with a line in place, as it hears of the change. -/
theorem Sound.setView (h : s.Sound) (r : Request) (hi : r.info = id)
    (hd : r.displays s.tracker.Displayed → s.tracker.Displayed) :
    ∃ s', s.setView r.view = .ok s' ∧ s.Granted r s' := by
  have hinfo : s.tracker.info = r.info s.tracker.info := by rw [hi, id]
  refine ⟨_, setView_eq h.assembled r.view, ?_⟩
  by_cases hn : names s.chart.listeners s.tracker.build = true
  · rw [if_pos hn]
    exact ⟨⟨h.assembled.onRange _, h.consistent.standAt _⟩, rfl, rfl, hinfo, rfl, rfl,
      fun h' => (hd h').standAt _, fun _ hs =>
        ⟨attends_settle hs.attends (s.tracker.onRange _) rfl rfl rfl _,
          h.consistent.standAt_post _⟩⟩
  · rw [if_neg hn]
    refine ⟨⟨h.assembled, h.consistent⟩, rfl, rfl, hinfo, rfl, rfl, hd, fun _ hs =>
      ⟨attends_settle hs.attends s.tracker rfl rfl rfl _, hs.inPlace.pp, hs.inPlace.size,
        fun hl => ?_⟩⟩
    -- The marker of a line is subscribed, so this tracker has none.
    obtain ⟨n, hsub⟩ := Option.isSome_iff_exists.mp (hs.attends.lined hl)
    exact absurd (names_of_mem (hs.attends.listed n hsub)) hn

/-- A paint cycle puts the marker where the last change of the view has put it. -/
theorem Sound.paint (h : s.Sound) : ∃ s', s.paint = .ok s' ∧ s.Granted .paint s' := by
  refine ⟨_, paint_eq h.assembled, ?_⟩
  by_cases hn : names s.chart.items s.tracker.build = true ∧ s.tracker.marker.visible = true
  · rw [if_pos hn.1, onPaint, if_pos hn.2]
    refine ⟨⟨h.assembled.standAt _, h.consistent.standAt _⟩, rfl, rfl, rfl, rfl, rfl,
      fun hd => Displayed.standAt hd _, fun hk hs =>
        ⟨hs.attends.grow rfl rfl hs.attends.lined (.refl _), ?_⟩⟩
    rw [hk]
    exact h.consistent.standAt_post _
  · have hstill : (if names s.chart.items s.tracker.build then s.tracker.onPaint s.chart.view
        else s.tracker) = s.tracker := by
      rw [onPaint]
      split_ifs with hi hv
      · exact absurd ⟨hi, hv⟩ hn
      · rfl
      · rfl
    rw [hstill]
    exact ⟨h, rfl, rfl, rfl, rfl, rfl, id, fun _ hs => hs⟩

/-- Every request is granted. -/
theorem Sound.obey (h : s.Sound) (r : Request) : ∃ s', s.obey r = .ok s' ∧ s.Granted r s' := by
  cases r with
  | update u => exact h.update u
  | «show» =>
    change ∃ s', s.onTracker (fun t => liftM t.show) = .ok s' ∧ _
    have hok := Work.lift_of_ok h.assembled.show_eq s.chart
    refine ⟨_, onTracker_of_ok hok, ?_⟩
    split_ifs
    · exact .of_still ⟨h.assembled, h.consistent⟩ rfl rfl rfl rfl rfl rfl (.refl _) id id
    · exact h.exposed true rfl rfl fun _ => rfl
  | hide =>
    change ∃ s', s.onTracker (fun t => pure t.hide) = .ok s' ∧ _
    exact ⟨_, onTracker_of_ok rfl, h.exposed false rfl rfl nofun⟩
  | hideInfo =>
    change ∃ s', s.onTracker (fun t => pure t.hideInfo) = .ok s' ∧ _
    exact ⟨_, onTracker_of_ok rfl, .of_still ⟨{ h.assembled with }, { h.consistent with }⟩ rfl rfl
      rfl rfl rfl rfl (.refl _) nofun fun hp => { hp with }⟩
  | fill f =>
    change ∃ s', s.onTracker (fun t => t.recordFill f) = .ok s' ∧ _
    exact ⟨_, onTracker_of_ok rfl, .of_still ⟨{ h.assembled with }, { h.consistent with }⟩ rfl rfl
      rfl rfl rfl rfl (.note _ _ _ _) (fun hd => { hd with }) fun hp => { hp with }⟩
  | range yMin yMax => exact h.setView (.range yMin yMax) rfl id
  | height y => exact h.setView (.height y) rfl id
  | paint => exact h.paint

end PositionOverlay.Session
