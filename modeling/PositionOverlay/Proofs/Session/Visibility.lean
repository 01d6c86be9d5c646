import PositionOverlay.Proofs.Session.Flatness
import PositionOverlay.Proofs.Tracker.Depiction

/-! # What can be seen of a tracker

Of a tracker one sees nothing, everything, or everything but the size. A machine with these three
states, which remembers the size that was reported last, tells after any run of requests what can
be seen.
-/
namespace PositionOverlay

namespace Session

/-- What a request makes of what the tracker depicts. -/
def Request.depict : Request → Snapshot → Snapshot
  | update u, s => s.reported u
  | «show», s => s.shown
  | hide, s => s.exposed false
  | hideInfo, s => { s with sizeVisible := false }
  | fill _, s => { s with fills := s.fills + 1 }
  | _, s => s

/-! ## The machine -/

/-- What can be seen. -/
inductive Showing where
  | nothing
  | everything
  | allButSize
deriving Repr, DecidableEq

namespace Showing

/-- Whether line, marker and first label can be seen. -/
def parts : Showing → Bool
  | nothing => false
  | _ => true

/-- Whether the size can be seen. -/
def info : Showing → Bool
  | everything => true
  | _ => false

/-- What can be seen once the size has been hidden. -/
def withoutInfo : Showing → Showing
  | everything => allButSize
  | showing => showing

end Showing

/-- What can be seen, and the size that was reported last. -/
structure Sight where
  showing : Showing
  size : Float

/-- Nothing can be seen and nothing has been reported. -/
def Sight.start : Sight := ⟨.nothing, 0.0⟩

/-- One step of the machine. -/
def Request.sight : Request → Sight → Sight
  | update u, _ => ⟨if u.size != 0.0 then .everything else .nothing, u.size⟩
  | «show», s => if s.size != 0.0 then { s with showing := .everything } else s
  | hide, s => { s with showing := .nothing }
  | hideInfo, s => { s with showing := s.showing.withoutInfo }
  | _, s => s

end Session

open Session

/-- The flags of a snapshot. -/
structure Snapshot.Shows (s : Snapshot) (showing : Showing) : Prop where
  line : s.lineVisible = showing.parts
  marker : s.markerVisible = showing.parts
  pp : s.ppVisible = showing.parts
  size : s.sizeVisible = showing.info

/-- The machine tells what can be seen. There is a line just if the position is open, and nothing is
seen of a flat one. -/
structure Snapshot.Follows (s : Snapshot) (x : Sight) : Prop where
  shows : s.Shows x.showing
  size : s.size = x.size
  line : s.lineLevel.isSome = (x.size != 0.0)
  flat : (x.size != 0.0) = false → x.showing = .nothing

namespace Snapshot

variable {s : Snapshot} {x : Sight}

theorem exposed_shows (h : s.lineLevel.isSome = true) : (s.exposed true).Shows .everything :=
  ⟨by rw [exposed, h]; rfl, rfl, rfl, rfl⟩

theorem exposed_hides (s : Snapshot) : (s.exposed false).Shows .nothing := ⟨rfl, rfl, rfl, rfl⟩

theorem Shows.withoutInfo {showing : Showing} (h : s.Shows showing) :
    ({ s with sizeVisible := false } : Snapshot).Shows showing.withoutInfo := by
  obtain ⟨hl, hm, hp, -⟩ := h
  cases showing <;> exact ⟨hl, hm, hp, rfl⟩

theorem reported_follows (s : Snapshot) (u : PositionUpdate) (x : Sight) :
    (s.reported u).Follows ((Request.update u).sight x) := by
  unfold reported Request.sight
  by_cases ho : (u.size != 0.0) = true
  · simp only [if_pos ho]
    exact ⟨exposed_shows rfl, rfl, ho.symm, fun hz => absurd (ho.symm.trans hz) nofun⟩
  · simp only [if_neg ho]
    exact ⟨exposed_hides _, rfl, (Bool.eq_false_iff.mpr ho).symm, fun _ => rfl⟩

theorem Follows.shown (h : s.Follows x) : s.shown.Follows (Request.show.sight x) := by
  unfold Snapshot.shown Request.sight
  by_cases ho : (x.size != 0.0) = true
  · have hopen : ¬ (s.size == 0.0) = true := by simpa [bne, h.size] using ho
    simp only [if_neg hopen, if_pos ho]
    exact ⟨exposed_shows (h.line.trans ho), h.size, h.line,
      fun hz => absurd (ho.symm.trans hz) nofun⟩
  · have hflat : (s.size == 0.0) = true := by simpa [bne, h.size] using ho
    simp only [if_pos hflat, if_neg ho]
    exact h

/-- Each request is a step of the machine. -/
theorem Follows.step (h : s.Follows x) (r : Request) : (r.depict s).Follows (r.sight x) := by
  cases r with
  | update u => exact s.reported_follows u x
  | «show» => exact h.shown
  | hide => exact ⟨s.exposed_hides, h.size, h.line, fun _ => rfl⟩
  | hideInfo =>
    refine ⟨h.shows.withoutInfo, h.size, h.line, fun hz => ?_⟩
    simp only [Request.sight, h.flat hz]
    rfl
  | fill f => exact ⟨{ h.shows with }, h.size, h.line, h.flat⟩
  | _ => exact h

theorem Follows.run (h : s.Follows x) (rs : List Request) :
    (rs.foldl (fun s r => r.depict s) s).Follows (rs.foldl (fun x r => r.sight x) x) := by
  induction rs generalizing s x with
  | nil => exact h
  | cons r rs ih => exact ih (h.step r)

end Snapshot

namespace Session

open Tracker

variable {s s' : Session}

theorem Sound.onTracker_depicts (h : s.Sound) {work : Tracker → ChartM Nat Nat Tracker}
    {f : Snapshot → Snapshot} (hwork : Depicts work f) (hs : s.onTracker work = .ok s') :
    s'.tracker.depiction = f s.tracker.depiction := by
  obtain ⟨t, c, hw, -, -, -, ht⟩ := hwork (c := s.chart) h.assembled
  obtain ⟨hte, -⟩ := Prod.mk.inj (Except.ok.inj ((onTracker_eq_ok hs).symm.trans hw))
  rw [hte, ht]

/-- What a tracker depicts after a request depends on what it has depicted before. -/
theorem Sound.obey_depicts (h : s.Sound) (r : Request) (hs : s.obey r = .ok s') :
    s'.tracker.depiction = r.depict s.tracker.depiction := by
  unfold Session.obey at hs
  cases r with
  | update u => exact h.onTracker_depicts (update_depicts entrance u) hs
  | «show» => exact h.onTracker_depicts show_depicts hs
  | hide => exact h.onTracker_depicts hide_depicts hs
  | hideInfo => exact h.onTracker_depicts hideInfo_depicts hs
  | fill f => exact h.onTracker_depicts (recordFill_depicts f) hs
  | range yMin yMax => exact (setView_moved hs).depiction
  | height height => exact (setView_moved hs).depiction
  | paint => exact (paint_moved hs).depiction

theorem Sound.run_depicts (h : s.Sound) (rs : List Request) :
    ∃ s', rs.foldlM Session.obey s = .ok s' ∧
      s'.tracker.depiction = rs.foldl (fun s r => r.depict s) s.tracker.depiction := by
  induction rs generalizing s with
  | nil => exact ⟨s, rfl, rfl⟩
  | cons r rs ih =>
    obtain ⟨s₁, hr, hg⟩ := h.obey r
    obtain ⟨s', hrs, hd⟩ := ih hg.sound
    refine ⟨s', ?_, ?_⟩
    · rw [List.foldlM_cons, hr]
      exact hrs
    · rw [hd, h.obey_depicts r hr, List.foldl_cons]

/-- A new tracker is where the machine starts. -/
theorem initial_follows (symbol : String) (config : OverlayConfig) (item : Nat) :
    (initial symbol config item).depiction.Follows .start :=
  have hz : ((0.0 : Float) != 0.0) = false := by decide
  ⟨⟨rfl, rfl, rfl, rfl⟩, rfl, hz.symm, fun _ => rfl⟩

/-- After any run of requests the flags of the tracker are those of the machine after the same run.
Line, marker and first label can be seen together only, the size with them only, and nothing of a
flat position. -/
theorem run_shows {symbol : String} {config : OverlayConfig} {chart c : Chart Nat Nat} {t : Tracker}
    (h : create entrance symbol config chart = .ok (t, c)) (rs : List Request) :
    ∃ s, rs.foldlM obey ⟨c, t⟩ = .ok s ∧
      let shot := s.tracker.snapshot
      let sight := rs.foldl (fun x r => r.sight x) .start
      shot.Shows sight.showing ∧ shot.size = sight.size ∧
        shot.markerVisible = shot.lineVisible ∧ shot.ppVisible = shot.lineVisible ∧
        (shot.sizeVisible = true → shot.lineVisible = true) ∧
        ((shot.size == 0.0) = true → shot.Shows .nothing) := by
  obtain ⟨s, hs, hd⟩ := (sound_of_create h).run_depicts rs
  have hstart : t.depiction.Follows .start := by
    rw [(create_eq h).1]
    exact initial_follows _ _ _
  have hend := hstart.run rs
  rw [← hd] at hend
  obtain ⟨⟨hline, hmarker, hpp, hinfo⟩, hsize, -, hflat⟩ := hend
  refine ⟨s, hs, ⟨hline, hmarker, hpp, hinfo⟩, hsize, hmarker.trans hline.symm,
    hpp.trans hline.symm, fun hv => ?_, fun hz => ?_⟩
  · refine hline.trans ?_
    have hv := hinfo.symm.trans hv
    revert hv
    cases (rs.foldl (fun x r => r.sight x) Sight.start).showing <;> decide
  · have hclosed := hflat (by rw [bne, ← hsize]; exact congrArg not hz)
    rw [hclosed] at hline hmarker hpp hinfo
    exact ⟨hline, hmarker, hpp, hinfo⟩

/-- A position that is hidden, shown again without its size, and closed. -/
theorem run_shows_closed :
    let rs : List Request := [.update (.ofSize 100.0 2.0), .hide, .range 0.0 50.0, .show,
      .hideInfo, .paint]
    let closing : List Request := [.update (.ofSize 90.0 0.0), .show]
    ∃ t c, create entrance "BTC" .standard (.empty .standard) = .ok (t, c) ∧
      (∃ s, rs.foldlM obey ⟨c, t⟩ = .ok s ∧ s.tracker.snapshot.Shows .allButSize) ∧
      ∃ s, (rs ++ closing).foldlM obey ⟨c, t⟩ = .ok s ∧
        s.tracker.snapshot.Shows .nothing := by
  intro rs closing
  obtain ⟨t, c, h⟩ := exists_create_standard
  obtain ⟨s, hs, hshows, -⟩ := run_shows h rs
  obtain ⟨s', hs', hshows', -⟩ := run_shows h (rs ++ closing)
  have hall : (rs.foldl (fun x r => r.sight x) Sight.start).showing = .allButSize := by
    decide +kernel
  have hnone : ((rs ++ closing).foldl (fun x r => r.sight x)
      Sight.start).showing = .nothing := by decide +kernel
  exact ⟨t, c, h, ⟨s, hs, hall ▸ hshows⟩, s', hs', hnone ▸ hshows'⟩

end Session

end PositionOverlay
