import PositionOverlay.Proofs.Tracker.Display
import PositionOverlay.Proofs.Tracker.Moves
import PositionOverlay.Proofs.Tracker.Upkeep

/-! # What trackers depict

A depiction is all that a tracker shows, apart from places. Moves leave it as it is, and what a
report, an execution, showing and hiding make of it depends on nothing else. Where everything stands
once the marker has taken its place depends on the depiction, the configuration and the view.
-/
namespace PositionOverlay

namespace Snapshot

/-- The snapshot without its places. -/
def unplaced (s : Snapshot) : Snapshot :=
  { s with markerPos := .origin, ppPos := .origin, sizePos := .origin }

/-- The snapshot with the marker where a view wants it, kept in sight or not, and with the labels
behind it. -/
def placed (config : OverlayConfig) (keep : Bool) (v : View) (s : Snapshot) : Snapshot :=
  let glyph := (s.arrow.getD .up).glyph config.arrowSize
  let markerPos := v.stand keep glyph.h (s.lineLevel.getD 0.0)
  let ppSize := Label.sizeOf "pp"
  let ppPos := config.pin.place (glyph.translate markerPos) ppSize
  { s with markerPos, ppPos, sizePos := ppPos + ⟨ppSize.w, 0.0⟩ }

/-- The snapshot with all shown that is there, or with all hidden. -/
def exposed (visible : Bool) (s : Snapshot) : Snapshot :=
  { s with
    lineVisible := visible && s.lineLevel.isSome
    markerVisible := visible
    ppVisible := visible
    sizeVisible := visible }

/-- What a report makes of a snapshot; a size without direction leaves the arrow as it is. -/
def reported (u : PositionUpdate) (s : Snapshot) : Snapshot :=
  let s := { s with size := u.size, avgPrice := u.avgPrice, sizeText := Tracker.sizeText u.size }
  if u.size != 0.0 then
    exposed true { s with
      lineLevel := some u.avgPrice
      arrow := (Arrow.ofSize? u.size).or s.arrow
      markerLevel := u.avgPrice }
  else exposed false { s with lineLevel := none }

/-- What showing makes of a snapshot. -/
def shown (s : Snapshot) : Snapshot := if s.size == 0.0 then s else s.exposed true

end Snapshot

namespace Tracker

variable {Item Listener : Type} {t t' : Tracker} {c : Chart Item Listener}

/-- All that can be seen of a tracker, apart from places. -/
def depiction (t : Tracker) : Snapshot := t.snapshot.unplaced

theorem Moved.depiction (h : t.Moved t') : t'.depiction = t.depiction := by
  obtain ⟨_, _, _, _, rfl⟩ := h
  rfl

theorem Moved.config (h : t.Moved t') : t'.config = t.config := by
  obtain ⟨_, _, _, _, rfl⟩ := h
  rfl

/-- Trackers of one configuration that depict the same show the same in one view. -/
theorem Assembled.snapshot_eq_placed (h : t.Assembled) (keep : Bool) (v : View) :
    (t.standAt (t.post keep v)).snapshot = t.depiction.placed t.config keep v := by
  obtain ⟨a, ha⟩ := h.drawn
  have hglyph := h.glyph_eq ha.arrow
  have hlevel : t.level = (t.line.map Line.level).getD 0.0 := by
    unfold level
    cases t.line <;> rfl
  simp only [snapshot, depiction, Snapshot.unplaced, Snapshot.placed, Tracker.standAt,
    Tracker.aligned, h.marker_moveTo, post, hglyph, hlevel, h.ppSize, ha.arrow, Option.getD_some]

theorem exposed_depiction (t : Tracker) (visible : Bool) :
    (t.exposed visible).depiction = t.depiction.exposed visible := by
  simp only [depiction, snapshot, exposed, Snapshot.unplaced, Snapshot.exposed, Option.map_map,
    Option.isSome_map]
  cases t.line <;> cases visible <;> rfl

/-! ## Work on trackers -/

/-- Assembled trackers succeed in some work on any chart. They stay assembled, what they depict
becomes something that depends on what they depicted, and the view stays as it is. -/
def Depicts (work : Tracker → ChartM Item Listener Tracker) (f : Snapshot → Snapshot) : Prop :=
  ∀ ⦃t c⦄, t.Assembled → ∃ t' c', work t c = .ok (t', c') ∧ t'.Assembled ∧
    t'.config = t.config ∧ c'.view = c.view ∧ t'.depiction = f t.depiction

theorem update_depicts (own : Entrance Item Listener) (u : PositionUpdate) :
    Depicts (fun t => t.update own u) (Snapshot.reported u) := by
  intro t c h
  by_cases ho : (u.size != 0.0) = true
  · obtain ⟨l, trim, c', hu, hlevel, hd, hg, -⟩ := h.update_open own ho c
    refine ⟨_, c', hu, (h.reported u hd trim).standAt _, rfl, hg.view, ?_⟩
    obtain ⟨a, ha⟩ := h.drawn
    have harrow : some (t.arrowFor u.size) = (Arrow.ofSize? u.size).or t.marker.arrow := by
      rw [arrowFor, ha.arrow]
      cases Arrow.ofSize? u.size <;> rfl
    have hstand (p : Point) :
        ((t.reported u l trim).standAt p).depiction = (t.reported u l trim).depiction := rfl
    rw [hstand, Tracker.reported, exposed_depiction, Snapshot.reported, if_pos ho]
    simp only [depiction, snapshot, labelled, lined, Snapshot.unplaced, Marker.redraw,
      Position.apply, harrow, hlevel, Option.map_some, Snapshot.exposed]
  · have hz : (u.size != 0.0) = false := Bool.eq_false_iff.mpr ho
    obtain ⟨c', hu, hg, -⟩ := t.update_flat own hz c
    refine ⟨_, c', hu, h.emptied_assembled u, rfl, hg.view, ?_⟩
    rw [(h.emptied u).writeSize, Snapshot.reported, if_neg ho]
    rfl

theorem show_depicts : Depicts (fun t => (liftM t.show : ChartM Item Listener Tracker))
    Snapshot.shown := by
  intro t c h
  have hok := Work.lift_of_ok h.show_eq c
  by_cases hflat : t.info.isFlat = true
  · rw [if_pos hflat] at hok
    exact ⟨t, c, hok, h, rfl, rfl, (if_pos hflat).symm⟩
  · rw [if_neg hflat] at hok
    refine ⟨_, c, hok, h.exposed true, rfl, rfl, ?_⟩
    rw [exposed_depiction]
    exact (if_neg hflat).symm

theorem hide_depicts : Depicts (fun t => (pure t.hide : ChartM Item Listener Tracker))
    (Snapshot.exposed false) :=
  fun t c h => ⟨_, c, rfl, h.exposed false, rfl, rfl, t.exposed_depiction false⟩

theorem hideInfo_depicts : Depicts (fun t => (pure t.hideInfo : ChartM Item Listener Tracker))
    fun s => { s with sizeVisible := false } :=
  fun _ c h => ⟨_, c, rfl, { h with }, rfl, rfl, rfl⟩

theorem recordFill_depicts (f : Fill) :
    Depicts (fun t => (t.recordFill f : ChartM Item Listener Tracker))
      fun s => { s with fills := s.fills + 1 } := by
  intro t c h
  refine ⟨_, _, rfl, { h with }, rfl, rfl, ?_⟩
  simp only [depiction, snapshot, Snapshot.unplaced, Position.record, Array.size_push]

end Tracker

end PositionOverlay
