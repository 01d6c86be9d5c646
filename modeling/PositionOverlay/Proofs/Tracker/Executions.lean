import PositionOverlay.Proofs.Work
import PositionOverlay.Tracker.Snapshot

/-! # Recorded executions

A tracker keeps the executions of its position and tells how many there are. Nothing else that it
does depends on them: with other executions in their place it does the same to its chart and becomes
the same, with the other executions still in their place.
-/
namespace PositionOverlay

variable {Item Listener α β γ δ : Type}

/-- The second work does to the chart what the first does, and its result is an image of that of the
first. -/
def Carries (g : α → γ) (x : ChartM Item Listener α) (x' : ChartM Item Listener γ) : Prop :=
  x' = g <$> x

namespace Carries

variable {g : α → γ} {h : β → δ}

theorem pure (a : α) : Carries g (Pure.pure a : ChartM Item Listener α) (Pure.pure (g a)) :=
  (map_pure g a).symm

theorem refl (x : ChartM Item Listener α) : Carries id x x := (id_map x).symm

theorem bind {x : ChartM Item Listener α} {x' : ChartM Item Listener γ}
    {k : α → ChartM Item Listener β} {k' : γ → ChartM Item Listener δ} (hx : Carries g x x')
    (hk : ∀ a, Carries h (k a) (k' (g a))) : Carries h (x >>= k) (x' >>= k') := by
  rw [Carries, hx, bind_map_left, map_bind]
  exact bind_congr hk

theorem lift {x : Except Fault α} {x' : Except Fault γ} (hx : x' = x.map g) :
    Carries g (liftM x : ChartM Item Listener α) (liftM x') := by
  subst hx
  cases x <;> rfl

theorem run {x : ChartM Item Listener α} {x' : ChartM Item Listener γ} {a : α}
    {c c' : Chart Item Listener} (hx : Carries g x x') (h : x c = .ok (a, c')) :
    x' c = .ok (g a, c') := by
  rw [hx, map_eq_pure_bind]
  exact Work.bind_of_ok h _

end Carries

namespace Tracker

variable {own : Entrance Item Listener} {fs : Array Fill}

/-- The tracker with other executions. -/
def refill (fs : Array Fill) (t : Tracker) : Tracker := { t with info.fills := fs }

theorem updateLabel_refill (t : Tracker) (role : Role) :
    (t.refill fs).updateLabel role = (t.updateLabel role).refill fs := by
  have hlabel : (t.refill fs).label role = t.label role := by cases role <;> rfl
  have hplace : (t.refill fs).place = t.place := by
    funext anchor size
    cases anchor <;> rfl
  unfold updateLabel
  rw [hlabel, hplace]
  split
  · rfl
  · cases role <;> rfl

theorem reanchor_refill (t : Tracker) :
    Carries (refill fs) (t.reanchor : ChartM Item Listener Tracker) (t.refill fs).reanchor := by
  have hheld : (t.refill fs).heldLinks = t.heldLinks := by
    refine List.filter_congr fun role _ => ?_
    cases role <;> rfl
  have hlabels : (t.refill fs).reanchored = t.reanchored.refill fs :=
    List.foldl_hom (refill fs) fun t role => updateLabel_refill t role
  unfold reanchor
  rw [hheld, hlabels]
  exact .bind (.refl _) fun _ => .pure _

theorem paint_refill (t : Tracker) :
    Carries (refill fs) (t.paint : ChartM Item Listener Tracker) (t.refill fs).paint := by
  by_cases hlive : t.marker.isLive = true
  · have hlive' : (t.refill fs).marker.isLive = true := hlive
    rw [paint, paint, if_pos hlive, if_pos hlive']
    exact .bind (.refl _) fun c => .bind (.refl _) fun marker =>
      reanchor_refill { t with marker }
  · have hlive' : ¬ (t.refill fs).marker.isLive = true := hlive
    rw [paint, paint, if_neg hlive, if_neg hlive']
    exact .pure t

theorem connect_refill (t : Tracker) :
    Carries (refill fs) (t.connect own) ((t.refill fs).connect own) :=
  .bind (.refl _) fun marker => .pure { t with marker }

theorem positionLine_refill (t : Tracker) (size level : Float) :
    Carries (fun r => (r.1, r.2.refill fs)) (t.positionLine own size level)
      ((t.refill fs).positionLine own size level) :=
  .bind (.refl _) fun _ => .bind (paint_refill _) fun _ => .bind (connect_refill _) fun _ =>
    .bind (.refl _) fun _ => .pure _

theorem updateLine_refill (t : Tracker) (price size : Float) :
    Carries (refill fs) (t.updateLine own price size)
      ((t.refill fs).updateLine own price size) := by
  rcases hl : t.line with _ | l
  · have hl' : (t.refill fs).line = none := hl
    rw [updateLine, updateLine, hl, hl']
    cases size != 0.0
    · exact .pure t
    · exact .bind (positionLine_refill t size price) fun r => .bind (.refl _) fun line =>
        .bind (.refl _) fun _ => .pure _
  · have hl' : (t.refill fs).line = some l := hl
    rw [updateLine, updateLine, hl, hl']
    cases size != 0.0
    · exact .bind (.refl _) fun _ => .bind (.refl _) fun _ => .pure _
    · exact .bind (.refl _) fun _ => .bind (.refl _) fun _ => .bind (paint_refill _) fun _ =>
        .bind (.refl _) fun _ => .pure _

theorem show_refill (t : Tracker) : (t.refill fs).show = t.show.map (refill fs) := by
  by_cases hflat : t.info.isFlat = true
  · have hflat' : (t.refill fs).info.isFlat = true := hflat
    rw [Tracker.show, Tracker.show, if_pos hflat, if_pos hflat']
    rfl
  · have hflat' : ¬ (t.refill fs).info.isFlat = true := hflat
    have hline : (t.refill fs).line = t.line := rfl
    rw [Tracker.show, Tracker.show, if_neg hflat, if_neg hflat', hline]
    cases t.line.mapM Line.show <;> rfl

theorem update_refill (t : Tracker) (u : PositionUpdate) :
    Carries (refill fs) (t.update own u) ((t.refill fs).update own u) := by
  refine .bind (updateLine_refill { t with info := t.info.apply u } u.avgPrice u.size) fun t => ?_
  by_cases hflat : (u.size == 0.0) = true
  · simp only [if_pos hflat]
    exact .pure _
  · simp only [if_neg hflat]
    exact .bind (paint_refill _) fun t => .lift (show_refill t)

end Tracker

end PositionOverlay
